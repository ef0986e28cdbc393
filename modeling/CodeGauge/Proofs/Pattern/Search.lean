import CodeGauge.Proofs.Pattern.Ends

/-!
This module contains what a search finds where the text at a position is known: behind a fixed text,
behind as few or as many characters as possible, and behind a part in which nothing is found.
-/

namespace CodeGauge

variable {p : Char → Bool} {limit : Option Nat} {cur : Cursor} {c : Char} {past rest : List Char}


namespace Cursor

/--
The position behind more characters, before the given rest.
-/
def advance (cur : Cursor) (past rest : List Char) : Cursor :=
  ⟨past.reverse ++ cur.before, rest, cur.groups, cur.offset + past.length, by
    simp [cur.offset_eq, Nat.add_comm]⟩

theorem advance_nil (h : cur.after = rest) : cur.advance [] rest = cur := by
  ext <;> simp [advance, h]

theorem step_advance (cur : Cursor) (c : Char) (past rest' rest : List Char) :
    (cur.step c rest').advance past rest = cur.advance (c :: past) rest := by
  ext <;> simp [advance, step]

theorem group?_record_advance (h : cur.after = past ++ rest) (n : Nat) :
    ((cur.advance past rest).record n cur).group? n = some past := by
  simp [group?, record, upTo, Span.chars, advance, h]

end Cursor

namespace Pattern

variable {k : Cursor → Option Cursor} {last : Cursor}

theorem search_one (hafter : cur.after = c :: rest) (hp : p c) :
    (one p).search cur k = k (cur.step c rest) := by
  simp [search, hafter, hp]

theorem search_one_eq_none (h : ∀ c rest, cur.after = c :: rest → p c = false) :
    (one p).search cur k = none := by
  unfold search
  split
  . next c rest hafter => simp [h c rest hafter]
  . rfl

theorem search_chain (p : Pattern) (ps : List Pattern) (cur : Cursor) :
    (chain (p :: ps)).search cur k = p.search cur fun mid => (chain ps).search mid k := by
  cases ps <;> rfl

theorem search_letters {f : Char → Char → Bool} {cs : List Char} (hf : ∀ c ∈ cs, f c c)
    (hafter : cur.after = cs ++ rest) :
    (chain (cs.map fun c => one (f c))).search cur k = k (cur.advance cs rest) := by
  induction cs generalizing cur with
  | nil =>
    rw [List.nil_append] at hafter
    rw [Cursor.advance_nil hafter]
    rfl
  | cons c cs ih =>
    rw [List.forall_mem_cons] at hf
    rw [List.map_cons, search_chain, search_one hafter hf.1, ih hf.2 rfl, Cursor.step_advance]

theorem search_exactly {s : String} (hafter : cur.after = s.toList ++ rest) :
    (exactly s).search cur k = k (cur.advance s.toList rest) :=
  search_letters (f := fun c d => d == c) (by simp) hafter

theorem search_alt {p q : Pattern} (h : p.search cur k = some last) :
    (alt p q).search cur k = some last := by
  simp only [search, h]

theorem search_boundary (h : cur.atBoundary) : boundary.search cur k = k cur := by
  simp [search, h]

theorem exists_of_search_exactly {s : String} (h : (exactly s).search cur k = some last) :
    ∃ rest, cur.after = s.toList ++ rest ∧ k (cur.advance s.toList rest) = some last := by
  unfold exactly at h
  generalize s.toList = cs at h ⊢
  induction cs generalizing cur with
  | nil =>
    refine ⟨cur.after, rfl, ?_⟩
    rw [Cursor.advance_nil rfl]
    exact h
  | cons c cs ih =>
    rw [List.map_cons, search_chain] at h
    cases hafter : cur.after with
    | nil => simp [search, hafter] at h
    | cons d rest =>
      by_cases hd : d = c
      . rw [search_one hafter (by simpa using hd)] at h
        obtain ⟨rest', hrest, hlast⟩ := ih h
        rw [Cursor.step_after] at hrest
        refine ⟨rest', by rw [hd, hrest, List.cons_append], ?_⟩
        rw [Cursor.step_advance, hd] at hlast
        exact hlast
      . simp [search, hafter, hd] at h

theorem search_many_step (hafter : cur.after = c :: rest) (hlimit : limit ≠ some 0) (hp : p c) :
    (many p limit).search cur k
      =
    ((many p (limit.map (· - 1))).search (cur.step c rest) k).or (k cur) := by
  simp only [search]
  rw [Cursor.sweep_step hafter hlimit hp, List.findSome?_append, List.findSome?_singleton]

theorem search_many_stop (h : ∀ c rest, cur.after = c :: rest → limit = some 0 ∨ p c = false) :
    (many p limit).search cur k = k cur := by
  simp only [search]
  rw [Cursor.sweep_stop h, List.findSome?_singleton]

theorem search_few_step (hafter : cur.after = c :: rest) (hlimit : limit ≠ some 0) (hp : p c) :
    (few p limit).search cur k
      =
    (k cur).or ((few p (limit.map (· - 1))).search (cur.step c rest) k) := by
  simp only [search]
  rw [Cursor.sweep_step hafter hlimit hp, List.reverse_append, List.findSome?_append,
    List.reverse_singleton, List.findSome?_singleton]

theorem search_few_of_eq_some (h : k cur = some last) : (few p limit).search cur k = some last := by
  cases hafter : cur.after with
  | nil =>
    simp only [search]
    rw [Cursor.sweep_stop (by simp [hafter])]
    simp [h]
  | cons c rest =>
    by_cases hgo : limit ≠ some 0 ∧ p c
    . rw [search_few_step hafter hgo.1 hgo.2, h]
      rfl
    . simp only [search]
      rw [Cursor.sweep_stop]
      . simp [h]
      . intro c' rest' hafter'
        grind

theorem search_many (hafter : cur.after = past ++ rest) (hpast : ∀ c ∈ past, p c)
    (hrest : ∀ c ∈ rest.head?, p c = false) (hk : k (cur.advance past rest) = some last) :
    (many p none).search cur k = some last := by
  induction past generalizing cur with
  | nil =>
    rw [List.nil_append] at hafter
    rw [Cursor.advance_nil hafter] at hk
    rw [search_many_stop, hk]
    intro c rest' hafter'
    rw [hafter'] at hafter
    exact .inr (hrest c (by rw [← hafter]; rfl))
  | cons c past ih =>
    have hmany := ih (cur.step_after c (past ++ rest)) (by simp_all)
      (by rw [Cursor.step_advance]; exact hk)
    rw [search_many_step hafter (by simp) (by simp_all)]
    simp [hmany]

theorem search_oneOrMore (hafter : cur.after = past ++ rest) (hne : past ≠ [])
    (hpast : ∀ c ∈ past, p c) (hrest : ∀ c ∈ rest.head?, p c = false)
    (hk : k (cur.advance past rest) = some last) :
    (seq (one p) (many p none)).search cur k = some last := by
  obtain ⟨c, past, rfl⟩ := List.exists_cons_of_ne_nil hne
  rw [List.forall_mem_cons] at hpast
  have hone : (one p).search cur (fun mid => (many p none).search mid k)
      = (many p none).search (cur.step c (past ++ rest)) k :=
    search_one hafter hpast.1
  rw [search, hone]
  apply search_many (cur.step_after c _) hpast.2 hrest
  rw [Cursor.step_advance]
  exact hk

/--
As few characters as possible are passed, and no more than those behind which the search succeeds.
-/
theorem search_few (hafter : cur.after = past ++ rest) (hpast : ∀ c ∈ past, p c)
    (hk : k (cur.advance past rest) = some last) :
    ∃ u v last, past = u ++ v ∧ k (cur.advance u (v ++ rest)) = some last
      ∧ (few p none).search cur k = some last := by
  induction past generalizing cur with
  | nil =>
    refine ⟨[], [], last, rfl, hk, ?_⟩
    rw [List.nil_append] at hafter
    rw [Cursor.advance_nil hafter] at hk
    exact search_few_of_eq_some hk
  | cons c past ih =>
    cases hhere : k cur with
    | some here =>
      refine ⟨[], c :: past, here, rfl, ?_, search_few_of_eq_some hhere⟩
      rw [Cursor.advance_nil hafter]
      exact hhere
    | none =>
      obtain ⟨u, v, last, rfl, hlast, hfew⟩ := ih
        (cur.step_after c (past ++ rest)) (by simp_all) (by rw [Cursor.step_advance]; exact hk)
      refine ⟨c :: u, v, last, rfl, ?_, ?_⟩
      . rw [← Cursor.step_advance]
        exact hlast
      . rw [search_few_step hafter (by simp) (by simp_all), hhere]
        exact hfew

theorem search_char_eq_none (h : c ∉ cur.after) : (char c).search cur k = none := by
  apply search_one_eq_none
  intro d rest hafter
  rw [hafter, List.mem_cons, not_or] at h
  exact beq_eq_false_iff_ne.2 (Ne.symm h.1)

theorem search_many_char_eq_none (h : c ∉ cur.after) :
    (many p limit).search cur (fun mid => (char c).search mid k) = none := by
  induction hafter : cur.after generalizing cur limit with
  | nil => rw [search_many_stop (by simp [hafter]), search_char_eq_none h]
  | cons d rest ih =>
    by_cases hgo : limit ≠ some 0 ∧ p d
    . have hrest : c ∉ rest := by
        rw [hafter] at h
        exact fun hc => h (List.mem_cons_of_mem d hc)
      rw [search_many_step hafter hgo.1 hgo.2, search_char_eq_none h, Option.or_none]
      exact ih hrest rfl
    . rw [search_many_stop, search_char_eq_none h]
      intro d' rest' hafter'
      grind

/--
As many characters as possible are passed up to the last one of its kind.
-/
theorem search_many_char (hafter : cur.after = past ++ c :: rest) (hc : c ∉ rest)
    (hk : k (cur.advance (past ++ [c]) rest) = some last) :
    (many (fun _ => true) none).search cur (fun mid => (char c).search mid k) = some last := by
  induction past generalizing cur with
  | nil =>
    have hnone : (many (fun _ => true) none).search (cur.step c rest)
        (fun mid => (char c).search mid k) = none :=
      search_many_char_eq_none hc
    rw [search_many_step hafter (by simp) rfl, Option.map_none, hnone, Option.none_or,
      char, search_one hafter (by simp)]
    rw [List.nil_append, ← Cursor.step_advance cur c [] rest,
      Cursor.advance_nil (Cursor.step_after cur c rest)] at hk
    exact hk
  | cons d past ih =>
    rw [List.cons_append] at hafter
    have hmany := ih (cur.step_after d (past ++ c :: rest))
      (by rw [Cursor.step_advance]; exact hk)
    rw [search_many_step hafter (by simp) rfl, Option.map_none, hmany]
    rfl

theorem find?_go_of_skip {p : Pattern} {skip : List Char} (past : List Char)
    (hskip : ∀ c ∈ skip, ∀ cur rest, cur.after = c :: rest → p.matchAt? cur = none)
    (hmatch : p.matchAt? (.between (past ++ skip) rest) = some last) :
    find?.go p (skip ++ rest) (.between past (skip ++ rest))
      =
    some ⟨.between (past ++ skip) rest, last⟩ := by
  induction skip generalizing past with
  | nil =>
    rw [List.append_nil] at hmatch ⊢
    cases rest with
    | nil => simp [find?.go, hmatch]
    | cons c rest => simp [find?.go, hmatch]
  | cons c skip ih =>
    have hnone := hskip c List.mem_cons_self (.between past (c :: (skip ++ rest))) _ rfl
    rw [List.append_cons] at hmatch ⊢
    rw [List.cons_append, find?.go, hnone]
    dsimp only
    rw [Cursor.between_step]
    apply ih
    . intro d hd
      exact hskip d (List.mem_cons_of_mem c hd)
    . exact hmatch

theorem find?_of_skip {p : Pattern} {skip : List Char}
    (hskip : ∀ c ∈ skip, ∀ cur rest, cur.after = c :: rest → p.matchAt? cur = none)
    (hmatch : p.matchAt? (.between skip rest) = some last) :
    p.find? (.start (skip ++ rest)) = some ⟨.between skip rest, last⟩ :=
  find?_go_of_skip [] hskip hmatch

end Pattern
end CodeGauge
