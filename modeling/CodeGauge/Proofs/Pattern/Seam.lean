import CodeGauge.Proofs.Pattern.Frame

/-!
This module contains the scan of two texts that are joined by a character. The matches of a pattern
that takes no notice of the seam are those in the one text and those in the other.
-/

namespace CodeGauge

open List (Forall₂)

variable {l x r : List Char} {p : Pattern}


/--
A match in the text `x`, and the same one in `l ++ x ++ r`.
-/
structure MatchFrame (l x r : List Char) (m m' : Match) : Prop where
  first : Frame l x r m.first m'.first
  last : Frame l x r m.last m'.last

namespace MatchFrame

variable {m m' : Match}

theorem length_eq (h : MatchFrame l x r m m') : m'.length = m.length := by
  unfold Match.length
  rw [h.first.offset, h.last.offset]
  omega

theorem group?_eq (h : MatchFrame l x r m m') (n : Nat) : m'.group? n = m.group? n :=
  h.last.group?_eq n

end MatchFrame

namespace Pattern

variable {cur last : Cursor} {c : Char} {rest : List Char} {wait : Nat}

theorem scan_go_wait :
    scan.go p (c :: rest) cur (wait + 1) = scan.go p rest (cur.step c rest) wait := by
  rfl

theorem scan_go_none (h : p.matchAt? cur = none) :
    scan.go p (c :: rest) cur 0 = scan.go p rest (cur.step c rest) 0 := by
  rw [scan.go, h]

theorem scan_go_some (h : p.matchAt? cur = some last) :
    scan.go p (c :: rest) cur 0
      =
    ⟨cur, last⟩ :: scan.go p rest (cur.step c rest) ((Match.mk cur last).length - 1) := by
  rw [scan.go, h]

theorem scan_go_nil (h : p.matchAt? cur = none) : scan.go p [] cur wait = [] := by
  cases wait <;> simp [scan.go, h]

theorem ends_eq_nil_of_frame (hp : p.Simulates (Frame l x r) (Frame l x r)) (hleast : 0 < p.least)
    {stop seam : Cursor} (h : Frame l x r stop seam) (hafter : stop.after = []) :
    p.ends seam = [] := by
  have hends := hp stop seam h
  cases hcase : p.ends stop with
  | nil =>
    rw [hcase] at hends
    exact List.forall₂_nil_left_iff.1 hends
  | cons last lasts =>
    -- Such an end would lie behind the end of the text.
    rw [hcase] at hends
    obtain ⟨last', lasts', hlast, _, _⟩ := List.forall₂_cons_left_iff.1 hends
    have hle := least_le_of_mem_ends (hcase ▸ List.mem_cons_self : last ∈ p.ends stop)
    have hstop := h.offset_add_length
    have hlen := hlast.offset_add_length
    rw [hafter, List.length_nil] at hstop
    omega

theorem scan_go_frame (hp : p.Simulates (Frame l x r) (Frame l x r)) (hleast : 0 < p.least)
    {cur cur' : Cursor} (h : Frame l x r cur cur') (hafter : cur.after = rest)
    (hwait : wait ≤ rest.length) :
    ∃ ms stop seam, scan.go p (rest ++ r) cur' wait = ms ++ scan.go p r seam 0
      ∧ Forall₂ (MatchFrame l x r) (scan.go p rest cur wait) ms
      ∧ Frame l x r stop seam ∧ stop.after = [] ∧ seam.groups = cur'.groups := by
  induction rest generalizing cur cur' wait with
  | nil =>
    obtain rfl : wait = 0 := by simpa using hwait
    have hcur : p.matchAt? cur = none := by
      rw [matchAt?_eq]
      have hends := hp cur cur' h
      rw [ends_eq_nil_of_frame hp hleast h hafter] at hends
      rw [List.forall₂_nil_right_iff.1 hends]
      rfl
    refine ⟨[], cur, cur', rfl, ?_, h, hafter, rfl⟩
    rw [scan_go_nil hcur]
    exact .nil
  | cons c rest ih =>
    have hstep := h.step hafter
    rw [List.cons_append]
    cases wait with
    | succ wait =>
      rw [scan_go_wait, scan_go_wait]
      exact ih hstep rfl (by simpa using hwait)
    | zero =>
      cases hcase : p.matchAt? cur with
      | none =>
        rw [scan_go_none hcase, scan_go_none (hp.matchAt?_eq_none h hcase)]
        exact ih hstep rfl (by simp)
      | some last =>
        obtain ⟨last', hcase', hlast⟩ := hp.exists_matchAt?_eq_some h hcase
        have hm : MatchFrame l x r ⟨cur, last⟩ ⟨cur', last'⟩ := ⟨h, hlast⟩
        rw [scan_go_some hcase, scan_go_some hcase', hm.length_eq]
        have hle : (Match.mk cur last).length - 1 ≤ rest.length := by
          have hcur := h.offset_add_length
          have hlen := hlast.offset_add_length
          rw [hafter, List.length_cons] at hcur
          simp only [Match.length]
          omega
        obtain ⟨ms, stop, seam, hscan, hms, hseam⟩ := ih hstep rfl hle
        refine ⟨⟨cur', last'⟩ :: ms, stop, seam, ?_, .cons hm hms, hseam⟩
        rw [hscan, List.cons_append]

/--
Behind the matches that a pattern has in a part of a text come those in what follows the part.
-/
theorem scan_frame (hp : p.Simulates (Frame l x r) (Frame l x r)) (hleast : 0 < p.least)
    {cur' : Cursor} (h : Frame l x r cur cur') :
    ∃ ms more, p.scan cur' = ms ++ more ∧ Forall₂ (MatchFrame l x r) (p.scan cur) ms := by
  obtain ⟨ms, stop, seam, hscan, hms, _⟩ :=
    scan_go_frame hp hleast h rfl (Nat.zero_le _ : 0 ≤ _)
  refine ⟨ms, scan.go p r seam 0, ?_, hms⟩
  rw [scan, h.after, hscan]

variable {a b : List Char} {d : Char}

/--
The matches in two texts that are joined by a character.
-/
theorem findAll_seam (hleast : 0 < p.least)
    (ha : p.Simulates (Frame [] a (d :: b)) (Frame [] a (d :: b)))
    (hb : p.Simulates (Frame (a ++ [d]) b []) (Frame (a ++ [d]) b [])) :
    ∃ ms₁ ms₂, p.findAll (a ++ d :: b) = ms₁ ++ ms₂
      ∧ Forall₂ (MatchFrame [] a (d :: b)) (p.findAll a) ms₁
      ∧ Forall₂ (MatchFrame (a ++ [d]) b []) (p.findAll b) ms₂ := by
  have hstart : Frame [] a (d :: b) (.start a) (.start (a ++ d :: b)) := .between [] [] a (d :: b)
  obtain ⟨ms₁, stop, seam, hscan₁, hms₁, hseam, hstop, hgroups⟩ :=
    scan_go_frame ha hleast hstart rfl (Nat.zero_le _ : 0 ≤ _)
  have hnone : p.matchAt? seam = none := by
    rw [matchAt?_eq, ends_eq_nil_of_frame ha hleast hseam hstop]
    rfl
  have hsecond : Frame (a ++ [d]) b [] (.start b) (seam.step d b) := by
    refine ⟨rfl, ?_, (List.append_nil b).symm, ?_⟩
    . have htext := hseam.text
      rw [hstop, List.append_nil] at htext
      simp [hseam.before, ← htext, Cursor.start]
    . rw [Cursor.step_groups, hgroups]
      exact .nil
  obtain ⟨ms₂, stop₂, seam₂, hscan₂, hms₂, hseam₂, hstop₂, _⟩ :=
    scan_go_frame hb hleast hsecond rfl (Nat.zero_le _ : 0 ≤ _)
  have hnone₂ : p.matchAt? seam₂ = none := by
    rw [matchAt?_eq, ends_eq_nil_of_frame hb hleast hseam₂ hstop₂]
    rfl
  refine ⟨ms₁, ms₂, ?_, hms₁, hms₂⟩
  have hrest : scan.go p (d :: b) seam 0 = ms₂ := by
    rw [scan_go_none hnone]
    rw [scan_go_nil hnone₂, List.append_nil, List.append_nil] at hscan₂
    exact hscan₂
  rw [← hrest]
  exact hscan₁

theorem count_seam (hleast : 0 < p.least) (h : p.refuses d) :
    p.count (a ++ d :: b) = p.count a + p.count b := by
  obtain ⟨ms₁, ms₂, heq, h₁, h₂⟩ := findAll_seam (a := a) (b := b) (d := d) hleast
    (simulates_of_refuses h (by simp) (by simp)) (simulates_of_refuses h (by simp) (by simp))
  unfold count
  rw [heq, List.length_append, h₁.length_eq, h₂.length_eq]

theorem occurs_of_lifts (h : p.Lifts (Frame l x r)) (hx : p.occurs x) : p.occurs (l ++ x ++ r) := by
  rw [occurs_iff_between] at hx ⊢
  obtain ⟨u, v, rfl, hends⟩ := hx
  exact ⟨l ++ u, v ++ r, by simp, h.ends_ne_nil (.between l u v r) hends⟩

/--
A pattern that looks at nothing but the characters that it takes occurs in any text around one in
which it occurs.
-/
theorem occurs_of_looksAtOwn (h : p.looksAtOwn) (hx : p.occurs x) : p.occurs (l ++ x ++ r) :=
  occurs_of_lifts (lifts_of_looksAtOwn h) hx

/--
A pattern that ignores a character in front of it occurs behind that character as in the text alone.
-/
theorem occurs_behind (h : p.ignoresBefore d) (l : List Char) (hx : p.occurs x) :
    p.occurs (l ++ d :: x) := by
  have hsimulates : p.Simulates (Frame (l ++ [d]) x []) (Frame (l ++ [d]) x []) :=
    simulates_of_edges (by simpa using h) (by simp)
  simpa using occurs_of_lifts hsimulates.lifts hx

end Pattern
end CodeGauge
