import CodeGauge.Proofs.Pattern.Search
import CodeGauge.Proofs.Text.Fold

/-!
This module contains what a pattern reaches, one constructor at a time: which characters it passes
and which position it then comes to. All the ends of a pattern are found in this way, so that a
match can be told from the text around it.
-/

namespace CodeGauge

open Text

variable {cur stop : Cursor} {p q : Pattern} {limit : Option Nat}


namespace Cursor

@[simp]
theorem advance_after (cur : Cursor) (past rest : List Char) :
    (cur.advance past rest).after = rest := rfl

@[simp]
theorem advance_offset (cur : Cursor) (past rest : List Char) :
    (cur.advance past rest).offset = cur.offset + past.length := rfl

@[simp]
theorem advance_advance (cur : Cursor) (u v rest' rest : List Char) :
    (cur.advance u rest').advance v rest = cur.advance (u ++ v) rest := by
  ext <;> simp [advance]

theorem between_advance (past w rest' rest : List Char) :
    (between past rest').advance w rest = between (past ++ w) rest := by
  ext <;> simp [advance, between]

theorem step_eq_advance (cur : Cursor) (c : Char) (rest : List Char) :
    cur.step c rest = cur.advance [c] rest := by
  ext <;> simp [advance]

variable {t : Char → Bool} {span w rest : List Char}

theorem advance_mem_sweep (hafter : cur.after = w ++ rest) (ht : ∀ c ∈ w, t c)
    (hlimit : ∀ n ∈ limit, w.length ≤ n) : cur.advance w rest ∈ cur.sweep t limit := by
  induction w generalizing cur limit with
  | nil =>
    rw [advance_nil (by simpa using hafter)]
    exact self_mem_sweep
  | cons c w ih =>
    rw [List.forall_mem_cons] at ht
    have hgo : limit ≠ some 0 := by
      rintro rfl
      simpa using hlimit 0 rfl
    rw [sweep_step hafter hgo ht.1, List.mem_append, ← step_advance cur c w (w ++ rest) rest]
    left
    apply ih rfl ht.2
    intro n hn
    obtain ⟨m, hm, rfl⟩ := Option.map_eq_some_iff.1 hn
    have := hlimit m hm
    rw [List.length_cons] at this
    omega

theorem exists_advance_self (t : Char → Bool) (limit : Option Nat) (cur : Cursor) :
    ∃ w rest, cur.after = w ++ rest ∧ (∀ c ∈ w, t c) ∧ (∀ n ∈ limit, w.length ≤ n)
      ∧ cur = cur.advance w rest :=
  ⟨[], cur.after, rfl, by simp, by simp, (advance_nil rfl).symm⟩

theorem exists_of_mem_sweep (h : stop ∈ cur.sweep t limit) :
    ∃ w rest, cur.after = w ++ rest ∧ (∀ c ∈ w, t c) ∧ (∀ n ∈ limit, w.length ≤ n)
      ∧ stop = cur.advance w rest := by
  induction hafter : cur.after generalizing cur limit with
  | nil =>
    rw [sweep_stop (by simp [hafter]), List.mem_singleton] at h
    rw [h, ← hafter]
    exact exists_advance_self t limit cur
  | cons c rest ih =>
    by_cases hgo : limit ≠ some 0 ∧ t c
    . rw [sweep_step hafter hgo.1 hgo.2, List.mem_append, List.mem_singleton] at h
      cases h with
      | inl h =>
        obtain ⟨w, rest', hw, ht, hlimit, rfl⟩ := ih h rfl
        refine ⟨c :: w, rest', by rw [hw, List.cons_append], by simp_all, ?_, step_advance ..⟩
        intro n hn
        have hpos : n ≠ 0 := by
          rintro rfl
          exact hgo.1 hn
        have := hlimit (n - 1) (Option.map_eq_some_iff.2 ⟨n, hn, rfl⟩)
        rw [List.length_cons]
        omega
      | inr h =>
        rw [h, ← hafter]
        exact exists_advance_self t limit cur
    . rw [sweep_stop, List.mem_singleton] at h
      . rw [h, ← hafter]
        exact exists_advance_self t limit cur
      . intro c' rest' hafter'
        grind

theorem mem_sweep :
    stop ∈ cur.sweep t limit
      ↔
    ∃ w rest, cur.after = w ++ rest ∧ (∀ c ∈ w, t c) ∧ (∀ n ∈ limit, w.length ≤ n)
      ∧ stop = cur.advance w rest := by
  constructor
  . exact exists_of_mem_sweep
  . rintro ⟨w, rest, hafter, ht, hlimit, rfl⟩
    exact advance_mem_sweep hafter ht hlimit

theorem pass?_self (h : cur.after = span ++ rest) :
    cur.pass? span = some (cur.advance span rest) := by
  induction span generalizing cur with
  | nil => rw [pass?, advance_nil (by simpa using h)]
  | cons c span ih =>
    rw [pass?, h, List.cons_append]
    dsimp only
    rw [if_pos (beq_self_eq_true _), ih rfl, step_advance]

theorem exists_of_pass? (h : cur.pass? span = some stop) :
    ∃ u rest, cur.after = u ++ rest ∧ u.length = span.length ∧ stop = cur.advance u rest := by
  induction span generalizing cur with
  | nil =>
    cases h
    exact ⟨[], stop.after, rfl, rfl, (advance_nil rfl).symm⟩
  | cons d span ih =>
    unfold pass? at h
    split at h
    . next c rest hafter =>
      split at h
      . obtain ⟨u, rest', hrest, hlength, rfl⟩ := ih h
        refine ⟨c :: u, rest', ?_, ?_, step_advance ..⟩
        . rw [hafter, List.cons_append, ← hrest, step_after]
        . rw [List.length_cons, List.length_cons, hlength]
      . cases h
    . cases h

end Cursor

namespace Pattern

theorem mem_ends_seq : stop ∈ (seq p q).ends cur ↔ ∃ mid ∈ p.ends cur, stop ∈ q.ends mid :=
  List.mem_flatMap

theorem mem_ends_empty : stop ∈ empty.ends cur ↔ stop = cur :=
  List.mem_singleton

theorem mem_ends_alt : stop ∈ (alt p q).ends cur ↔ stop ∈ p.ends cur ∨ stop ∈ q.ends cur :=
  List.mem_append

theorem mem_ends_one {t : Char → Bool} :
    stop ∈ (one t).ends cur
      ↔
    ∃ c rest, cur.after = c :: rest ∧ t c ∧ stop = cur.advance [c] rest := by
  unfold ends
  split
  . next c rest hafter =>
    split
    . simp_all [Cursor.step_eq_advance]
    . simp_all
  . next hafter => simp [hafter]

theorem mem_ends_many {t : Char → Bool} :
    stop ∈ (many t limit).ends cur
      ↔
    ∃ w rest, cur.after = w ++ rest ∧ (∀ c ∈ w, t c) ∧ (∀ n ∈ limit, w.length ≤ n)
      ∧ stop = cur.advance w rest :=
  Cursor.mem_sweep

theorem mem_ends_oneOrMore {t : Char → Bool} :
    stop ∈ (seq (one t) (many t none)).ends cur
      ↔
    ∃ w rest, cur.after = w ++ rest ∧ w ≠ [] ∧ (∀ c ∈ w, t c) ∧ stop = cur.advance w rest := by
  simp only [mem_ends_seq, mem_ends_one, mem_ends_many]
  constructor
  . rintro ⟨_, ⟨c, _, hafter, hc, rfl⟩, w, rest, rfl, hw, _, rfl⟩
    refine ⟨c :: w, rest, hafter, List.cons_ne_nil c w, List.forall_mem_cons.2 ⟨hc, hw⟩, ?_⟩
    rw [Cursor.advance_advance, List.singleton_append]
  . rintro ⟨_ | ⟨c, w⟩, rest, hafter, hne, hw, rfl⟩
    . exact (hne rfl).elim
    . rw [List.forall_mem_cons] at hw
      refine ⟨_, ⟨c, w ++ rest, hafter, hw.1, rfl⟩, w, rest, rfl, hw.2, by simp, ?_⟩
      rw [Cursor.advance_advance, List.singleton_append]

theorem mem_ends_boundary : stop ∈ boundary.ends cur ↔ cur.atBoundary ∧ stop = cur := by
  simp [ends, and_comm]

theorem mem_ends_group {n : Nat} :
    stop ∈ (group n p).ends cur ↔ ∃ mid ∈ p.ends cur, stop = mid.record n cur := by
  simp [ends, eq_comm]

theorem mem_ends_again {n : Nat} :
    stop ∈ (again n).ends cur ↔ ∃ span, cur.group? n = some span ∧ cur.pass? span = some stop := by
  simp [ends, Option.bind_eq_some_iff]

theorem mem_ends_chain_cons {ps : List Pattern} :
    stop ∈ (chain (p :: ps)).ends cur ↔ ∃ mid ∈ p.ends cur, stop ∈ (chain ps).ends mid := by
  cases ps with
  | nil => simp [chain, ends]
  | cons q ps => exact mem_ends_seq

theorem mem_ends_letters {letters : List Char} (h : ∀ letter ∈ letters, letter.toNat < 128) :
    stop ∈ (chain (letters.map fun letter => one (isFormOf letter))).ends cur
      ↔
    ∃ w rest, cur.after = w ++ rest ∧ w.map fold = letters ∧ stop = cur.advance w rest := by
  induction letters generalizing cur with
  | nil => simp [chain, mem_ends_empty, Cursor.advance_nil rfl]
  | cons letter letters ih =>
    rw [List.forall_mem_cons] at h
    simp only [List.map_cons, mem_ends_chain_cons, mem_ends_one, isFormOf_iff h.1, ih h.2]
    constructor
    . rintro ⟨_, ⟨c, _, hafter, rfl, rfl⟩, w, rest, rfl, rfl, rfl⟩
      exact ⟨c :: w, rest, hafter, rfl, by rw [Cursor.advance_advance, List.singleton_append]⟩
    . rintro ⟨_ | ⟨c, w⟩, rest, hafter, hfold, rfl⟩
      . cases hfold
      . obtain ⟨rfl, rfl⟩ := List.cons.inj hfold
        refine ⟨_, ⟨c, w ++ rest, hafter, rfl, rfl⟩, w, rest, rfl, rfl, ?_⟩
        rw [Cursor.advance_advance, List.singleton_append]

/--
A text is passed in any letter case.
-/
theorem mem_ends_text {s : String} (h : ∀ letter ∈ s.toList, letter.toNat < 128) :
    stop ∈ (text s).ends cur
      ↔
    ∃ w rest, cur.after = w ++ rest ∧ w.map fold = s.toList ∧ stop = cur.advance w rest :=
  mem_ends_letters h

theorem mem_ends_exactly {s : String} :
    stop ∈ (exactly s).ends cur
      ↔
    ∃ rest, cur.after = s.toList ++ rest ∧ stop = cur.advance s.toList rest := by
  unfold exactly
  generalize s.toList = letters
  induction letters generalizing cur with
  | nil => simp [chain, mem_ends_empty, Cursor.advance_nil]
  | cons letter letters ih =>
    simp only [List.map_cons, mem_ends_chain_cons, mem_ends_one, ih, beq_iff_eq]
    constructor
    . rintro ⟨_, ⟨_, _, hafter, rfl, rfl⟩, rest, rfl, rfl⟩
      exact ⟨rest, hafter, by rw [Cursor.advance_advance, List.singleton_append]⟩
    . rintro ⟨rest, hafter, rfl⟩
      refine ⟨_, ⟨letter, letters ++ rest, hafter, rfl, rfl⟩, rest, rfl, ?_⟩
      rw [Cursor.advance_advance, List.singleton_append]

theorem mem_ends_oneOf {ps : List Pattern} :
    stop ∈ (oneOf ps).ends cur ↔ ∃ p ∈ ps, stop ∈ p.ends cur := by
  induction ps with
  | nil => simp [oneOf, ends]
  | cons p ps ih =>
    cases ps with
    | nil => simp [oneOf]
    | cons q ps => simp [oneOf, mem_ends_alt, ih]

theorem mem_ends_signs {signs : List String} :
    stop ∈ (oneOf (signs.map exactly)).ends cur
      ↔
    ∃ sign ∈ signs, ∃ rest, cur.after = sign.toList ++ rest
      ∧ stop = cur.advance sign.toList rest := by
  simp only [mem_ends_oneOf, List.mem_map, ↓existsAndEq, and_true, mem_ends_exactly]

theorem mem_ends_words (words : List String)
    (h : ∀ word ∈ words, ∀ letter ∈ word.toList, letter.toNat < 128) :
    stop ∈ (oneOf (words.map text)).ends cur
      ↔
    ∃ w rest, cur.after = w ++ rest ∧ (∃ word ∈ words, w.map fold = word.toList)
      ∧ stop = cur.advance w rest := by
  simp only [mem_ends_oneOf, List.mem_map]
  constructor
  . rintro ⟨_, ⟨word, hword, rfl⟩, hstop⟩
    obtain ⟨w, rest, hafter, hspelled, rfl⟩ := (mem_ends_text (h word hword)).1 hstop
    exact ⟨w, rest, hafter, ⟨word, hword, hspelled⟩, rfl⟩
  . rintro ⟨w, rest, hafter, ⟨word, hword, hspelled⟩, rfl⟩
    exact ⟨_, ⟨word, hword, rfl⟩, (mem_ends_text (h word hword)).2 ⟨w, rest, hafter, hspelled, rfl⟩⟩

theorem mem_ends_char {c : Char} :
    stop ∈ (char c).ends cur ↔ ∃ rest, cur.after = c :: rest ∧ stop = cur.advance [c] rest := by
  simp [char, mem_ends_one]

theorem mem_ends_blanks :
    stop ∈ blanks.ends cur
      ↔
    ∃ w rest, cur.after = w ++ rest ∧ (∀ c ∈ w, isBlank c) ∧ stop = cur.advance w rest := by
  simp [blanks, mem_ends_many]

theorem mem_ends_someBlanks :
    stop ∈ someBlanks.ends cur
      ↔
    ∃ w rest, cur.after = w ++ rest ∧ w ≠ [] ∧ (∀ c ∈ w, isBlank c) ∧ stop = cur.advance w rest :=
  mem_ends_oneOrMore

theorem mem_ends_wordChars :
    stop ∈ wordChars.ends cur
      ↔
    ∃ w rest, cur.after = w ++ rest ∧ w ≠ [] ∧ (∀ c ∈ w, isWord c) ∧ stop = cur.advance w rest :=
  mem_ends_oneOrMore

theorem mem_ends_without {cs : List Char} :
    stop ∈ (without cs limit).ends cur
      ↔
    ∃ w rest, cur.after = w ++ rest ∧ (∀ c ∈ cs, c ∉ w) ∧ (∀ n ∈ limit, w.length ≤ n)
      ∧ stop = cur.advance w rest := by
  have hswap (w : List Char) : (∀ c ∈ w, c ∉ cs) ↔ ∀ c ∈ cs, c ∉ w :=
    ⟨fun h c hc hw => h c hw hc, fun h c hw hc => h c hc hw⟩
  simp [without, mem_ends_many, hswap]

theorem mem_ends_atMostOne {c : Char} :
    stop ∈ (atMostOne (· == c)).ends cur
      ↔
    ∃ w ∈ [[], [c]], ∃ rest, cur.after = w ++ rest ∧ stop = cur.advance w rest := by
  unfold atMostOne
  rw [mem_ends_many]
  constructor
  . rintro ⟨w, rest, hafter, hw, hlength, rfl⟩
    refine ⟨w, ?_, rest, hafter, rfl⟩
    match w with
    | [] => simp
    | [d] => simpa using hw
    | _ :: _ :: _ => simp at hlength
  . rintro ⟨w, hw, rest, hafter, rfl⟩
    rw [List.mem_cons, List.mem_singleton] at hw
    refine ⟨w, rest, hafter, ?_, ?_, rfl⟩
    . rcases hw with rfl | rfl <;> simp
    . rcases hw with rfl | rfl <;> simp

theorem mem_ends_notBehind {tests : List (Char → Bool)} :
    stop ∈ (notBehind tests).ends cur ↔ ¬ cur.follows tests ∧ stop = cur := by
  unfold ends
  split <;> simp_all

theorem mem_ends_notAhead : stop ∈ (notAhead p).ends cur ↔ p.ends cur = [] ∧ stop = cur := by
  simp only [ends, List.isEmpty_iff]
  split <;> simp_all

/--
Letters are tested backwards from a position.
-/
theorem follows_go_letters {letters before : List Char}
    (h : ∀ letter ∈ letters, letter.toNat < 128) :
    Cursor.follows.go (letters.map isFormOf) before ↔ letters <+: before.map fold := by
  induction letters generalizing before with
  | nil => simp [Cursor.follows.go]
  | cons letter letters ih =>
    rw [List.forall_mem_cons] at h
    cases before with
    | nil => simp [Cursor.follows.go]
    | cons c before =>
      rw [List.map_cons, List.map_cons, Cursor.follows.go, Bool.and_eq_true, ih h.2,
        isFormOf_iff h.1, List.cons_prefix_cons, eq_comm]

end Pattern
end CodeGauge
