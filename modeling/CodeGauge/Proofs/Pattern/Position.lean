import CodeGauge.Proofs.Pattern.Finds
import CodeGauge.Proofs.Pattern.Reach

/-!
This module contains the positions in a text at which a test holds, and their number as the count of
a pattern: when every match of the pattern holds exactly one such position and no other lies outside
the matches, the scan loses none and counts none twice. When every match holds at least some number
of them, the count is bounded by their number.
-/

namespace CodeGauge

open Text

variable {test : List Char → List Char → Bool} {past w rest : List Char} {c : Char}


/--
The number of positions from one on at which a test of the text before and the text behind holds.
-/
def positionsFrom (test : List Char → List Char → Bool) (past rest : List Char) : Nat :=
  (List.range (rest.length + 1)).countP fun n => test (past ++ rest.take n) (rest.drop n)

/--
The number of positions in a text at which a test of the text before and the text behind holds.
-/
def positions (test : List Char → List Char → Bool) (cs : List Char) : Nat :=
  positionsFrom test [] cs

theorem positionsFrom_nil : positionsFrom test past [] = (test past []).toNat := by
  cases h : test past [] <;> simp [positionsFrom, h]

theorem positionsFrom_cons :
    positionsFrom test past (c :: rest)
      =
    (test past (c :: rest)).toNat + positionsFrom test (past ++ [c]) rest := by
  unfold positionsFrom
  rw [List.length_cons, List.range_succ_eq_map, List.countP_cons, List.countP_map, Nat.add_comm]
  congr 1
  . cases h : test past (c :: rest) <;> simp [h]
  . congr 1
    ext n
    simp

/--
No position among the first characters counts if the test fails at all of them.
-/
theorem positionsFrom_skip
    (h : ∀ u d v, w = u ++ d :: v → test (past ++ u) (d :: (v ++ rest)) = false) :
    positionsFrom test past (w ++ rest) = positionsFrom test (past ++ w) rest := by
  induction w generalizing past with
  | nil => simp
  | cons c w ih =>
    have hhere := h [] c w rfl
    rw [List.append_nil] at hhere
    rw [List.cons_append, positionsFrom_cons, hhere, ih]
    . simp
    . intro u d v hw
      have := h (c :: u) d v (by rw [hw, List.cons_append])
      simpa using this

theorem positionsFrom_append_le (past w rest : List Char) :
    positionsFrom test (past ++ w) rest ≤ positionsFrom test past (w ++ rest) := by
  induction w generalizing past with
  | nil => simp
  | cons c w ih =>
    have hrest := ih (past ++ [c])
    rw [List.append_assoc, List.singleton_append] at hrest
    rw [List.cons_append, positionsFrom_cons]
    omega

theorem positionsFrom_append_lt (hw : w ≠ []) (htest : test past (w ++ rest)) :
    positionsFrom test (past ++ w) rest < positionsFrom test past (w ++ rest) := by
  obtain ⟨c, w, rfl⟩ := List.exists_cons_of_ne_nil hw
  have hrest : positionsFrom test (past ++ [c] ++ w) rest
      ≤ positionsFrom test (past ++ [c]) (w ++ rest) :=
    positionsFrom_append_le ..
  rw [List.append_assoc, List.singleton_append] at hrest
  rw [List.cons_append] at htest ⊢
  rw [positionsFrom_cons, htest, Bool.toNat_true]
  omega

theorem positionsFrom_or_le (f g : List Char → List Char → Bool) (past rest : List Char) :
    positionsFrom (fun u v => f u v || g u v) past rest
      ≤
    positionsFrom f past rest + positionsFrom g past rest := by
  have hhere (u v : List Char) : (f u v || g u v).toNat ≤ (f u v).toNat + (g u v).toNat := by
    cases f u v <;> simp
  induction rest generalizing past with
  | nil =>
    simp only [positionsFrom_nil]
    exact hhere past []
  | cons c rest ih =>
    have hfirst := hhere past (c :: rest)
    have hrest := ih (past ++ [c])
    simp only [positionsFrom_cons]
    omega

/--
Between a position and a later one, which is `last`, lies exactly one of the positions that count.
-/
def HoldsOne (test : List Char → List Char → Bool) (past rest : List Char) (last : Cursor) : Prop :=
  ∃ w rest', rest = w ++ rest' ∧ last = .between (past ++ w) rest'
    ∧ positionsFrom test past rest = positionsFrom test (past ++ w) rest' + 1

/--
Between a position and a later one, which is `last`, lie at least `n` of the positions that count.
-/
def HoldsAtLeast (n : Nat) (test : List Char → List Char → Bool) (past rest : List Char)
    (last : Cursor) : Prop :=
  ∃ w rest', rest = w ++ rest' ∧ last = .between (past ++ w) rest'
    ∧ positionsFrom test (past ++ w) rest' + n ≤ positionsFrom test past rest

/--
Whether a text starts with a word character of ASCII.
-/
def startsInWord (s : String) : Bool :=
  s.toList.head?.any fun c => isWord c && c.toNat < 128

theorem ne_nil_of_startsInWord {s : String} (h : startsInWord s) : s.toList ≠ [] := by
  intro hnil
  simp [startsInWord, hnil] at h

/--
A test that holds only in front of one of a few words in any letter case.
-/
structure NeedsOneOf (keys : List String) (test : List Char → List Char → Bool) : Prop where
  inWord : ∀ key ∈ keys, startsInWord key
  needs : ∀ past rest, test past rest → ∃ key ∈ keys, key.toList <+: rest.map fold

/--
Among the letters of a text, a word can start behind the first `n` of them and nowhere else. It may
be longer than what is left of the letters there.
-/
def StartsOnlyAt (n : Nat) (letters : List Char) (key : String) : Prop :=
  ∀ j < letters.length, j ≠ n → ¬ key.toList <+: letters.drop j ∧ ¬ letters.drop j <+: key.toList

instance (n : Nat) (letters : List Char) (key : String) : Decidable (StartsOnlyAt n letters key) :=
  inferInstanceAs (Decidable (∀ j < letters.length, _))

namespace NeedsOneOf

variable {keys : List String} {n : Nat} {letters u v : List Char}

theorem eq_false_of_startsOnlyAt (h : NeedsOneOf keys test)
    (hs : ∀ key ∈ keys, StartsOnlyAt n letters key) (hspelled : (u ++ c :: v).map fold = letters)
    (hu : u.length ≠ n) : test past (c :: (v ++ rest)) = false := by
  rw [Bool.eq_false_iff]
  intro htest
  obtain ⟨key, hkey, hstart⟩ := h.needs past _ htest
  have hdrop : letters.drop u.length = (c :: v).map fold := by
    simp [← hspelled]
  have hlength : u.length < letters.length := by
    simp [← hspelled]
  have halone := hs key hkey u.length hlength hu
  rw [hdrop] at halone
  -- The word and what is left of the letters start at one place, so one is a prefix of the other.
  rw [← List.cons_append, List.map_append] at hstart
  cases List.prefix_or_prefix_of_prefix hstart (List.prefix_append _ _) with
  | inl hshort => exact halone.1 hshort
  | inr hlong => exact halone.2 hlong

/--
In a text that is spelled like a word there is only one position that counts.
-/
theorem positionsFrom_eq (h : NeedsOneOf keys test)
    (hs : ∀ key ∈ keys, StartsOnlyAt u.length letters key) (hspelled : (u ++ v).map fold = letters)
    (htest : test (past ++ u) (v ++ rest)) (hv : v ≠ []) :
    positionsFrom test past (u ++ (v ++ rest)) = positionsFrom test (past ++ u ++ v) rest + 1 := by
  obtain ⟨c, v, rfl⟩ := List.exists_cons_of_ne_nil hv
  rw [positionsFrom_skip, List.cons_append, positionsFrom_cons, ← List.cons_append, htest,
    positionsFrom_skip]
  . simp [Nat.add_comm]
  . rintro u' d v' rfl
    apply h.eq_false_of_startsOnlyAt hs (u := u ++ c :: u') (v := v')
    . simpa using hspelled
    . simp
  . rintro u' d v' rfl
    have hfalse : test (past ++ u') (d :: ((v' ++ c :: v) ++ rest)) = false :=
      h.eq_false_of_startsOnlyAt hs (u := u') (by simpa using hspelled) (by simp)
    simpa using hfalse

theorem positionsFrom_skip_of_not_word (h : NeedsOneOf keys test)
    (hw : ∀ c ∈ w, isWord c = false) :
    positionsFrom test past (w ++ rest) = positionsFrom test (past ++ w) rest := by
  apply positionsFrom_skip
  rintro u c v rfl
  rw [Bool.eq_false_iff]
  intro htest
  obtain ⟨key, hkey, hstart⟩ := h.needs _ _ htest
  obtain ⟨letter, hletter, hhead⟩ := (Option.any_eq_true _ _).1 (h.inWord key hkey)
  rw [Bool.and_eq_true, decide_eq_true_eq] at hhead
  obtain ⟨letters, hletters⟩ := List.head?_eq_some_iff.1 hletter
  rw [hletters, List.map_cons, List.cons_prefix_cons] at hstart
  have hword := isWord_eq_of_fold hstart.1.symm hhead.2
  rw [hhead.1, hw c (by simp)] at hword
  cases hword

theorem holdsOne (h : NeedsOneOf keys test) (past rest : List Char)
    (hs : ∀ key ∈ keys, StartsOnlyAt u.length letters key) (hspelled : (u ++ v).map fold = letters)
    (hv : v ≠ []) (hw : ∀ c ∈ w, isWord c = false) (htest : test (past ++ u) (v ++ (w ++ rest))) :
    HoldsOne test past (u ++ (v ++ (w ++ rest))) (.between (past ++ (u ++ (v ++ w))) rest) := by
  refine ⟨u ++ (v ++ w), rest, by simp, rfl, ?_⟩
  rw [h.positionsFrom_eq hs hspelled htest hv, h.positionsFrom_skip_of_not_word hw]
  simp

end NeedsOneOf

namespace Pattern

variable {p : Pattern} {ms : List Match}

/--
The number of characters that a match takes says where the text behind it starts.
-/
theorem eq_of_length_between {w' rest' : List Char} (htext : w ++ rest = w' ++ rest')
    (hlength : (Match.mk (.between past (w ++ rest)) (.between (past ++ w') rest')).length
      = w.length) :
    w = w' ∧ rest = rest' := by
  apply List.append_inj htext
  rw [← hlength]
  simp [Match.length, Cursor.between]

/--
A pattern whose matches each hold exactly one of the positions that count, where no position counts
at which no match starts.
-/
structure Counts (p : Pattern) (test : List Char → List Char → Bool) : Prop where
  least : 0 < p.least
  of_none : ∀ past rest, p.ends (.between past rest) = [] → test past rest = false
  of_end : ∀ past rest, ∀ last ∈ p.ends (.between past rest), HoldsOne test past rest last

namespace Counts

theorem of_matchAt?_eq_none (h : p.Counts test) (hnone : p.matchAt? (.between past rest) = none) :
    test past rest = false := by
  rw [matchAt?_eq, List.head?_eq_none_iff] at hnone
  exact h.of_none past rest hnone

theorem of_matchAt?_eq_some (h : p.Counts test) {last : Cursor}
    (hsome : p.matchAt? (.between past (w ++ rest)) = some last)
    (hlength : (Match.mk (.between past (w ++ rest)) last).length = w.length) :
    positionsFrom test past (w ++ rest) = positionsFrom test (past ++ w) rest + 1 := by
  rw [matchAt?_eq] at hsome
  obtain ⟨w', rest', htext, rfl, hcount⟩ :=
    h.of_end past (w ++ rest) last (List.mem_of_mem_head? hsome)
  obtain ⟨rfl, rfl⟩ := eq_of_length_between htext hlength
  exact hcount

/--
What a scan finds from a position on is as much as there are positions that count.
-/
theorem length_of_finds (h : p.Counts test) (hms : Finds p past rest ms) :
    ms.length = positionsFrom test past rest := by
  induction hms with
  | done hnone =>
    rw [positionsFrom_nil, h.of_matchAt?_eq_none hnone]
    rfl
  | pass hnone _ ih =>
    rw [positionsFrom_cons, h.of_matchAt?_eq_none hnone, ih]
    simp
  | take _ hsome hlength _ ih =>
    rw [h.of_matchAt?_eq_some hsome hlength, List.length_cons, ih]

end Counts

/--
The matches of a pattern are as many as the positions that count.
-/
theorem Counts.count_eq (h : p.Counts test) (text : List Char) :
    p.count text = positions test text :=
  h.length_of_finds (finds_findAll h.least text)

section

variable {n : Nat}
  (h : ∀ past rest, ∀ last ∈ p.ends (.between past rest), HoldsAtLeast n test past rest last)

include h

theorem mul_length_le_of_finds (hms : Finds p past rest ms) :
    n * ms.length ≤ positionsFrom test past rest := by
  induction hms with
  | done => simp
  | pass _ _ ih =>
    rw [positionsFrom_cons]
    omega
  | @take past w rest last ms _ hsome hlength _ ih =>
    rw [matchAt?_eq] at hsome
    obtain ⟨w', rest', htext, rfl, hcount⟩ :=
      h past (w ++ rest) last (List.mem_of_mem_head? hsome)
    obtain ⟨rfl, rfl⟩ := eq_of_length_between htext hlength
    rw [List.length_cons, Nat.mul_succ]
    omega

/--
Matches do not overlap, so no position is held by two of them.
-/
theorem mul_count_le (hleast : 0 < p.least) (text : List Char) :
    n * p.count text ≤ positions test text :=
  mul_length_le_of_finds h (finds_findAll hleast text)

end

end Pattern
end CodeGauge
