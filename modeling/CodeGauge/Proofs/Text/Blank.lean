import CodeGauge.Text.Blank
import CodeGauge.Text.Case
import CodeGauge.Text.Word
import Mathlib.Data.List.DropRight
import Mathlib.Data.List.TakeWhile

/-!
This module contains what blank characters are not, word characters or forms of another character,
and what is taken from a text that is freed from them.
-/

namespace CodeGauge.Text

variable {c d : Char}


/--
The code points of the blank characters.
-/
def blankCodes : List Nat :=
  List.range' 9 5 ++ List.range' 0x1c 5 ++ [0x85, 0xa0, 0x1680] ++ List.range' 0x2000 11
    ++ [0x2028, 0x2029, 0x202f, 0x205f, 0x3000]

theorem toNat_mem_blankCodes (hd : isBlank d) : d.toNat ∈ blankCodes := by
  simp only [isBlank, isSpace, Bool.or_eq_true, Bool.and_eq_true, decide_eq_true_eq,
    beq_iff_eq] at hd
  simp only [blankCodes, List.mem_append, List.mem_range'_1, List.mem_cons, List.not_mem_nil,
    or_false]
  omega

theorem lowerChar_of_isBlank (hd : isBlank d) : lowerChar d = d := by
  have hcodes : ∀ n ∈ blankCodes, lowerChar (.ofNat n) = .ofNat n := by decide +kernel
  rw [← Char.ofNat_toNat d]
  exact hcodes _ (toNat_mem_blankCodes hd)

@[simp]
theorem isWord_of_isBlank (hd : isBlank d) : isWord d = false := by
  have hcodes : ∀ n ∈ blankCodes, isWord (.ofNat n) = false := by decide +kernel
  rw [← Char.ofNat_toNat d]
  exact hcodes _ (toNat_mem_blankCodes hd)

theorem isBlank_of_isWord (h : isWord c) : isBlank c = false := by
  by_contra hblank
  rw [isWord_of_isBlank (by simpa using hblank)] at h
  cases h

/--
Whether a character is in ASCII and can be seen.
-/
@[simp]
def isVisible (c : Char) : Bool :=
  33 ≤ c.toNat && c.toNat ≤ 126

theorem isBlank_of_isVisible (hc : isVisible c) : isBlank c = false := by
  simp only [isVisible, Bool.and_eq_true, decide_eq_true_eq] at hc
  simp only [isBlank, isSpace, Bool.or_eq_false_iff, Bool.and_eq_false_iff,
    decide_eq_false_iff_not, beq_eq_false_iff_ne]
  omega

theorem beq_of_isBlank (hd : isBlank d) (hc : isBlank c = false) : (d == c) = false := by
  rw [beq_eq_false_iff_ne]
  rintro rfl
  rw [hd] at hc
  cases hc

theorem not_mem_of_isBlank {cs : List Char} (hc : isBlank c = false) (h : ∀ d ∈ cs, isBlank d) :
    c ∉ cs := by
  intro hmem
  rw [h c hmem] at hc
  cases hc

/--
Where a text is cut behind blanks, but does not start with one, it is cut at its start.
-/
theorem eq_of_blanks {cs gap rest : List Char} (h : c :: cs = gap ++ d :: rest)
    (hgap : ∀ c ∈ gap, isBlank c) (hc : isBlank c = false) : c = d ∧ cs = rest := by
  cases gap with
  | nil => exact List.cons.inj h
  | cons e gap =>
    obtain ⟨rfl, _⟩ := List.cons.inj h
    rw [hgap c List.mem_cons_self] at hc
    cases hc

@[simp]
theorem beq_of_isVisible (hd : isBlank d) (hc : isVisible c) : (d == c) = false :=
  beq_of_isBlank hd (isBlank_of_isVisible hc)

@[simp]
theorem isFormOf_of_isVisible (hd : isBlank d) (hc : isVisible c) : isFormOf c d = false := by
  have hlong : (d == 'ſ') = false := beq_of_isBlank hd (by decide)
  have hdotless : (d == 'ı') = false := beq_of_isBlank hd (by decide)
  unfold isFormOf
  rw [lowerChar_of_isBlank hd, beq_of_isVisible hd hc, hlong, hdotless, Bool.and_false,
    Bool.and_false]
  rfl

theorem not_allBlank_iff (s : String) : ¬ allBlank s ↔ ∃ c ∈ s.toList, ¬ isBlank c := by
  simp [allBlank]

theorem strip_prefix_dropWhile (p : Char → Bool) (cs : List Char) :
    strip p cs <+: cs.dropWhile p :=
  List.rdropWhile_prefix p (cs.dropWhile p)

theorem strip_isInfix (p : Char → Bool) (cs : List Char) : strip p cs <:+: cs :=
  (strip_prefix_dropWhile p cs).isInfix.trans (List.dropWhile_suffix p).isInfix

theorem dropWhile_eq_self {p : Char → Bool} {cs : List Char}
    (h : ∀ c ∈ cs.head?, p c = false) : cs.dropWhile p = cs := by
  cases cs with
  | nil => rfl
  | cons c cs =>
    apply List.dropWhile_cons_of_neg
    simp [h c rfl]

theorem strip_isPrefix {p : Char → Bool} {cs : List Char} (h : ∀ c ∈ cs.head?, p c = false) :
    strip p cs <+: cs := by
  have hfront := strip_prefix_dropWhile p cs
  rw [dropWhile_eq_self h] at hfront
  exact hfront

theorem strip_eq_self {p : Char → Bool} {cs : List Char} (hhead : ∀ c ∈ cs.head?, p c = false)
    (hlast : ∀ c ∈ cs.getLast?, p c = false) : strip p cs = cs := by
  unfold strip
  rw [dropWhile_eq_self hhead]
  apply List.rdropWhile_eq_self_iff.2
  intro hne
  rw [hlast _ (List.getLast?_eq_some_getLast hne)]
  exact Bool.false_ne_true

theorem exists_strip_append (p : Char → Bool) (cs : List Char) :
    ∃ l r, cs = l ++ (strip p cs ++ r) ∧ (∀ c ∈ l, p c) ∧ ∀ c ∈ r, p c := by
  refine ⟨cs.takeWhile p, ((cs.dropWhile p).reverse.takeWhile p).reverse, ?_, ?_, ?_⟩
  . unfold strip
    rw [← List.reverse_append, List.takeWhile_append_dropWhile, List.reverse_reverse,
      List.takeWhile_append_dropWhile]
  . intro c hc
    exact List.mem_takeWhile_imp hc
  . intro c hc
    exact List.mem_takeWhile_imp (List.mem_reverse.1 hc)

end CodeGauge.Text
