import CodeGauge.Text.CodePoint

/-!
This module contains which texts are strings: those without a surrogate that stands alone.
-/

namespace CodeGauge.Text

/--
A kind of text in which the characters of a string stand for this string.
-/
class LawfulWording (τ : Type) [Wording τ] : Prop where
  points_ofString (s : String) : Wording.points (Wording.ofString s : τ) = s.toList.map .char
  ofPoints_map_char (cs : List Char) :
    (Wording.ofPoints (cs.map .char) : τ) = Wording.ofString (.ofList cs)

instance : LawfulWording String where
  points_ofString _ := rfl
  ofPoints_map_char := Text.ofPoints_map_char

instance : LawfulWording Wide where
  points_ofString _ := rfl
  ofPoints_map_char cs := by simp [Wording.ofPoints, Wording.ofString]

/--
Whether a surrogate stands alone in a text.
-/
def IsTorn (s : Wide) : Prop :=
  ∃ place, .surrogate place ∈ s

theorem isTorn_cons_char {c : Char} {s : Wide} : IsTorn (.char c :: s) ↔ IsTorn s := by
  simp [IsTorn]

theorem isTorn_cons_surrogate (place : Fin 0x800) (s : Wide) : IsTorn (.surrogate place :: s) :=
  ⟨place, List.mem_cons_self⟩

theorem mapM_char?_eq_none_iff {s : Wide} : s.mapM CodePoint.char? = none ↔ IsTorn s := by
  induction s with
  | nil => simp [IsTorn]
  | cons point s ih =>
    cases point with
    | char c =>
      rw [isTorn_cons_char, ← ih, List.mapM_cons]
      cases s.mapM CodePoint.char? <;> simp [CodePoint.char?]
    | surrogate place =>
      simp [CodePoint.char?, isTorn_cons_surrogate]

theorem whole?_eq_none_iff {s : Wide} : Wording.whole? s = none ↔ IsTorn s := by
  rw [← mapM_char?_eq_none_iff]
  exact Option.map_eq_none_iff

theorem mapM_char?_eq_some_iff {s : Wide} {cs : List Char} :
    s.mapM CodePoint.char? = some cs ↔ s = cs.map .char := by
  induction s generalizing cs with
  | nil => cases cs <;> simp
  | cons point s ih =>
    cases point with
    | char c =>
      cases cs with
      | nil => simp [CodePoint.char?, Option.bind_eq_some_iff]
      | cons d cs =>
        rw [List.map_cons, List.cons.injEq, CodePoint.char.injEq, and_comm]
        simp [CodePoint.char?, Option.bind_eq_some_iff, ih]
    | surrogate place => cases cs <;> simp [CodePoint.char?]

theorem whole?_eq_some_iff {s : Wide} {t : String} :
    Wording.whole? s = some t ↔ s = Wording.ofString t := by
  constructor
  . intro h
    obtain ⟨cs, hmap, rfl⟩ := Option.map_eq_some_iff.1 h
    rw [mapM_char?_eq_some_iff.1 hmap]
    simp [Wording.ofString]
  . rintro rfl
    exact Option.map_eq_some_iff.2 ⟨t.toList, mapM_char?_eq_some_iff.2 rfl, String.ofList_toList⟩

theorem whole?_ofString (s : String) : Wording.whole? (Wording.ofString s : Wide) = some s :=
  whole?_eq_some_iff.2 rfl

theorem ofString_inj {s t : String} :
    (Wording.ofString s : Wide) = Wording.ofString t ↔ s = t := by
  rw [← whole?_eq_some_iff, whole?_ofString, Option.some.injEq]

end CodeGauge.Text
