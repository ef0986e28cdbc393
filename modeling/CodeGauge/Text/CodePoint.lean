/-!
This module contains texts in which a surrogate may stand without its partner, and what a kind of
text has to offer for JSON values to hold it.
-/

namespace CodeGauge.Text


/--
What texts are made of where surrogates may stand alone: a character, or a surrogate by its place
among all of them.
-/
inductive CodePoint where
  | char (c : Char)
  | surrogate (place : Fin 0x800)
  deriving DecidableEq, Repr

namespace CodePoint

/--
The code point with a number.
-/
def ofNat (n : Nat) : CodePoint :=
  if h : 0xd800 ≤ n ∧ n < 0xe000 then
    .surrogate ⟨n - 0xd800, by omega⟩
  else
    .char (.ofNat n)

/--
A character is the code point with its number.
-/
theorem ofNat_toNat (c : Char) : ofNat c.toNat = .char c := by
  have hvalid : ¬ (0xd800 ≤ c.toNat ∧ c.toNat < 0xe000) := by
    have hchar : c.toNat < 0xd800 ∨ 0xdfff < c.toNat ∧ c.toNat < 0x110000 := c.valid
    omega
  rw [ofNat, dif_neg hvalid, Char.ofNat_toNat]

/--
The character that a code point is.
-/
def char? : CodePoint → Option Char
  | .char c => some c
  | .surrogate _ => none

/--
The character that a code point is, or else the replacement character.
-/
def toChar (p : CodePoint) : Char :=
  p.char?.getD '\uFFFD'

end CodePoint

/--
A text in which surrogates may stand alone.
-/
abbrev Wide := List CodePoint

/--
A kind of text that JSON values may hold. Not every kind has a place for surrogates that stand
alone, and not every text of a kind with a place for them is one of characters.
-/
class Wording (τ : Type) where
  ofString : String → τ
  whole? : τ → Option String
  ofPoints : Wide → τ
  points : τ → Wide

/--
Strings, in which the replacement character stands for a surrogate.
-/
@[default_instance]
instance : Wording String where
  ofString s := s
  whole? := some
  ofPoints points := .ofList (points.map CodePoint.toChar)
  points s := s.toList.map .char

@[simp]
theorem ofString_string (s : String) : Wording.ofString s = s :=
  rfl

@[simp]
theorem whole?_string (s : String) : Wording.whole? s = some s :=
  rfl

@[simp]
theorem ofPoints_map_char (cs : List Char) :
    (Wording.ofPoints (cs.map CodePoint.char) : String) = .ofList cs := by
  have hchar : CodePoint.toChar ∘ CodePoint.char = id := rfl
  simp only [Wording.ofPoints, List.map_map, hchar, List.map_id]

instance : Wording Wide where
  ofString s := s.toList.map .char
  whole? points := (points.mapM CodePoint.char?).map .ofList
  ofPoints points := points
  points s := s

end CodeGauge.Text
