import CodeGauge.Text.Case.Table

/-!
This module contains letter case: the case of single characters, the comparison of letters without
regard to case, and the upper and lower case of whole texts.
-/

namespace CodeGauge.Text


/--
The character that a table puts in the place of another.
-/
def shift (table : Ranges CaseShift) (c : Char) : Char :=
  match table.find? c.toNat with
  | some (lo, step) =>
    if (c.toNat - lo) % step.stride == 0 then
      .ofNat (c.toNat + step.delta).toNat
    else
      c
  | none => c

/--
The lower case of a character as a single character.
-/
def lowerChar (c : Char) : Char :=
  if c.toNat < 128 then
    c.toLower
  else
    shift lowerShifts c

/--
Whether a character is a form of a lower case ASCII character: the character itself, one whose lower
case it is, the long s for an s, or the dotless i for an i.
-/
def isFormOf (letter c : Char) : Bool :=
  lowerChar c == letter || (letter == 's' && c == 'ſ') || (letter == 'i' && c == 'ı')

/--
Whether a character is a form of an ASCII letter.
-/
def isLetterForm (c : Char) : Bool :=
  (lowerChar c).isLower || c == 'ſ' || c == 'ı'

@[simp]
theorem isFormOf_self {letter : Char} (h : lowerChar letter = letter) : isFormOf letter letter := by
  simp [isFormOf, h]

/--
The upper case of a character, which may be several characters.
-/
def upperChars (c : Char) : List Char :=
  if c.toNat < 128 then
    [c.toUpper]
  else
    match upperExpansions.find? c.toNat with
    | some (_, s) => s.toList
    | none => [shift upperShifts c]

/--
A text in upper case.
-/
def upper (s : String) : String :=
  .ofList (s.toList.flatMap upperChars)

/--
Whether the nearest character that is not passed over carries letter case.
-/
def nextToCased (cs : List Char) : Bool :=
  match cs.dropWhile casePassedOver.contains with
  | [] => false
  | c :: _ => casedRanges.contains c

/--
The lower case of characters, where `before` holds those that precede them, the nearest first. A
dotted capital I keeps its dot as a combining mark. A capital sigma is final behind a letter and
before none.
-/
def lowerChars (before : List Char) : List Char → List Char
  | [] => []
  | c :: cs =>
    let rest := lowerChars (c :: before) cs
    if c == 'İ' then
      'i' :: '\u0307' :: rest
    else if c == 'Σ' then
      (if nextToCased before && !nextToCased cs then 'ς' else 'σ') :: rest
    else
      lowerChar c :: rest

/--
A text in lower case.
-/
def lower (s : String) : String :=
  .ofList (lowerChars [] s.toList)

end CodeGauge.Text
