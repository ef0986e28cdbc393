import CodeGauge.Json.Basic
import CodeGauge.Number.Numeral

/-!
This module contains the checks of single fields: how texts and JSON values are taken for whole
numbers, decimal numbers and truth values, and what can be wrong with them.
-/

namespace CodeGauge


/--
What is wrong with a field.
-/
inductive Fault where
  | missing
  | notObject
  | notText
  | brokenText
  | textTooLong
  | blankText
  | notGrowth
  | notChoice
  | notInt
  | intNumeral
  | intTooLong
  | intFraction
  | intNotFinite
  | tooSmall
  | tooLarge
  | notBool
  | boolWord
  | notFloat
  | floatNumeral
  deriving DecidableEq

def Fault.code : Fault → String
  | .missing => "missing"
  | .notObject => "model_type"
  | .notText => "string_type"
  | .brokenText => "string_unicode"
  | .textTooLong => "string_too_long"
  | .blankText => "value_error"
  | .notGrowth => "enum"
  | .notChoice => "literal_error"
  | .notInt => "int_type"
  | .intNumeral => "int_parsing"
  | .intTooLong => "int_parsing_size"
  | .intFraction => "int_from_float"
  | .intNotFinite => "finite_number"
  | .tooSmall => "greater_than_equal"
  | .tooLarge => "less_than_equal"
  | .notBool => "bool_type"
  | .boolWord => "bool_parsing"
  | .notFloat => "float_type"
  | .floatNumeral => "float_parsing"

/--
A fault and the name of the field that has it. The name is empty if the whole is at fault.
-/
structure FieldFault where
  field : String
  fault : Fault
  deriving DecidableEq

/--
The wording for a list of faults.
-/
def FieldFault.message (faults : List FieldFault) : String :=
  "; ".intercalate (faults.map fun f => f.field ++ ":" ++ f.fault.code)

/--
The outcome of a check of fields: a value, or the faults of all fields that have one.
-/
inductive Checked (α : Type) where
  | ok (a : α)
  | faulty (faults : List FieldFault)

namespace Checked

/--
The outcome of the check of one field.
-/
def ofField {α : Type} (field : String) : Except Fault α → Checked α
  | .ok a => .ok a
  | .error fault => .faulty [⟨field, fault⟩]

/--
The faults of an outcome.
-/
def faults {α : Type} : Checked α → List FieldFault
  | .ok _ => []
  | .faulty faults => faults

/--
The value of a function at an argument, or the faults of both in order.
-/
def seq {α β : Type} (f : Checked (α → β)) (a : Unit → Checked α) : Checked β :=
  match f, a () with
  | .ok f, .ok a => .ok (f a)
  | f, a => .faulty (f.faults ++ a.faults)

instance : Applicative Checked where
  pure := .ok
  seq := seq

def toExcept {α : Type} : Checked α → Except (List FieldFault) α
  | .ok a => .ok a
  | .faulty faults => .error faults

theorem ofField_eq_ok_iff {α : Type} {field : String} {x : Except Fault α} {a : α} :
    ofField field x = .ok a ↔ x = .ok a := by
  cases x <;> simp [ofField]

theorem map_eq_ok_iff {α β : Type} {f : α → β} {a : Checked α} {b : β} :
    f <$> a = .ok b ↔ ∃ x, a = .ok x ∧ f x = b := by
  cases a <;> simp [Functor.map, seq]

theorem seq_eq_ok_iff {α β : Type} {f : Checked (α → β)} {a : Checked α} {b : β} :
    f <*> a = .ok b ↔ ∃ g x, f = .ok g ∧ a = .ok x ∧ g x = b := by
  cases f <;> cases a <;> simp [Seq.seq, seq]

theorem faults_map {α β : Type} (f : α → β) (a : Checked α) : (f <$> a).faults = a.faults := by
  cases a <;> rfl

theorem faults_seq {α β : Type} (f : Checked (α → β)) (a : Checked α) :
    (f <*> a).faults = f.faults ++ a.faults := by
  cases f <;> cases a <;> rfl

theorem any_faults_ofField {α : Type} {field : String} {x : Except Fault α} {fault : Fault} :
    (ofField field x).faults.any (·.fault == fault) ↔ x = .error fault := by
  cases x <;> simp [ofField, faults]

end Checked

namespace Field

open Text

variable {τ : Type} [BEq τ] [Wording τ]


/--
A whole number without blanks, plus sign or zeros in front. Its minus sign counts for its length,
and it is too long whatever follows its digits.
-/
def plainInt (cs : List Char) : Except Fault Int :=
  let (negative, digits) :=
    match cs with
    | '-' :: digits => (true, digits)
    | digits => (false, digits)
  let width := (digits.takeWhile Char.isDigit).length + (if negative then 1 else 0)
  if digits.head? != some '0' && width > maxIntDigits then
    .error .intTooLong
  else
    match Numeral.asciiDigits? digits with
    | none => .error .intNumeral
    | some ds =>
      if ds.length > 1 && ds.head? == some 0 then
        .error .intNumeral
      else
        let n : Int := Numeral.ofDigits ds
        .ok (if negative then -n else n)

/--
A numeral from the first character on that is neither a zero nor an underscore: a digit, or a minus
sign. A zero stays in front of a point or if there is nothing else. `last` is the character before.
-/
def dropZeros? (last : Char) : List Char → Option (List Char)
  | [] => some [last]
  | c :: cs =>
    if c == '0' || c == '_' then
      dropZeros? c cs
    else if c.isDigit || c == '-' then
      some (c :: cs)
    else if c == '.' then
      some (last :: c :: cs)
    else
      none

/--
A numeral without zeros in front, which has to start with a digit.
-/
def dropLeadingZeros? : List Char → Option (List Char)
  | '0' :: cs => dropZeros? '0' cs
  | c :: cs => if c.isDigit then some (c :: cs) else none
  | [] => none

/--
A numeral without a fraction of nothing but zeros.
-/
def dropZeroFraction (cs : List Char) : List Char :=
  let places := (cs.dropWhile (· != '.')).drop 1
  if !places.isEmpty && places.all (· == '0') then cs.takeWhile (· != '.') else cs

/--
The characters without underscores. These stay if one of them stands at an end or beside another.
-/
def dropUnderscores (cs : List Char) : List Char :=
  let doubled := (cs.zip (cs.drop 1)).any fun (a, b) => a == '_' && b == '_'
  if cs.head? == some '_' || cs.getLast? == some '_' || doubled then
    cs
  else
    cs.filter (· != '_')

/--
The plain form of a numeral without sign that has zeros in front, underscores, or a fraction of
zeros.
-/
def tidyDigits? (cs : List Char) : Option (List Char) :=
  (dropLeadingZeros? cs).map fun cs => dropUnderscores (dropZeroFraction cs)

/--
The plain form of a numeral with blanks around it and a sign.
-/
def tidy? (cs : List Char) : Option (List Char) :=
  match strip isSpace cs with
  | '+' :: cs => tidyDigits? cs
  | '-' :: cs => (tidyDigits? cs).map ('-' :: ·)
  | cs => tidyDigits? cs

/--
The whole number that a text stands for.
-/
def intOfText (s : String) : Except Fault Int :=
  match plainInt s.toList with
  | .error .intNumeral =>
    match tidy? s.toList with
    | some cs => plainInt cs
    | none => .error .intNumeral
  | result => result

/--
The decimal number that a text stands for.
-/
def floatOfText (s : String) : Except Fault Binary64 :=
  match Numeral.decimal? (strip isSpace s.toList) with
  | some x => .ok x
  | none =>
    match Numeral.decimal? (strip isSpace (dropUnderscores s.toList)) with
    | some x => .ok x
    | none => .error .floatNumeral

/--
The words for true and for false.
-/
def trueWords : List String := ["1", "on", "t", "true", "y", "yes"]

def falseWords : List String := ["0", "off", "f", "false", "n", "no"]

/--
The truth value that a text stands for, in any letter case.
-/
def boolOfText (s : String) : Except Fault Bool :=
  let word := String.ofList (s.toList.map Char.toLower)
  if trueWords.contains word then .ok true
  else if falseWords.contains word then .ok false
  else .error .boolWord

/--
Whether a whole number fits into 64 bits with sign.
-/
def isWord64 (i : Int) : Bool :=
  Int64.minValue.toInt ≤ i && i ≤ Int64.maxValue.toInt

/--
The whole number that a decimal number is.
-/
def intOfFloat (x : Binary64) : Except Fault Int :=
  match x with
  | .finite .. =>
    match x.toInt? with
    | none => .error .intFraction
    | some i => if isWord64 i && i != Int64.minValue.toInt then .ok i else .error .intTooLong
  | _ => .error .intNotFinite

/--
The whole number that a value stands for.
-/
def int : Json τ → Except Fault Int
  | .int i => .ok i
  | .bool b => .ok (if b then 1 else 0)
  | .float x => intOfFloat x
  | .str s =>
    match Wording.whole? s with
    | some s => intOfText s
    | none => .error .brokenText
  | _ => .error .notInt

/--
The truth value of the numbers zero and one.
-/
def boolOfInt (i : Int) : Except Fault Bool :=
  if i == 0 then .ok false
  else if i == 1 then .ok true
  else .error .boolWord

/--
The truth value that a value stands for.
-/
def bool : Json → Except Fault Bool
  | .bool b => .ok b
  | .str s => boolOfText s
  | .int i => if isWord64 i then boolOfInt i else .error .notBool
  | .float x =>
    match intOfFloat x with
    | .ok i => boolOfInt i
    | .error _ => .error .notBool
  | _ => .error .notBool

/--
The decimal number that a value stands for.
-/
def float : Json → Except Fault Binary64
  | .float x => .ok x
  | .int i => .ok (.ofInt i)
  | .bool b => .ok (.ofInt (if b then 1 else 0))
  | .str s => floatOfText s
  | _ => .error .notFloat

/--
The text that a value is.
-/
def text : Json τ → Except Fault τ
  | .str s => .ok s
  | _ => .error .notText

/--
The string that a value is. A surrogate must not stand alone in it.
-/
def string : Json τ → Except Fault String
  | .str s =>
    match Wording.whole? s with
    | some s => .ok s
    | none => .error .brokenText
  | _ => .error .notText

/--
A whole number with a least and a largest value.
-/
def intWithin (least : Int) (most : Option Int) (v : Json τ) : Except Fault Int :=
  match int v with
  | .error fault => .error fault
  | .ok i =>
    if i < least then .error .tooSmall
    else if most.any (· < i) then .error .tooLarge
    else .ok i

/--
A field that has to be there.
-/
def required {α : Type} (fields : Json.Fields τ) (name : String)
    (check : Json τ → Except Fault α) : Checked α :=
  .ofField name (match Json.field? fields (Wording.ofString name) with
    | some v => check v
    | none => .error .missing)

/--
A field with a default.
-/
def optional {α : Type} (fields : Json.Fields τ) (name : String) (default : α)
    (check : Json τ → Except Fault α) : Checked α :=
  .ofField name (match Json.field? fields (Wording.ofString name) with
    | some v => check v
    | none => .ok default)

end Field
end CodeGauge
