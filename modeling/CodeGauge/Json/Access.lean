import CodeGauge.Json.Display
import CodeGauge.Json.Equality
import CodeGauge.Json.Reader

/-!
This module contains the use of JSON values whose shape is not known: their fields, items and
numbers, and what goes wrong if a value is of another kind than its use asks for.
-/

namespace CodeGauge.Json


/--
Why a value cannot be used in some way. The kinds are those of the values.
-/
inductive UseFault where
  /-- There is no field of that name, or no field of that number. -/
  | noField (key : Json)
  | noItem (of : String)
  | noLookup (kind : String)
  | noText (kind : String)
  | noParts (kind : String)
  | itemByName (of : String)
  | noNumber (kind : String)
  | notNumeral (text : String)
  | tooLong (digits : Nat)
  | infinite
  | notANumber
  | noItems (kind : String)
  | noKey (kind : String)
  | notJoined (index : Nat) (kind : String)

def UseFault.message : UseFault → String
  | .noField key => key.inner
  | .noItem of => s!"{of} index out of range"
  | .noLookup kind => s!"'{kind}' object has no attribute 'get'"
  | .noText kind => s!"'{kind}' object has no attribute 'strip'"
  | .noParts kind => s!"'{kind}' object is not subscriptable"
  | .itemByName "string" => "string indices must be integers, not 'str'"
  | .itemByName of => s!"{of} indices must be integers or slices, not str"
  | .noNumber kind =>
    s!"int() argument must be a string, a bytes-like object or a real number, not '{kind}'"
  | .notNumeral text => "invalid literal for int() with base 10: " ++ Text.quoted text
  | .tooLong digits => tooLongMessage digits
  | .infinite => "cannot convert float infinity to integer"
  | .notANumber => "cannot convert float NaN to integer"
  | .noItems kind => s!"'{kind}' object is not iterable"
  | .noKey kind => s!"unhashable type: '{kind}'"
  | .notJoined index kind => s!"sequence item {index}: expected str instance, {kind} found"

/--
The field of an object, if it has it.
-/
def lookup (name : String) : Json → Except UseFault (Option Json)
  | .obj fields => .ok (field? fields name)
  | value => .error (.noLookup value.kind)

/--
The field of an object, which has to have it.
-/
def part (name : String) : Json → Except UseFault Json
  | .obj fields =>
    match field? fields name with
    | some value => .ok value
    | none => .error (.noField (.str name))
  | .arr _ => .error (.itemByName "list")
  | .str _ => .error (.itemByName "string")
  | value => .error (.noParts value.kind)

/--
The first item of an array, or the first character of a text.
-/
def first : Json → Except UseFault Json
  | .arr [] => .error (.noItem "list")
  | .arr (item :: _) => .ok item
  | .str s =>
    match s.toList with
    | c :: _ => .ok (.str c.toString)
    | [] => .error (.noItem "string")
  | .obj _ => .error (.noField (.int 0))
  | value => .error (.noParts value.kind)

/--
What a value yields one by one.
-/
def items (value : Json) : Except UseFault (List Json) :=
  match value.items? with
  | some items => .ok items
  | none => .error (.noItems value.kind)

/--
The key of a value, which has to be a scalar.
-/
def key (value : Json) : Except UseFault Key :=
  match value.key? with
  | some key => .ok key
  | none => .error (.noKey value.kind)

/--
A text without blanks around it.
-/
def trimmed : Json → Except UseFault String
  | .str s => .ok (Text.trim s)
  | value => .error (.noText value.kind)

/--
The whole number in a value: a number without its fraction, a truth value, or a numeral.
-/
def whole : Json → Except UseFault Int
  | .int i => .ok i
  | .bool b => .ok (if b then 1 else 0)
  | .float .nan => .error .notANumber
  | .float x =>
    match x.truncate? with
    | some i => .ok i
    | none => .error .infinite
  | .str s =>
    match Numeral.int s with
    | .ok i => .ok i
    | .error .malformed => .error (.notNumeral s)
    | .error (.tooLong digits) => .error (.tooLong digits)
  | value => .error (.noNumber value.kind)

/--
Texts in a row with a blank between two of them.
-/
def joined (values : List Json) : Except UseFault String :=
  (go 0 values).map (" ".intercalate ·)
where
  go (index : Nat) : List Json → Except UseFault (List String)
    | [] => .ok []
    | .str s :: values => (go (index + 1) values).map (s :: ·)
    | value :: _ => .error (.notJoined index value.kind)

end CodeGauge.Json
