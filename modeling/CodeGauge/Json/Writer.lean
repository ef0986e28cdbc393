import CodeGauge.Json.Basic
import CodeGauge.Number.Notation
import CodeGauge.Number.Numeral
import CodeGauge.Text.Digit

/-!
This module contains the writing of JSON texts: on one line, with or without blanks behind the
delimiters, and indented. Not every value can be written.
-/

namespace CodeGauge.Json

open Text

variable {τ : Type} [Wording τ]


/--
The choices that a JSON text leaves open.
-/
structure Form where
  comma : String
  colon : String
  /-- Whether everything outside printable ASCII is escaped. -/
  ascii : Bool

/--
One blank behind each delimiter and everything in ASCII.
-/
def Form.spaced : Form := ⟨", ", ": ", true⟩

/--
No blanks, and only what has to be escaped is.
-/
def Form.compact : Form := ⟨",", ":", false⟩

/--
The escape of a code unit.
-/
def unitEscape (n : Nat) : List Char :=
  '\\' :: 'u' :: hexDigits 4 n

/--
The escape of a character outside ASCII, as a surrogate pair if it needs one.
-/
def wideEscape (c : Char) : List Char :=
  let n := c.toNat
  if n < 0x10000 then
    unitEscape n
  else
    unitEscape (0xd800 + (n - 0x10000) / 0x400) ++ unitEscape (0xdc00 + (n - 0x10000) % 0x400)

/--
The written form of a character inside quotes.
-/
def escapeChar (ascii : Bool) (c : Char) : List Char :=
  match c with
  | '"' => ['\\', '"']
  | '\\' => ['\\', '\\']
  | '\n' => ['\\', 'n']
  | '\r' => ['\\', 'r']
  | '\t' => ['\\', 't']
  | '\x08' => ['\\', 'b']
  | '\x0c' => ['\\', 'f']
  | c => if c.toNat < 0x20 || (ascii && 0x7f ≤ c.toNat) then wideEscape c else [c]

/--
The written form of a code point inside quotes. A surrogate is escaped in any case.
-/
def escapePoint (ascii : Bool) : CodePoint → List Char
  | .char c => escapeChar ascii c
  | .surrogate place => unitEscape (0xd800 + place)

/--
A text in quotes.
-/
def quote (ascii : Bool) (s : τ) : String :=
  .ofList ('"' :: (Wording.points s).flatMap (escapePoint ascii) ++ ['"'])

/--
A value without parts.
-/
def writeScalar (ascii : Bool) : Json τ → String
  | .null => "null"
  | .bool true => "true"
  | .bool false => "false"
  | .int i => toString i
  | .float x => NumberForm.json.write x
  | .str s => quote ascii s
  | .arr _ => "[]"
  | .obj _ => "\x7b\x7d"

mutual

/--
A value on one line.
-/
def write (form : Form) : Json τ → String
  | .arr items => "[" ++ writeItems form items ++ "]"
  | .obj fields => "\x7b" ++ writeFields form fields ++ "\x7d"
  | value => writeScalar form.ascii value

def writeItems (form : Form) : List (Json τ) → String
  | [] => ""
  | [item] => write form item
  | item :: items => write form item ++ form.comma ++ writeItems form items

def writeFields (form : Form) : Fields τ → String
  | [] => ""
  | [(name, value)] => quote form.ascii name ++ form.colon ++ write form value
  | (name, value) :: fields =>
    quote form.ascii name ++ form.colon ++ write form value ++ form.comma ++ writeFields form fields

end

/--
A value on one line, with a blank behind each delimiter and in ASCII.
-/
def text (value : Json τ) : String :=
  write .spaced value

/--
Why a value is not written: it holds a whole number with too many digits, or an array or object for
which there is no room left.
-/
inductive WriteFault where
  | tooLong
  | tooDeep
  deriving DecidableEq, Repr

def WriteFault.message : WriteFault → String
  | .tooLong =>
    s!"Exceeds the limit ({maxIntDigits} digits) for integer string conversion; "
      ++ "use sys.set_int_max_str_digits() to increase the limit"
  | .tooDeep => "maximum recursion depth exceeded while encoding a JSON object"

mutual

/--
What keeps a value from being written where there is some room for arrays and objects within one
another, if anything does. An array or object takes one unit of the room also if it is empty.
-/
def writeFault? (room : Nat) : Json τ → Option WriteFault
  | .int i => if maxIntDigits < (Nat.toDigits 10 i.natAbs).length then some .tooLong else none
  | .arr items =>
    match room with
    | 0 => some .tooDeep
    | room + 1 => itemsFault? room items
  | .obj fields =>
    match room with
    | 0 => some .tooDeep
    | room + 1 => fieldsFault? room fields
  | _ => none

def itemsFault? (room : Nat) : List (Json τ) → Option WriteFault
  | [] => none
  | item :: items => (writeFault? room item).or (itemsFault? room items)

def fieldsFault? (room : Nat) : Fields τ → Option WriteFault
  | [] => none
  | (_, value) :: fields => (writeFault? room value).or (fieldsFault? room fields)

end

mutual

/--
A value with each part on a line of its own. `margin` is a line feed and the blanks that the lines
of the value start with, and each level takes two blanks more.
-/
def indent (margin : String) : Json τ → String
  | .arr [] => "[]"
  | .arr (item :: items) =>
    let inner := margin ++ "  "
    "[" ++ inner ++ indent inner item ++ indentItems inner items ++ margin ++ "]"
  | .obj [] => "\x7b\x7d"
  | .obj ((name, value) :: fields) =>
    let inner := margin ++ "  "
    "\x7b" ++ inner ++ quote true name ++ ": " ++ indent inner value ++ indentFields inner fields
      ++ margin ++ "\x7d"
  | value => writeScalar true value

def indentItems (inner : String) : List (Json τ) → String
  | [] => ""
  | item :: items => "," ++ inner ++ indent inner item ++ indentItems inner items

def indentFields (inner : String) : Fields τ → String
  | [] => ""
  | (name, value) :: fields =>
    "," ++ inner ++ quote true name ++ ": " ++ indent inner value ++ indentFields inner fields

end

/--
A value on several lines.
-/
def pretty (value : Json τ) : String :=
  indent "\n" value

end CodeGauge.Json
