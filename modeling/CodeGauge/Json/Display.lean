import CodeGauge.Json.Basic
import CodeGauge.Number.Notation
import CodeGauge.Text.Printable
import CodeGauge.Text.Digit

/-!
This module contains the text of values for people. A text shows as it is, and inside of other
values it shows in quotes.
-/

namespace CodeGauge

namespace Text

/--
The quote for a text: the single one, unless only that one is in the text.
-/
def quoteMark (cs : List Char) : Char :=
  if cs.contains '\'' && !cs.contains '"' then '"' else '\''

/--
A character in quotes, where the rest is escaped by its number.
-/
def quotedChar (shown : Char → Bool) (mark c : Char) : List Char :=
  if c == mark || c == '\\' then ['\\', c]
  else if c == '\n' then ['\\', 'n']
  else if c == '\r' then ['\\', 'r']
  else if c == '\t' then ['\\', 't']
  else if shown c then [c]
  else if c.toNat < 0x100 then '\\' :: 'x' :: hexDigits 2 c.toNat
  else if c.toNat < 0x10000 then '\\' :: 'u' :: hexDigits 4 c.toNat
  else '\\' :: 'U' :: hexDigits 8 c.toNat

/--
Characters in quotes, where those that are not to be shown are escaped.
-/
def quotedBy (shown : Char → Bool) (cs : List Char) : List Char :=
  let mark := quoteMark cs
  mark :: cs.flatMap (quotedChar shown mark) ++ [mark]

/--
A text in quotes.
-/
def quoted (s : String) : String :=
  .ofList (quotedBy isPrintable s.toList)

/--
Bytes in quotes, as characters of ASCII where they are printable ones.
-/
def quotedBytes (bytes : List UInt8) : String :=
  let shown (c : Char) : Bool := 32 ≤ c.toNat && c.toNat < 127
  .ofList ('b' :: quotedBy shown (bytes.map fun b => .ofNat b.toNat))

end Text

namespace Json

mutual

/--
A value as it shows inside of another one.
-/
def inner : Json → String
  | .null => "None"
  | .bool true => "True"
  | .bool false => "False"
  | .int i => toString i
  | .float x => NumberForm.plain.write x
  | .str s => Text.quoted s
  | .arr items => "[" ++ innerItems items ++ "]"
  | .obj fields => "\x7b" ++ innerFields fields ++ "\x7d"

def innerItems : List Json → String
  | [] => ""
  | [item] => inner item
  | item :: items => inner item ++ ", " ++ innerItems items

def innerFields : Fields → String
  | [] => ""
  | [(name, value)] => Text.quoted name ++ ": " ++ inner value
  | (name, value) :: fields => Text.quoted name ++ ": " ++ inner value ++ ", " ++ innerFields fields

end

/--
A value as it shows by itself.
-/
def display : Json → String
  | .str s => s
  | value => value.inner

/--
The name of the kind of a value, as messages give it.
-/
def kind : Json → String
  | .null => "NoneType"
  | .bool _ => "bool"
  | .int _ => "int"
  | .float _ => "float"
  | .str _ => "str"
  | .arr _ => "list"
  | .obj _ => "dict"

end Json
end CodeGauge
