import CodeGauge.Json.Basic
import CodeGauge.Number.Numeral

/-!
This module contains the reading of JSON texts. Beyond the standard, the names of the numbers that
are not finite are read. A whole number may have no more than `maxIntDigits` digits, and there is
only so much room for arrays and objects within one another.
-/

namespace CodeGauge.Json

open Text

variable {τ : Type} [BEq τ] [Wording τ]


/--
What is wrong with a text that is not JSON.
-/
inductive Malformation where
  | value
  | name
  | colon
  | comma
  | extra
  | unterminated
  | control
  | escape
  | unicodeEscape
  | byteOrderMark
  deriving DecidableEq

def Malformation.message : Malformation → String
  | .value => "Expecting value"
  | .name => "Expecting property name enclosed in double quotes"
  | .colon => "Expecting ':' delimiter"
  | .comma => "Expecting ',' delimiter"
  | .extra => "Extra data"
  | .unterminated => "Unterminated string starting at"
  | .control => "Invalid control character at"
  | .escape => "Invalid \\escape"
  | .unicodeEscape => "Invalid \\uXXXX escape"
  | .byteOrderMark => "Unexpected UTF-8 BOM (decode using utf-8-sig)"

/--
What other values may stand in.
-/
inductive Nest where
  | array
  | object
  deriving DecidableEq, Repr

def Nest.name : Nest → String
  | .array => "array"
  | .object => "object"

/--
Why reading stopped: the text is malformed at the start of what is left of it, or it holds a whole
number with too many digits, or an array or object for which there is no room left.
-/
inductive Stop where
  | malformed (what : Malformation) (left : List Char)
  | tooLong (digits : Nat)
  | tooDeep (nest : Nest)

/--
Why a text is not read as JSON. The place of a malformation is given by the text before it.
-/
inductive ReadFault where
  | malformed (what : Malformation) (before : List Char)
  | tooLong (digits : Nat)
  | tooDeep (nest : Nest)

/--
The wording for a whole number with too many digits.
-/
def tooLongMessage (digits : Nat) : String :=
  s!"Exceeds the limit ({maxIntDigits} digits) for integer string conversion: value has {digits} "
    ++ "digits; use sys.set_int_max_str_digits() to increase the limit"

def ReadFault.message : ReadFault → String
  | .malformed what before =>
    let line := before.count '\n' + 1
    let column := (before.reverse.takeWhile (· != '\n')).length + 1
    s!"{what.message}: line {line} column {column} (char {before.length})"
  | .tooLong digits => tooLongMessage digits
  | .tooDeep nest =>
    s!"maximum recursion depth exceeded while decoding a JSON {nest.name} from a unicode string"

/--
How many arrays and objects may stand within one another. A value is read by calls within one
another, of which no more than 1000 are possible, and some of them lead to the reader.
-/
def maxNesting : Nat := 950

/--
The blanks of JSON.
-/
def isBlank (c : Char) : Bool :=
  c == ' ' || c == '\t' || c == '\n' || c == '\r'

/--
A text from its first character on that is no blank.
-/
def skipBlanks (cs : List Char) : List Char :=
  cs.dropWhile isBlank

/--
The character that a letter stands for behind a backslash.
-/
def escaped? : Char → Option Char
  | '"' => some '"'
  | '\\' => some '\\'
  | '/' => some '/'
  | 'b' => some '\x08'
  | 'f' => some '\x0c'
  | 'n' => some '\n'
  | 'r' => some '\r'
  | 't' => some '\t'
  | _ => none

/--
Whether a code unit is the first, or the second, of a surrogate pair.
-/
def isHighSurrogate (n : Nat) : Bool :=
  0xd800 ≤ n && n < 0xdc00

def isLowSurrogate (n : Nat) : Bool :=
  0xdc00 ≤ n && n < 0xe000

/--
The character of a surrogate pair.
-/
def pairChar (high low : Nat) : Char :=
  .ofNat (0x10000 + (high - 0xd800) * 0x400 + (low - 0xdc00))

/--
The code unit of the digits behind `\\u`. At least one more character has to follow them.
-/
def codeUnit? : List Char → Option Nat
  | a :: b :: c :: d :: _ :: _ => hexNumber? [a, b, c, d]
  | _ => none

/--
What an escape stands for, and the number of characters that it takes behind the backslash. Two
escapes in a row can write one character as a surrogate pair.
-/
def escape (opened : List Char) : List Char → Except Stop (CodePoint × Nat)
  | [] => .error (.malformed .unterminated opened)
  | 'u' :: digits =>
    match codeUnit? digits with
    | none => .error (.malformed .unicodeEscape ('u' :: digits))
    | some high =>
      match isHighSurrogate high, digits.drop 4 with
      | true, '\\' :: 'u' :: digits =>
        match codeUnit? digits with
        | some low =>
          .ok (if isLowSurrogate low then (.char (pairChar high low), 11) else (.ofNat high, 5))
        | none =>
          if digits.length < 5 then
            .ok (.ofNat high, 5)
          else
            .error (.malformed .unicodeEscape ('u' :: digits))
      | _, _ => .ok (.ofNat high, 5)
  | c :: rest =>
    match escaped? c with
    | some c => .ok (.char c, 1)
    | none => .error (.malformed .escape ('\\' :: c :: rest))

/--
The text up to the closing quote, and what follows it. `opened` is the rest of the document from the
opening quote on, `found` holds what has been read so far, the last of it first, and `skip` counts
the characters that belong to an escape.
-/
def readText (opened : List Char) (found : Wide) (skip : Nat) :
    List Char → Except Stop (τ × List Char)
  | [] => .error (.malformed .unterminated opened)
  | c :: rest =>
    match skip with
    | skip + 1 => readText opened found skip rest
    | 0 =>
      if c == '"' then
        .ok (Wording.ofPoints found.reverse, rest)
      else if c == '\\' then
        match escape opened rest with
        | .error stop => .error stop
        | .ok (point, width) => readText opened (point :: found) width rest
      else if c.toNat < 0x20 then
        .error (.malformed .control (c :: rest))
      else
        readText opened (.char c :: found) 0 rest

/--
The digits of a whole number, which has no zeros in front, and what follows them.
-/
def wholeDigits? : List Char → Option (List Char × List Char)
  | '0' :: rest => some (['0'], rest)
  | c :: rest =>
    if c.isDigit then
      some (c :: rest.takeWhile Char.isDigit, rest.dropWhile Char.isDigit)
    else
      none
  | [] => none

/--
The number that ASCII digits write.
-/
def numberOf (digits : List Char) : Nat :=
  Numeral.ofDigits (digits.map fun c => c.toNat - '0'.toNat)

/--
The digits behind a point, if there are any, and what follows them.
-/
def fraction : List Char → List Char × List Char
  | '.' :: rest =>
    match rest.takeWhile Char.isDigit with
    | [] => ([], '.' :: rest)
    | digits => (digits, rest.dropWhile Char.isDigit)
  | cs => ([], cs)

/--
The exponent behind an `e`, if it has digits, and what follows it.
-/
def exponent : List Char → Option Int × List Char
  | [] => (none, [])
  | c :: rest =>
    let (negative, cs) := Numeral.sign rest
    match c == 'e' || c == 'E', cs.takeWhile Char.isDigit with
    | true, d :: ds =>
      let n : Int := numberOf (d :: ds)
      (some (if negative then -n else n), cs.dropWhile Char.isDigit)
    | _, _ => (none, c :: rest)

/--
A number without its sign, and what follows it. It is whole unless it has a fraction or an exponent.
-/
def readNumber? (negative : Bool) (cs : List Char) :
    Option (Except Stop (Json τ × List Char)) :=
  (wholeDigits? cs).map fun (whole, rest) =>
    let (places, rest) := fraction rest
    let (power, rest) := exponent rest
    if places.isEmpty && power.isNone then
      if whole.length > maxIntDigits then
        .error (.tooLong whole.length)
      else
        let n : Int := numberOf whole
        .ok (.int (if negative then -n else n), rest)
    else
      let power := power.getD 0 - places.length
      .ok (.float (.ofDecimal negative (numberOf (whole ++ places)) power), rest)

/--
A value that is neither a text nor has parts, and what follows it.
-/
def readScalar (cs : List Char) : Except Stop (Json τ × List Char) :=
  match cs with
  | 'n' :: 'u' :: 'l' :: 'l' :: rest => .ok (.null, rest)
  | 't' :: 'r' :: 'u' :: 'e' :: rest => .ok (.bool true, rest)
  | 'f' :: 'a' :: 'l' :: 's' :: 'e' :: rest => .ok (.bool false, rest)
  | 'N' :: 'a' :: 'N' :: rest => .ok (.float .nan, rest)
  | 'I' :: 'n' :: 'f' :: 'i' :: 'n' :: 'i' :: 't' :: 'y' :: rest =>
    .ok (.float (.infinite false), rest)
  | '-' :: 'I' :: 'n' :: 'f' :: 'i' :: 'n' :: 'i' :: 't' :: 'y' :: rest =>
    .ok (.float (.infinite true), rest)
  | '-' :: rest => (readNumber? true rest).getD (.error (.malformed .value cs))
  | _ => (readNumber? false cs).getD (.error (.malformed .value cs))

mutual

/--
The value at the front of a text, and what follows it. An array or object takes one unit of the
room, and there has to be one for it also if it is empty. Each call takes one unit of fuel, and of
two calls in a row at least one reads a character.
-/
def readValue : Nat → Nat → List Char → Except Stop (Json τ × List Char)
  | _, 0, cs => .error (.malformed .value cs)
  | room, fuel + 1, cs =>
    match cs with
    | '"' :: rest =>
      match readText cs [] 0 rest with
      | .error stop => .error stop
      | .ok (s, rest) => .ok (.str s, rest)
    | '[' :: rest =>
      match room with
      | 0 => .error (.tooDeep .array)
      | room + 1 =>
        match skipBlanks rest with
        | ']' :: rest => .ok (.arr [], rest)
        | rest => readItems room fuel [] rest
    | '{' :: rest =>
      match room with
      | 0 => .error (.tooDeep .object)
      | room + 1 =>
        match skipBlanks rest with
        | '}' :: rest => .ok (.obj [], rest)
        | rest => readFields room fuel [] rest
    | cs => readScalar cs

/--
The items of an array from one of them on, and what follows the array. The room is that of an item,
and `found` holds the items before, the last one first.
-/
def readItems : Nat → Nat → List (Json τ) → List Char → Except Stop (Json τ × List Char)
  | _, 0, _, cs => .error (.malformed .value cs)
  | room, fuel + 1, found, cs =>
    match readValue room fuel cs with
    | .error stop => .error stop
    | .ok (item, rest) =>
      match skipBlanks rest with
      | ']' :: rest => .ok (.arr (item :: found).reverse, rest)
      | ',' :: rest => readItems room fuel (item :: found) (skipBlanks rest)
      | rest => .error (.malformed .comma rest)

/--
The fields of an object from one of them on, and what follows the object. The room is that of the
value of a field, and `found` holds the fields before.
-/
def readFields : Nat → Nat → Fields τ → List Char → Except Stop (Json τ × List Char)
  | _, 0, _, cs => .error (.malformed .name cs)
  | room, fuel + 1, found, cs =>
    match cs with
    | '"' :: rest =>
      match readText cs [] 0 rest with
      | .error stop => .error stop
      | .ok (name, rest) =>
        match skipBlanks rest with
        | ':' :: rest =>
          match readValue room fuel (skipBlanks rest) with
          | .error stop => .error stop
          | .ok (value, rest) =>
            let found := setField name value found
            match skipBlanks rest with
            | '}' :: rest => .ok (.obj found, rest)
            | ',' :: rest => readFields room fuel found (skipBlanks rest)
            | rest => .error (.malformed .comma rest)
        | rest => .error (.malformed .colon rest)
    | cs => .error (.malformed .name cs)

end

/--
The value of a document: one value with nothing but blanks around it.
-/
def readDocument (room : Nat) (cs : List Char) : Except Stop (Json τ) :=
  match readValue room (2 * cs.length + 2) (skipBlanks cs) with
  | .error stop => .error stop
  | .ok (value, rest) =>
    match skipBlanks rest with
    | [] => .ok value
    | rest => .error (.malformed .extra rest)

/--
What is reported where reading a text stopped.
-/
def Stop.fault (cs : List Char) : Stop → ReadFault
  | .malformed what left => .malformed what (cs.take (cs.length - left.length))
  | .tooLong digits => .tooLong digits
  | .tooDeep nest => .tooDeep nest

/--
The value that a text writes, where a byte order mark has no meaning of its own.
-/
def readUnmarked (cs : List Char) (room : Nat := maxNesting) : Except ReadFault (Json τ) :=
  match readDocument room cs with
  | .ok value => .ok value
  | .error stop => .error (stop.fault cs)

/--
The value that a text writes. It must not start with a byte order mark.
-/
def read (cs : List Char) (room : Nat := maxNesting) : Except ReadFault (Json τ) :=
  if cs.head? == some '\uFEFF' then
    .error (.malformed .byteOrderMark [])
  else
    readUnmarked cs room

end CodeGauge.Json
