import CodeGauge.Text.Blank
import CodeGauge.Text.Case
import CodeGauge.Text.Encoding

/-!
This module contains the encodings that a message names for its text, and the text that bytes have
in them. Malformed bytes become replacement characters, but some of the names do not stand for an
encoding that gives a text at all.
-/

namespace CodeGauge.Text


/--
What a name for an encoding stands for. The byte order of units with several bytes is part of the
name, or it shows in a byte order mark. Encodings with a table of their own are left out, and their
names are unknown.
-/
inductive Charset where
  | utf8
  /-- UTF-8 where a byte order mark in front is no part of the text. -/
  | utf8Marked
  | ascii
  | latin1
  | utf16 (little : Option Bool)
  | utf32 (little : Option Bool)
  /-- Compression and the like, from bytes to bytes. -/
  | ofBytes
  /-- A cipher, from text to text. -/
  | ofText
  /-- The encoding of host names, which does not replace what is malformed. -/
  | hostName
  /-- The name of an encoding that never decodes anything. -/
  | undefined
  deriving DecidableEq, Repr

/--
Why bytes have no text in an encoding.
-/
inductive CharsetFault where
  /-- There is no byte order mark, where the units have this many bits. -/
  | unmarked (bits : Nat)
  | ofBytes
  | ofText
  | noReplacement
  | undefined
  deriving DecidableEq, Repr

def CharsetFault.message : CharsetFault → String
  | .unmarked bits => s!"UTF-{bits} stream does not start with BOM"
  | .ofBytes => ""
  | .ofText => "descriptor 'translate' for 'str' objects doesn't apply to a 'bytes' object"
  | .noReplacement => "Unsupported error handling replace"
  | .undefined => "undefined encoding"

namespace Charset

/--
A name where whatever is neither a letter nor a digit nor a point stands for one underscore, and for
nothing at the ends.
-/
def normalName (name : String) : String :=
  let cs := name.toList.map fun c => if c.isAlphanum || c == '.' then c else '_'
  "_".intercalate (((cs.splitOn '_').filter (!·.isEmpty)).map .ofList)

/--
The names of the encodings.
-/
def names : List (Charset × List String) :=
  [
    (.utf8, ["utf_8", "u8", "utf", "utf8", "utf8_ucs2", "utf8_ucs4", "cp65001"]),
    (.utf8Marked, ["utf_8_sig"]),
    (.ascii, [
      "ascii", "646", "ansi_x3.4_1968", "ansi_x3_4_1968", "ansi_x3.4_1986", "cp367", "csascii",
      "ibm367", "iso646_us", "iso_646.irv_1991", "iso_ir_6", "us", "us_ascii"]),
    (.latin1, [
      "latin_1", "8859", "cp819", "csisolatin1", "ibm819", "iso8859", "iso8859_1", "iso_8859_1",
      "iso_8859_1_1987", "iso_ir_100", "l1", "latin", "latin1"]),
    (.utf16 none, ["utf_16", "u16", "utf16"]),
    (.utf16 (some true), ["utf_16_le", "unicodelittleunmarked", "utf_16le"]),
    (.utf16 (some false), ["utf_16_be", "unicodebigunmarked", "utf_16be"]),
    (.utf32 none, ["utf_32", "u32", "utf32"]),
    (.utf32 (some true), ["utf_32_le", "utf_32le"]),
    (.utf32 (some false), ["utf_32_be", "utf_32be"]),
    (.ofBytes, [
      "base64_codec", "base64", "base_64", "bz2_codec", "bz2", "hex_codec", "hex", "quopri_codec",
      "quopri", "quoted_printable", "quotedprintable", "uu_codec", "uu", "zlib_codec", "zip",
      "zlib"]),
    (.ofText, ["rot_13", "rot13"]),
    (.hostName, ["idna"]),
    (.undefined, ["undefined"])]

/--
The encoding with a name, in any letter case.
-/
def ofName? (name : String) : Option Charset :=
  let name := normalName (lower name)
  (names.find? fun (_, names) => names.contains name).map (·.1)

/--
A text without the double quotes around it, if it has them.
-/
def unquoted (cs : List Char) : List Char :=
  match cs with
  | '"' :: rest => if rest.getLast? == some '"' then rest.dropLast else cs
  | _ => cs

/--
The name for an encoding in a content type: the first of its parameters that is called `charset`.
-/
def nameIn? (contentType : String) : Option String :=
  (contentType.toList.splitOn ';').findSome? fun parameter =>
    let name := parameter.takeWhile (· != '=')
    match parameter.dropWhile (· != '=') with
    | _ :: value =>
      if lower (.ofList (strip isBlank name)) == "charset" then
        some (.ofList (unquoted (strip isBlank value)))
      else
        none
    | [] => none

/--
The encoding that a content type names, or else UTF-8, as also for a name that is unknown.
-/
def ofContentType (contentType : Option String) : Charset :=
  ((contentType.bind nameIn?).bind ofName?).getD .utf8

/--
What is at the front of some bytes in UTF-16, where a surrogate at the end takes all that is left.
-/
def utf16End (little : Bool) (first : UInt8) (rest : List UInt8) : Piece :=
  match first :: rest with
  | [a, b, c] =>
    if 0xd800 ≤ wordOf little [a, b] ∧ wordOf little [a, b] < 0xdc00 then
      .malformed [a, b, c] .truncated
    else
      utf16Piece little first rest
  | _ => utf16Piece little first rest

/--
The text of bytes in UTF-16, or in UTF-32, in a byte order.
-/
def decode16 (little : Bool) (bytes : List UInt8) : List Char :=
  lossy (piecesOf (utf16End little) bytes)

def decode32 (little : Bool) (bytes : List UInt8) : List Char :=
  lossy (piecesOf (utf32Piece little) bytes)

/--
The text of bytes in an encoding. If there has to be a byte order mark, only a part of a unit can do
without.
-/
def decode (charset : Charset) (bytes : List UInt8) : Except CharsetFault (List Char) :=
  match charset with
  | .utf8 => .ok (Utf8.decodeLossy bytes)
  | .utf8Marked =>
    if utf8Mark.isPrefixOf bytes then
      .ok (Utf8.decodeLossy (bytes.drop 3))
    else
      .ok (if bytes.isPrefixOf utf8Mark then [] else Utf8.decodeLossy bytes)
  | .ascii => .ok (bytes.map fun b => if b < 0x80 then .ofNat b.toNat else '\uFFFD')
  | .latin1 => .ok (bytes.map fun b => .ofNat b.toNat)
  | .utf16 (some little) => .ok (decode16 little bytes)
  | .utf16 none =>
    match bytes with
    | 0xff :: 0xfe :: rest => .ok (decode16 true rest)
    | 0xfe :: 0xff :: rest => .ok (decode16 false rest)
    | bytes => if bytes.length < 2 then .ok (decode16 true bytes) else .error (.unmarked 16)
  | .utf32 (some little) => .ok (decode32 little bytes)
  | .utf32 none =>
    match bytes with
    | 0xff :: 0xfe :: 0 :: 0 :: rest => .ok (decode32 true rest)
    | 0 :: 0 :: 0xfe :: 0xff :: rest => .ok (decode32 false rest)
    | bytes => if bytes.length < 4 then .ok (decode32 true bytes) else .error (.unmarked 32)
  | .ofBytes => .error .ofBytes
  | .ofText => .error .ofText
  | .hostName => .error .noReplacement
  | .undefined => .error .undefined

end Charset
end CodeGauge.Text
