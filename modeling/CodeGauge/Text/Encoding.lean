import CodeGauge.Text.Digit

/-!
This module contains the encodings of text as bytes: UTF-8, strictly and with replacement of what is
malformed, the recognition of UTF-16 and UTF-32 by their first bytes, and ASCII.
-/

namespace CodeGauge.Text


/--
What is wrong with a sequence of bytes.
-/
inductive Malformation where
  | startByte
  | continuationByte
  | endOfData
  | codePoint
  | truncated
  deriving DecidableEq

def Malformation.message : Malformation → String
  | .startByte => "invalid start byte"
  | .continuationByte => "invalid continuation byte"
  | .endOfData => "unexpected end of data"
  | .codePoint => "code point not in range(0x110000)"
  | .truncated => "truncated data"

/--
The first malformed bytes of an encoded text: where they start, and which they are.
-/
structure DecodeFault where
  encoding : String
  start : Nat
  bytes : List UInt8
  reason : Malformation

def DecodeFault.message (fault : DecodeFault) : String :=
  let place :=
    match fault.bytes with
    | [b] => s!"byte 0x{String.ofList (hexDigits 2 b.toNat)} in position {fault.start}"
    | bs => s!"bytes in position {fault.start}-{fault.start + bs.length - 1}"
  s!"'{fault.encoding}' codec can't decode {place}: {fault.reason.message}"

/--
What a decoder finds at the front of some bytes: a character, or malformed bytes, and what follows.
-/
inductive Piece where
  | char (c : Char) (width : Nat)
  | malformed (bytes : List UInt8) (reason : Malformation)

def Piece.width : Piece → Nat
  | .char _ width => width
  | .malformed bytes _ => bytes.length

namespace Utf8

/--
What a first byte calls for: its own bits, how many bytes extend it, and the range of the second.
-/
def lead? (b : Nat) : Option (Nat × Nat × Nat × Nat) :=
  if b < 0x80 then some (b, 0, 0x80, 0xbf)
  else if b < 0xc2 then none
  else if b < 0xe0 then some (b - 0xc0, 1, 0x80, 0xbf)
  else if b == 0xe0 then some (0, 2, 0xa0, 0xbf)
  else if b == 0xed then some (0xd, 2, 0x80, 0x9f)
  else if b < 0xf0 then some (b - 0xe0, 2, 0x80, 0xbf)
  else if b == 0xf0 then some (0, 3, 0x90, 0xbf)
  else if b < 0xf4 then some (b - 0xf0, 3, 0x80, 0xbf)
  else if b == 0xf4 then some (4, 3, 0x80, 0x8f)
  else none

/--
The character or the malformed bytes at the front of some bytes. Bytes are malformed up to the one
that cannot extend them.
-/
def piece (first : UInt8) (rest : List UInt8) : Piece :=
  match lead? first.toNat with
  | none => .malformed [first] .startByte
  | some (bits, count, lo, hi) => extend count bits lo hi [first] rest
where
  /-- `taken` holds the bytes so far, the last one first. -/
  extend (count bits lo hi : Nat) (taken rest : List UInt8) : Piece :=
    match count, rest with
    | 0, _ => .char (.ofNat bits) taken.length
    | _ + 1, [] => .malformed taken.reverse .endOfData
    | count + 1, b :: rest =>
      if lo ≤ b.toNat ∧ b.toNat ≤ hi then
        extend count (64 * bits + (b.toNat - 0x80)) 0x80 0xbf (b :: taken) rest
      else
        .malformed taken.reverse .continuationByte

end Utf8

/--
The pieces that a decoder finds in some bytes. `skip` counts the bytes that belong to the piece
before.
-/
def piecesOf (piece : UInt8 → List UInt8 → Piece) (bytes : List UInt8) : List Piece :=
  go bytes 0 []
where
  go : List UInt8 → Nat → List Piece → List Piece
    | [], _, found => found.reverse
    | _ :: rest, skip + 1, found => go rest skip found
    | b :: rest, 0, found => let found := piece b rest :: found
      go rest ((piece b rest).width - 1) found

/--
The text that some pieces write, or the first malformed one. `start` is the number of bytes before
the first piece.
-/
def strict (encoding : String) (start : Nat) (pieces : List Piece) :
    Except DecodeFault (List Char) :=
  go start [] pieces
where
  go (start : Nat) (found : List Char) : List Piece → Except DecodeFault (List Char)
    | [] => .ok found.reverse
    | .char c width :: pieces => go (start + width) (c :: found) pieces
    | .malformed bytes reason :: _ => .error ⟨encoding, start, bytes, reason⟩

/--
The text that some pieces write, with one replacement character for each malformed one.
-/
def lossy (pieces : List Piece) : List Char :=
  pieces.map fun
    | .char c _ => c
    | .malformed .. => '\uFFFD'

namespace Utf8

/--
The text that some bytes encode, or where they are malformed.
-/
def decode (bytes : List UInt8) : Except DecodeFault (List Char) :=
  strict "utf-8" 0 (piecesOf piece bytes)

/--
The text that some bytes encode, with one replacement character for each malformed sequence.
-/
def decodeLossy (bytes : List UInt8) : List Char :=
  lossy (piecesOf piece bytes)

def encode (s : String) : List UInt8 :=
  s.toUTF8.toList

end Utf8

/--
The number that bytes write, the most significant first unless `little`.
-/
def wordOf (little : Bool) (bytes : List UInt8) : Nat :=
  (if little then bytes.reverse else bytes).foldl (fun n b => 256 * n + b.toNat) 0

/--
The character at the front of some bytes in UTF-8, where a surrogate becomes the replacement
character.
-/
def utf8Piece (first : UInt8) (rest : List UInt8) : Piece :=
  match first, rest with
  | 0xed, b :: c :: _ =>
    if 0xa0 ≤ b ∧ b ≤ 0xbf ∧ 0x80 ≤ c ∧ c ≤ 0xbf then
      .char '\uFFFD' 3
    else
      Utf8.piece first rest
  | _, _ => Utf8.piece first rest

/--
The character at the front of some bytes in UTF-16, where a surrogate without partner becomes the
replacement character.
-/
def utf16Piece (little : Bool) (first : UInt8) (rest : List UInt8) : Piece :=
  match first :: rest with
  | a :: b :: rest =>
    let high := wordOf little [a, b]
    let low? :=
      match rest with
      | c :: d :: _ => some (wordOf little [c, d])
      | _ => none
    if high < 0xd800 ∨ 0xe000 ≤ high then
      .char (.ofNat high) 2
    else
      match decide (high < 0xdc00), low? with
      | true, some low =>
        if 0xdc00 ≤ low ∧ low < 0xe000 then
          .char (.ofNat (0x10000 + (high - 0xd800) * 0x400 + (low - 0xdc00))) 4
        else
          .char '\uFFFD' 2
      | _, _ => .char '\uFFFD' 2
  | bytes => .malformed bytes .truncated

/--
The character at the front of some bytes in UTF-32, where a surrogate becomes the replacement
character.
-/
def utf32Piece (little : Bool) (first : UInt8) (rest : List UInt8) : Piece :=
  match first :: rest with
  | a :: b :: c :: d :: _ =>
    let n := wordOf little [a, b, c, d]
    if n.isValidChar then .char (.ofNat n) 4
    else if n < 0x110000 then .char '\uFFFD' 4
    else .malformed [a, b, c, d] .codePoint
  | bytes => .malformed bytes .truncated

/--
The byte order mark of UTF-8.
-/
def utf8Mark : List UInt8 := [0xef, 0xbb, 0xbf]

/--
The text of a document whose encoding shows in its first bytes: by a byte order mark, by the zeros
that UTF-16 and UTF-32 put beside ASCII, or else it is UTF-8.
-/
def decodeMarked (bytes : List UInt8) : Except DecodeFault (List Char) :=
  if [0, 0, 0xfe, 0xff].isPrefixOf bytes then utf32 false 4 (bytes.drop 4)
  else if [0xff, 0xfe, 0, 0].isPrefixOf bytes then utf32 true 4 (bytes.drop 4)
  else if [0xfe, 0xff].isPrefixOf bytes then utf16 false 2 (bytes.drop 2)
  else if [0xff, 0xfe].isPrefixOf bytes then utf16 true 2 (bytes.drop 2)
  else if utf8Mark.isPrefixOf bytes then utf8 (bytes.drop 3)
  else byZeros bytes
where
  byZeros (bytes : List UInt8) : Except DecodeFault (List Char) :=
    match bytes.map (· == 0) with
    | true :: true :: _ :: _ :: _ => utf32 false 0 bytes
    | true :: false :: _ :: _ :: _ => utf16 false 0 bytes
    | false :: true :: true :: true :: _ => utf32 true 0 bytes
    | false :: true :: _ :: _ :: _ => utf16 true 0 bytes
    | [true, _] => utf16 false 0 bytes
    | [false, true] => utf16 true 0 bytes
    | _ => utf8 bytes
  utf8 (bytes : List UInt8) : Except DecodeFault (List Char) :=
    strict "utf-8" 0 (piecesOf utf8Piece bytes)
  utf16 (little : Bool) (start : Nat) (bytes : List UInt8) : Except DecodeFault (List Char) :=
    strict (if little then "utf-16-le" else "utf-16-be") start (piecesOf (utf16Piece little) bytes)
  utf32 (little : Bool) (start : Nat) (bytes : List UInt8) : Except DecodeFault (List Char) :=
    strict (if little then "utf-32-le" else "utf-32-be") start (piecesOf (utf32Piece little) bytes)

/--
The first characters of a text that are not in ASCII: where they start, and which they are.
-/
structure EncodeFault where
  start : Nat
  chars : List Char

/--
A character by its number in quotes.
-/
def escapedChar (c : Char) : String :=
  let n := c.toNat
  let digits :=
    if n < 0x100 then 'x' :: hexDigits 2 n
    else if n < 0x10000 then 'u' :: hexDigits 4 n
    else 'U' :: hexDigits 8 n
  .ofList ('\'' :: '\\' :: digits ++ ['\''])

def EncodeFault.message (fault : EncodeFault) : String :=
  let place :=
    match fault.chars with
    | [c] => s!"character {escapedChar c} in position {fault.start}"
    | cs => s!"characters in position {fault.start}-{fault.start + cs.length - 1}"
  s!"'ascii' codec can't encode {place}: ordinal not in range(128)"

/--
What keeps a text from being encoded in ASCII.
-/
def asciiFault? (s : String) : Option EncodeFault :=
  let plain (c : Char) : Bool := c.toNat < 128
  let cs := s.toList
  match cs.dropWhile plain with
  | [] => none
  | rest => some ⟨(cs.takeWhile plain).length, rest.takeWhile (!plain ·)⟩

end CodeGauge.Text
