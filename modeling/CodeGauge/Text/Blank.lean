/-!
This module contains the blank characters and the removal of blanks from the ends of a text.
-/

namespace CodeGauge.Text


/--
Whether a character has the white space property of Unicode.
-/
def isSpace (c : Char) : Bool :=
  let n := c.toNat
  (9 ≤ n && n ≤ 13) || n == 0x20 || n == 0x85 || n == 0xa0 || n == 0x1680
    || (0x2000 ≤ n && n ≤ 0x200a) || n == 0x2028 || n == 0x2029 || n == 0x202f || n == 0x205f
    || n == 0x3000

/--
Whether a character is blank: white space, or one of the four information separators of ASCII.
-/
def isBlank (c : Char) : Bool :=
  isSpace c || (28 ≤ c.toNat && c.toNat ≤ 31)

/--
A list without the elements at both ends that satisfy a predicate.
-/
def strip (p : Char → Bool) (cs : List Char) : List Char :=
  ((cs.dropWhile p).reverse.dropWhile p).reverse

/--
A text without the blanks at both ends.
-/
def trim (s : String) : String :=
  .ofList (strip isBlank s.toList)

/--
Whether a text holds nothing but blanks.
-/
def allBlank (s : String) : Bool :=
  s.toList.all isBlank

@[simp]
theorem strip_nil (p : Char → Bool) : strip p [] = [] := by
  rfl

end CodeGauge.Text
