import CodeGauge.Text.Word

/-!
This module contains the markup of labels: an exponent that is written behind a caret is raised.
-/

namespace CodeGauge.Label

open Text


def openTag : List Char := "<sup>".toList

def closeTag : List Char := "</sup>".toList

/--
A label where each caret with a word behind it gives way to tags around the word. `inWord` says
whether the text starts inside of such a word.
-/
def raise (inWord : Bool) : List Char → List Char
  | [] => if inWord then closeTag else []
  | c :: cs =>
    if inWord && isWord c then
      c :: raise true cs
    else
      (if inWord then closeTag else []) ++
        if c == '^' && cs.head?.any isWord then
          openTag ++ raise true cs
        else
          c :: raise false cs

/--
A label with its exponents raised.
-/
def superscript (label : String) : String :=
  .ofList (raise false label.toList)

/--
A label without carets stays as it is.
-/
theorem raise_of_not_mem {cs : List Char} (h : '^' ∉ cs) : raise false cs = cs := by
  induction cs with
  | nil => rfl
  | cons c cs ih =>
    simp only [List.mem_cons, not_or] at h
    simp [raise, ih h.2, Ne.symm h.1]

end CodeGauge.Label
