/-!
This module contains line ends.
-/

namespace CodeGauge.Text


/--
A text in which every line ends in a line feed alone: a carriage return, with or without a line feed
behind it, becomes one line feed.
-/
def unifyNewlines : List Char → List Char
  | [] => []
  | '\r' :: '\n' :: cs => '\n' :: unifyNewlines cs
  | c :: cs => (if c == '\r' then '\n' else c) :: unifyNewlines cs

theorem not_mem_unifyNewlines (cs : List Char) : '\r' ∉ unifyNewlines cs := by
  fun_induction unifyNewlines cs with
  | case1 => simp
  | case2 cs ih => simp [ih]
  | case3 c cs _ ih =>
    by_cases h : c = '\r'
    . simp [h, ih]
    . simp [h, ih, Ne.symm h]

end CodeGauge.Text
