import CodeGauge.Pattern.Build
import CodeGauge.Pattern.Scan

/-!
This module contains the patterns of loops and of loops inside loops.
-/

namespace CodeGauge.Signal

open Pattern


/--
The word of a loop, or such a word with an opening parenthesis behind it. The latter may end a
longer name, except that `for` may not.
-/
def loop : Pattern :=
  oneOf [
    wholeWord (oneOf [text "for", text "while", text "foreach"]),
    chain [boundary, text "for", blanks, char '('],
    chain [text "while", blanks, char '('],
    chain [text "foreach", blanks, char '(']]

/--
The head of a loop: its word and a span in parentheses.
-/
def loopHead : Pattern :=
  chain [oneOf [text "for", text "while"], blanks, parens]

/--
The head of a loop, and a second one behind it before any brace closes or another one opens.
-/
def nestedLoop : Pattern :=
  chain [loopHead, blanks, char '{', without ['{', '}'] none, loopHead]

end CodeGauge.Signal
