import CodeGauge.Pattern.Build
import CodeGauge.Pattern.Scan

/-!
This module contains the patterns of containers and allocations.
-/

namespace CodeGauge.Signal

open Pattern


/--
An empty array literal or an array type.
-/
def array : Pattern :=
  oneOf [
    chain [char '[', blanks, char ']'],
    chain [text "new", someBlanks, text "array", boundary],
    chain [boundary, text "vector<"],
    text "arraylist<",
    chain [boundary, text "std::vector", boundary]]

/--
A word that ends in the name of a map.
-/
def map : Pattern :=
  oneOf [
    chain [text "map", boundary],
    chain [text "hashmap", boundary],
    chain [text "unordered_map", boundary],
    chain [text "std::map", boundary]]

/--
A word that ends in the name of a set.
-/
def set : Pattern :=
  oneOf [
    chain [text "set", boundary],
    chain [text "hashset", boundary],
    chain [text "std::set", boundary]]

/--
A new object, or an empty pair of braces. This is the one count for which letter case matters.
-/
def allocation : Pattern :=
  alt
    (chain [exactly "new", someBlanks, wordChars, blanks, char '('])
    (chain [char '{', blanks, char '}'])

end CodeGauge.Signal
