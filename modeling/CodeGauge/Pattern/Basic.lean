import CodeGauge.Pattern.Cursor

/-!
This module contains patterns and what they match. `Pattern.ends` lists all the positions that a
pattern can reach from a given one, in the order in which they are tried. `Pattern.search` takes the
first of them from which a continuation succeeds, without looking at the later ones.
-/

namespace CodeGauge


/--
A pattern. Repetition is of single characters only, so that all patterns come to an end.
-/
inductive Pattern where
  /-- Nothing at all. -/
  | empty
  /-- One character of a class. -/
  | one (p : Char → Bool)
  /-- One pattern behind another. -/
  | seq (p q : Pattern)
  /-- One of two patterns, where the first is tried first. -/
  | alt (p q : Pattern)
  /-- Characters of a class, up to a limit, as many as possible. -/
  | many (p : Char → Bool) (limit : Option Nat)
  /-- Characters of a class, up to a limit, as few as possible. -/
  | few (p : Char → Bool) (limit : Option Nat)
  /-- The start or the end of a word. -/
  | boundary
  /-- A position where another pattern does not match. -/
  | notAhead (p : Pattern)
  /-- A position that does not follow characters that satisfy the tests, the nearest first. -/
  | notBehind (tests : List (Char → Bool))
  /-- A pattern whose text is kept under a number. -/
  | group (n : Nat) (p : Pattern)
  /-- The text of an earlier group, in any letter case. -/
  | again (n : Nat)

namespace Pattern

/--
The positions that a pattern can reach, the preferred one first.
-/
def ends : Pattern → Cursor → List Cursor
  | empty, cur => [cur]
  | one p, cur =>
    match cur.after with
    | c :: rest => if p c then [cur.step c rest] else []
    | [] => []
  | seq p q, cur => (p.ends cur).flatMap q.ends
  | alt p q, cur => p.ends cur ++ q.ends cur
  | many p limit, cur => cur.sweep p limit
  | few p limit, cur => (cur.sweep p limit).reverse
  | boundary, cur => if cur.atBoundary then [cur] else []
  | notAhead p, cur => if (p.ends cur).isEmpty then [cur] else []
  | notBehind tests, cur => if cur.follows tests then [] else [cur]
  | group n p, cur => (p.ends cur).map (·.record n cur)
  | again n, cur => ((cur.group? n).bind cur.pass?).toList

/--
The first success of a continuation among the positions that a pattern can reach.
-/
def search : Pattern → Cursor → (Cursor → Option Cursor) → Option Cursor
  | empty, cur, k => k cur
  | one p, cur, k =>
    match cur.after with
    | c :: rest => if p c then k (cur.step c rest) else none
    | [] => none
  | seq p q, cur, k => p.search cur fun mid => q.search mid k
  | alt p q, cur, k =>
    match p.search cur k with
    | some stop => some stop
    | none => q.search cur k
  | many p limit, cur, k => (cur.sweep p limit).findSome? k
  | few p limit, cur, k => (cur.sweep p limit).reverse.findSome? k
  | boundary, cur, k => if cur.atBoundary then k cur else none
  | notAhead p, cur, k => if (p.search cur some).isNone then k cur else none
  | notBehind tests, cur, k => if cur.follows tests then none else k cur
  | group n p, cur, k => p.search cur fun stop => k (stop.record n cur)
  | again n, cur, k => ((cur.group? n).bind cur.pass?).bind k

theorem findSome?_flatMap (f : Cursor → List Cursor) (k : Cursor → Option Cursor)
    (xs : List Cursor) : (xs.flatMap f).findSome? k = xs.findSome? fun x => (f x).findSome? k := by
  induction xs with
  | nil => rfl
  | cons x xs ih =>
    simp only [List.flatMap_cons, List.findSome?_append, List.findSome?_cons, ih]
    cases (f x).findSome? k <;> rfl

/--
Searching is finding the first success among all the ends.
-/
theorem search_eq (p : Pattern) (cur : Cursor) (k : Cursor → Option Cursor) :
    p.search cur k = (p.ends cur).findSome? k := by
  induction p generalizing cur k with
  | empty => simp [search, ends]
  | one p =>
    simp only [search, ends]
    split
    . split <;> simp
    . rfl
  | seq p q ihp ihq => simp [search, ends, ihp, ihq, findSome?_flatMap]
  | alt p q ihp ihq =>
    simp only [search, ends, ihp, ihq, List.findSome?_append]
    cases (p.ends cur).findSome? k <;> rfl
  | many => rfl
  | few => rfl
  | boundary => simp only [search, ends]; split <;> simp
  | notAhead p ih =>
    simp only [search, ends, ih]
    cases p.ends cur <;> simp
  | notBehind => simp only [search, ends]; split <;> simp
  | group n p ih => simp [search, ends, ih, List.findSome?_map, Function.comp_def]
  | again =>
    simp only [search, ends]
    cases (cur.group? _).bind cur.pass? <;> simp

/--
The end of the preferred match at a position, if there is a match.
-/
def matchAt? (p : Pattern) (cur : Cursor) : Option Cursor :=
  p.search cur some

theorem matchAt?_eq (p : Pattern) (cur : Cursor) : p.matchAt? cur = (p.ends cur).head? := by
  simp only [matchAt?, search_eq]
  cases p.ends cur <;> simp

/--
The number of groups in a pattern.
-/
def groupCount : Pattern → Nat
  | seq p q => p.groupCount + q.groupCount
  | alt p q => p.groupCount + q.groupCount
  | notAhead p => p.groupCount
  | group _ p => p.groupCount + 1
  | _ => 0

end Pattern
end CodeGauge
