/-!
This module contains sorted tables of code point ranges, kept as a search tree.
-/

namespace CodeGauge.Text


/--
A search tree of disjoint ranges of code points, each with a value.
-/
inductive Ranges (α : Type) where
  | empty
  | node (left : Ranges α) (lo hi : Nat) (value : α) (right : Ranges α)

namespace Ranges

variable {α : Type}

/--
The range that holds a code point, with its value.
-/
def find? : Ranges α → Nat → Option (Nat × α)
  | .empty, _ => none
  | .node left lo hi value right, n =>
    if n < lo then
      left.find? n
    else if hi < n then
      right.find? n
    else
      some (lo, value)

/--
Whether a character lies in one of the ranges.
-/
def contains (ranges : Ranges α) (c : Char) : Bool :=
  (ranges.find? c.toNat).isSome

/--
A balanced tree of ranges that are listed in increasing order.
-/
def ofSorted (rows : List (Nat × Nat × α)) : Ranges α :=
  (go (rows.length.log2 + 1) rows).1
where
  /-- A tree of the given depth from the head of the list, and the rows that it leaves. -/
  go : Nat → List (Nat × Nat × α) → Ranges α × List (Nat × Nat × α)
    | 0, rows => (.empty, rows)
    | depth + 1, rows =>
      match go depth rows with
      | (left, []) => (left, [])
      | (left, (lo, hi, value) :: rows) =>
        let (right, rows) := go depth rows
        (.node left lo hi value right, rows)

/--
A set of characters, from ranges that are listed in increasing order.
-/
def ofPairs (rows : List (Nat × Nat)) : Ranges Unit :=
  ofSorted (rows.map fun (lo, hi) => (lo, hi, ()))

end Ranges
end CodeGauge.Text
