import CodeGauge.Text.Case
import CodeGauge.Text.Word

/-!
This module contains positions in a text and the ways in which a pattern moves from one to the next.
-/

namespace CodeGauge

open Text


/--
A part of a text: the text from its start on, and its length.
-/
structure Span where
  text : List Char
  length : Nat

def Span.chars (span : Span) : List Char :=
  span.text.take span.length

/--
A position in a text: the characters before it, the nearest first, the characters after it, and the
spans of the groups that have been passed. The offset is kept so that it need not be counted.
-/
structure Cursor where
  before : List Char
  after : List Char
  groups : List (Nat × Span)
  offset : Nat
  offset_eq : offset = before.length

namespace Cursor

@[ext]
theorem ext {a b : Cursor} (before : a.before = b.before) (after : a.after = b.after)
    (groups : a.groups = b.groups) : a = b := by
  cases a with | mk _ _ _ _ ha =>
  cases b with | mk _ _ _ _ hb =>
  simp_all

/--
The start of a text.
-/
def start (text : List Char) : Cursor :=
  ⟨[], text, [], 0, rfl⟩

/--
The position behind one more character, before the given rest.
-/
def step (cur : Cursor) (c : Char) (rest : List Char) : Cursor :=
  ⟨c :: cur.before, rest, cur.groups, cur.offset + 1, by simp [cur.offset_eq]⟩

/--
The same position, with no groups passed, in the text that ends `n` characters behind it.
-/
def truncate (cur : Cursor) (n : Nat) : Cursor :=
  { cur with after := cur.after.take n, groups := [] }

/--
The span between a position and a later one.
-/
def upTo (cur stop : Cursor) : Span :=
  ⟨cur.after, stop.offset - cur.offset⟩

/--
The text of a group, if it took part.
-/
def group? (cur : Cursor) (n : Nat) : Option (List Char) :=
  (cur.groups.lookup n).map Span.chars

/--
A position with the span of a group that started at an earlier one.
-/
def record (stop : Cursor) (n : Nat) (cur : Cursor) : Cursor :=
  { stop with groups := (n, cur.upTo stop) :: stop.groups }

/--
Whether exactly one of the two characters at a position is a word character.
-/
def atBoundary (cur : Cursor) : Bool :=
  (cur.before.head?.any isWord) != (cur.after.head?.any isWord)

/--
Whether the characters before a position satisfy the given tests, the nearest first.
-/
def follows (cur : Cursor) (tests : List (Char → Bool)) : Bool :=
  go tests cur.before
where
  go : List (Char → Bool) → List Char → Bool
    | [], _ => true
    | _ :: _, [] => false
    | test :: tests, c :: cs => test c && go tests cs

/--
The positions behind 0, 1, 2 and so on characters of a class, up to a limit. The farthest is the
first, and `found` holds the nearer ones.
-/
def sweep (p : Char → Bool) (limit : Option Nat) (cur : Cursor) : List Cursor :=
  go cur.after limit cur []
where
  go : List Char → Option Nat → Cursor → List Cursor → List Cursor
    | [], _, cur, found => cur :: found
    | c :: rest, limit, cur, found =>
      if limit != some 0 && p c then
        go rest (limit.map (· - 1)) (cur.step c rest) (cur :: found)
      else
        cur :: found

/--
The position behind a text that stands there in any letter case.
-/
def pass? (cur : Cursor) : List Char → Option Cursor
  | [] => some cur
  | c :: text =>
    match cur.after with
    | x :: rest => if lowerChar x == lowerChar c then (cur.step x rest).pass? text else none
    | [] => none

@[simp]
theorem step_before (cur : Cursor) (c : Char) (rest : List Char) :
    (cur.step c rest).before = c :: cur.before := rfl

@[simp]
theorem step_after (cur : Cursor) (c : Char) (rest : List Char) :
    (cur.step c rest).after = rest := rfl

@[simp]
theorem step_groups (cur : Cursor) (c : Char) (rest : List Char) :
    (cur.step c rest).groups = cur.groups := rfl

end Cursor
end CodeGauge
