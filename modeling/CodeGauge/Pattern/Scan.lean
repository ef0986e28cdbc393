import CodeGauge.Pattern.Basic

/-!
This module contains the search for a pattern in a text: the first match, and all matches that do
not overlap.
-/

namespace CodeGauge


/--
Where a pattern matches.
-/
structure Match where
  first : Cursor
  last : Cursor

namespace Match

/--
The number of characters of a match.
-/
def length (m : Match) : Nat :=
  m.last.offset - m.first.offset

def text (m : Match) : List Char :=
  (m.first.upTo m.last).chars

def group? (m : Match) (n : Nat) : Option (List Char) :=
  m.last.group? n

end Match

namespace Pattern

/--
The matches of a pattern from a position on, from left to right. Each is looked for behind the end
of the one before.
-/
def scan (p : Pattern) (cur : Cursor) : List Match :=
  go cur.after cur 0
where
  /-- `wait` counts the characters that belong to the match before. -/
  go : List Char → Cursor → Nat → List Match
    | [], cur, wait =>
      match wait, p.matchAt? cur with
      | 0, some last => [⟨cur, last⟩]
      | _, _ => []
    | c :: rest, cur, wait =>
      match wait with
      | wait + 1 => go rest (cur.step c rest) wait
      | 0 =>
        match p.matchAt? cur with
        | some last => ⟨cur, last⟩ :: go rest (cur.step c rest) ((Match.mk cur last).length - 1)
        | none => go rest (cur.step c rest) 0

/--
The first match of a pattern from a position on.
-/
def find? (p : Pattern) (cur : Cursor) : Option Match :=
  go cur.after cur
where
  go : List Char → Cursor → Option Match
    | [], cur => (p.matchAt? cur).map (⟨cur, ·⟩)
    | c :: rest, cur =>
      match p.matchAt? cur with
      | some last => some ⟨cur, last⟩
      | none => go rest (cur.step c rest)

/--
The matches of a pattern in a text.
-/
def findAll (p : Pattern) (text : List Char) : List Match :=
  p.scan (.start text)

/--
The number of matches of a pattern in a text.
-/
def count (p : Pattern) (text : List Char) : Nat :=
  (p.findAll text).length

/--
Whether a pattern matches anywhere in a text.
-/
def occurs (p : Pattern) (text : List Char) : Bool :=
  (p.find? (.start text)).isSome

theorem find?_go_eq (p : Pattern) (rest : List Char) (cur : Cursor) :
    find?.go p rest cur = (scan.go p rest cur 0).head? := by
  induction rest generalizing cur with
  | nil =>
    simp only [find?.go, scan.go]
    cases p.matchAt? cur <;> rfl
  | cons c rest ih =>
    simp only [find?.go, scan.go]
    cases p.matchAt? cur with
    | none => simp [ih]
    | some last => simp

/--
The first match is the first of all matches.
-/
theorem find?_eq (p : Pattern) (cur : Cursor) : p.find? cur = (p.scan cur).head? :=
  find?_go_eq p cur.after cur

theorem occurs_iff (p : Pattern) (text : List Char) : p.occurs text ↔ 0 < p.count text := by
  simp [occurs, count, findAll, find?_eq, List.length_pos_iff]

end Pattern
end CodeGauge
