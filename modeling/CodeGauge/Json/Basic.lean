import CodeGauge.Number.Binary64
import CodeGauge.Text.CodePoint

/-!
This module contains JSON values and their fields.
-/

namespace CodeGauge


/--
A JSON value with texts of some kind. Whole numbers have any size, and the fields of an object are
in order of appearance.
-/
inductive Json (τ : Type := String) where
  | null
  | bool (b : Bool)
  | int (i : Int)
  | float (x : Binary64)
  | str (s : τ)
  | arr (items : List (Json τ))
  | obj (fields : List (τ × Json τ))
  deriving Inhabited

namespace Json

abbrev Fields (τ : Type := String) := List (τ × Json τ)

variable {τ : Type} [BEq τ]

/--
The value of a field.
-/
def field? (fields : Fields τ) (name : τ) : Option (Json τ) :=
  fields.lookup name

/--
The value of a field of an object, if the value is one and has it.
-/
def get? : Json τ → τ → Option (Json τ)
  | .obj fields, name => field? fields name
  | _, _ => none

/--
Fields with one more. One that is there already keeps its place and takes the new value.
-/
def setField (name : τ) (value : Json τ) : Fields τ → Fields τ
  | [] => [(name, value)]
  | (n, v) :: fields =>
    if n == name then
      (n, value) :: fields
    else
      (n, v) :: setField name value fields

/--
Whether a value counts as something: not null, false, a zero or empty.
-/
def isTruthy : Json → Bool
  | .null => false
  | .bool b => b
  | .int i => i != 0
  | .float x => !x.isZero
  | .str s => !s.isEmpty
  | .arr items => !items.isEmpty
  | .obj fields => !fields.isEmpty

/--
The value of a field that counts as something, or else a substitute.
-/
def truthyOr (substitute : Json) : Option Json → Json
  | some v => if v.isTruthy then v else substitute
  | none => substitute

/--
What a value yields one by one: the items of an array, the characters of a text, the names of an
object's fields.
-/
def items? : Json → Option (List Json)
  | .arr items => some items
  | .str s => some (s.toList.map fun c => .str c.toString)
  | .obj fields => some (fields.map fun (name, _) => .str name)
  | _ => none

theorem field?_setField_self [LawfulBEq τ] (name : τ) (value : Json τ) (fields : Fields τ) :
    field? (setField name value fields) name = some value := by
  induction fields with
  | nil => simp [setField, field?]
  | cons f fields ih =>
    simp only [setField]
    split
    . rename_i h
      simp [field?, beq_iff_eq.1 h]
    . rename_i h
      simp only [field?] at ih
      rw [field?, List.lookup_cons]
      simp [ih, BEq.comm (a := name), h]

end Json
end CodeGauge
