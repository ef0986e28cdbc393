import CodeGauge.Field
import CodeGauge.Growth
import CodeGauge.Signal.Call
import CodeGauge.Signal.Container
import CodeGauge.Signal.Halving
import CodeGauge.Signal.Loop

/-!
This module contains the features of a text, and the rules that lead from them to classes of growth.
-/

namespace CodeGauge


/--
The structural signals in a text: counts of matches, and whether a loop halves its range.
-/
structure Features where
  loops : Nat := 0
  nestedLoops : Nat := 0
  recursions : Nat := 0
  sortCalls : Nat := 0
  logCalls : Nat := 0
  arrays : Nat := 0
  maps : Nat := 0
  sets : Nat := 0
  allocations : Nat := 0
  halvesRange : Bool := false
  deriving DecidableEq, Repr

namespace Features

/--
The features of a text in any programming language.
-/
def ofText (text : String) : Features :=
  let cs := text.toList
  { loops := Signal.loop.count cs
    nestedLoops := Signal.nestedLoop.count cs
    recursions := Signal.recursionCount cs
    sortCalls := Signal.sortCall.count cs
    logCalls := Signal.logCall.count cs
    arrays := Signal.array.count cs
    maps := Signal.map.count cs
    sets := Signal.set.count cs
    allocations := Signal.allocation.count cs
    halvesRange := Signal.halvesRange cs }

/--
The number of containers of all kinds.
-/
def containers (f : Features) : Nat :=
  f.arrays + f.maps + f.sets + f.allocations

/--
The class of time before halving is considered. The worst signal decides.
-/
def baseTime (f : Features) : Growth :=
  if f.nestedLoops > 0 then .quadratic
  else if f.sortCalls > 0 || (f.loops > 0 && f.logCalls > 0) then .linearithmic
  else if f.recursions > 0 && f.loops == 0 then .linear
  else if f.loops > 0 then .linear
  else if f.logCalls > 0 then .logarithmic
  else .constant

/--
The class of time. A loop that is not nested and halves its range is logarithmic, whatever else
there is.
-/
def time (f : Features) : Growth :=
  if f.nestedLoops == 0 && f.loops > 0 && f.halvesRange then .logarithmic else f.baseTime

/--
The class of space. Two containers, or recursion, make it linear.
-/
def space (f : Features) : Growth :=
  if f.containers ≥ 2 then .linear
  else if f.recursions > 0 then .linear
  else .constant

/--
The features as fields.
-/
def toJson (f : Features) : Json :=
  .obj [
    ("loop_count", .int f.loops),
    ("nested_loop_count", .int f.nestedLoops),
    ("recursion_count", .int f.recursions),
    ("sort_call_count", .int f.sortCalls),
    ("log_call_count", .int f.logCalls),
    ("array_literal_count", .int f.arrays),
    ("map_type_count", .int f.maps),
    ("set_type_count", .int f.sets),
    ("allocation_count", .int f.allocations),
    ("logarithmic_loop", .bool f.halvesRange)]

/--
The features that fields stand for. A count that is not given is zero.
-/
def ofJson : Json → Checked Features
  | .obj fields =>
    let count (name : String) : Checked Nat :=
      Field.optional fields name 0 fun v => (Field.intWithin 0 none v).map Int.toNat
    Features.mk <$> count "loop_count" <*> count "nested_loop_count" <*> count "recursion_count"
      <*> count "sort_call_count" <*> count "log_call_count" <*> count "array_literal_count"
      <*> count "map_type_count" <*> count "set_type_count" <*> count "allocation_count"
      <*> Field.optional fields "logarithmic_loop" false Field.bool
  | _ => .faulty [⟨"", .notObject⟩]

end Features
end CodeGauge
