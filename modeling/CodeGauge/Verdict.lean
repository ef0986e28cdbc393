import CodeGauge.Features
import CodeGauge.Json.Writer
import CodeGauge.Label

/-!
This module contains verdicts on the cost of a text, their fields, and the verdict of the rules.
-/

namespace CodeGauge


open Text

/--
A verdict: labels, classes and reasons for time and for space, and a rating from 1 to 5. The labels
and reasons are texts of some kind.
-/
structure Verdict (τ : Type := String) where
  timeLabel : τ
  time : Growth
  timeNote : τ
  spaceLabel : τ
  space : Growth
  spaceNote : τ
  rating : Nat
  deriving DecidableEq, Repr

namespace Verdict

variable {τ : Type} [BEq τ] [Wording τ]

/--
The verdict for a pair of classes.
-/
def ofGrowth (time space : Growth) : Verdict :=
  { timeLabel := Label.superscript time.label
    time := time
    timeNote := time.timeNote
    spaceLabel := Label.superscript space.label
    space := space
    spaceNote := space.spaceNote
    rating := rate time space }

def ofFeatures (f : Features) : Verdict :=
  ofGrowth f.time f.space

/--
The verdict of the rules on a text.
-/
def ofText (text : String) : Verdict :=
  ofFeatures (.ofText text)

/--
The verdict as fields.
-/
def fields (v : Verdict) : Json.Fields :=
  [
    ("timeComplexity", .str v.timeLabel),
    ("timeComplexityType", .str v.time.name),
    ("timeExplanation", .str v.timeNote),
    ("spaceComplexity", .str v.spaceLabel),
    ("spaceComplexityType", .str v.space.name),
    ("spaceExplanation", .str v.spaceNote),
    ("codeRating", .int v.rating)]

def toJson (v : Verdict) : Json :=
  .obj v.fields

/--
The verdict on one line without blanks.
-/
def compact (v : Verdict) : String :=
  v.toJson.write .compact

/--
The class of growth that a value names.
-/
def growth : Json τ → Except Fault Growth
  | .str name =>
    match (Wording.whole? name).bind Growth.ofName? with
    | some g => .ok g
    | none => .error .notGrowth
  | _ => .error .notGrowth

/--
A whole number from 1 to 5.
-/
def stars (v : Json τ) : Except Fault Nat :=
  (Field.intWithin 1 (some 5) v).map Int.toNat

/--
The verdict that fields stand for. All of them have to be there, and others are ignored.
-/
def ofFields (fields : Json.Fields τ) : Checked (Verdict τ) :=
  Verdict.mk <$> Field.required fields "timeComplexity" Field.text
    <*> Field.required fields "timeComplexityType" growth
    <*> Field.required fields "timeExplanation" Field.text
    <*> Field.required fields "spaceComplexity" Field.text
    <*> Field.required fields "spaceComplexityType" growth
    <*> Field.required fields "spaceExplanation" Field.text
    <*> Field.required fields "codeRating" stars

def ofJson : Json τ → Checked (Verdict τ)
  | .obj fields => ofFields fields
  | _ => .faulty [⟨"", .notObject⟩]

/--
A verdict with its texts as strings, if all of them can be.
-/
def whole? (v : Verdict τ) : Option Verdict := do
  let timeLabel ← Wording.whole? v.timeLabel
  let timeNote ← Wording.whole? v.timeNote
  let spaceLabel ← Wording.whole? v.spaceLabel
  let spaceNote ← Wording.whole? v.spaceNote
  return ⟨timeLabel, v.time, timeNote, spaceLabel, v.space, spaceNote, v.rating⟩

/--
A verdict is read back from its own fields.
-/
theorem ofJson_toJson (v : Verdict) (hpos : 1 ≤ v.rating) (hle : v.rating ≤ 5) :
    ofJson v.toJson = .ok v := by
  have hstars : stars (.int v.rating) = .ok v.rating := by
    have h₁ : ¬ ((v.rating : Int) < 1) := by omega
    have h₂ : ¬ ((5 : Int) < v.rating) := by omega
    simp [stars, Field.intWithin, Field.int, h₁, h₂, Except.map]
  have hgrowth (g : Growth) : growth (.str g.name) = .ok g := by
    simp [growth]
  have htext (s : String) : Field.text (.str s) = .ok s := rfl
  simp [ofJson, toJson, ofFields, fields, Field.required, Json.field?, List.lookup_cons, hstars,
    hgrowth, htext, Checked.ofField, Functor.map, Seq.seq, Checked.seq]

end Verdict
end CodeGauge
