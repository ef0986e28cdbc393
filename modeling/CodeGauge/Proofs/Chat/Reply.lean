import CodeGauge.Chat.Reply
import CodeGauge.Proofs.Json.Nesting
import CodeGauge.Proofs.Json.Writable
import CodeGauge.Proofs.Pattern.Ends
import CodeGauge.Proofs.Text.Blank

/-!
This module contains what comes of the recovery of a JSON object from a reply: it looks at some
pieces of the reply in order, and the first one that settles the matter decides.
-/

namespace CodeGauge.Reply

open Pattern Text


/--
The piece of a text that a pattern cuts out.
-/
def piece? (cs : List Char) (p : Pattern) : Option (List Char) :=
  ((p.find? (.start cs)).bind (·.group? 1)).map (strip isBlank)

/--
The pieces of a text in which an object is looked for, the whole of it first.
-/
def pieces (cs : List Char) : List (List Char) :=
  cs :: spans.filterMap (piece? cs)

/--
Whether a text is refused because of a limit of the reader, which says nothing about its form.
-/
def isLimit : Json.ReadFault → Bool
  | .malformed .. => false
  | .tooLong _ | .tooDeep _ => true

/--
What a piece makes of the whole reply, in case it settles the matter: it writes an object, or it
goes beyond a limit of the reader.
-/
def settles (room : Nat) (piece : List Char) : Option (Except Failure Json.Fields) :=
  match Json.read piece room with
  | .ok (.obj fields) => some (.ok fields)
  | .ok _ => none
  | .error fault => if isLimit fault then some (.error (.unreadable fault)) else none

/--
Whether the recovery stops at a limit of the reader: the first piece that settles the matter is
refused because of it.
-/
def StopsAt (room : Nat) (text : String) (fault : Json.ReadFault) : Prop :=
  isLimit fault ∧ ∃ before piece after, pieces text.toList = before ++ piece :: after
    ∧ (∀ earlier ∈ before, settles room earlier = none) ∧ Json.read piece room = .error fault

/--
Whether a reply comes to an object or to the failure that keeps the whole reply.
-/
def Recovers (room : Nat) (text : String) : Prop :=
  (∃ fields, extract text room = .ok fields)
    ∨ extract text room = .error (.unusable "Model returned non-JSON content" text)

theorem object_eq (room : Nat) (cs : List Char) :
    object room cs = (settles room cs).elim (.ok none) (·.map some) := by
  unfold object settles
  cases Json.read cs room with
  | ok value => cases value <;> rfl
  | error fault => cases fault <;> rfl

theorem objectWithin_eq (room : Nat) (cs : List Char) (ps : List Pattern) :
    objectWithin room cs ps
      =
    ((ps.filterMap (piece? cs)).findSome? (settles room)).elim (.ok none) (·.map some) := by
  induction ps with
  | nil => rfl
  | cons p ps ih =>
    unfold objectWithin
    cases hspan : (p.find? (.start cs)).bind (·.group? 1) with
    | none =>
      have hpiece : piece? cs p = none := by
        rw [piece?, hspan, Option.map_none]
      rw [List.filterMap_cons_none hpiece]
      exact ih
    | some span =>
      have hpiece : piece? cs p = some (strip isBlank span) := by
        rw [piece?, hspan, Option.map_some]
      rw [List.filterMap_cons_some hpiece, List.findSome?_cons]
      dsimp only
      -- The next pattern is tried only if this piece settles nothing.
      rw [object_eq]
      cases settles room (strip isBlank span) with
      | none => exact ih
      | some result => cases result <;> rfl

theorem extract_eq (room : Nat) (text : String) :
    extract text room
      =
    ((pieces text.toList).findSome? (settles room)).getD
      (.error (.unusable "Model returned non-JSON content" text)) := by
  unfold extract pieces
  dsimp only
  rw [object_eq, List.findSome?_cons]
  cases settles room text.toList with
  | none =>
    rw [objectWithin_eq]
    dsimp only [Option.elim_none]
    cases (spans.filterMap (piece? text.toList)).findSome? (settles room) with
    | none => rfl
    | some result => cases result <;> rfl
  | some result => cases result <;> rfl

theorem infix_of_mem_pieces {cs piece : List Char} (h : piece ∈ pieces cs) : piece <:+: cs := by
  cases List.mem_cons.1 h with
  | inl heq => exact heq ▸ List.infix_rfl
  | inr hmem =>
    obtain ⟨p, _, hpiece⟩ := List.mem_filterMap.1 hmem
    obtain ⟨span, hspan, rfl⟩ := Option.map_eq_some_iff.1 hpiece
    obtain ⟨m, hfind, hgroup⟩ := Option.bind_eq_some_iff.1 hspan
    exact (strip_isInfix isBlank span).trans (infix_of_group? hfind hgroup)

theorem settles_eq_error_iff {room : Nat} {piece : List Char} {failure : Failure} :
    settles room piece = some (.error failure)
      ↔
    ∃ fault, isLimit fault ∧ Json.read piece room = .error fault
      ∧ failure = .unreadable fault := by
  unfold settles
  cases Json.read piece room with
  | ok value => cases value <;> simp
  | error fault => cases fault <;> simp [isLimit, eq_comm (b := failure)]

theorem stopsAt_iff {room : Nat} {text : String} {fault : Json.ReadFault} :
    StopsAt room text fault
      ↔
    (pieces text.toList).findSome? (settles room) = some (.error (.unreadable fault)) := by
  have hsettles (piece : List Char) :
      settles room piece = some (.error (.unreadable fault))
        ↔ isLimit fault ∧ Json.read piece room = .error fault := by
    rw [settles_eq_error_iff]
    simp
  unfold StopsAt
  rw [List.findSome?_eq_some_iff]
  simp only [hsettles]
  constructor
  . rintro ⟨hlimit, before, piece, after, heq, hbefore, hread⟩
    exact ⟨before, piece, after, heq, ⟨hlimit, hread⟩, hbefore⟩
  . rintro ⟨before, piece, after, heq, ⟨hlimit, hread⟩, hbefore⟩
    exact ⟨hlimit, before, piece, after, heq, hbefore, hread⟩

theorem extract_of_stopsAt {room : Nat} {text : String} {fault : Json.ReadFault}
    (h : StopsAt room text fault) : extract text room = .error (.unreadable fault) := by
  rw [extract_eq, stopsAt_iff.1 h, Option.getD_some]

/--
What a text holds that goes beyond a limit of the reader: a number with too many digits, or more
brackets than there is room for.
-/
def Exceeds (room : Nat) (cs : List Char) : Json.ReadFault → Prop
  | .malformed .. => False
  | .tooLong n => maxIntDigits < n ∧ HasDigits cs n
  | .tooDeep _ => room < Json.openings cs

theorem exceeds_of_stopsAt {room : Nat} {text : String} {fault : Json.ReadFault}
    (h : StopsAt room text fault) : Exceeds room text.toList fault := by
  obtain ⟨hlimit, before, piece, after, heq, _, hread⟩ := h
  have hmem : piece ∈ pieces text.toList := by
    rw [heq]
    exact List.mem_append_right before List.mem_cons_self
  have hinfix := infix_of_mem_pieces hmem
  cases fault with
  | malformed => cases hlimit
  | tooLong n =>
    obtain ⟨hlong, hdigits⟩ := Json.read_tooLong hread
    exact ⟨hlong, hdigits.mono hinfix⟩
  | tooDeep nest => exact Nat.lt_of_lt_of_le (Json.read_tooDeep hread) hinfix.sublist.countP_le

theorem recovers_of_not_stopsAt {room : Nat} {text : String}
    (h : ∀ fault, ¬ StopsAt room text fault) : Recovers room text := by
  unfold Recovers
  rw [extract_eq]
  cases hfound : (pieces text.toList).findSome? (settles room) with
  | none => exact .inr rfl
  | some result =>
    cases result with
    | ok fields => exact .inl ⟨fields, rfl⟩
    | error failure =>
      obtain ⟨piece, _, hpiece⟩ := List.exists_of_findSome?_eq_some hfound
      obtain ⟨fault, _, _, rfl⟩ := settles_eq_error_iff.1 hpiece
      exact (h fault (stopsAt_iff.2 hfound)).elim

theorem stopsAt_of_read {room : Nat} {cs : List Char} {fault : Json.ReadFault}
    (hlimit : isLimit fault) (hread : Json.read cs room = .error fault) :
    StopsAt room (.ofList cs) fault := by
  refine ⟨hlimit, [], cs, spans.filterMap (piece? cs), ?_, by simp, hread⟩
  rw [String.toList_ofList]
  rfl

/--
A reply comes to an object or to the failure that keeps it, unless the recovery stops at a limit of
the reader. What goes beyond the limit stands in the reply, and its refusal is the result.
-/
theorem recovers_iff (room : Nat) (text : String) :
    (Recovers room text ↔ ∀ fault, ¬ StopsAt room text fault)
    ∧ ∀ fault, StopsAt room text fault → extract text room = .error (.unreadable fault)
        ∧ Exceeds room text.toList fault := by
  refine ⟨⟨?_, recovers_of_not_stopsAt⟩, ?_⟩
  . rintro hrecovers fault hstops
    unfold Recovers at hrecovers
    rw [extract_of_stopsAt hstops] at hrecovers
    simp at hrecovers
  . intro fault hstops
    exact ⟨extract_of_stopsAt hstops, exceeds_of_stopsAt hstops⟩

theorem not_recovers_beyond_limits :
    (StopsAt Json.maxNesting (.ofList (List.replicate 4301 '1')) (.tooLong 4301)
      ∧ ¬ Recovers Json.maxNesting (.ofList (List.replicate 4301 '1')))
    ∧ StopsAt Json.maxNesting (.ofList (List.replicate 951 '[')) (.tooDeep .array)
      ∧ ¬ Recovers Json.maxNesting (.ofList (List.replicate 951 '[')) := by
  have hlength : (List.replicate 4301 '1').length = 4301 := List.length_replicate
  have hdigits : StopsAt Json.maxNesting (.ofList (List.replicate 4301 '1'))
      (.tooLong (List.replicate 4301 '1').length) := by
    apply stopsAt_of_read rfl
    apply Json.read_digits
    . intro c hc
      rw [List.eq_of_mem_replicate hc]
      rfl
    . simp
    . rw [hlength]
      decide
  rw [hlength] at hdigits
  have hread := Json.read_brackets (show Json.maxNesting < 951 by decide) []
  rw [List.append_nil] at hread
  have hbrackets := stopsAt_of_read rfl hread
  exact ⟨⟨hdigits, fun hrecovers => (recovers_iff _ _).1.1 hrecovers _ hdigits⟩,
    hbrackets, fun hrecovers => (recovers_iff _ _).1.1 hrecovers _ hbrackets⟩

section Writable

variable {τ : Type} [BEq τ] [Wording τ] {room : Nat} {cs : List Char} {fields : Json.Fields τ}

theorem read_of_object (h : object room cs = .ok (some fields)) :
    Json.read cs room = .ok (.obj fields) := by
  unfold object at h
  split at h
  . next hread =>
    cases h
    exact hread
  all_goals cases h

theorem exists_read_of_objectWithin {ps : List Pattern}
    (h : objectWithin room cs ps = .ok (some fields)) :
    ∃ piece, Json.read piece room = .ok (.obj fields) := by
  induction ps with
  | nil => cases h
  | cons p ps ih =>
    unfold objectWithin at h
    split at h
    . exact ih h
    . split at h
      . exact ih h
      . exact ⟨_, read_of_object h⟩

theorem exists_read_of_extract {text : String} (h : extract text room = .ok fields) :
    ∃ piece, Json.read piece room = .ok (.obj fields) := by
  unfold extract at h
  dsimp only at h
  split at h
  . next hfound =>
    cases h
    split at hfound
    . exact exists_read_of_objectWithin hfound
    . exact ⟨_, read_of_object hfound⟩
  . cases h
  . cases h

/--
The object in a reply can be written where there is as much room as it has been read with.
-/
theorem writeFault?_of_extract {text : String} (h : extract text room = .ok fields) :
    Json.writeFault? room (.obj fields) = none := by
  obtain ⟨piece, hread⟩ := exists_read_of_extract h
  exact Json.writeFault?_of_read hread

end Writable

end CodeGauge.Reply
