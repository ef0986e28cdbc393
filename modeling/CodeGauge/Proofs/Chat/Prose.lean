import CodeGauge.Proofs.Chat.Fenced
import CodeGauge.Proofs.Pattern.Trim

/-!
This module contains the recovery of an object that stands between other text. The span between the
outermost braces is that object, but it is looked at last: fenced blocks come first, also those in
the strings of the object.
-/

namespace CodeGauge.Reply

open List (Forall₂)
open Pattern Text

variable {pre post : List Char} {d : Char} {room : Nat}


/--
The object that a text writes, if it writes one.
-/
def object? (room : Nat) (cs : List Char) : Option Json.Fields :=
  match Json.read cs room with
  | .ok (.obj fields) => some fields
  | _ => none

/--
The object in the first match of a fenced block in a text, where blocks marked as JSON come first.
-/
def fencedObject? (room : Nat) (cs : List Char) : Option Json.Fields :=
  ([fenced (exactly "json"), fenced empty].filterMap (piece? cs)).findSome? (object? room)

theorem object?_eq_some_iff {cs : List Char} {fields : Json.Fields} :
    object? room cs = some fields ↔ Json.read cs room = .ok (.obj fields) := by
  unfold object?
  split <;> simp_all

theorem settles_eq_map {piece : List Char}
    (hlimit : ∀ fault, settles room piece ≠ some (.error (.unreadable fault))) :
    settles room piece = (object? room piece).map .ok := by
  cases hread : Json.read piece room with
  | ok value =>
    unfold settles object?
    rw [hread]
    cases value <;> rfl
  | error fault =>
    by_cases hfault : isLimit fault
    . exact (hlimit fault (settles_eq_error_iff.2 ⟨fault, hfault, hread, rfl⟩)).elim
    . unfold settles object?
      rw [hread]
      exact if_neg hfault

theorem findSome?_settles {ps : List (List Char)}
    (hlimit : ∀ fault, ps.findSome? (settles room) ≠ some (.error (.unreadable fault))) :
    ps.findSome? (settles room) = (ps.findSome? (object? room)).map .ok := by
  induction ps with
  | nil => rfl
  | cons piece ps ih =>
    have hpiece : ∀ fault, settles room piece ≠ some (.error (.unreadable fault)) := by
      intro fault h
      apply hlimit fault
      rw [List.findSome?_cons, h]
    have hmap := settles_eq_map hpiece
    rw [List.findSome?_cons, List.findSome?_cons, hmap]
    cases hobject : object? room piece with
    | none =>
      rw [hobject] at hmap
      apply ih
      intro fault h
      apply hlimit fault
      rw [List.findSome?_cons, hmap]
      exact h
    | some fields => rfl

/--
Where the recovery does not stop at a limit, a reply comes to the first object among its pieces.
-/
theorem extract_of_not_stopsAt {text : String} {fields : Json.Fields}
    (hlimit : ∀ fault, ¬ StopsAt room text fault)
    (hfirst : (pieces text.toList).findSome? (object? room) = some fields) :
    extract text room = .ok fields := by
  rw [extract_eq, findSome?_settles fun fault h => hlimit fault (stopsAt_iff.2 h), hfirst]
  rfl

theorem piece?_trim {p : Pattern} (hleast : 0 < p.least) (hpre : ∀ d ∈ pre, p.trims d)
    (hpost : ∀ d ∈ post, p.trims d) (s : List Char) :
    piece? (pre ++ (s ++ post)) p = piece? s p := by
  have hmatches := findAll_trim (x := s) hleast hpre hpost
  unfold piece?
  rw [find?_eq, find?_eq]
  unfold findAll at hmatches
  generalize p.scan (.start s) = ms at hmatches
  generalize p.scan (.start (pre ++ (s ++ post))) = ms' at hmatches
  cases hmatches with
  | nil => rfl
  | cons hm _ =>
    simp only [List.head?_cons, Option.bind_some]
    rw [hm.group?_eq]

theorem trims_fenced {tag : Pattern} (htag : tag.overlooks d) (hd : d ≠ '\x60') :
    (fenced tag).trims d := by
  have hd : (d == '\x60') = false := beq_eq_false_iff_ne.2 hd
  have hoverlooks : fence.overlooks d := overlooks_letters (fun c d => d == c) _
  have hstarts : fence.neverStarts d := neverStarts_letters (f := fun c d => d == c) rfl hd
  have hends : fence.neverEnds d := neverEnds_letters (f := fun c d => d == c) rfl hd
  simp [fenced, chain, blanks, lineEnd, atMostOne, htag, hoverlooks, hstarts, hends]

theorem piece?_fenced_between {tag : Pattern} (htag : ∀ d, tag.overlooks d) (hpre : '\x60' ∉ pre)
    (hpost : '\x60' ∉ post) (s : List Char) :
    piece? (pre ++ (s ++ post)) (fenced tag) = piece? s (fenced tag) := by
  have hleast : 0 < (fenced tag).least :=
    Nat.lt_of_lt_of_le (by decide : 0 < fence.least) (Nat.le_add_right _ _)
  apply piece?_trim hleast
  . intro d hd
    apply trims_fenced (htag d)
    rintro rfl
    exact hpre hd
  . intro d hd
    apply trims_fenced (htag d)
    rintro rfl
    exact hpost hd

/--
A text that writes an object between two others. There is no brace outside it that could take the
place of one of its own, and no backtick outside it. No number is too long, and no piece is refused
for its nesting before the matter is settled.
-/
structure InProse (room : Nat) (pre s post : String) (fields : Json.Fields) : Prop where
  read : Json.read s.toList room = .ok (.obj fields)
  head : s.toList.head? = some '{'
  last : s.toList.getLast? = some '}'
  noBrace : '{' ∉ pre.toList ∧ '}' ∉ post.toList
  noFence : '\x60' ∉ pre.toList ∧ '\x60' ∉ post.toList
  digits : ∀ n, HasDigits (pre ++ s ++ post).toList n → n ≤ maxIntDigits
  nesting : ∀ nest, ¬ StopsAt room (pre ++ s ++ post) (.tooDeep nest)

namespace InProse

variable {pre s post : String} {fields : Json.Fields}

theorem piece?_braces (h : InProse room pre s post fields) :
    piece? (pre.toList ++ (s.toList ++ post.toList)) braced = some s.toList := by
  obtain ⟨m, hm⟩ := exists_inner h.head h.last
  rw [hm, ← piece?_braced (m := m) h.noBrace.1 h.noBrace.2]
  simp

theorem toList_eq (pre s post : String) :
    (pre ++ s ++ post).toList = pre.toList ++ (s.toList ++ post.toList) := by
  simp only [String.toList_append, List.append_assoc]

theorem pieces_eq (h : InProse room pre s post fields) :
    pieces (pre ++ s ++ post).toList
      =
    (pre ++ s ++ post).toList
      :: ([fenced (exactly "json"), fenced empty].filterMap (piece? s.toList) ++ [s.toList]) := by
  have hjson := piece?_fenced_between (fun d => overlooks_letters (fun c d => d == c) "json".toList)
    h.noFence.1 h.noFence.2 s.toList
  have hany := piece?_fenced_between (fun d => overlooks_letters (fun c d => d == c) [])
    h.noFence.1 h.noFence.2 s.toList
  have hspans : spans = [fenced (exactly "json"), fenced empty] ++ [braced] := by
    rfl
  have hbraced : [braced].filterMap (piece? (pre ++ s ++ post).toList) = [s.toList] := by
    rw [toList_eq, List.filterMap_cons_some h.piece?_braces, List.filterMap_nil]
  rw [pieces, hspans, List.filterMap_append, hbraced]
  congr 2
  -- All backticks of the reply are in `s`, so its fenced blocks are those of `s`.
  apply List.filterMap_congr
  intro p hp
  rw [toList_eq]
  simp only [List.mem_cons, List.not_mem_nil, or_false] at hp
  rcases hp with rfl | rfl
  . exact hjson
  . exact hany

theorem not_stopsAt (h : InProse room pre s post fields) (fault : Json.ReadFault) :
    ¬ StopsAt room (pre ++ s ++ post) fault := by
  intro hstops
  cases fault with
  | malformed => cases hstops.1
  | tooLong n =>
    obtain ⟨hlong, hrun⟩ := exceeds_of_stopsAt hstops
    have hle := h.digits n hrun
    omega
  | tooDeep nest => exact h.nesting nest hstops

theorem isBlank_of_object? {other : Json.Fields} (h : InProse room pre s post fields)
    (hwhole : object? room (pre ++ s ++ post).toList = some other) :
    ∀ c ∈ (pre ++ post).toList, Json.isBlank c := by
  rw [object?_eq_some_iff, toList_eq] at hwhole
  have hpre : ∀ c ∈ pre.toList, Json.isBlank c := by
    -- A document that starts with anything else before the object is no object.
    intro c hc
    by_contra hblank
    obtain ⟨u, v, huv⟩ := List.append_of_mem hc
    have hnone := h.noBrace.1
    rw [huv, List.mem_append, List.mem_cons, not_or, not_or] at hnone
    rw [huv, List.append_assoc, List.cons_append] at hwhole
    exact head_skipBlanks_append u _ hnone.1 (by simpa using hblank) (Ne.symm hnone.2.1)
      (Json.head_of_read_obj hwhole)
  have hfront : Json.read (pre.toList ++ (s.toList ++ [])) room = .ok (.obj fields) :=
    Json.read_between_blanks h.read hpre (List.forall_mem_nil _)
  rw [List.append_nil] at hfront
  rw [← List.append_assoc] at hwhole
  intro c hc
  rw [String.toList_append, List.mem_append] at hc
  cases hc with
  | inl hc => exact hpre c hc
  | inr hc => exact Json.isBlank_of_read_append hfront hwhole c hc

theorem object?_whole (h : InProse room pre s post fields) :
    object? room (pre ++ s ++ post).toList
      =
    if (pre ++ post).toList.all Json.isBlank then some fields else none := by
  split
  . next hblank =>
    simp only [String.toList_append, List.all_append, Bool.and_eq_true, List.all_eq_true] at hblank
    rw [object?_eq_some_iff, toList_eq]
    exact Json.read_between_blanks h.read hblank.1 hblank.2
  . next hblank =>
    rw [Option.eq_none_iff_forall_ne_some]
    intro other hwhole
    exact hblank (List.all_eq_true.2 (h.isBlank_of_object? hwhole))

end InProse

/--
An object between other text is given back, unless a fenced block in one of its own strings holds an
object too. Then this one is taken, as long as the whole reply is not JSON.
-/
theorem extract_inProse {pre s post : String} {fields : Json.Fields}
    (h : InProse room pre s post fields) :
    extract (pre ++ s ++ post) room
      =
    .ok (if (pre ++ post).toList.all Json.isBlank then
      fields
    else
      (fencedObject? room s.toList).getD fields) := by
  have hfenced : ([fenced (exactly "json"), fenced empty].filterMap (piece? s.toList)).findSome?
      (object? room) = fencedObject? room s.toList := by
    rfl
  apply extract_of_not_stopsAt h.not_stopsAt
  rw [h.pieces_eq, List.findSome?_cons, h.object?_whole, List.findSome?_append, hfenced,
    List.findSome?_singleton, object?_eq_some_iff.2 h.read]
  by_cases hblank : (pre ++ post).toList.all Json.isBlank
  . rw [if_pos hblank, if_pos hblank]
  . rw [if_neg hblank, if_neg hblank]
    cases fencedObject? room s.toList <;> rfl

theorem extract_inProse_fence_in_string :
    InProse Json.maxNesting "So: " "\x7b\"a\": \"```b```\"\x7d" "." [("a", .str "```b```")]
      ∧ extract ("So: " ++ "\x7b\"a\": \"```b```\"\x7d" ++ ".")
        = .ok [("a", .str "```b```")] := by
  have h : InProse Json.maxNesting "So: " "\x7b\"a\": \"```b```\"\x7d" "."
      [("a", .str "```b```")] := by
    refine ⟨by cbv, rfl, rfl, by decide, by decide, ?_, ?_⟩
    . rintro n ⟨digits, hpart, rfl, _⟩
      exact hpart.length_le.trans (by decide)
    . intro nest hstops
      have hroom : Json.maxNesting < Json.openings _ := exceeds_of_stopsAt hstops
      exact absurd hroom (by decide)
  have hfenced : fencedObject? Json.maxNesting "\x7b\"a\": \"```b```\"\x7d".toList = none := by
    rw [← Option.isNone_iff_eq_none]
    decide +kernel
  refine ⟨h, ?_⟩
  rw [extract_inProse h, if_neg (by decide), hfenced, Option.getD_none]

/--
So not every object between other text is given back.
-/
theorem not_extract_inProse :
    ¬ ∀ pre s post fields, InProse Json.maxNesting pre s post fields →
      extract (pre ++ s ++ post) = .ok fields := by
  intro hclaim
  have h : InProse Json.maxNesting "So: " "\x7b\"a\": \"```\x7b\x7d```\"\x7d" ""
      [("a", .str "```\x7b\x7d```")] := by
    refine ⟨by cbv, rfl, rfl, by decide, by decide, ?_, ?_⟩
    . rintro n ⟨digits, hpart, rfl, _⟩
      exact hpart.length_le.trans (by decide)
    . intro nest hstops
      have hroom : Json.maxNesting < Json.openings _ := exceeds_of_stopsAt hstops
      exact absurd hroom (by decide)
  have hcount : (extract ("So: " ++ "\x7b\"a\": \"```\x7b\x7d```\"\x7d" ++ "")).toOption.map
      List.length = some 0 := by
    decide +kernel
  rw [hclaim _ _ _ _ h] at hcount
  cases hcount

end CodeGauge.Reply
