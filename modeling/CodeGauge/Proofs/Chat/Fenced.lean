import CodeGauge.Proofs.Chat.Reply
import CodeGauge.Proofs.Pattern.Search

/-!
This module contains the recovery of an object from a fenced block of a reply.
-/

namespace CodeGauge.Reply

open Pattern Text

variable {pre post : List Char}


/--
A content with a fence on the line behind it.
-/
def closed (y w : List Char) : List Char :=
  y ++ '\n' :: ("```".toList ++ w)

/--
A fence with a tag and blanks, and a content with a fence on the line behind it.
-/
def enclosed (tag : String) (gap y w : List Char) : List Char :=
  "```".toList ++ (tag.toList ++ (gap ++ closed y w))

theorem search_lineEnd {cur last : Cursor} {rest : List Char} {k : Cursor → Option Cursor}
    (hafter : cur.after = '\n' :: rest) (hk : k (cur.step '\n' rest) = some last) :
    lineEnd.search cur k = some last := by
  unfold lineEnd atMostOne
  rw [search_many_step hafter (by simp) rfl, search_many_stop, hk]
  . rfl
  . intro c rest' _
    exact .inl rfl

theorem search_lineEnd_stop {cur : Cursor} {k : Cursor → Option Cursor}
    (h : ∀ c ∈ cur.after.head?, c ≠ '\n') : lineEnd.search cur k = k cur := by
  apply search_many_stop
  intro c rest hafter
  exact .inr (by simpa [hafter] using h)

/--
The search for the end of a block, where the content lies between two positions.
-/
def endBlock (start stop : Cursor) : Option Cursor :=
  lineEnd.search (stop.record 1 start) fun mid => fence.search mid some

theorem endBlock_eq_some (start : Cursor) {stop : Cursor} {w : List Char}
    (hafter : stop.after = '\n' :: ("```".toList ++ w)) :
    ∃ last, endBlock start stop = some last := by
  exact ⟨_, search_lineEnd hafter (search_exactly rfl)⟩

theorem group_of_endBlock {start last : Cursor} {u rest : List Char}
    (hafter : start.after = u ++ rest)
    (h : endBlock start (start.advance u rest) = some last) : last.group? 1 = some u := by
  have hrecord := Cursor.group?_record_advance hafter 1
  obtain ⟨mid, hmid, hfence⟩ := List.exists_of_findSome?_eq_some h
  have hgroups : mid.groups = ((start.advance u rest).record 1 start).groups := by
    exact Cursor.of_mem_sweep (I := fun x => x.groups = _) (fun _ _ _ _ h => h) hmid rfl
  obtain ⟨left, _, hlast⟩ := exists_of_search_exactly hfence
  cases hlast
  rw [← hrecord]
  unfold Cursor.group?
  rw [← hgroups]
  rfl

theorem search_content {cur : Cursor} {y w : List Char} (hafter : cur.after = closed y w)
    (hhead : ∀ c ∈ cur.after.head?, c ≠ '\n') :
    ∃ u v last, y = u ++ v ∧ last.group? 1 = some u
      ∧ (chain [lineEnd, group 1 (few (fun _ => true) none), lineEnd, fence]).search cur some
          = some last := by
  have hclose : (cur.advance y ('\n' :: ("```".toList ++ w))).after
      = '\n' :: ("```".toList ++ w) := by
    rfl
  -- The block can end behind `y`, so it ends there or at a fence within `y`.
  obtain ⟨last, hend⟩ := endBlock_eq_some cur hclose
  obtain ⟨u, v, last, rfl, hlast, hfew⟩ := search_few hafter (fun _ _ => rfl) hend
  rw [closed, List.append_assoc] at hafter
  refine ⟨u, v, last, rfl, group_of_endBlock hafter hlast, ?_⟩
  rw [search_chain, search_lineEnd_stop hhead]
  exact hfew

theorem search_fenced {cur : Cursor} {tag : String} {gap y w : List Char}
    (hafter : cur.after = enclosed tag gap y w) (hgap : ∀ c ∈ gap, isBlank c)
    (hhead : ∀ c ∈ (closed y w).head?, isBlank c = false) :
    ∃ u v last, y = u ++ v ∧ last.group? 1 = some u
      ∧ (fenced (exactly tag)).search cur some = some last := by
  have hline : ∀ c ∈ (closed y w).head?, c ≠ '\n' := by
    rintro c hc rfl
    have hnot := hhead _ hc
    simp [isBlank, isSpace] at hnot
  let mid := (cur.advance "```".toList (tag.toList ++ (gap ++ closed y w))).advance tag.toList
    (gap ++ closed y w)
  have hmid : (mid.advance gap (closed y w)).after = closed y w := by
    rfl
  obtain ⟨u, v, last, hy, hgroup, hcontent⟩ := search_content hmid hline
  refine ⟨u, v, last, hy, hgroup, ?_⟩
  unfold fenced
  rw [search_chain, fence, search_exactly hafter, search_chain, search_exactly rfl, search_chain,
    blanks]
  exact search_many rfl hgap hhead hcontent

theorem matchAt?_fenced_eq_none {tag : Pattern} {cur : Cursor} {c : Char} {rest : List Char}
    (hafter : cur.after = c :: rest) (hc : c ≠ '\x60') : (fenced tag).matchAt? cur = none := by
  cases h : (fenced tag).matchAt? cur with
  | none => rfl
  | some last =>
    unfold matchAt? fenced at h
    rw [search_chain] at h
    obtain ⟨more, hmore, _⟩ := exists_of_search_exactly h
    rw [hafter] at hmore
    exact (hc (List.cons.inj hmore).1).elim

theorem piece?_fenced (tag : String) {gap : List Char} (y w : List Char) (hpre : '\x60' ∉ pre)
    (hgap : ∀ c ∈ gap, isBlank c) (hhead : ∀ c ∈ (closed y w).head?, isBlank c = false) :
    ∃ u, u <+: y
      ∧ piece? (pre ++ enclosed tag gap y w) (fenced (exactly tag)) = some (strip isBlank u) := by
  have hafter : (Cursor.between pre (enclosed tag gap y w)).after = enclosed tag gap y w := by
    rfl
  obtain ⟨u, v, last, rfl, hgroup, hsearch⟩ := search_fenced hafter hgap hhead
  refine ⟨u, List.prefix_append u v, ?_⟩
  have hskip : ∀ c ∈ pre, ∀ cur rest, cur.after = c :: rest
      → (fenced (exactly tag)).matchAt? cur = none := by
    intro c hc cur rest hafter
    apply matchAt?_fenced_eq_none hafter
    rintro rfl
    exact hpre hc
  rw [piece?, find?_of_skip hskip hsearch]
  dsimp only [Option.bind_some, Match.group?]
  rw [hgroup, Option.map_some]

theorem matchAt?_braced_eq_none {cur : Cursor} {c : Char} {rest : List Char}
    (hafter : cur.after = c :: rest) (hc : c ≠ '{') : braced.matchAt? cur = none := by
  unfold matchAt? braced
  dsimp only [search]
  rw [search_chain, char, search_one_eq_none]
  intro d rest' hafter'
  rw [hafter] at hafter'
  obtain ⟨rfl, _⟩ := List.cons.inj hafter'
  exact beq_eq_false_iff_ne.2 hc

theorem matchAt?_braced {cur : Cursor} {m : List Char}
    (hafter : cur.after = '{' :: (m ++ '}' :: post)) (hpost : '}' ∉ post) :
    braced.matchAt? cur = some ((cur.advance ('{' :: (m ++ ['}'])) post).record 1 cur) := by
  unfold matchAt? braced
  dsimp only [search]
  rw [search_chain, char, search_one hafter rfl, search_chain]
  apply search_many_char rfl hpost
  rw [Cursor.step_advance]

theorem strip_braces (m : List Char) :
    strip isBlank ('{' :: (m ++ ['}'])) = '{' :: (m ++ ['}']) := by
  apply strip_eq_self
  . simp [isBlank, isSpace]
  . simp [List.getLast?_cons, isBlank, isSpace]

theorem piece?_braced {m : List Char} (hpre : '{' ∉ pre) (hpost : '}' ∉ post) :
    piece? (pre ++ ('{' :: (m ++ '}' :: post))) braced = some ('{' :: (m ++ ['}'])) := by
  have hskip : ∀ c ∈ pre, ∀ cur rest, cur.after = c :: rest → braced.matchAt? cur = none := by
    intro c hc cur rest hafter
    apply matchAt?_braced_eq_none hafter
    rintro rfl
    exact hpre hc
  rw [piece?, find?_of_skip hskip (matchAt?_braced rfl hpost)]
  dsimp only [Option.bind_some, Match.group?]
  rw [Cursor.group?_record_advance, Option.map_some, strip_braces]
  simp [Cursor.between]

theorem settles_eq_none {room : Nat} {piece : List Char}
    (hlimit : ∀ fault, isLimit fault → Json.read piece room ≠ .error fault)
    (hobject : ∀ fields, Json.read piece room ≠ .ok (.obj fields)) : settles room piece = none := by
  unfold settles
  split
  . next heq => exact (hobject _ heq).elim
  . rfl
  . next heq => exact if_neg fun h => hlimit _ h heq

theorem head_skipBlanks_append {c : Char} (pre rest : List Char) (hpre : '{' ∉ pre)
    (hblank : Json.isBlank c = false) (hc : c ≠ '{') :
    (Json.skipBlanks (pre ++ c :: rest)).head? ≠ some '{' := by
  induction pre with
  | nil => simp [Json.skipBlanks, hblank, hc]
  | cons d pre ih =>
    have hd : d ≠ '{' := by
      rintro rfl
      exact hpre List.mem_cons_self
    have hpre : '{' ∉ pre := fun hmem => hpre (List.mem_cons_of_mem d hmem)
    unfold Json.skipBlanks at ih ⊢
    rw [List.cons_append]
    by_cases hblank : Json.isBlank d
    . rw [List.dropWhile_cons_of_pos hblank]
      exact ih hpre
    . rw [List.dropWhile_cons_of_neg hblank]
      simpa using hd

theorem head_of_prefix {s u : List Char} {c : Char} (hu : u <+: s) (hc : c ∈ u.head?) :
    s.head? = some c := by
  obtain ⟨v, rfl⟩ := hu
  rw [List.head?_append, hc, Option.some_or]

theorem head_skipBlanks_of_front {piece : List Char} {c d : Char} {rest : List Char}
    (hpiece : piece <+: c :: rest) (hblank : Json.isBlank c = false)
    (hd : (Json.skipBlanks piece).head? = some d) : d = c := by
  cases piece with
  | nil => cases hd
  | cons e piece =>
    obtain ⟨rfl, _⟩ := List.cons_prefix_cons.1 hpiece
    rw [Json.skipBlanks, List.dropWhile_cons_of_neg (by simp [hblank])] at hd
    exact (Option.some.inj hd).symm

/--
A piece that starts with a letter or the like settles nothing, unless it holds a number that is
refused.
-/
theorem settles_of_head {room : Nat} {piece : List Char} {c : Char} {rest : List Char}
    (hpiece : piece <+: c :: rest) (hblank : Json.isBlank c = false) (harray : c ≠ '[')
    (hobject : c ≠ '{') (hlong : ∀ n, Json.read piece room ≠ .error (.tooLong n)) :
    settles room piece = none := by
  apply settles_eq_none
  . rintro (_ | n | nest) hlimit hread
    . cases hlimit
    . exact hlong n hread
    . cases Json.head_of_read_tooDeep hread with
      | inl hhead => exact harray (head_skipBlanks_of_front hpiece hblank hhead).symm
      | inr hhead => exact hobject (head_skipBlanks_of_front hpiece hblank hhead).symm
  . intro fields hread
    have hhead := Json.head_of_read_obj hread
    exact hobject (head_skipBlanks_of_front hpiece hblank hhead).symm

theorem settles_of_prefix {room : Nat} {s u : List Char} {fields : Json.Fields}
    (hread : Json.read s room = .ok (.obj fields)) (hhead : s.head? = some '{')
    (hlast : s.getLast? = some '}') (hu : u <+: s)
    (hlong : ∀ n, Json.read (strip isBlank u) room ≠ .error (.tooLong n)) :
    settles room (strip isBlank u) = none
      ∨ settles room (strip isBlank u) = some (.ok fields) := by
  have hfront : ∀ c ∈ u.head?, isBlank c = false := by
    intro c hc
    have hc := head_of_prefix hu hc
    rw [hhead] at hc
    cases hc
    rfl
  have hfront : strip isBlank u <+: s := (strip_isPrefix hfront).trans hu
  by_cases hs : strip isBlank u = s
  . refine .inr ?_
    rw [hs, settles, hread]
  . -- A front part that is cut off within the object is neither an object itself nor too deep.
    refine .inl (settles_eq_none ?_ ?_)
    . rintro (_ | n | nest) hlimit hfault
      . cases hlimit
      . exact hlong n hfault
      . exact Json.read_ne_tooDeep_of_prefix hread hfront hfault
    . intro fields' hobject
      apply hs
      apply Json.eq_of_prefix_of_read hobject hread hfront
      intro c hc
      rw [hlast] at hc
      cases hc
      rfl

theorem exists_inner {s : List Char} (hhead : s.head? = some '{') (hlast : s.getLast? = some '}') :
    ∃ m, s = '{' :: (m ++ ['}']) := by
  obtain ⟨tail, rfl⟩ := List.head?_eq_some_iff.1 hhead
  cases htail : tail.getLast? with
  | none =>
    rw [List.getLast?_eq_none_iff.1 htail] at hlast
    cases hlast
  | some c =>
    rw [List.getLast?_cons, htail] at hlast
    cases hlast
    obtain ⟨m, rfl⟩ := List.getLast?_eq_some_iff.1 htail
    exact ⟨m, rfl⟩

/--
A text with a fenced block that is marked as JSON.
-/
def block (pre s post : List Char) : List Char :=
  pre ++ ("```json\n".toList ++ (s ++ ("\n```".toList ++ post)))

theorem block_fence (pre s post : List Char) :
    block pre s post
      =
    pre ++ '\x60' :: ("``json\n".toList ++ (s ++ ("\n```".toList ++ post))) := by
  rfl

theorem block_json (pre s post : List Char) :
    block pre s post = pre ++ enclosed "json" ['\n'] s post := by
  rfl

theorem block_any (pre s post : List Char) :
    block pre s post = pre ++ enclosed "" [] ("json\n".toList ++ s) post := by
  rw [enclosed, closed, List.append_assoc "json\n".toList]
  rfl

theorem block_braces (pre m post : List Char) :
    block pre ('{' :: (m ++ ['}'])) post
      =
    (pre ++ "```json\n".toList) ++ ('{' :: (m ++ '}' :: ("\n```".toList ++ post))) := by
  rw [block, List.append_assoc, List.cons_append, List.append_assoc]
  rfl

theorem pieces_block {pre s post : List Char} (hhead : s.head? = some '{')
    (hlast : s.getLast? = some '}') (hpre : '{' ∉ pre) (hfence : '\x60' ∉ pre)
    (hpost : '}' ∉ post) :
    ∃ u u', u <+: s ∧ u' <+: "json\n".toList ++ s
      ∧ pieces (block pre s post) = [block pre s post, strip isBlank u, strip isBlank u', s] := by
  obtain ⟨m, rfl⟩ := exists_inner hhead hlast
  have hgap : ∀ c ∈ ['\n'], isBlank c := by
    simp [isBlank, isSpace]
  obtain ⟨u, hu, hjson⟩ := piece?_fenced "json" ('{' :: (m ++ ['}'])) post hfence hgap
    (by simp [closed, isBlank, isSpace])
  obtain ⟨u', hu', hany⟩ := piece?_fenced "" ("json\n".toList ++ '{' :: (m ++ ['}'])) post hfence
    (List.forall_mem_nil _) (by simp [closed, isBlank, isSpace])
  have hbefore : '{' ∉ pre ++ "```json\n".toList := by
    simp [hpre]
  have hbehind : '}' ∉ "\n```".toList ++ post := by
    simp [hpost]
  have hbraces := piece?_braced (m := m) hbefore hbehind
  have hempty : exactly "" = empty := by rfl
  rw [← block_json] at hjson
  rw [← block_any, hempty] at hany
  rw [← block_braces] at hbraces
  refine ⟨u, u', hu, hu', ?_⟩
  unfold pieces spans
  rw [List.filterMap_cons_some hjson, List.filterMap_cons_some hany,
    List.filterMap_cons_some hbraces, List.filterMap_nil]

/--
A text whose first fence comes before all braces is no object, so it settles something only if it is
refused.
-/
theorem settles_whole {room : Nat} {cs pre rest : List Char} (hcs : cs = pre ++ '\x60' :: rest)
    (hpre : '{' ∉ pre) (hlong : ∀ n, Json.read cs room ≠ .error (.tooLong n)) :
    settles room cs
      =
    match Json.read cs room with
    | .error (.tooDeep nest) => some (.error (.unreadable (.tooDeep nest)))
    | _ => none := by
  unfold settles
  cases hread : Json.read cs room with
  | ok value =>
    cases value with
    | obj fields =>
      have hhead := Json.head_of_read_obj hread
      rw [hcs] at hhead
      exact (head_skipBlanks_append pre rest hpre rfl (by decide) hhead).elim
    | _ => rfl
  | error fault =>
    cases fault with
    | malformed => rfl
    | tooLong n => exact (hlong n hread).elim
    | tooDeep nest => rfl

/--
A fenced block gives back the object that is written in it, whatever its strings hold: the fences in
them cut off pieces that are no objects, and the span between the outermost braces is the object.
Only if the text in front of the block opens more arrays than there is room for, the reply as a
whole is refused for it.
-/
theorem extract_fenced {room : Nat} {pre s post : String} {fields : Json.Fields}
    (hread : Json.read s.toList room = .ok (.obj fields)) (hhead : s.toList.head? = some '{')
    (hlast : s.toList.getLast? = some '}') (hpre : '{' ∉ pre.toList)
    (hfence : '\x60' ∉ pre.toList) (hpost : '}' ∉ post.toList)
    (hdigits : ∀ n, HasDigits (pre ++ "```json\n" ++ s ++ "\n```" ++ post).toList n
      → n ≤ maxIntDigits) :
    extract (pre ++ "```json\n" ++ s ++ "\n```" ++ post) room
      =
    match Json.read (pre ++ "```json\n" ++ s ++ "\n```" ++ post).toList room with
    | .error (.tooDeep nest) => .error (.unreadable (.tooDeep nest))
    | _ => .ok fields := by
  generalize htext : pre ++ "```json\n" ++ s ++ "\n```" ++ post = text at hdigits ⊢
  have hblock : text.toList = block pre.toList s.toList post.toList := by
    simp only [← htext, block, String.toList_append, List.append_assoc]
  obtain ⟨u, u', hu, hu', hpieces⟩ := pieces_block hhead hlast hpre hfence hpost
  rw [← hblock] at hpieces
  have hlong : ∀ piece ∈ pieces text.toList, ∀ n,
      Json.read piece room ≠ .error (.tooLong n) := by
    intro piece hpiece n hread
    obtain ⟨hlong, hrun⟩ := Json.read_tooLong hread
    have hle := hdigits n (hrun.mono (infix_of_mem_pieces hpiece))
    omega
  simp only [hpieces, List.forall_mem_cons] at hlong
  obtain ⟨hlongWhole, hlongJson, hlongAny, _⟩ := hlong
  have hwhole := settles_whole (hblock.trans (block_fence ..)) hpre hlongWhole
  have hany : settles room (strip isBlank u') = none := by
    have hfront : ∀ c ∈ u'.head?, isBlank c = false := by
      intro c hc
      cases head_of_prefix hu' hc
      rfl
    exact settles_of_head ((strip_isPrefix hfront).trans hu') rfl (by decide) (by decide) hlongAny
  have hrest : [strip isBlank u, strip isBlank u', s.toList].findSome? (settles room)
      = some (.ok fields) := by
    rw [List.findSome?_cons]
    cases settles_of_prefix hread hhead hlast hu hlongJson with
    | inl hjson =>
      rw [hjson, List.findSome?_cons, hany, List.findSome?_cons, settles, hread]
    | inr hjson => rw [hjson]
  rw [extract_eq, hpieces, List.findSome?_cons, hwhole, hrest]
  cases Json.read text.toList room with
  | ok value => rfl
  | error fault => cases fault <;> rfl

theorem extract_fenced_fence_in_string :
    Json.read "\x7b\"fence\": \"```\"\x7d".toList = .ok (.obj [("fence", .str "```")])
      ∧ extract ("Sure.\n" ++ "```json\n" ++ "\x7b\"fence\": \"```\"\x7d" ++ "\n```" ++ "\n")
          = .ok [("fence", .str "```")]
      ∧ extract (.ofList (List.replicate 951 '[') ++ "```json\n" ++ "\x7b\"fence\": \"```\"\x7d"
            ++ "\n```" ++ "")
          = .error (.unreadable (.tooDeep .array)) := by
  have hread : Json.read "\x7b\"fence\": \"```\"\x7d".toList
      = .ok (.obj [("fence", .str "```")]) := by
    cbv
  refine ⟨hread, ?_, ?_⟩
  . rw [extract_fenced hread rfl rfl (by decide) (by decide) (by decide)]
    . rfl
    . rintro n ⟨digits, hpart, rfl, _⟩
      exact hpart.length_le.trans (by decide)
  . have hbrackets (c : Char) (hc : c ≠ '[') :
        c ∉ (String.ofList (List.replicate 951 '[')).toList := by
      rw [String.toList_ofList]
      exact fun hmem => hc (List.eq_of_mem_replicate hmem)
    rw [extract_fenced hread rfl rfl (hbrackets _ (by decide)) (hbrackets _ (by decide))
      (by decide)]
    . simp only [String.toList_append, String.toList_ofList, List.append_assoc]
      rw [Json.read_brackets (show Json.maxNesting < 951 by decide)]
    . rintro n ⟨digits, hpart, rfl, _⟩
      apply hpart.length_le.trans
      simp only [String.toList_append, String.toList_ofList, List.length_append,
        List.length_replicate]
      decide

end CodeGauge.Reply
