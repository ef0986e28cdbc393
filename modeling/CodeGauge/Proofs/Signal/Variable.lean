import CodeGauge.Proofs.Signal.Divisor

/-!
This module contains the variables whose halving in the body of a loop is recognised. The names may
hold dollar signs, which are no word characters, so that a name that starts with one has no border
in front of it.
-/

namespace CodeGauge.Signal

open Pattern Text

variable {cur stop : Cursor} {past rest text u v w w' : List Char} {c : Char}


/--
A variable name, where a dollar sign counts as a letter.
-/
structure IsName (v : List Char) : Prop where
  head : ∃ c ∈ v.head?, isLetterForm c ∨ c = '_' ∨ c = '$'
  tail : ∀ c ∈ v.tail, isWord c ∨ c = '$'

namespace IsName

theorem ne_nil (hv : IsName v) : v ≠ [] := by
  rintro rfl
  obtain ⟨c, hc, _⟩ := hv.head
  cases hc

theorem isWord_or (hv : IsName v) (hc : c ∈ v) : isWord c ∨ c = '$' := by
  obtain ⟨d, v, rfl⟩ := List.exists_cons_of_ne_nil hv.ne_nil
  rcases List.mem_cons.1 hc with rfl | hc
  . obtain ⟨c, ⟨⟩, hletter | rfl | rfl⟩ := hv.head
    . exact .inl (isWord_of_isLetterForm hletter)
    . exact .inl (by decide)
    . exact .inr rfl
  . exact hv.tail c hc

theorem not_isBlank (hv : IsName v) (hc : c ∈ v) : isBlank c = false := by
  rcases hv.isWord_or hc with hword | rfl
  . exact isBlank_of_isWord hword
  . rfl

theorem not_mem (hv : IsName v) (hword : isWord c = false) (hne : c ≠ '$') : c ∉ v := by
  intro hc
  rcases hv.isWord_or hc with h | h
  . rw [hword] at h
    cases h
  . exact hne h

theorem any_isWord_iff (hv : IsName v) : v.head?.any isWord ↔ v.head? ≠ some '$' := by
  obtain ⟨c, v, rfl⟩ := List.exists_cons_of_ne_nil hv.ne_nil
  rcases hv.isWord_or List.mem_cons_self with hword | rfl
  . have hne : c ≠ '$' := by
      rintro rfl
      cases hword
    simp [hword, hne]
  . simp [show isWord '$' = false by decide]

end IsName

theorem mem_ends_variableName :
    stop ∈ variableName.ends cur
      ↔
    ∃ v rest, cur.after = v ++ rest ∧ IsName v ∧ stop = cur.advance v rest := by
  unfold variableName
  simp only [mem_ends_seq, mem_ends_one, mem_ends_many, Bool.or_eq_true, beq_iff_eq, or_assoc]
  constructor
  . rintro ⟨_, ⟨c, _, hafter, hc, rfl⟩, v, rest, rfl, hv, _, rfl⟩
    refine ⟨c :: v, rest, hafter, ⟨⟨c, rfl, hc⟩, hv⟩, ?_⟩
    rw [Cursor.advance_advance, List.singleton_append]
  . rintro ⟨v, rest, hafter, hv, rfl⟩
    obtain ⟨c, v, rfl⟩ := List.exists_cons_of_ne_nil hv.ne_nil
    obtain ⟨_, ⟨⟩, hc⟩ := hv.head
    refine ⟨_, ⟨c, v ++ rest, hafter, hc, rfl⟩, v, rest, rfl, hv.tail, by simp, ?_⟩
    rw [Cursor.advance_advance, List.singleton_append]

section

variable {b l r : List Char}

/--
A text without blanks that stands in another one between blanks stands in what is between them.
-/
theorem exists_of_blanks_around (hw : ∀ c ∈ w, isBlank c) (hw' : ∀ c ∈ w', isBlank c) (hne : b ≠ [])
    (hb : ∀ c ∈ b, isBlank c = false) (h : l ++ (b ++ r) = w ++ (v ++ w')) :
    ∃ l' r', l = w ++ l' ∧ v = l' ++ (b ++ r') ∧ r = r' ++ w' := by
  have hboth {c : Char} (hblank : isBlank c) (hc : c ∈ b) : False := by
    rw [hb c hc] at hblank
    cases hblank
  have hbefore : ∃ l', l = w ++ l' ∧ v ++ w' = l' ++ (b ++ r) := by
    rcases List.append_eq_append_iff.1 h with ⟨z, rfl, hz⟩ | ⟨z, rfl, hz⟩
    . cases z with
      | nil => exact ⟨[], by simp, by simpa using hz.symm⟩
      | cons c z =>
        obtain ⟨d, b, rfl⟩ := List.exists_cons_of_ne_nil hne
        obtain ⟨rfl, _⟩ := List.cons.inj hz
        exact (hboth (hw d (by simp)) (by simp)).elim
    . exact ⟨z, rfl, hz⟩
  obtain ⟨l', rfl, hbehind⟩ := hbefore
  rw [← List.append_assoc] at hbehind
  rcases List.append_eq_append_iff.1 hbehind with ⟨z, hz, rfl⟩ | ⟨z, rfl, rfl⟩
  . obtain rfl | ⟨z, d, rfl⟩ := List.eq_nil_or_concat z
    . exact ⟨l', [], rfl, by simpa using hz.symm, by simp⟩
    . have hlast : b.getLast? = some d := by
        rw [← List.getLast?_append_of_ne_nil l' hne, hz]
        simp
      exact (hboth (hw' d (by simp)) (List.mem_of_getLast? hlast)).elim
  . exact ⟨l', z, rfl, by simp, rfl⟩

end

/--
A statement in which a variable becomes half of itself, with the given blanks between its parts.
-/
def halvingStatement (v w : List Char) : List Char :=
  ' ' :: (v ++ w) ++ '=' :: (w ++ (v ++ w) ++ '/' :: (w ++ "2; ".toList))

theorem halvingStatement_eq (v w : List Char) :
    halvingStatement v w
      =
    (' ' :: (v ++ w) ++ '=' :: (w ++ (v ++ w))) ++ '/' :: (w ++ "2; ".toList) := by
  simp only [halvingStatement, List.append_assoc, List.cons_append]

/--
The pattern of such a statement.
-/
def variableHalving : Pattern :=
  chain [boundary, group 1 variableName, blanks, oneOf [exactly "=", exactly "/=", exactly "//="],
    blanks, again 1, blanks, slashes, blanks, char '2', boundary]

/--
The signs of the assignments in which a variable becomes half of itself.
-/
def assignmentSigns : List String :=
  ["=", "/=", "//="]

theorem exists_of_mem_ends_variableHalving (h : stop ∈ variableHalving.ends (.between past rest)) :
    isBorder past rest ∧ ∃ x gap gap' y gap'' rest', ∃ sign ∈ assignmentSigns,
      rest = x ++ (gap ++ (sign.toList ++ (gap' ++ (y ++ (gap'' ++ '/' :: rest'))))) ∧ IsName x
        ∧ (∀ c ∈ gap, isBlank c) ∧ (∀ c ∈ gap', isBlank c) ∧ y.length = x.length
        ∧ (∀ c ∈ gap'', isBlank c) := by
  have hsigns : oneOf [exactly "=", exactly "/=", exactly "//="]
      = oneOf (assignmentSigns.map exactly) := rfl
  unfold variableHalving at h
  simp only [mem_ends_chain_cons, mem_ends_boundary, mem_ends_group, mem_ends_variableName,
    mem_ends_blanks, hsigns, mem_ends_signs, mem_ends_again, slashes, mem_ends_seq, mem_ends_char,
    atBoundary_between] at h
  obtain ⟨_, ⟨hborder, rfl⟩, _, ⟨_, ⟨x, r₁, hx, hname, rfl⟩, rfl⟩, _, ⟨gap, r₂, hr₁, hgap, rfl⟩, _,
    ⟨sign, hsign, r₃, hr₂, rfl⟩, _, ⟨gap', r₄, hr₃, hgap', rfl⟩, _, ⟨span, hgroup, hpass⟩, _,
    ⟨gap'', r₆, hr₅, hgap'', rfl⟩, _, ⟨_, ⟨r₇, hr₆, _⟩, _⟩, _⟩ := h
  obtain ⟨y, r₅, hr₄, hlength, rfl⟩ := Cursor.exists_of_pass? hpass
  have hspan : x = span := by
    rw [← Option.some_inj, ← hgroup]
    exact (Cursor.group?_record_advance hx 1).symm
  obtain rfl : r₁ = gap ++ r₂ := hr₁
  obtain rfl : r₂ = sign.toList ++ r₃ := hr₂
  obtain rfl : r₃ = gap' ++ r₄ := hr₃
  obtain rfl : r₄ = y ++ r₅ := hr₄
  obtain rfl : r₅ = gap'' ++ r₆ := hr₅
  obtain rfl : r₆ = '/' :: r₇ := hr₆
  exact ⟨hborder, x, gap, gap', y, gap'', r₇, sign, hsign, hx, hname, hgap, hgap',
    by rw [hlength, hspan], hgap''⟩

section

variable (hv : IsName v) (hw : ∀ c ∈ w, isBlank c)

include hv hw

theorem not_mem_side (hword : isWord c = false) (hblank : isBlank c = false) (hne : c ≠ '$') :
    c ∉ v ∧ c ∉ w :=
  ⟨hv.not_mem hword hne, not_mem_of_isBlank hblank hw⟩

/--
The only sign of an assignment, and the only slash, cut such a statement into its sides.
-/
theorem sides_of_statement {gap gap' gap'' x y : List Char} {sign : String}
    (hsign : sign ∈ assignmentSigns)
    (h : halvingStatement v w
      = past ++ (x ++ (gap ++ (sign.toList ++ (gap' ++ (y ++ (gap'' ++ '/' :: rest))))))) :
    past ++ (x ++ gap) = ' ' :: (v ++ w) ∧ gap' ++ (y ++ gap'') = w ++ (v ++ w) := by
  obtain ⟨hequal, hequal'⟩ := not_mem_side hv hw (c := '=') (by decide) (by decide) (by decide)
  obtain ⟨hslash, hslash'⟩ := not_mem_side hv hw (c := '/') (by decide) (by decide) (by decide)
  have hslashes : '/' ∉ ' ' :: (v ++ w) ++ '=' :: (w ++ (v ++ w)) := by
    simp [hslash, hslash']
  have hsides : past ++ (x ++ gap) ++ (sign.toList ++ (gap' ++ (y ++ gap'')))
      = ' ' :: (v ++ w) ++ '=' :: (w ++ (v ++ w)) := by
    have hcut : (' ' :: (v ++ w) ++ '=' :: (w ++ (v ++ w))) ++ '/' :: (w ++ "2; ".toList)
        = (past ++ (x ++ gap) ++ (sign.toList ++ (gap' ++ (y ++ gap'')))) ++ '/' :: rest := by
      simpa [halvingStatement_eq] using h
    exact (eq_of_unique_cut hcut hslashes (by simp [hslash'])).1
  have honly : sign = "=" := by
    have hsigns : ∀ sign ∈ assignmentSigns, '/' ∉ sign.toList → sign = "=" := by decide
    apply hsigns sign hsign
    rw [← hsides] at hslashes
    intro hmem
    exact hslashes (by simp [hmem])
  subst honly
  exact eq_of_unique_cut hsides.symm (by simp [hequal, hequal']) (by simp [hequal, hequal'])

theorem isWord_of_variableHalving (h : variableHalving.occurs (halvingStatement v w)) :
    v.head?.any isWord := by
  obtain ⟨past, rest, htext, hends⟩ := (occurs_iff_between _ _).1 h
  obtain ⟨stop, hstop⟩ := List.exists_mem_of_ne_nil _ hends
  obtain ⟨hborder, x, gap, gap', y, gap'', rest', sign, hsign, rfl, hx, hgap, hgap', hlength,
    hgap''⟩ := exists_of_mem_ends_variableHalving hstop
  obtain ⟨hleft, hright⟩ := sides_of_statement hv hw hsign htext
  obtain ⟨l, r, rfl, hl, _⟩ := exists_of_blanks_around (w := [' ']) (by decide) hw hx.ne_nil
    (fun _ => hx.not_isBlank) hleft
  obtain ⟨l', r', _, hr, _⟩ := exists_of_blanks_around hgap' hgap'' hv.ne_nil
    (fun _ => hv.not_isBlank) hright.symm
  -- What is repeated has room only on the right side as a whole.
  have hlengths := And.intro (congrArg List.length hl) (congrArg List.length hr)
  simp only [List.length_append] at hlengths
  obtain rfl : l = [] := List.length_eq_zero_iff.1 (by omega)
  obtain rfl : r = [] := List.length_eq_zero_iff.1 (by omega)
  simp only [List.nil_append, List.append_nil] at hl
  subst hl
  obtain ⟨c, v, rfl⟩ := List.exists_cons_of_ne_nil hv.ne_nil
  have hblank : isWord ' ' = false := by decide
  simpa [isBorder, hblank] using hborder

theorem variableHalving_of_isWord (h : v.head?.any isWord) :
    variableHalving.occurs (halvingStatement v w) := by
  have htext : halvingStatement v w
      = [' '] ++ (v ++ (w ++ '=' :: (w ++ (v ++ w) ++ '/' :: (w ++ "2; ".toList)))) := by
    simp [halvingStatement]
  refine (occurs_iff_between _ _).2 ⟨_, _, htext, ?_⟩
  refine ends_chain_cons_ne_nil (mem_ends_boundary.2 ⟨?_, rfl⟩) ?_
  . rw [atBoundary_between]
    apply isBorder_of_starts (by decide)
    rwa [List.head?_append_of_ne_nil _ hv.ne_nil]
  refine ends_chain_cons_ne_nil
    (mem_ends_group.2 ⟨_, mem_ends_variableName.2 ⟨v, _, rfl, hv, rfl⟩, rfl⟩) ?_
  refine ends_chain_cons_ne_nil (mem_ends_blanks.2 ⟨w, _, rfl, hw, rfl⟩) ?_
  refine ends_chain_cons_ne_nil
    (mem_ends_oneOf.2 ⟨exactly "=", by simp, mem_ends_exactly.2 ⟨_, rfl, rfl⟩⟩) ?_
  refine ends_chain_cons_ne_nil
    (mem_ends_blanks.2 ⟨w, v ++ (w ++ '/' :: (w ++ "2; ".toList)), by simp, hw, rfl⟩) ?_
  refine ends_chain_cons_ne_nil (mem_ends_again.2 ⟨v, ?_, Cursor.pass?_self rfl⟩) ?_
  . exact Cursor.group?_record_advance rfl 1
  refine ends_chain_cons_ne_nil (mem_ends_blanks.2 ⟨w, _, rfl, hw, rfl⟩) ?_
  refine ends_chain_cons_ne_nil (mem_ends_seq.2 ⟨_, mem_ends_char.2 ⟨_, rfl, rfl⟩,
    mem_ends_atMostOne.2 ⟨[], by simp, _, rfl, rfl⟩⟩) ?_
  refine ends_chain_cons_ne_nil (mem_ends_blanks.2 ⟨w, _, rfl, hw, rfl⟩) ?_
  refine ends_chain_cons_ne_nil (mem_ends_char.2 ⟨_, rfl, rfl⟩) ?_
  refine ends_chain_cons_ne_nil (mem_ends_boundary.2 ⟨?_, rfl⟩) ?_
  . rfl
  exact List.cons_ne_nil _ _

theorem not_mem_statement (hword : isWord c = false) (hblank : isBlank c = false)
    (hc : c ∉ "$ =/2;".toList) : c ∉ halvingStatement v w := by
  have hne : c ≠ '$' := by
    rintro rfl
    exact hc (by decide)
  obtain ⟨hv', hw'⟩ := not_mem_side hv hw hword hblank hne
  have hrest : c ∉ " =/2; ".toList := by
    have hsame : ∀ d ∈ " =/2; ".toList, d ∈ "$ =/2;".toList := by decide
    exact fun hmem => hc (hsame c hmem)
  simpa [halvingStatement, hv', hw'] using hrest

/--
Such a statement halves its variable if and only if the name starts with a word character.
-/
theorem halving_statement_iff : halving.occurs (halvingStatement v w) ↔ v.head?.any isWord := by
  constructor
  . intro h
    have hgreater := not_mem_statement hv hw (c := '>') (by decide) (by decide) (by decide)
    have hparen := not_mem_statement hv hw (c := ')') (by decide) (by decide) (by decide)
    have hother {p : Pattern} (hp : p.needsOther (halvingStatement v w)) :
        ¬ p.occurs (halvingStatement v w) :=
      not_occurs_of_needsOther hp fun _ => id
    have hshift {signs : String} {ps : List Pattern} (hsigns : '>' ∈ signs.toList) :
        (chain (exactly signs :: ps)).needsOther (halvingStatement v w) :=
      needsOther_chain List.mem_cons_self (needsOther_exactly hsigns hgreater)
    obtain ⟨p, hp, h⟩ := occurs_oneOf_iff.1 h
    simp only [List.mem_cons, List.not_mem_nil, or_false] at hp
    rcases hp with rfl | rfl | rfl | rfl | rfl
    . exact isWord_of_variableHalving hv hw h
    . obtain ⟨hslash, hslash'⟩ := not_mem_side hv hw (c := '/') (by decide) (by decide) (by decide)
      have hequal' := not_mem_of_isBlank (c := '=') (by decide) hw
      rw [halvingStatement_eq] at h
      obtain ⟨mid, stop, hafter, hstop⟩ := exists_of_occurs_slashes
        [boundary, variableName, blanks] (by simp [hslash, hslash']) (by simp [hslash']) h
      obtain ⟨_, hassign, _⟩ := mem_ends_chain_cons.1 hstop
      obtain ⟨rest, hrest, _⟩ := mem_ends_char.1 hassign
      have hmem : '=' ∈ w ++ "2; ".toList := by
        rw [← hafter, hrest]
        exact List.mem_cons_self
      simp [hequal'] at hmem
    . exact absurd h (hother (hshift (by decide)))
    . exact absurd h (hother (hshift (by decide)))
    . have hfloor : (floorOfHalf none).needsOther (halvingStatement v w) :=
        needsOther_chain (by simp) (needsOther_char hparen)
      exact absurd h (hother (needsOther_chain (by simp) hfloor))
  . intro h
    exact occurs_oneOf_iff.2 ⟨_, List.mem_cons_self, variableHalving_of_isWord hv hw h⟩

end

/--
The head of a counting loop has two semicolons.
-/
theorem not_occurs_halvingHeader (h : text.count ';' ≤ 1) : ¬ halvingHeader.occurs text := by
  intro hheader
  obtain ⟨mid, stop, rfl, hstop⟩ := exists_of_occurs_chain
    [Pattern.text "for", blanks, char '(', without [')', ';'] (some 200)] hheader
  obtain ⟨_, hfirst, hstop⟩ := mem_ends_chain_cons.1 hstop
  obtain ⟨r, hafter, rfl⟩ := mem_ends_char.1 hfirst
  obtain ⟨_, hmiddle, hstop⟩ := mem_ends_chain_cons.1 hstop
  obtain ⟨z, r', hr, _, _, rfl⟩ := mem_ends_without.1 hmiddle
  obtain ⟨_, hsecond, _⟩ := mem_ends_chain_cons.1 hstop
  obtain ⟨rest, hr', _⟩ := mem_ends_char.1 hsecond
  obtain rfl : r = z ++ r' := hr
  obtain rfl : r' = ';' :: rest := hr'
  rw [hafter, List.count_append, List.count_cons_self, List.count_append,
    List.count_cons_self] at h
  omega

/--
The names of the ends of a range.
-/
def boundNames : List String :=
  ["low", "left", "lo", "high", "right", "hi", "start", "end"]

/--
Where a part of a name stands. The dollar signs cut a name into parts.
-/
structure IsPart (v before part behind : List Char) : Prop where
  text : v = before ++ (part ++ behind)
  starts : ∀ c ∈ before.getLast?, c = '$'
  ends : ∀ c ∈ behind.head?, c = '$'

section

variable {u : List Char} {word : String}

theorem isWord_of_spelled (hword : word ∈ "mid" :: boundNames) (h : u.map fold = word.toList) :
    u ≠ [] ∧ (∀ c ∈ u, isWord c) ∧ '2' ∉ u := by
  have hletters : ∀ word ∈ "mid" :: boundNames, word.toList ≠ []
      ∧ (∀ letter ∈ word.toList, letter.toNat < 128 ∧ isWord letter) ∧ fold '2' ∉ word.toList := by
    decide +kernel
  obtain ⟨hne, hall, htwo⟩ := hletters word hword
  rw [← h] at hall htwo
  refine ⟨ne_nil_of_spelled h hne, ?_, fun hmem => htwo (List.mem_map_of_mem hmem)⟩
  intro c hc
  obtain ⟨hascii, hletter⟩ := hall (fold c) (List.mem_map_of_mem hc)
  rwa [isWord_eq_of_fold rfl hascii]

theorem isWord_eq_false_iff (hc : isWord c ∨ c = '$') : isWord c = false ↔ c = '$' := by
  constructor
  . intro hword
    simpa [hword] using hc
  . rintro rfl
    decide

theorem isBorder_before_iff {l more : List Char} (hpast : past.getLast?.any isWord = false)
    (hl : ∀ c ∈ l, isWord c ∨ c = '$') (hne : u ≠ []) (hu : ∀ c ∈ u, isWord c) :
    isBorder (past ++ l) (u ++ more) ↔ ∀ c ∈ l.getLast?, c = '$' := by
  obtain ⟨d, u, rfl⟩ := List.exists_cons_of_ne_nil hne
  have hd : isWord d := hu d List.mem_cons_self
  unfold isBorder
  obtain rfl | ⟨l, c, rfl⟩ := List.eq_nil_or_concat l
  . simp [hpast, hd]
  . simp [hd, isWord_eq_false_iff (hl c (by simp))]

theorem isBorder_behind_iff {r more : List Char} (hmore : more.head?.any isWord = false)
    (hr : ∀ c ∈ r, isWord c ∨ c = '$') (hne : u ≠ []) (hu : ∀ c ∈ u, isWord c) :
    isBorder (past ++ u) (r ++ more) ↔ ∀ c ∈ r.head?, c = '$' := by
  obtain rfl | ⟨u, d, rfl⟩ := List.eq_nil_or_concat u
  . exact (hne rfl).elim
  have hd : isWord d := hu d (by simp)
  unfold isBorder
  cases r with
  | nil => simp [hmore, hd]
  | cons c r => simp [hd, isWord_eq_false_iff (hr c List.mem_cons_self)]

theorem any_isWord_behind_gap {gap : List Char} (hgap : ∀ c ∈ gap, isBlank c)
    (hc : isWord c = false) : (past ++ c :: gap).getLast?.any isWord = false := by
  rw [List.getLast?_append_of_ne_nil _ (List.cons_ne_nil c gap), Option.any_eq_false]
  intro d hd
  rcases List.mem_cons.1 (List.mem_of_getLast? hd) with rfl | hd
  . simp [hc]
  . simp [isWord_of_isBlank (hgap d hd)]

theorem ends_midAssignment_ne_nil :
    midAssignment.ends (.between past rest) ≠ []
      ↔
    isBorder past rest ∧ ∃ u gap rest', rest = u ++ (gap ++ '=' :: rest')
      ∧ u.map fold = "mid".toList ∧ ∀ c ∈ gap, isBlank c := by
  have hmid : ∀ letter ∈ "mid".toList, letter.toNat < 128 := by decide
  constructor
  . intro h
    obtain ⟨stop, hstop⟩ := List.exists_mem_of_ne_nil _ h
    simp only [midAssignment, assignment, mem_ends_chain_cons, mem_ends_boundary,
      mem_ends_text hmid, mem_ends_blanks, mem_ends_char, atBoundary_between] at hstop
    obtain ⟨_, ⟨hborder, rfl⟩, _, ⟨u, r, hrest, hspelled, rfl⟩, _, ⟨_, rfl⟩, _,
      ⟨_, ⟨gap, r', hr, hgap, rfl⟩, _, ⟨rest', hr', rfl⟩, _⟩, _⟩ := hstop
    obtain rfl : r = gap ++ r' := hr
    obtain rfl : r' = '=' :: rest' := hr'
    exact ⟨hborder, u, gap, rest', hrest, hspelled, hgap⟩
  . rintro ⟨hborder, u, gap, rest', rfl, hspelled, hgap⟩
    obtain ⟨hne, hu, _⟩ := isWord_of_spelled List.mem_cons_self hspelled
    have hbehind : isBorder (past ++ u) ([] ++ (gap ++ '=' :: rest')) :=
      (isBorder_behind_iff (any_isWord_gap hgap (by decide)) (by simp) hne hu).2 (by simp)
    refine ends_chain_cons_ne_nil (mem_ends_boundary.2 ⟨?_, rfl⟩) ?_
    . rwa [atBoundary_between]
    refine ends_chain_cons_ne_nil ((mem_ends_text hmid).2 ⟨u, _, rfl, hspelled, rfl⟩) ?_
    refine ends_chain_cons_ne_nil (mem_ends_boundary.2 ⟨?_, rfl⟩) ?_
    . rwa [Cursor.between_advance, atBoundary_between]
    change (chain (blanks :: char '=' :: [blanks, without [';', '\n'] none])).ends _ ≠ []
    refine ends_chain_cons_ne_nil (mem_ends_blanks.2 ⟨gap, _, rfl, hgap, rfl⟩) ?_
    refine ends_chain_cons_ne_nil (mem_ends_char.2 ⟨_, rfl, rfl⟩) ?_
    refine ends_chain_cons_ne_nil (mem_ends_blanks.2 ⟨[], _, rfl, by simp, rfl⟩) ?_
    exact List.ne_nil_of_mem (mem_ends_without.2 ⟨[], _, rfl, by simp, by simp, rfl⟩)

end

theorem ends_boundName_ne_nil :
    boundName.ends (.between past rest) ≠ []
      ↔
    isBorder past rest ∧ ∃ part more, rest = part ++ more
      ∧ (∃ name ∈ boundNames, part.map fold = name.toList) ∧ isBorder (past ++ part) more := by
  have hascii : ∀ name ∈ boundNames, ∀ letter ∈ name.toList, letter.toNat < 128 := by decide
  constructor
  . intro h
    obtain ⟨stop, hstop⟩ := List.exists_mem_of_ne_nil _ h
    obtain ⟨hfirst, part, more, hrest, hspelled, hlast, _⟩ := (mem_ends_wholeWord hascii).1 hstop
    exact ⟨hfirst, part, more, hrest, hspelled, hlast⟩
  . rintro ⟨hfirst, part, more, hrest, hspelled, hlast⟩
    exact List.ne_nil_of_mem
      ((mem_ends_wholeWord hascii).2 ⟨hfirst, part, more, hrest, hspelled, hlast, rfl⟩)

section

variable (hv : IsName v) (hw : ∀ c ∈ w, isBlank c)

include hv hw

theorem midAssignment_statement_iff :
    midAssignment.occurs (halvingStatement v w)
      ↔
    ∃ before part, IsPart v before part [] ∧ part.map fold = "mid".toList := by
  obtain ⟨hequal, hequal'⟩ := not_mem_side hv hw (c := '=') (by decide) (by decide) (by decide)
  simp only [occurs_iff_between, ends_midAssignment_ne_nil]
  constructor
  . rintro ⟨past, _, htext, hborder, u, gap, rest, rfl, hspelled, hgap⟩
    obtain ⟨hne, hu, _⟩ := isWord_of_spelled List.mem_cons_self hspelled
    have hcut : (past ++ (u ++ gap)) ++ '=' :: rest = halvingStatement v w := by
      simp [htext]
    obtain ⟨hleft, _⟩ := eq_of_unique_cut hcut.symm (by simp [hequal, hequal'])
      (by simp [hequal, hequal'])
    obtain ⟨before, behind, rfl, rfl, hbehind⟩ := exists_of_blanks_around (w := [' ']) (by decide)
      hw hne (fun c hc => isBlank_of_isWord (hu c hc)) hleft
    have hnil : behind = [] := by
      rw [List.eq_nil_iff_forall_not_mem]
      intro c hc
      have hblank := hgap c (by simp [hbehind, hc])
      rw [hv.not_isBlank (by simp [hc])] at hblank
      cases hblank
    subst hnil
    refine ⟨before, u, ⟨rfl, ?_, by simp⟩, hspelled⟩
    exact (isBorder_before_iff (by decide) (fun c hc => hv.isWord_or (by simp [hc])) hne hu).1
      hborder
  . rintro ⟨before, part, hpart, hspelled⟩
    obtain ⟨hne, hu, _⟩ := isWord_of_spelled List.mem_cons_self hspelled
    have hv' : v = before ++ part := by
      simpa using hpart.text
    refine ⟨[' '] ++ before, part ++ (w ++ '=' :: (w ++ (v ++ w) ++ '/' :: (w ++ "2; ".toList))),
      ?_, ?_, part, w, _, rfl, hspelled, hw⟩
    . rw [halvingStatement, hv']
      simp
    . exact (isBorder_before_iff (by decide) (fun c hc => hv.isWord_or (by simp [hv', hc])) hne
        hu).2 hpart.starts

omit hw in
theorem isPart_iff (past more : List Char) {before part behind : List Char}
    (hpast : past.getLast?.any isWord = false)
    (hmore : more.head?.any isWord = false) (htext : v = before ++ (part ++ behind))
    (hne : part ≠ []) (hpart : ∀ c ∈ part, isWord c) :
    IsPart v before part behind
      ↔
    isBorder (past ++ before) (part ++ (behind ++ more))
      ∧ isBorder (past ++ before ++ part) (behind ++ more) := by
  rw [isBorder_before_iff hpast (fun c hc => hv.isWord_or (by simp [htext, hc])) hne hpart,
    isBorder_behind_iff hmore (fun c hc => hv.isWord_or (by simp [htext, hc])) hne hpart]
  exact ⟨fun h => ⟨h.starts, h.ends⟩, fun h => ⟨htext, h.1, h.2⟩⟩

/--
A word on one of the sides of the statement is a part of the name there.
-/
theorem exists_isPart_of_side (past gap : List Char) {part l r more : List Char}
    (hpast : (past ++ gap).getLast?.any isWord = false) (hc : isWord c = false)
    (hgap : ∀ c ∈ gap, isBlank c) (hne : part ≠ []) (hpart : ∀ c ∈ part, isWord c)
    (hside : l ++ (part ++ r) = gap ++ (v ++ w))
    (hfirst : isBorder (past ++ l) (part ++ (r ++ c :: more)))
    (hlast : isBorder (past ++ l ++ part) (r ++ c :: more)) :
    ∃ before behind, IsPart v before part behind := by
  obtain ⟨before, behind, rfl, htext, rfl⟩ := exists_of_blanks_around hgap hw hne
    (fun c hc => isBlank_of_isWord (hpart c hc)) hside
  rw [← List.append_assoc, List.append_assoc behind] at hfirst hlast
  exact ⟨before, behind,
    (isPart_iff hv _ _ hpast (any_isWord_gap hw hc) htext hne hpart).2 ⟨hfirst, hlast⟩⟩

/--
A word between borders in the statement is a part of the name, on the left side or on the right one.
-/
theorem exists_isPart {part : List Char} (hne : part ≠ []) (hpart : ∀ c ∈ part, isWord c)
    (htwo : '2' ∉ part) (htext : past ++ (part ++ rest) = halvingStatement v w)
    (hfirst : isBorder past (part ++ rest)) (hlast : isBorder (past ++ part) rest) :
    ∃ before behind, IsPart v before part behind := by
  have hnot {c : Char} (hc : isWord c = false) : c ∉ part := by
    intro hmem
    rw [hpart c hmem] at hc
    cases hc
  rcases exists_of_cut_around (hnot (c := '=') (by decide)) htext with
    ⟨r, hleft, rfl⟩ | ⟨l, rfl, hright⟩
  . exact exists_isPart_of_side hv hw [] [' '] (c := '=') (by decide) (by decide) (by decide) hne
      hpart hleft.symm hfirst hlast
  . rcases exists_of_cut_around (hnot (c := '/') (by decide)) hright.symm with
      ⟨r, hmiddle, rfl⟩ | ⟨l', rfl, hrest⟩
    . have hpast : (' ' :: (v ++ w) ++ ['='] ++ w).getLast?.any isWord = false := by
        rw [List.append_assoc]
        exact any_isWord_behind_gap hw (by decide)
      exact exists_isPart_of_side hv hw (' ' :: (v ++ w) ++ ['=']) w (c := '/') hpast (by decide) hw
        hne hpart hmiddle.symm (by simpa using hfirst) (by simpa using hlast)
    . -- Behind the slash there is no name.
      obtain ⟨c, part, rfl⟩ := List.exists_cons_of_ne_nil hne
      have hc : isWord c := hpart c List.mem_cons_self
      have hmem : c ∈ w ++ "2; ".toList := by
        rw [hrest]
        simp
      rcases List.mem_append.1 hmem with hblank | hmem
      . rw [isWord_of_isBlank (hw c hblank)] at hc
        cases hc
      . have hend : ∀ c ∈ "2; ".toList, isWord c → c = '2' := by decide
        rw [hend c hmem hc] at htwo
        exact (htwo List.mem_cons_self).elim

theorem boundName_statement_iff :
    boundName.occurs (halvingStatement v w)
      ↔
    ∃ before part behind, IsPart v before part behind
      ∧ ∃ name ∈ boundNames, part.map fold = name.toList := by
  simp only [occurs_iff_between, ends_boundName_ne_nil]
  constructor
  . rintro ⟨past, _, htext, hfirst, part, rest, rfl, ⟨name, hname, hspelled⟩, hlast⟩
    obtain ⟨hne, hpart, htwo⟩ := isWord_of_spelled (List.mem_cons_of_mem _ hname) hspelled
    obtain ⟨before, behind, hpart⟩ := exists_isPart hv hw hne hpart htwo htext.symm hfirst hlast
    exact ⟨before, part, behind, hpart, name, hname, hspelled⟩
  . rintro ⟨before, part, behind, hpart, name, hname, hspelled⟩
    obtain ⟨hne, hword, _⟩ := isWord_of_spelled (List.mem_cons_of_mem _ hname) hspelled
    have hborders := (isPart_iff hv [' ']
      (w ++ '=' :: (w ++ (v ++ w) ++ '/' :: (w ++ "2; ".toList))) (by decide)
      (any_isWord_gap hw (by decide)) hpart.text hne hword).1 hpart
    refine ⟨[' '] ++ before, _, ?_, hborders.1, part, _, rfl, ⟨name, hname, hspelled⟩, hborders.2⟩
    rw [halvingStatement]
    nth_rewrite 1 [hpart.text]
    simp

theorem bodyHalves_statement_iff :
    bodyHalves (halvingStatement v w)
      ↔
    v.head? ≠ some '$'
      ∨ ((∃ before part, IsPart v before part [] ∧ part.map fold = "mid".toList)
        ∧ ∃ before part behind, IsPart v before part behind
          ∧ ∃ name ∈ boundNames, part.map fold = name.toList) := by
  rw [bodyHalves, Bool.or_eq_true, Bool.and_eq_true, halving_statement_iff hv hw,
    midAssignment_statement_iff hv hw, boundName_statement_iff hv hw, hv.any_isWord_iff]

theorem halvesRange_variable (hlength : v.length ≤ 200) (hgap : w.length ≤ 100) :
    halvesRange ("while (c) ".toList ++ '{' :: (halvingStatement v w ++ ['}']))
      ↔
    bodyHalves (halvingStatement v w) := by
  have hsigns : ∀ c ∈ ['{', '}', '+', '-'], c ∉ halvingStatement v w := by
    have hclass : ∀ c ∈ ['{', '}', '+', '-'], isWord c = false ∧ isBlank c = false
        ∧ c ∉ "$ =/2;".toList := by
      decide
    intro c hc
    obtain ⟨hword, hblank, hother⟩ := hclass c hc
    exact not_mem_statement hv hw hword hblank hother
  have hbraces : ∀ c ∈ ['{', '}'], c ∉ halvingStatement v w := by
    intro c hc
    exact hsigns c (List.mem_append_left ['+', '-'] hc)
  have hshort : (halvingStatement v w).length ≤ 1000 := by
    simp only [halvingStatement, List.length_append, List.length_cons,
      show "2; ".toList.length = 3 from rfl]
    omega
  have hplus : '+' ∉ "while (c) ".toList ++ '{' :: (halvingStatement v w ++ ['}']) := by
    simp [hsigns '+' (by decide)]
  have hminus : '-' ∉ "while (c) ".toList ++ '{' :: (halvingStatement v w ++ ['}']) := by
    simp [hsigns '-' (by decide)]
  have hmove :
      boundMove.needsOther ("while (c) ".toList ++ '{' :: (halvingStatement v w ++ ['}'])) := by
    rw [boundMove, needsOther, needsOther_chain (p := char '+') (by simp) (needsOther_char hplus),
      needsOther_chain (p := char '-') (by simp) (needsOther_char hminus)]
    rfl
  have hend : ("while (c) ".toList ++ '{' :: (halvingStatement v w ++ ['}'])).count ';' ≤ 1 := by
    obtain ⟨hv', hw'⟩ := not_mem_side hv hw (c := ';') (by decide) (by decide) (by decide)
    simp [halvingStatement, List.count_eq_zero.2 hv', List.count_eq_zero.2 hw']
  rw [halvesRange_while_iff hbraces (not_occurs_of_needsOther hmove fun _ => id)
    (not_occurs_halvingHeader hend)]
  exact and_iff_left hshort

end

/--
Which variables are recognised where they become half of themselves in the body of a loop, whatever
blanks stand around the signs: those with names that start with no dollar sign. Of the other names,
those are recognised that end with the name of a middle, and have the name of an end of a range
beside it.
-/
theorem halvesRange_variable_iff (v w : String) (hv : IsName v.toList) (hlength : v.length ≤ 200)
    (hw : ∀ c ∈ w.toList, isBlank c) (hgap : w.length ≤ 100) :
    halvesRange ("while (c) \x7b " ++ v ++ w ++ "=" ++ w ++ v ++ w ++ "/" ++ w ++ "2; \x7d").toList
      ↔
    v.toList.head? ≠ some '$'
      ∨ ((∃ before part, IsPart v.toList before part [] ∧ part.map fold = "mid".toList)
        ∧ ∃ before part behind, IsPart v.toList before part behind
          ∧ ∃ name ∈ boundNames, part.map fold = name.toList) := by
  rw [← bodyHalves_statement_iff hv hw, ← halvesRange_variable hv hw hlength hgap]
  simp [halvingStatement]

theorem halvesRange_variable_dollar :
    ¬ halvesRange ("while (c) \x7b " ++ "$x" ++ " " ++ "=" ++ " " ++ "$x" ++ " " ++ "/" ++ " "
        ++ "2; \x7d").toList
      ∧ halvesRange ("while (c) \x7b " ++ "x$" ++ " " ++ "=" ++ " " ++ "x$" ++ " " ++ "/" ++ " "
        ++ "2; \x7d").toList := by
  have hfirst : IsName "$x".toList := ⟨⟨'$', rfl, .inr (.inr rfl)⟩, by decide⟩
  have hlast : IsName "x$".toList := ⟨⟨'x', rfl, .inl (by decide)⟩, by decide⟩
  have hblank : ∀ c ∈ " ".toList, isBlank c := by decide
  constructor
  . rw [halvesRange_variable_iff "$x" " " hfirst (by decide) hblank (by decide)]
    rintro (hhead | ⟨⟨before, part, hpart, hspelled⟩, _⟩)
    . exact hhead rfl
    . -- A name of two characters does not end with `mid`.
      have hmid : part.length = 3 := by
        simpa using congrArg List.length hspelled
      have hlength : 2 = before.length + part.length := by
        simpa using congrArg List.length hpart.text
      omega
  . exact (halvesRange_variable_iff "x$" " " hlast (by decide) hblank (by decide)).2
      (.inl (by decide))

end CodeGauge.Signal
