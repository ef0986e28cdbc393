import CodeGauge.Proofs.Pattern.Occurs
import CodeGauge.Proofs.Signal.Halving

/-!
This module contains the numbers by which a loop divides or shifts its range on every pass, and
which of them are taken for a half. A divisor in the body of a loop is read to its end. Of a divisor
in the head of a counting loop, and of the number of a shift, the first digit is all that is read.
-/

namespace CodeGauge.Signal

open Pattern Text

variable {cur stop : Cursor} {c : Char} {u v w z cs ds gap body rest : List Char}


/--
The characters of which numbers are made.
-/
def digits : List Char :=
  "0123456789".toList

theorem mem_digits_of_isDigit (hc : c.isDigit) : c ∈ digits := by
  have hcodes : ∀ n ∈ List.range' 48 10, Char.ofNat n ∈ digits := by decide
  have hrange : 48 ≤ c.toNat ∧ c.toNat ≤ 57 := Char.isDigit_iff_toNat.1 hc
  rw [← Char.ofNat_toNat c]
  apply hcodes
  rw [List.mem_range'_1]
  omega

/--
A text that looks like a number.
-/
structure IsNumber (ds : List Char) : Prop where
  ne_nil : ds ≠ []
  mem_digits : ∀ c ∈ ds, c ∈ digits

theorem isNumber_toString (k : Nat) : IsNumber (toString k).toList := by
  rw [Nat.toString_eq_repr, Nat.toList_repr]
  refine ⟨Nat.toDigits_ne_nil, ?_⟩
  intro c hc
  exact mem_digits_of_isDigit (Nat.isDigit_of_mem_toDigits (by decide) (by decide) hc)

theorem toList_toString_eq_iff {j k : Nat} :
    (toString k).toList = (toString j).toList ↔ k = j := by
  constructor
  . intro h
    simp only [Nat.toString_eq_repr, Nat.toList_repr] at h
    rw [← Nat.ofDigitChars_ten_toDigits (n := k), h, Nat.ofDigitChars_ten_toDigits]
  . rintro rfl
    rfl

namespace IsNumber

theorem isWord_of_mem (hds : IsNumber ds) (hc : c ∈ ds) : isWord c := by
  have hword : ∀ c ∈ digits, isWord c := by decide
  exact hword c (hds.mem_digits c hc)

theorem not_mem (hds : IsNumber ds) (hc : c ∉ digits) : c ∉ ds :=
  fun hmem => hc (hds.mem_digits c hmem)

theorem forall_mem (hds : IsNumber ds) (hu : ∀ c ∈ u, c ∈ cs) (hv : ∀ c ∈ v, c ∈ cs) :
    ∀ c ∈ u ++ ds ++ v, c ∈ cs ++ digits := by
  simp only [List.forall_mem_append]
  exact ⟨⟨fun c hc => List.mem_append_left _ (hu c hc),
    fun c hc => List.mem_append_right _ (hds.mem_digits c hc)⟩,
    fun c hc => List.mem_append_left _ (hv c hc)⟩

/--
What is found behind the gap in front of a number is the start of the number.
-/
theorem exists_of_gap (hds : IsNumber ds) (h : ' ' :: (ds ++ v) = gap ++ c :: rest)
    (hgap : ∀ c ∈ gap, isBlank c) (hc : isBlank c = false) :
    ∃ ds', ds = c :: ds' ∧ rest = ds' ++ v := by
  obtain ⟨d, ds, rfl⟩ := List.exists_cons_of_ne_nil hds.ne_nil
  have hd : isBlank d = false := isBlank_of_isWord (hds.isWord_of_mem List.mem_cons_self)
  cases gap with
  | nil =>
    obtain ⟨rfl, _⟩ := List.cons.inj h
    cases hc
  | cons e gap =>
    obtain ⟨_, h⟩ := List.cons.inj h
    obtain ⟨rfl, rfl⟩ := eq_of_blanks h (fun c hc => hgap c (List.mem_cons_of_mem e hc)) hd
    exact ⟨ds, rfl, rfl⟩

/--
If a word ends behind the first digit of a number, the number is that digit alone.
-/
theorem eq_singleton_of_gap (hds : IsNumber ds) (h : ' ' :: (ds ++ v) = gap ++ c :: rest)
    (hgap : ∀ c ∈ gap, isBlank c) (hc : isBlank c = false)
    (hrest : rest.head?.any isWord = false) : ds = [c] := by
  obtain ⟨ds', rfl, rfl⟩ := hds.exists_of_gap h hgap hc
  cases ds' with
  | nil => rfl
  | cons d ds' =>
    have hword : isWord d := hds.isWord_of_mem (by simp)
    rw [List.cons_append, List.head?_cons, Option.any_some, hword] at hrest
    cases hrest

end IsNumber

/--
The characters of the statements that divide or shift.
-/
def statementChars : List Char :=
  " x=/>;".toList ++ digits

/--
A loop around such a statement halves its range if the statement does, and if it is short enough for
the body of a loop.
-/
theorem halvesRange_statement_iff (hbody : ∀ c ∈ body, c ∈ statementChars) :
    halvesRange ("while (c) ".toList ++ '{' :: (body ++ ['}']))
      ↔
    halving.occurs body ∧ body.length ≤ 1000 := by
  have hbraces : ∀ c ∈ ['{', '}'], c ∉ statementChars := by decide
  have hopen : ∀ c ∈ ['{', '}'], c ∉ body := fun c hc hmem => hbraces c hc (hbody c hmem)
  have htext : ∀ c ∈ "while (c) ".toList ++ '{' :: (body ++ ['}']),
      c ∈ "while (c) \x7b\x7d".toList ++ statementChars := by
    have hleft : ∀ c ∈ "while (c) \x7b".toList, c ∈ "while (c) \x7b\x7d".toList := by decide
    grind
  have hmid : ¬ midAssignment.occurs body := not_occurs_of_needsOther (by decide +kernel) hbody
  rw [halvesRange_while_iff hopen (not_occurs_of_needsOther (by decide +kernel) htext)
    (not_occurs_of_needsOther (by decide +kernel) htext), bodyHalves, Bool.or_eq_true,
    Bool.and_eq_true]
  simp [hmid]

theorem exists_of_mem_ends_gap {ps : List Pattern}
    (h : stop ∈ (chain (blanks :: char c :: ps)).ends cur) :
    ∃ gap rest, cur.after = gap ++ c :: rest ∧ (∀ c ∈ gap, isBlank c)
      ∧ stop ∈ (chain ps).ends (cur.advance (gap ++ [c]) rest) := by
  simp only [mem_ends_chain_cons, mem_ends_blanks, mem_ends_char] at h
  obtain ⟨_, ⟨gap, _, hafter, hgap, rfl⟩, _, ⟨rest, rfl, rfl⟩, hstop⟩ := h
  rw [Cursor.advance_advance] at hstop
  exact ⟨gap, rest, hafter, hgap, hstop⟩

theorem exists_of_mem_ends_signs {signs : String}
    (h : stop ∈ (chain [exactly signs, blanks, char c]).ends cur) :
    ∃ gap rest, cur.after = signs.toList ++ (gap ++ c :: rest) ∧ ∀ c ∈ gap, isBlank c := by
  obtain ⟨_, hsigns, hstop⟩ := mem_ends_chain_cons.1 h
  obtain ⟨z, hafter, rfl⟩ := mem_ends_exactly.1 hsigns
  obtain ⟨gap, rest, rfl, hgap, _⟩ := exists_of_mem_ends_gap hstop
  exact ⟨gap, rest, hafter, hgap⟩

theorem exists_of_mem_ends_whole (h : stop ∈ (chain [blanks, char '2', boundary]).ends cur) :
    ∃ gap rest, cur.after = gap ++ '2' :: rest ∧ (∀ c ∈ gap, isBlank c)
      ∧ rest.head?.any isWord = false := by
  obtain ⟨gap, rest, hafter, hgap, hstop⟩ := exists_of_mem_ends_gap h
  have hboundary := (mem_ends_boundary.1 hstop).1
  have hword : isWord '2' := by decide
  refine ⟨gap, rest, hafter, hgap, ?_⟩
  simpa [Cursor.atBoundary, Cursor.advance, hword] using hboundary

/--
In a text with a single slash the later parts of a pattern match behind it.
-/
theorem exists_of_occurs_slashes (front : List Pattern) {back : List Pattern} (hu : '/' ∉ u)
    (hz : '/' ∉ z) (h : (chain (front ++ slashes :: back)).occurs (u ++ '/' :: z)) :
    ∃ mid stop, mid.after = z ∧ stop ∈ (chain back).ends mid := by
  obtain ⟨mid, stop, htext, hstop⟩ := exists_of_occurs_chain front h
  simp only [mem_ends_chain_cons, slashes, mem_ends_seq, mem_ends_char, mem_ends_atMostOne] at hstop
  obtain ⟨_, ⟨_, ⟨z', hafter, rfl⟩, w, hw, rest, hrest, rfl⟩, hstop⟩ := hstop
  rw [hafter] at htext
  obtain ⟨_, rfl⟩ := eq_of_unique_cut htext.symm hu hz
  refine ⟨_, stop, ?_, hstop⟩
  rcases List.mem_pair.1 hw with rfl | rfl
  . exact hrest.symm
  . rw [Cursor.advance_after] at hrest
    simp [hrest] at hz

/--
A statement with a single slash, and without a shift, halves something only if behind the slash, or
behind the sign of an assignment there, stands a two as a whole number.
-/
theorem exists_of_halving (hchars : ∀ c ∈ u ++ '/' :: z, c ∈ " x=/;".toList ++ digits)
    (hu : '/' ∉ u) (hz : '/' ∉ z) (h : halving.occurs (u ++ '/' :: z)) :
    ∃ gap rest, (z = gap ++ '2' :: rest ∨ z = '=' :: (gap ++ '2' :: rest))
      ∧ (∀ c ∈ gap, isBlank c) ∧ rest.head?.any isWord = false := by
  have hother {p : Pattern} (hp : p.needsOther (" x=/;".toList ++ digits)) :
      ¬ p.occurs (u ++ '/' :: z) :=
    not_occurs_of_needsOther hp hchars
  obtain ⟨p, hp, h⟩ := occurs_oneOf_iff.1 h
  simp only [List.mem_cons, List.not_mem_nil, or_false] at hp
  rcases hp with rfl | rfl | rfl | rfl | rfl
  . obtain ⟨mid, stop, rfl, hstop⟩ := exists_of_occurs_slashes
      [boundary, group 1 variableName, blanks, oneOf [exactly "=", exactly "/=", exactly "//="],
        blanks, again 1, blanks] hu hz h
    obtain ⟨gap, rest, hafter, hwhole⟩ := exists_of_mem_ends_whole hstop
    exact ⟨gap, rest, .inl hafter, hwhole⟩
  . obtain ⟨mid, stop, rfl, hstop⟩ :=
      exists_of_occurs_slashes [boundary, variableName, blanks] hu hz h
    obtain ⟨_, hassign, hstop⟩ := mem_ends_chain_cons.1 hstop
    obtain ⟨z, hafter, rfl⟩ := mem_ends_char.1 hassign
    obtain ⟨gap, rest, rfl, hwhole⟩ := exists_of_mem_ends_whole hstop
    exact ⟨gap, rest, .inr hafter, hwhole⟩
  . exact absurd h (hother (by decide +kernel))
  . exact absurd h (hother (by decide +kernel))
  . exact absurd h (hother (by decide +kernel))

/--
The ways to divide a variable: what stands in front of the slash, and the sign behind it.
-/
def divisions : List (List Char × List Char) :=
  [(" x = x ".toList, []), (" x ".toList, ['='])]

theorem halving_division_iff (hds : IsNumber ds) (hdivision : (u, w) ∈ divisions) :
    halving.occurs (u ++ '/' :: (w ++ ' ' :: (ds ++ "; ".toList))) ↔ ds = ['2'] := by
  constructor
  . intro h
    have hsides : ∀ x ∈ divisions,
        '/' ∉ x.1 ∧ '/' ∉ x.2 ∧ ∀ c ∈ x.1 ++ '/' :: (x.2 ++ [' ']), c ∈ " x=/;".toList := by
      decide
    obtain ⟨hu, hw, huw⟩ := hsides _ hdivision
    have hslash : '/' ∉ w ++ ' ' :: (ds ++ "; ".toList) := by
      simp [hw, hds.not_mem (c := '/') (by decide)]
    have hchars := hds.forall_mem (v := "; ".toList) huw (by decide)
    have htwo : isBlank '2' = false := by decide
    obtain ⟨gap, rest, hz, hgap, hrest⟩ := exists_of_halving (by simpa using hchars) hu hslash h
    rcases List.mem_pair.1 hdivision with ⟨rfl, rfl⟩ | ⟨rfl, rfl⟩
    . rcases hz with hz | hz
      . exact hds.eq_singleton_of_gap hz hgap htwo hrest
      . cases hz
    . rcases hz with hz | hz
      . cases (eq_of_blanks hz hgap (by decide)).1
      . exact hds.eq_singleton_of_gap (List.cons.inj hz).2 hgap htwo hrest
  . rintro rfl
    have htwo : ∀ x ∈ divisions,
        halving.occurs (x.1 ++ '/' :: (x.2 ++ ' ' :: '2' :: "; ".toList)) := by
      decide +kernel
    exact htwo _ hdivision

theorem eq_of_double_cut {x : List Char} (h : u ++ c :: c :: v = w ++ c :: c :: x) (hu : c ∉ u)
    (hv : c ∉ v) : x = v := by
  rcases eq_or_exists_of_cut h hu with ⟨_, hsame⟩ | ⟨y, _, hsame⟩
  . exact (List.cons.inj hsame).2
  . cases y with
    | nil =>
      obtain ⟨_, rfl⟩ := List.cons.inj hsame
      simp at hv
    | cons d y =>
      obtain ⟨_, rfl⟩ := List.cons.inj hsame
      simp at hv

/--
In a text with a single sign of a shift, of two or three characters, the number that is read follows
it.
-/
theorem exists_of_occurs_shift {signs : String} (hsigns : signs.toList = '>' :: '>' :: w)
    (hu : '>' ∉ u) (hz : '>' ∉ z)
    (h : (chain [exactly signs, blanks, char '1']).occurs (u ++ '>' :: '>' :: z)) :
    ∃ gap rest, z = w ++ (gap ++ '1' :: rest) ∧ ∀ c ∈ gap, isBlank c := by
  obtain ⟨mid, stop, htext, hstop⟩ := exists_of_occurs_chain [] h
  obtain ⟨gap, rest, hafter, hgap⟩ := exists_of_mem_ends_signs hstop
  rw [hafter, hsigns] at htext
  exact ⟨gap, rest, (eq_of_double_cut htext.symm hu hz).symm, hgap⟩

theorem halving_shift_iff (hds : IsNumber ds) :
    halving.occurs (" x ".toList ++ '>' :: '>' :: '=' :: ' ' :: (ds ++ "; ".toList))
      ↔
    ds.head? = some '1' := by
  constructor
  . intro h
    have hchars : ∀ c ∈ " x >>= ".toList ++ ds ++ "; ".toList, c ∈ " x>=;".toList ++ digits :=
      hds.forall_mem (by decide) (by decide)
    have hother {p : Pattern} (hp : p.needsOther (" x>=;".toList ++ digits)) :
        ¬ p.occurs (" x ".toList ++ '>' :: '>' :: '=' :: ' ' :: (ds ++ "; ".toList)) :=
      not_occurs_of_needsOther hp (by simpa using hchars)
    have hsigns : '>' ∉ '=' :: ' ' :: (ds ++ "; ".toList) := by
      simp [hds.not_mem (c := '>') (by decide)]
    obtain ⟨p, hp, h⟩ := occurs_oneOf_iff.1 h
    simp only [List.mem_cons, List.not_mem_nil, or_false] at hp
    rcases hp with rfl | rfl | rfl | rfl | rfl
    . exact absurd h (hother (by decide +kernel))
    . exact absurd h (hother (by decide +kernel))
    . obtain ⟨gap, rest, hz, hgap⟩ := exists_of_occurs_shift rfl (by decide) hsigns h
      obtain ⟨ds', rfl, _⟩ := hds.exists_of_gap (List.cons.inj hz).2 hgap (by decide)
      rfl
    . -- Without the sign of the assignment the shift has no number behind it.
      obtain ⟨gap, rest, hz, hgap⟩ := exists_of_occurs_shift rfl (by decide) hsigns h
      cases (eq_of_blanks hz hgap (by decide)).1
    . exact absurd h (hother (by decide +kernel))
  . intro h
    obtain ⟨ds', rfl⟩ := List.head?_eq_some_iff.1 h
    have hshift : (chain [exactly ">>=", blanks, char '1']).occurs " x >>= 1".toList := by
      decide +kernel
    have hmore := occurs_of_looksAtOwn (l := []) (r := ds' ++ "; ".toList) (by decide) hshift
    exact occurs_oneOf_iff.2 ⟨_, by simp, hmore⟩

theorem halvesRange_division_iff (hds : IsNumber ds) (hdivision : (u, w) ∈ divisions) :
    halvesRange ("while (c) ".toList
        ++ '{' :: ((u ++ '/' :: (w ++ ' ' :: (ds ++ "; ".toList))) ++ ['}']))
      ↔
    ds = ['2'] := by
  have hsides : ∀ x ∈ divisions, ∀ c ∈ x.1 ++ '/' :: (x.2 ++ [' ']), c ∈ " x=/>;".toList := by
    decide
  have hbody : ∀ c ∈ u ++ '/' :: (w ++ [' ']) ++ ds ++ "; ".toList, c ∈ statementChars :=
    hds.forall_mem (hsides _ hdivision) (by decide)
  simp only [List.append_assoc, List.cons_append, List.nil_append] at hbody
  rw [halvesRange_statement_iff hbody, halving_division_iff hds hdivision]
  constructor
  . rintro ⟨htwo, _⟩
    exact htwo
  . rintro rfl
    have hshort : ∀ x ∈ divisions,
        (x.1 ++ '/' :: (x.2 ++ ' ' :: '2' :: "; ".toList)).length ≤ 1000 := by
      decide
    exact ⟨rfl, hshort _ hdivision⟩

theorem halvesRange_shift_iff (hds : IsNumber ds) :
    halvesRange ("while (c) ".toList
        ++ '{' :: ((" x ".toList ++ '>' :: '>' :: '=' :: ' ' :: (ds ++ "; ".toList)) ++ ['}']))
      ↔
    ds.head? = some '1' ∧ ds.length ≤ 991 := by
  have hbody : ∀ c ∈ " x >>= ".toList ++ ds ++ "; ".toList, c ∈ statementChars :=
    hds.forall_mem (by decide) (by decide)
  have hlength : (" x ".toList ++ '>' :: '>' :: '=' :: ' ' :: (ds ++ "; ".toList)).length
      = ds.length + 9 := by
    simp
  have hlimit : ds.length + 9 ≤ 1000 ↔ ds.length ≤ 991 := by omega
  rw [halvesRange_statement_iff (by simpa using hbody), halving_shift_iff hds, hlength, hlimit]

/--
What is in front of the divisor in the head of a loop.
-/
def beforeDivisor : List Char :=
  "for (i = n; i > 0; i = i ".toList

/--
What follows the divisor in the head of a loop.
-/
def behindDivisor : List Char :=
  ") \x7b s(); \x7d".toList

/--
The characters of a loop with a divisor in its head.
-/
def headerChars : List Char :=
  beforeDivisor ++ '/' :: behindDivisor ++ digits

/--
The head of a loop with a single slash, and without a shift, halves something only if a number that
starts with a two stands behind the slash.
-/
theorem exists_of_halvingHeader (hchars : ∀ c ∈ u ++ '/' :: z, c ∈ headerChars) (hu : '/' ∉ u)
    (hz : '/' ∉ z) (hsign : (u ++ '/' :: z).count '>' ≤ 1)
    (h : halvingHeader.occurs (u ++ '/' :: z)) :
    ∃ gap rest, z = gap ++ '2' :: rest ∧ ∀ c ∈ gap, isBlank c := by
  obtain ⟨mid, stop, htext, hstop⟩ := exists_of_occurs_chain
    [text "for", blanks, char '(', without [')', ';'] (some 200), char ';',
      without [';'] (some 200), char ';', without [')'] (some 200)] h
  have hnoShift {signs : String} {w : List Char} (hsigns : signs.toList = '>' :: '>' :: w) :
      stop ∉ (chain [exactly signs, blanks, char '1']).ends mid := by
    intro hstop
    obtain ⟨gap, rest, hafter, _⟩ := exists_of_mem_ends_signs hstop
    rw [← htext, hafter, hsigns, List.count_append, List.cons_append, List.cons_append,
      List.count_cons_self, List.count_cons_self] at hsign
    omega
  obtain ⟨p, hp, hstop⟩ := mem_ends_oneOf.1 hstop
  simp only [List.mem_cons, List.not_mem_nil, or_false] at hp
  rcases hp with rfl | rfl | rfl | rfl
  . have hslash : stop ∈ (chain [exactly "/", blanks, char '2']).ends mid := hstop
    obtain ⟨gap, rest, hafter, hgap⟩ := exists_of_mem_ends_signs hslash
    rw [hafter] at htext
    exact ⟨gap, rest, (eq_of_unique_cut htext.symm hu hz).2.symm, hgap⟩
  . exact absurd hstop (hnoShift rfl)
  . exact absurd hstop (hnoShift rfl)
  . have hafter : ∀ c ∈ mid.after, c ∈ headerChars := by
      intro c hc
      rw [← htext] at hchars
      exact hchars c (List.mem_append_right _ hc)
    rw [ends_of_needsOther (by decide +kernel) hafter] at hstop
    cases hstop

theorem mem_headerChars (hds : IsNumber ds) :
    ∀ c ∈ beforeDivisor ++ '/' :: ' ' :: (ds ++ behindDivisor), c ∈ headerChars := by
  have hbefore : ∀ c ∈ beforeDivisor ++ ['/', ' '], c ∈ beforeDivisor ++ '/' :: behindDivisor := by
    decide
  have hchars := hds.forall_mem (v := behindDivisor) hbefore (by decide)
  rw [List.append_assoc, List.append_assoc] at hchars
  exact hchars

theorem halvingHeader_iff (hds : IsNumber ds) :
    halvingHeader.occurs (beforeDivisor ++ '/' :: ' ' :: (ds ++ behindDivisor))
      ↔
    ds.head? = some '2' := by
  constructor
  . intro h
    have hslash : '/' ∉ ' ' :: (ds ++ behindDivisor) := by
      simp [hds.not_mem (c := '/') (by decide), show '/' ∉ behindDivisor by decide]
    have hsign : (beforeDivisor ++ '/' :: ' ' :: (ds ++ behindDivisor)).count '>' ≤ 1 := by
      have hnumber : ds.count '>' = 0 := List.count_eq_zero.2 (hds.not_mem (by decide))
      have haround : beforeDivisor.count '>' + behindDivisor.count '>' = 1 := by decide
      simp [List.count_append, hnumber, haround]
    obtain ⟨gap, rest, hz, hgap⟩ :=
      exists_of_halvingHeader (mem_headerChars hds) (by decide) hslash hsign h
    obtain ⟨ds', rfl, _⟩ := hds.exists_of_gap hz hgap (by decide)
    rfl
  . intro h
    obtain ⟨ds', rfl⟩ := List.head?_eq_some_iff.1 h
    have hheader : halvingHeader.occurs (beforeDivisor ++ '/' :: ' ' :: ['2']) := by
      decide +kernel
    have hmore := occurs_of_looksAtOwn (l := []) (r := ds' ++ behindDivisor) (by decide) hheader
    rw [List.nil_append, List.append_assoc] at hmore
    exact hmore

theorem halvesRange_for_iff (hds : IsNumber ds) :
    halvesRange (beforeDivisor ++ '/' :: ' ' :: (ds ++ behindDivisor)) ↔ ds.head? = some '2' := by
  rw [← halvingHeader_iff hds]
  constructor
  . intro h
    rcases halvesRange_iff.1 h with ⟨m, hm, hhalves⟩ | ⟨hmid, _⟩ | hheader
    . have htext : beforeDivisor ++ '/' :: ' ' :: (ds ++ behindDivisor)
          = (beforeDivisor ++ '/' :: ' ' :: (ds ++ ") ".toList))
              ++ '{' :: (" s(); ".toList ++ '}' :: []) := by
        have hbehind : behindDivisor = ") ".toList ++ '{' :: (" s(); ".toList ++ '}' :: []) := rfl
        rw [hbehind]
        simp only [List.append_assoc, List.cons_append]
      have hhead : '{' ∉ beforeDivisor ++ '/' :: ' ' :: (ds ++ ") ".toList) := by
        simp [hds.not_mem (c := '{') (by decide), show '{' ∉ beforeDivisor by decide]
      have hbody : bodyHalves " s(); ".toList = false := by decide +kernel
      rw [htext] at hm
      rw [(group?_of_mem_findAll hm hhead (by decide) (by decide)).1, Option.getD_some,
        hbody] at hhalves
      cases hhalves
    . exact absurd hmid (not_occurs_of_needsOther (by decide +kernel) (mem_headerChars hds))
    . exact hheader
  . intro hheader
    exact halvesRange_iff.2 (.inr (.inr hheader))

/--
A loop that divides its range by a number, or shifts it, is taken to halve it if and only if a
divisor in the body is two, a divisor in the head starts with a two, or the number of a shift starts
with a one. A number of more than 991 digits makes the body of the loop too long.
-/
theorem halvesRange_number_iff (k : Nat) :
    (halvesRange ("while (c) \x7b x = x / " ++ toString k ++ "; \x7d").toList ↔ k = 2)
      ∧ (halvesRange ("while (c) \x7b x /= " ++ toString k ++ "; \x7d").toList ↔ k = 2)
      ∧ (halvesRange ("for (i = n; i > 0; i = i / " ++ toString k ++ ") \x7b s(); \x7d").toList
          ↔ (toString k).toList.head? = some '2')
      ∧ (halvesRange ("while (c) \x7b x >>= " ++ toString k ++ "; \x7d").toList
          ↔ (toString k).toList.head? = some '1' ∧ (toString k).length ≤ 991) := by
  have hds := isNumber_toString k
  have htwo : (toString k).toList = ['2'] ↔ k = 2 := toList_toString_eq_iff (j := 2)
  refine ⟨?_, ?_, ?_, ?_⟩
  . rw [← htwo, ← halvesRange_division_iff hds (List.mem_pair.2 (.inl rfl))]
    simp
  . rw [← htwo, ← halvesRange_division_iff hds (List.mem_pair.2 (.inr rfl))]
    simp
  . have hbefore : "for (i = n; i > 0; i = i / ".toList = beforeDivisor ++ ['/', ' '] := by decide
    rw [← halvesRange_for_iff hds, String.toList_append, String.toList_append, hbefore]
    simp only [List.append_assoc, List.cons_append, List.nil_append]
    rfl
  . rw [← String.length_toList, ← halvesRange_shift_iff hds]
    simp

theorem halvesRange_first_digit :
    halvesRange ("for (i = n; i > 0; i = i / " ++ toString 20 ++ ") \x7b s(); \x7d").toList
      ∧ halvesRange ("while (c) \x7b x >>= " ++ toString 10 ++ "; \x7d").toList
      ∧ ¬ halvesRange ("while (c) \x7b x = x / " ++ toString 20 ++ "; \x7d").toList := by
  obtain ⟨hbody, _, hheader, _⟩ := halvesRange_number_iff 20
  obtain ⟨_, _, _, hshift⟩ := halvesRange_number_iff 10
  refine ⟨hheader.2 (by decide), hshift.2 (by decide), ?_⟩
  intro h
  exact absurd (hbody.1 h) (by decide)

end CodeGauge.Signal
