import CodeGauge.Proofs.Signal.Head

/-!
This module contains texts that are sequences of definitions of functions, and the count of those
functions that call themselves.
-/

namespace CodeGauge.Signal

open List (Forall₂)
open Pattern Text

variable {past more gap : List Char} {ms : List Match}


/--
The definition of a function. No other head stands in its parameters or in its body.
-/
structure Definition where
  name : List Char
  params : List Char
  body : List Char
  name_ne_nil : name ≠ []
  isWord_name : ∀ c ∈ name, isWord c
  isParen_params : ∀ c ∈ params, isParen c = false
  occurs_params : functionHead.occurs params = false
  occurs_body : functionHead.occurs body = false

namespace Definition

variable (d : Definition)

/--
What follows the name: the parameters in parentheses and the body in braces.
-/
def rest : List Char :=
  '(' :: d.params ++ ") \x7b".toList ++ d.body ++ ['}']

def code : List Char :=
  "function ".toList ++ d.name ++ d.rest

/--
Whether the name is called in the body. Letter case does not count.
-/
def isRecursive : Bool :=
  (call.findAll d.body).any fun c => lowerChars [] ((c.group? 1).getD []) == lowerChars [] d.name

/--
Definitions one behind the other, each on a new line.
-/
def joined (defs : List Definition) : List Char :=
  List.intercalate ['\n'] (defs.map code)

theorem joined_singleton : joined [d] = d.code := by
  simp [joined, List.intercalate]

theorem joined_cons_cons (e : Definition) (defs : List Definition) :
    joined (d :: e :: defs) = d.code ++ '\n' :: joined (e :: defs) := by
  simp [joined, List.intercalate]

theorem exists_joined_cons (defs : List Definition) :
    ∃ more, joined (d :: defs) = d.code ++ more := by
  cases defs with
  | nil => exact ⟨[], by rw [joined_singleton, List.append_nil]⟩
  | cons e defs => exact ⟨_, joined_cons_cons d e defs⟩

theorem rest_append (more : List Char) :
    d.rest ++ more
      =
    ['('] ++ (d.params ++ (") \x7b".toList ++ (d.body ++ (['}'] ++ more)))) := by
  simp [rest]

theorem isParen_of_isWord {c : Char} (h : isWord c) : isParen c = false := by
  rw [Bool.eq_false_iff]
  intro hparen
  rw [isParen, Bool.or_eq_true, beq_iff_eq, beq_iff_eq] at hparen
  rcases hparen with rfl | rfl
  . cases h
  . cases h

theorem find?_isParen_joined (defs : List Definition) :
    (joined (d :: defs)).find? isParen = some '(' := by
  obtain ⟨more, hmore⟩ := exists_joined_cons d defs
  have hfunction : ∀ c ∈ "function ".toList, isParen c = false := by
    decide
  have hname : ∀ c ∈ "function ".toList ++ d.name, isParen c = false := by
    intro c hc
    rcases List.mem_append.1 hc with hc | hc
    . exact hfunction c hc
    . exact isParen_of_isWord (d.isWord_name c hc)
  unfold code at hmore
  rw [hmore, List.append_assoc, find?_isParen_append hname, rest_append]
  rfl

theorem head?_rest (more : List Char) : (d.rest ++ more).head? = some '(' := rfl

theorem mem_of_getLast?_opening (l : List Char) :
    ∀ y ∈ (l ++ ['('] ++ d.params ++ ") \x7b".toList).getLast?, y ∈ ['(', '{'] := by
  rw [List.getLast?_append_of_ne_nil _ (by decide)]
  decide

/--
No head starts between the name of a definition and its end.
-/
theorem finds_rest (l : List Char) (hmore : more.find? isParen ≠ some ')')
    (hms : Finds functionHead (l ++ d.rest) more ms) :
    Finds functionHead l (d.rest ++ more) ms := by
  have hopen : '(' ∉ d.params := by
    intro hmem
    cases d.isParen_params _ hmem
  have hclose : (['}'] ++ more).find? isParen ≠ some ')' := by
    rwa [find?_isParen_append (by decide)]
  have hend : Finds functionHead
      (l ++ ['('] ++ d.params ++ ") \x7b".toList ++ d.body ++ ['}']) more ms := by
    simpa [rest] using hms
  have hbody := (hend.of_neverStarts (by decide)).of_not_occurs
    (simulates_functionHead_between (d.mem_of_getLast?_opening l) (by simp) (.inr hclose))
    d.occurs_body
  have hparams := (hbody.of_neverStarts (by decide)).of_not_occurs
    (simulates_functionHead_between (by simp) (by simp) (.inl hopen)) d.occurs_params
  rw [rest_append]
  exact hparams.of_neverStarts (by decide)

/--
The head of a definition, where it stands in a text.
-/
def head (past : List Char) (d : Definition) (more : List Char) : Match :=
  ⟨.between past (d.code ++ more), behindHead past d.name (d.rest ++ more)⟩

theorem offset_last_head (past more : List Char) :
    (d.head past more).last.offset = past.length + ("function ".toList ++ d.name).length := by
  simp [head, behindHead, Cursor.record, Cursor.between, Nat.add_assoc]

theorem finds_code (hpast : ∀ c ∈ past.getLast?, isWord c = false)
    (hmore : more.find? isParen ≠ some ')')
    (hms : Finds functionHead (past ++ d.code) more ms) :
    Finds functionHead past (d.code ++ more) (d.head past more :: ms) := by
  have hcode : d.code ++ more = "function ".toList ++ d.name ++ (d.rest ++ more) := by
    unfold code
    rw [List.append_assoc]
  have hparen : ∀ c ∈ (d.rest ++ more).head?, isWord c = false := by
    rw [head?_rest]
    decide
  have hsome := matchAt?_functionHead d.name_ne_nil d.isWord_name hpast hparen
  have hlength := d.offset_last_head past more
  unfold head at hlength ⊢
  rw [hcode] at hlength ⊢
  refine .take (by simp) hsome ?_ (d.finds_rest _ hmore ?_)
  . rw [Match.length, hlength]
    exact Nat.add_sub_cancel_left ..
  . rw [List.append_assoc]
    exact hms

theorem paren_mem_of_occurs_call {x : List Char} (h : call.occurs x) : '(' ∈ x := by
  obtain ⟨u, v, rfl, hends⟩ := (occurs_iff_between call _).1 h
  obtain ⟨stop, hstop⟩ := List.exists_mem_of_ne_nil _ hends
  simp only [call, mem_ends_chain_cons, mem_ends_char] at hstop
  obtain ⟨first, hfirst, mid, hmid, last, hlast, _, ⟨rest, hrest, _⟩, _⟩ := hstop
  have htext : u ++ v = last.before.reverse ++ '(' :: rest := by
    rw [← hrest, text_of_mem_ends hlast, text_of_mem_ends hmid, text_of_mem_ends hfirst]
    simp [Cursor.between]
  rw [htext]
  simp

/--
The calls between the name of a definition and its end are those in its body.
-/
theorem exists_finds_call (l : List Char) (hgap : ∀ c ∈ gap, call.neverStarts c) :
    ∃ calls, Finds call l (d.rest ++ gap) calls
      ∧ Forall₂ (fun c c' => c'.group? 1 = c.group? 1) (call.findAll d.body) calls := by
  have hnone : call.occurs d.params = false := by
    rw [Bool.eq_false_iff]
    intro hcall
    cases d.isParen_params _ (paren_mem_of_occurs_call hcall)
  have hbrace : ∀ c ∈ ['}'] ++ gap, call.neverStarts c := by
    intro c hc
    rcases List.mem_append.1 hc with hc | hc
    . rw [List.mem_singleton.1 hc]
      decide
    . exact hgap c hc
  have hsimulates : call.Simulates (Frame _ d.body (['}'] ++ gap)) (Frame _ d.body _) :=
    simulates_call_between (d.mem_of_getLast?_opening l) (by simp)
  obtain ⟨calls, hbody, hcalls⟩ := Finds.frame hsimulates (finds_findAll (by decide) d.body) rfl
    (.nil_of_neverStarts (by decide) hbrace)
  rw [List.append_nil, List.append_nil] at hbody
  have hparams := (hbody.of_neverStarts (by decide)).of_not_occurs
    (simulates_call_between (by simp) (by simp)) hnone
  refine ⟨calls, ?_, hcalls.imp fun _ _ h => h.group?_eq 1⟩
  rw [rest_append]
  exact hparams.of_neverStarts (by decide)

theorem callsItself_head {k : Nat} (hk : (d.rest ++ more).take k = d.rest ++ gap)
    (hgap : ∀ c ∈ gap, call.neverStarts c) :
    callsItself (d.head past more) ((d.head past more).last.truncate k) = d.isRecursive := by
  have hbody : (d.head past more).last.truncate k
      = .between (past ++ "function ".toList ++ d.name) (d.rest ++ gap) := by
    rw [← hk]
    rfl
  have hname : headName (d.head past more) = d.name := by
    have hgroup : (d.head past more).group? 1 = some d.name := group?_behindHead
    simp [headName, hgroup]
  obtain ⟨calls, hfinds, hcalls⟩ := d.exists_finds_call (past ++ "function ".toList ++ d.name) hgap
  have hscan : call.scan (.between (past ++ "function ".toList ++ d.name) (d.rest ++ gap))
      = calls :=
    hfinds.scan_go_eq
  unfold callsItself isRecursive
  rw [hbody, hname, hscan]
  exact (any_eq_of_forall₂ hcalls fun _ _ h => by rw [h]).symm

theorem selfCalls_last : selfCalls [d.head past []] = [d.isRecursive] := by
  have htake : (d.rest ++ []).take (d.head past []).last.after.length = d.rest ++ [] :=
    List.take_length
  rw [selfCalls, d.callsItself_head htake (by simp)]

theorem selfCalls_cons {next : Match} {heads : List Match}
    (hnext : next.first.offset = (past ++ d.code ++ ['\n']).length) :
    selfCalls (d.head past ('\n' :: more) :: next :: heads)
      =
    d.isRecursive :: selfCalls (next :: heads) := by
  have hlength : next.first.offset - (d.head past ('\n' :: more)).last.offset
      = (d.rest ++ ['\n']).length := by
    unfold code at hnext
    rw [hnext, offset_last_head]
    simp only [List.length_append]
    omega
  have htake : (d.rest ++ '\n' :: more).take (d.rest ++ ['\n']).length = d.rest ++ ['\n'] := by
    rw [List.append_cons d.rest '\n' more, List.take_left]
  rw [selfCalls, hlength, d.callsItself_head htake (by decide)]

/--
A scan finds the head of each definition, and no other.
-/
theorem exists_finds_joined (past : List Char) (defs : List Definition)
    (hpast : ∀ c ∈ past.getLast?, isWord c = false) :
    ∃ heads, Finds functionHead past (joined defs) heads
      ∧ selfCalls heads = defs.map isRecursive
      ∧ ∀ next ∈ heads.head?, next.first.offset = past.length := by
  induction defs generalizing past with
  | nil => exact ⟨[], .done (matchAt?_of_after_nil (by decide) rfl), rfl, by simp⟩
  | cons d defs ih =>
    cases defs with
    | nil =>
      have hend : Finds functionHead (past ++ d.code) [] [] :=
        .nil_of_neverStarts (by decide) (by simp)
      have hfinds := d.finds_code hpast (by simp) hend
      rw [List.append_nil, ← joined_singleton] at hfinds
      exact ⟨_, hfinds, d.selfCalls_last, by simp [head, Cursor.between]⟩
    | cons e defs =>
      have hnewline : ∀ c ∈ (past ++ d.code ++ ['\n']).getLast?, isWord c = false := by
        rw [List.getLast?_append_of_ne_nil _ (by simp)]
        decide
      obtain ⟨heads, hheads, hcalls, hnext⟩ := ih _ hnewline
      have hopen : ('\n' :: joined (e :: defs)).find? isParen ≠ some ')' := by
        rw [List.find?_cons_of_neg (by decide), e.find?_isParen_joined]
        decide
      have hfinds := d.finds_code hpast hopen (hheads.of_neverStarts (w := ['\n']) (by decide))
      rw [← joined_cons_cons] at hfinds
      refine ⟨_, hfinds, ?_, by simp [head, Cursor.between]⟩
      -- The next definition has a head, so the body of this one ends there.
      cases heads with
      | nil => cases hcalls
      | cons next heads =>
        rw [d.selfCalls_cons (hnext next rfl), hcalls]
        rfl

/--
In a sequence of definitions the functions that are counted as recursive are those whose names are
called in their own bodies.
-/
theorem recursionCount_joined (defs : List Definition) :
    recursionCount (joined defs) = defs.countP isRecursive := by
  obtain ⟨heads, hheads, hcalls, _⟩ := exists_finds_joined [] defs (by simp)
  unfold recursionCount
  rw [hheads.findAll_eq, hcalls, List.count, List.countP_map]
  congr 1
  ext d
  simp

theorem recursionCount_joined_two :
    recursionCount
        "function walk(x) \x7b sum(x); \x7d\nfunction Sum(n) \x7b sum (n - 1); \x7d".toList
      =
    1 := by
  calc
    _ = recursionCount (joined [
        ⟨"walk".toList, "x".toList, " sum(x); ".toList, by decide, by decide, by decide,
          by decide +kernel, by decide +kernel⟩,
        ⟨"Sum".toList, "n".toList, " sum (n - 1); ".toList, by decide, by decide, by decide,
          by decide +kernel, by decide +kernel⟩]) := congrArg recursionCount (by decide +kernel)
    _ = _ := recursionCount_joined _
    _ = 1 := by decide +kernel

end Definition
end CodeGauge.Signal
