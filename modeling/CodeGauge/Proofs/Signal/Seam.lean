import CodeGauge.Proofs.Pattern.Seam
import CodeGauge.Signal.Call
import CodeGauge.Signal.Container
import CodeGauge.Signal.Loop

/-!
This module contains the signals in two texts that are joined by a semicolon. Most signals are those
in the one text and those in the other. A nested loop may reach over the seam, but none is lost. The
body of the last function of the first text goes on in the second, so a call may be gained there.
-/

namespace CodeGauge

open List (Forall₂)

variable {l x r : List Char}

theorem Cursor.truncate_of_le {cur : Cursor} {k : Nat} (h : cur.after.length ≤ k) :
    cur.truncate k = cur.truncate cur.after.length := by
  ext
  . rfl
  . simp [Cursor.truncate, List.take_of_length_le h]
  . rfl

theorem Frame.truncate {cur cur' : Cursor} (h : Frame l x r cur cur') (k : Nat) :
    Frame l (cur.before.reverse ++ cur.after.take k) (r.take (k - cur.after.length))
      (cur.truncate k) (cur'.truncate k) where
  text := rfl
  before := h.before
  after := by simp [Cursor.truncate, h.after, List.take_append]
  groups := .nil

namespace Signal

open Pattern Text

/--
Behind the last opening parenthesis of a text, if it has one, comes a closing one.
-/
def ClosesParens (cs : List Char) : Prop :=
  '(' ∉ cs ∨ ∃ u v, cs = u ++ '(' :: v ∧ '(' ∉ v ∧ ')' ∈ v

theorem ClosesParens.exists_paren {cs u v : List Char} (h : ClosesParens cs)
    (heq : cs = u ++ '(' :: v) : ∃ y ∈ v, y = '(' ∨ y = ')' := by
  cases h with
  | inl h => simp [heq] at h
  | inr h =>
    obtain ⟨u', v', heq', hopen, hclose⟩ := h
    rw [heq, List.append_eq_append_iff] at heq'
    rcases heq' with ⟨w, rfl, hw⟩ | ⟨w, rfl, hw⟩
    . cases w with
      | nil => exact ⟨')', by simp_all, .inr rfl⟩
      | cons c w => exact ⟨'(', by simp_all, .inl rfl⟩
    . cases w with
      | nil => exact ⟨')', by simp_all, .inr rfl⟩
      | cons c w => simp_all

/--
A position behind an opening parenthesis of a text, and the same one in a longer text.
-/
def Opened (l x r : List Char) (cur cur' : Cursor) : Prop :=
  Frame l x r cur cur' ∧ cur.before.head? = some '('

theorem simulates_open (hr : r = [] ∨ r.head? = some ';') :
    (char '(').Simulates (Frame l x r) (Opened l x r) := by
  intro cur cur' h
  unfold char ends
  rw [h.after]
  cases hafter : cur.after with
  | nil => cases hr <;> cases r <;> simp_all
  | cons c rest =>
    simp only [List.cons_append]
    split
    . next hc =>
      refine .cons ⟨h.step hafter, ?_⟩ .nil
      simpa using hc
    . exact .nil

theorem simulates_inside (h : r = [] ∨ ClosesParens x) :
    (without ['(', ')'] none).Simulates (Opened l x r) (Frame l x r) := by
  intro cur cur' ⟨hframe, hbefore⟩
  apply hframe.sweep
  cases h with
  | inl hr => simp [hr]
  | inr hx =>
    right
    obtain ⟨before, hbefore⟩ := List.head?_eq_some_iff.1 hbefore
    have htext : x = before.reverse ++ '(' :: cur.after := by
      rw [← hframe.text, hbefore]
      simp
    obtain ⟨y, hy, hparen⟩ := hx.exists_paren htext
    refine ⟨y, hy, ?_⟩
    cases hparen <;> simp_all

/--
A span in parentheses does not reach over the seam behind a text whose parentheses close.
-/
theorem simulates_parens (h : r = [] ∨ r.head? = some ';' ∧ ClosesParens x) :
    parens.Simulates (Frame l x r) (Frame l x r) := by
  have hopen : (char '(').Simulates (Frame l x r) (Opened l x r) :=
    simulates_open (by simp_all [or_and_left])
  have hinside : (without ['(', ')'] none).Simulates (Opened l x r) (Frame l x r) :=
    simulates_inside (by simp_all [or_and_left])
  have hclose : (char ')').Simulates (Frame l x r) (Frame l x r) :=
    Frame.simulates_one (by cases h <;> simp_all)
  exact hopen.seq (hinside.seq hclose)

theorem simulates_functionHead (hl : ∀ y ∈ l.getLast?, y = ';')
    (h : r = [] ∨ r.head? = some ';' ∧ ClosesParens x) :
    functionHead.Simulates (Frame l x r) (Frame l x r) := by
  have hr : ∀ y ∈ r.head?, y = ';' := by cases h <;> simp_all
  have hrefuses {p : Pattern} (hp : p.refuses ';') : p.Simulates (Frame l x r) (Frame l x r) :=
    simulates_of_refuses hp hl hr
  apply Simulates.alt
  . exact hrefuses (by decide)
  . apply Simulates.chain
    intro p hp
    simp only [List.mem_cons, List.not_mem_nil, or_false] at hp
    rcases hp with rfl | rfl | rfl | rfl | rfl | rfl | rfl
    . exact hrefuses (by decide)
    . exact hrefuses (by decide)
    . exact hrefuses (by decide)
    . exact hrefuses (by decide)
    . exact simulates_parens h
    . exact hrefuses (by decide)
    . exact hrefuses (by decide)

theorem headName_eq {head head' : Match} (h : MatchFrame l x r head head') :
    headName head' = headName head := by
  unfold headName
  rw [h.group?_eq, h.group?_eq]

theorem callsItself_truncate {head head' : Match} (h : MatchFrame l x r head head')
    (hl : ∀ y ∈ l.getLast?, y = ';') (hr : ∀ y ∈ r.head?, y = ';') {k : Nat}
    (hcalls : callsItself head (head.last.truncate k)) :
    callsItself head' (head'.last.truncate k) := by
  have hbody := h.last.truncate k
  have hr' : ∀ y ∈ (r.take (k - head.last.after.length)).head?, y = ';' := by
    intro y hy
    rw [List.head?_take] at hy
    split at hy <;> simp_all
  obtain ⟨ms, more, hscan, hms⟩ :=
    scan_frame (simulates_of_refuses (p := call) (d := ';') (by decide) hl hr') (by decide) hbody
  unfold callsItself at hcalls ⊢
  rw [any_eq_of_forall₂ hms] at hcalls
  . rw [hscan, List.any_append, hcalls, Bool.true_or]
  . intro m m' hm
    rw [hm.group?_eq, headName_eq h]

theorem callsItself_of_le {head head' : Match} (h : MatchFrame l x r head head')
    (hl : ∀ y ∈ l.getLast?, y = ';') (hr : ∀ y ∈ r.head?, y = ';') {k : Nat}
    (hk : head.last.after.length ≤ k)
    (hcalls : callsItself head (head.last.truncate head.last.after.length)) :
    callsItself head' (head'.last.truncate k) := by
  rw [← Cursor.truncate_of_le hk] at hcalls
  exact callsItself_truncate h hl hr hcalls

theorem selfCalls_frame {heads heads' : List Match} (h : Forall₂ (MatchFrame l x r) heads heads')
    (hl : ∀ y ∈ l.getLast?, y = ';') (hr : ∀ y ∈ r.head?, y = ';') (more : List Match)
    (hmore : ∀ next ∈ more.head?, l.length + x.length ≤ next.first.offset) :
    ∃ calls, selfCalls (heads' ++ more) = calls ++ selfCalls more
      ∧ Forall₂ (fun call call' => call = true → call' = true) (selfCalls heads) calls := by
  induction h with
  | nil => exact ⟨[], rfl, .nil⟩
  | @cons head head' heads heads' hhead htail ih =>
    obtain ⟨calls, hcalls, hforall⟩ := ih
    cases htail with
    | nil =>
      -- The body of the last head goes on up to the first head of `more`, if there is one.
      have hlen := hhead.last.offset_add_length
      have hoffset := hhead.last.offset
      cases more with
      | nil =>
        refine ⟨[_], rfl, .cons (callsItself_of_le hhead hl hr ?_) .nil⟩
        simp [hhead.last.after]
      | cons next more =>
        have hnext := hmore next rfl
        refine ⟨[_], rfl, .cons (callsItself_of_le hhead hl hr ?_) .nil⟩
        omega
    | @cons next next' heads heads' hnext _ =>
      rw [List.cons_append] at hcalls
      have hk : next'.first.offset - head'.last.offset = next.first.offset - head.last.offset := by
        rw [hnext.first.offset, hhead.last.offset]
        omega
      simp only [List.cons_append, selfCalls, hk, hcalls]
      exact ⟨_ :: calls, rfl, .cons (callsItself_truncate hhead hl hr) hforall⟩

theorem count_true_le {xs ys : List Bool}
    (h : Forall₂ (fun x y => x = true → y = true) xs ys) : xs.count true ≤ ys.count true := by
  induction h with
  | nil => simp
  | @cons x y xs ys hxy _ ih =>
    cases x <;> cases y
    all_goals
      simp only [List.count_cons, beq_self_eq_true, Bool.false_eq_true] at *
      grind

variable {a b : List Char}

/--
No function that calls itself is lost where a semicolon joins two texts, unless parentheses of the
first are open.
-/
theorem recursionCount_seam (ha : ClosesParens a) :
    recursionCount a + recursionCount b ≤ recursionCount (a ++ ';' :: b) := by
  obtain ⟨heads₁, heads₂, heq, h₁, h₂⟩ := findAll_seam (p := functionHead) (a := a) (b := b)
    (d := ';') (by decide) (simulates_functionHead (by simp) (.inr ⟨rfl, ha⟩))
    (simulates_functionHead (by simp) (.inl rfl))
  have hnext : ∀ next ∈ heads₂.head?, ([] : List Char).length + a.length ≤ next.first.offset := by
    intro next hnext
    obtain ⟨heads, rfl⟩ := List.head?_eq_some_iff.1 hnext
    obtain ⟨head, _, hhead, _, _⟩ := List.forall₂_cons_right_iff.1 h₂
    rw [hhead.first.offset]
    simp
    omega
  obtain ⟨calls₁, hcalls₁, hle₁⟩ := selfCalls_frame h₁ (by simp) (by simp) heads₂ hnext
  obtain ⟨calls₂, hcalls₂, hle₂⟩ := selfCalls_frame h₂ (by simp) (by simp) [] (by simp)
  rw [List.append_nil, show selfCalls [] = [] from rfl, List.append_nil] at hcalls₂
  unfold recursionCount
  rw [heq, hcalls₁, hcalls₂, List.count_append]
  exact Nat.add_le_add (count_true_le hle₁) (count_true_le hle₂)

end Signal
end CodeGauge
