/-!
This module contains the control sequences of terminals and their removal from a text.
-/

namespace CodeGauge.Text


/--
Whether a character can stand between the start of a control sequence and the letter that ends it.
-/
def isParameter (c : Char) : Bool :=
  c.isDigit || c == ';' || c == '?'

/--
What follows a control sequence, if a text that is preceded by an escape character completes one.
-/
def afterControl? : List Char → Option (List Char)
  | '[' :: cs =>
    match cs.dropWhile isParameter with
    | last :: rest => if last.isAlpha then some rest else none
    | [] => none
  | _ => none

theorem length_afterControl? {cs rest : List Char} (h : afterControl? cs = some rest) :
    rest.length < cs.length := by
  unfold afterControl? at h
  split at h
  . rename_i cs
    have hle := (List.dropWhile_sublist (p := isParameter) (l := cs)).length_le
    split at h
    . rename_i heq
      rw [heq] at hle
      split at h
      . simp only [Option.some.injEq] at h
        subst h
        simp only [List.length_cons] at hle ⊢
        omega
      . contradiction
    . contradiction
  . contradiction

/--
A text without the control sequences of terminals.
-/
def dropControls (cs : List Char) : List Char :=
  match cs with
  | [] => []
  | c :: cs =>
    if c == '\x1b' then
      match h : afterControl? cs with
      | some rest =>
        have := length_afterControl? h
        dropControls rest
      | none => c :: dropControls cs
    else
      c :: dropControls cs
termination_by cs.length

theorem dropControls_of_not_mem {cs : List Char} (h : '\x1b' ∉ cs) : dropControls cs = cs := by
  induction cs with
  | nil => simp [dropControls]
  | cons c cs ih =>
    simp only [List.mem_cons, not_or] at h
    simp [dropControls, Ne.symm h.1, ih h.2]

end CodeGauge.Text
