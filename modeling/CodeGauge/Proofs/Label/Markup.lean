import CodeGauge.Proofs.Label
import Mathlib.Data.List.TakeWhile

/-!
This module contains the way back from raised exponents to carets. A label without an opening angle
bracket is read back from its raised form, and a raised label is not changed any more.
-/

namespace CodeGauge.Label

open Text

variable {cs word rest : List Char} {c : Char}


/--
The word between tags that a text starts with, and what follows behind the tags.
-/
def raised? (cs : List Char) : Option (List Char × List Char) :=
  let word := (cs.drop openTag.length).takeWhile isWord
  let rest := cs.drop (openTag ++ word ++ closeTag).length
  if word ≠ [] ∧ cs = openTag ++ word ++ closeTag ++ rest then some (word, rest) else none

theorem raised?_eq_some_iff :
    raised? cs = some (word, rest)
      ↔
    cs = openTag ++ word ++ closeTag ++ rest ∧ word ≠ [] ∧ ∀ c ∈ word, isWord c := by
  unfold raised?
  dsimp only
  constructor
  . intro h
    split at h
    . next hcs =>
      obtain ⟨rfl, rfl⟩ := Prod.mk.inj (Option.some.inj h)
      exact ⟨hcs.2, hcs.1, fun c hc => List.mem_takeWhile_imp hc⟩
    . cases h
  . rintro ⟨rfl, hne, hword⟩
    have htake : ((openTag ++ word ++ closeTag ++ rest).drop openTag.length).takeWhile isWord
        = word := by
      rw [List.append_assoc, List.append_assoc, List.drop_left,
        List.takeWhile_append_of_pos hword]
      exact List.append_nil word
    rw [htake, List.drop_left, if_pos ⟨hne, rfl⟩]

theorem raised?_of_ne (hc : c ≠ '<') : raised? (c :: cs) = none := by
  rw [Option.eq_none_iff_forall_not_mem]
  rintro ⟨word, rest⟩ h
  obtain ⟨hcs, _⟩ := raised?_eq_some_iff.1 h
  exact hc (List.cons.inj hcs).1

/--
A text where each word between tags gives way to a caret with the word behind it.
-/
def unraise : List Char → List Char
  | [] => []
  | c :: cs =>
    match _h : raised? (c :: cs) with
    | some (word, rest) => '^' :: (word ++ unraise rest)
    | none => c :: unraise cs
termination_by cs => cs.length
decreasing_by
  . have hopen : 0 < openTag.length := by decide
    rw [(raised?_eq_some_iff.1 _h).1]
    simp only [List.length_append]
    omega
  . simp

theorem unraise_of_ne (hc : c ≠ '<') : unraise (c :: cs) = c :: unraise cs := by
  rw [unraise]
  split
  . next h =>
    rw [raised?_of_ne hc] at h
    cases h
  . rfl

theorem unraise_tags (hne : word ≠ []) (hword : ∀ c ∈ word, isWord c) (rest : List Char) :
    unraise (openTag ++ word ++ closeTag ++ rest) = '^' :: (word ++ unraise rest) := by
  have hraised : raised? (openTag ++ word ++ closeTag ++ rest) = some (word, rest) :=
    raised?_eq_some_iff.2 ⟨rfl, hne, hword⟩
  obtain ⟨d, ds, hcons⟩ : ∃ d ds, openTag ++ word ++ closeTag ++ rest = d :: ds := ⟨_, _, rfl⟩
  rw [hcons] at hraised ⊢
  rw [unraise]
  split
  . next h =>
    rw [hraised] at h
    cases h
    rfl
  . next h =>
    rw [hraised] at h
    cases h

/--
Behind an opening tag the word is passed, and closed where it ends.
-/
theorem raise_inWord (cs : List Char) :
    raise true cs = cs.takeWhile isWord ++ closeTag ++ raise false (cs.dropWhile isWord) := by
  induction cs with
  | nil => rfl
  | cons c cs ih =>
    by_cases hc : isWord c
    . simp [raise, hc, ih]
    . simp [raise, hc]

theorem raise_exponent (h : cs.head?.any isWord) :
    raise false ('^' :: cs)
      =
    openTag ++ cs.takeWhile isWord ++ closeTag ++ raise false (cs.dropWhile isWord) := by
  simp [raise, h, raise_inWord]

theorem raise_cons (h : (c == '^' && cs.head?.any isWord) = false) :
    raise false (c :: cs) = c :: raise false cs := by
  simp [raise, h]

theorem raise_of_isRaised (h : IsRaised cs) : raise false cs = cs := by
  induction cs with
  | nil => rfl
  | cons c cs ih =>
    rw [isRaised_cons_iff] at h
    rw [raise_cons, ih h.2]
    rw [Bool.and_eq_false_imp, beq_iff_eq]
    intro hc
    rw [Option.any_eq_false]
    simpa using h.1 hc

theorem takeWhile_ne_nil (h : cs.head?.any isWord) : cs.takeWhile isWord ≠ [] := by
  cases cs with
  | nil => cases h
  | cons c cs => simpa using h

/--
A text without an opening angle bracket has no tags of its own, so what is read back is the text.
-/
theorem unraise_raise (h : '<' ∉ cs) : unraise (raise false cs) = cs := by
  -- A word between tags is read at once, so the induction is on the length of the text.
  induction hn : cs.length using Nat.strongRecOn generalizing cs with
  | _ n ih =>
    cases cs with
    | nil => simp [raise, unraise]
    | cons c cs =>
      rw [List.mem_cons, not_or] at h
      by_cases hcaret : (c == '^' && cs.head?.any isWord) = true
      . rw [Bool.and_eq_true, beq_iff_eq] at hcaret
        obtain ⟨rfl, hhead⟩ := hcaret
        have hrest : '<' ∉ cs.dropWhile isWord := fun hmem => h.2 (List.dropWhile_subset _ hmem)
        have hlength := (List.dropWhile_sublist isWord (l := cs)).length_le
        rw [raise_exponent hhead, unraise_tags (takeWhile_ne_nil hhead),
          ih _ (by rw [← hn, List.length_cons]; omega) hrest rfl, List.takeWhile_append_dropWhile]
        exact fun c hc => List.mem_takeWhile_imp hc
      . rw [Bool.not_eq_true] at hcaret
        rw [raise_cons hcaret, unraise_of_ne (Ne.symm h.1), ih cs.length (by simp [← hn]) h.2 rfl]

theorem superscript_superscript (label : String) :
    superscript (superscript label) = superscript label := by
  have h := raise_of_isRaised (isRaised_superscript label)
  rw [superscript, h, String.ofList_toList]

/--
A label with carets in the place of tags.
-/
def plain (label : String) : String :=
  .ofList (unraise label.toList)

theorem plain_superscript {label : String} (h : '<' ∉ label.toList) :
    plain (superscript label) = label := by
  rw [plain, superscript, String.toList_ofList, unraise_raise h, String.ofList_toList]

/--
Raising the exponents of a label once is enough. From a label without an opening angle bracket it
takes nothing away: carets in the place of the tags give the label back, and so no two such labels
are raised to the same one.
-/
theorem superscript_lossless :
    (∀ label, superscript (superscript label) = superscript label)
      ∧ (∀ label, '<' ∉ label.toList → plain (superscript label) = label)
      ∧ ∀ label other, '<' ∉ label.toList → '<' ∉ other.toList →
        (superscript label = superscript other ↔ label = other) := by
  refine ⟨superscript_superscript, fun label h => plain_superscript h, ?_⟩
  intro label other hlabel hother
  constructor
  . intro h
    calc
      label = plain (superscript label) := (plain_superscript hlabel).symm
      _ = plain (superscript other) := by rw [h]
      _ = other := plain_superscript hother
  . rintro rfl
    rfl

theorem superscript_lossless_carets :
    '<' ∉ "O(2^n^m) ^^k^".toList ∧ '<' ∉ "O(2^nm) ^^k^".toList
      ∧ superscript (superscript "O(2^n^m) ^^k^") = superscript "O(2^n^m) ^^k^"
      ∧ plain (superscript "O(2^n^m) ^^k^") = "O(2^n^m) ^^k^"
      ∧ (superscript "O(2^n^m) ^^k^" = superscript "O(2^nm) ^^k^"
        ↔ "O(2^n^m) ^^k^" = "O(2^nm) ^^k^") := by
  have h₁ : '<' ∉ "O(2^n^m) ^^k^".toList := by
    decide
  have h₂ : '<' ∉ "O(2^nm) ^^k^".toList := by
    decide
  exact ⟨h₁, h₂, superscript_lossless.1 _, superscript_lossless.2.1 _ h₁,
    superscript_lossless.2.2 _ _ h₁ h₂⟩

end CodeGauge.Label
