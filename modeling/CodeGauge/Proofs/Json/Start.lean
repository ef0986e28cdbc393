import CodeGauge.Proofs.Json.Document

/-!
This module contains what a document does not start with: none of its first two characters is the
null character.
-/

namespace CodeGauge.Json

open Text

variable {τ : Type} {cs rest whole : List Char} {c : Char} {v : Json τ} {room fuel : Nat}


theorem wholeDigits?_null (h : wholeDigits? (c :: '\x00' :: cs) = some (whole, rest)) :
    whole = [c] ∧ rest = '\x00' :: cs := by
  unfold wholeDigits? at h
  split at h
  . next heq =>
    cases heq
    cases h
    exact ⟨rfl, rfl⟩
  . next heq =>
    cases heq
    split at h
    . cases h
      exact ⟨rfl, rfl⟩
    . cases h
  . cases h

theorem rest_of_readNumber?_null {negative : Bool}
    (h : readNumber? negative (c :: '\x00' :: cs) = some (.ok (v, rest))) :
    rest = '\x00' :: cs := by
  unfold readNumber? at h
  obtain ⟨⟨whole, left⟩, hwhole, hresult⟩ := Option.map_eq_some_iff.1 h
  obtain ⟨rfl, rfl⟩ := wholeDigits?_null hwhole
  have hfraction : fraction ('\x00' :: cs) = ([], '\x00' :: cs) := by
    rfl
  have hexponent : exponent ('\x00' :: cs) = (none, '\x00' :: cs) := by
    rfl
  dsimp only at hresult
  rw [hfraction] at hresult
  dsimp only at hresult
  rw [hexponent] at hresult
  cases hresult
  rfl

theorem rest_of_readScalar_null (h : readScalar (c :: '\x00' :: cs) = .ok (v, rest)) :
    rest = '\x00' :: cs := by
  unfold readScalar at h
  split at h
  case h_7 heq =>
    -- Behind a minus sign there is no digit.
    cases heq
    cases h
  case h_8 => exact rest_of_readNumber?_null (readNumber?_of_getD h)
  all_goals
    next heq => cases heq

variable [BEq τ] [Wording τ]

theorem readValue_null (room fuel : Nat) (cs : List Char) (result : Json τ × List Char) :
    readValue room fuel ('\x00' :: cs) ≠ .ok result := by
  intro h
  cases fuel with
  | zero => cases h
  | succ fuel =>
    rw [readValue_scalar (by decide) (by decide) (by decide)] at h
    cases h

theorem readItems_null (room fuel : Nat) (found : List (Json τ)) (cs : List Char)
    (result : Json τ × List Char) : readItems room fuel found ('\x00' :: cs) ≠ .ok result := by
  intro h
  cases fuel with
  | zero => cases h
  | succ fuel =>
    unfold readItems at h
    split at h
    . cases h
    . next hvalue => exact readValue_null room fuel cs _ hvalue

theorem readFields_null (room fuel : Nat) (found : Fields τ) (cs : List Char)
    (result : Json τ × List Char) : readFields room fuel found ('\x00' :: cs) ≠ .ok result := by
  cases fuel <;> simp [readFields]

/--
Where the second character is the null character, only a value of one digit can be read, and what
is left starts with the null character.
-/
theorem rest_of_readValue_null (h : readValue room fuel (c :: '\x00' :: cs) = .ok (v, rest)) :
    rest = '\x00' :: cs := by
  have hskip : skipBlanks ('\x00' :: cs) = '\x00' :: cs := by
    rfl
  cases fuel with
  | zero => cases h
  | succ fuel =>
    by_cases htext : c = '"'
    . subst htext
      simp [readValue, readText] at h
    . by_cases harray : c = '['
      . subst harray
        cases room with
        | zero => cases h
        | succ room =>
          rw [readValue_array hskip (by decide)] at h
          exact (readItems_null room fuel [] cs _ h).elim
      . by_cases hobject : c = '{'
        . subst hobject
          cases room with
          | zero => cases h
          | succ room =>
            rw [readValue_object hskip (by decide)] at h
            exact (readFields_null room fuel [] cs _ h).elim
        . rw [readValue_scalar htext harray hobject] at h
          exact rest_of_readScalar_null h

theorem null_not_mem_take_two (h : readUnmarked cs room = .ok v) : '\x00' ∉ cs.take 2 := by
  obtain ⟨rest, hvalue, hrest⟩ := exists_of_readUnmarked h
  cases cs with
  | nil => exact List.not_mem_nil
  | cons c cs =>
    intro hmem
    cases List.mem_cons.1 hmem with
    | inl heq =>
      subst heq
      exact readValue_null room _ cs _ hvalue
    | inr hmem =>
      cases cs with
      | nil => cases hmem
      | cons d cs =>
        obtain rfl : '\x00' = d := by simpa using hmem
        by_cases hc : isBlank c
        . rw [skipBlanks, List.dropWhile_cons_of_pos hc] at hvalue
          exact readValue_null room _ cs _ hvalue
        . rw [skipBlanks, List.dropWhile_cons_of_neg hc] at hvalue
          rw [rest_of_readValue_null hvalue] at hrest
          cases hrest

end CodeGauge.Json
