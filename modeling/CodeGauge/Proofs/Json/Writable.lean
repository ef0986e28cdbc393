import CodeGauge.Json.Writer
import CodeGauge.Proofs.Json.Document
import CodeGauge.Proofs.Number.Numeral

/-!
This module contains that a value which has been read can be written where there is as much room.
-/

namespace CodeGauge.Json

open Text

variable {τ : Type} {cs rest digits : List Char} {room fuel : Nat} {v : Json τ}


theorem itemsFault?_eq_none_iff {items : List (Json τ)} :
    itemsFault? room items = none ↔ ∀ v ∈ items, writeFault? room v = none := by
  induction items with
  | nil => simp [itemsFault?]
  | cons item items ih => simp [itemsFault?, ih]

theorem fieldsFault?_eq_none_iff {fields : Fields τ} :
    fieldsFault? room fields = none ↔ ∀ f ∈ fields, writeFault? room f.2 = none := by
  induction fields with
  | nil => simp [fieldsFault?]
  | cons f fields ih => simp [fieldsFault?, ih]

theorem mem_setField [BEq τ] {name : τ} {value : Json τ} {fields : Fields τ} {f : τ × Json τ}
    (h : f ∈ setField name value fields) : f.2 = value ∨ f ∈ fields := by
  induction fields with
  | nil =>
    rw [setField, List.mem_singleton] at h
    exact .inl (h ▸ rfl)
  | cons g fields ih =>
    rw [setField] at h
    split at h
    . cases List.mem_cons.1 h with
      | inl heq => exact .inl (heq ▸ rfl)
      | inr hmem => exact .inr (List.mem_cons_of_mem g hmem)
    . cases List.mem_cons.1 h with
      | inl heq => exact .inr (heq ▸ List.mem_cons_self)
      | inr hmem => exact (ih hmem).imp id (List.mem_cons_of_mem g)

theorem numberOf_lt (h : ∀ c ∈ digits, c.isDigit) : numberOf digits < Nat.pow 10 digits.length := by
  induction digits using List.reverseRecOn with
  | nil => decide
  | append_singleton digits c ih =>
    have hc : '0'.toNat ≤ c.toNat ∧ c.toNat ≤ '9'.toNat :=
      Char.isDigit_iff_toNat.1 (h c (by simp))
    have hdigit : c.toNat - '0'.toNat ≤ 9 := Nat.sub_le_of_le_add hc.2
    have hnumber : numberOf (digits ++ [c]) = 10 * numberOf digits + (c.toNat - '0'.toNat) := by
      simp [numberOf, Numeral.ofDigits]
    have hlt := ih fun c hc => h c (List.mem_append_left _ hc)
    rw [hnumber, List.length_append, List.length_singleton, Nat.pow_eq, Nat.pow_succ]
    rw [Nat.pow_eq] at hlt
    omega

theorem length_toDigits_le (h : ∀ c ∈ digits, c.isDigit) (hne : digits ≠ []) :
    (Nat.toDigits 10 (numberOf digits)).length ≤ digits.length :=
  (Nat.length_toDigits_le_iff (by decide) (List.length_pos_iff.2 hne)).2 (numberOf_lt h)

/--
A whole number that is read has no more digits than are read.
-/
theorem writeFault?_of_readNumber? {negative : Bool}
    (h : readNumber? negative cs = some (.ok (v, rest))) : writeFault? room v = none := by
  obtain ⟨⟨whole, left⟩, hwhole, hresult⟩ := Option.map_eq_some_iff.1 h
  obtain ⟨rfl, hdigits⟩ := append_of_wholeDigits? hwhole
  dsimp only at hresult
  split at hresult
  . split at hresult
    . cases hresult
    . next hlong =>
      cases hresult
      have hlength : (Nat.toDigits 10 (numberOf whole)).length ≤ maxIntDigits := by
        cases whole with
        | nil => decide
        | cons d ds =>
          exact (length_toDigits_le hdigits (List.cons_ne_nil d ds)).trans (Nat.le_of_not_lt hlong)
      cases negative <;> simp [writeFault?, hlength]
  . cases hresult
    simp [writeFault?]

theorem writeFault?_of_readScalar (h : readScalar cs = .ok (v, rest)) :
    writeFault? room v = none := by
  unfold readScalar at h
  split at h
  case h_7 => exact writeFault?_of_readNumber? (readNumber?_of_getD h)
  case h_8 => exact writeFault?_of_readNumber? (readNumber?_of_getD h)
  all_goals
    cases h
    simp [writeFault?]

variable [BEq τ] [Wording τ]

mutual

theorem writeFault?_of_readValue {room fuel : Nat} {cs rest : List Char} {v : Json τ}
    (h : readValue room fuel cs = .ok (v, rest)) : writeFault? room v = none := by
  cases fuel with
  | zero => cases h
  | succ fuel =>
    unfold readValue at h
    split at h
    . split at h
      . cases h
      . cases h
        simp [writeFault?]
    . split at h
      . cases h
      . split at h
        . cases h
          rfl
        . exact writeFault?_of_readItems h nofun
    . split at h
      . cases h
      . split at h
        . cases h
          rfl
        . exact writeFault?_of_readFields h nofun
    . exact writeFault?_of_readScalar h

theorem writeFault?_of_readItems {room fuel : Nat} {found : List (Json τ)} {cs rest : List Char}
    {v : Json τ} (h : readItems room fuel found cs = .ok (v, rest))
    (hfound : ∀ item ∈ found, writeFault? room item = none) : writeFault? (room + 1) v = none := by
  cases fuel with
  | zero => cases h
  | succ fuel =>
    unfold readItems at h
    split at h
    . cases h
    . next item _ hvalue =>
      have hitems : ∀ v ∈ item :: found, writeFault? room v = none :=
        List.forall_mem_cons.2 ⟨writeFault?_of_readValue hvalue, hfound⟩
      split at h
      . cases h
        rw [writeFault?, itemsFault?_eq_none_iff]
        intro v hv
        exact hitems v (List.mem_reverse.1 hv)
      . exact writeFault?_of_readItems h hitems
      . cases h

theorem writeFault?_of_readFields {room fuel : Nat} {found : Fields τ} {cs rest : List Char}
    {v : Json τ} (h : readFields room fuel found cs = .ok (v, rest))
    (hfound : ∀ f ∈ found, writeFault? room f.2 = none) : writeFault? (room + 1) v = none := by
  cases fuel with
  | zero => cases h
  | succ fuel =>
    unfold readFields at h
    split at h
    . split at h
      . cases h
      . next name _ _ =>
        split at h
        . split at h
          . cases h
          . next value _ hvalue =>
            have hfields : ∀ f ∈ setField name value found, writeFault? room f.2 = none := by
              intro f hf
              cases mem_setField hf with
              | inl heq => exact heq ▸ writeFault?_of_readValue hvalue
              | inr hmem => exact hfound f hmem
            dsimp only at h
            split at h
            . cases h
              rwa [writeFault?, fieldsFault?_eq_none_iff]
            . exact writeFault?_of_readFields h hfields
            . cases h
        . cases h
    . cases h

end

/--
A value that has been read can be written where there is as much room.
-/
theorem writeFault?_of_read (h : read cs room = .ok v) : writeFault? room v = none := by
  obtain ⟨rest, hvalue, _⟩ := exists_of_readUnmarked (readUnmarked_of_read h)
  exact writeFault?_of_readValue hvalue

end CodeGauge.Json
