import CodeGauge.Proofs.Json.Consume

/-!
This module contains what the reader of JSON texts makes of a text that goes on behind a value: the
value is read from the same characters, and all that follows is left.
-/

namespace CodeGauge.Json

open Text

variable {τ : Type} {cs rest : List Char} {p : Char → Bool}


/--
Whether a text starts with a character that ends a number.
-/
def EndsNumber (cs : List Char) : Prop :=
  ∃ c rest, cs = c :: rest ∧ (isBlank c ∨ c = ',' ∨ c = ']' ∨ c = '}')

theorem EndsNumber.ne_nil (h : EndsNumber cs) : cs ≠ [] := by
  obtain ⟨c, rest, rfl, _⟩ := h
  exact List.cons_ne_nil c rest

theorem EndsNumber.head_ne {c : Char} (h : EndsNumber (c :: rest))
    (hc : c = '.' ∨ c = 'e' ∨ c = 'E') : False := by
  obtain ⟨c', rest', heq, hc'⟩ := h
  obtain ⟨rfl, _⟩ := List.cons.inj heq
  rcases hc with rfl | rfl | rfl <;> revert hc' <;> decide

theorem endsNumber_of_skipBlanks {c : Char} (h : skipBlanks cs = c :: rest)
    (hc : c = ',' ∨ c = ']' ∨ c = '}') : EndsNumber cs := by
  cases cs with
  | nil => cases h
  | cons d cs =>
    by_cases hd : isBlank d
    . exact ⟨d, cs, rfl, .inl hd⟩
    . rw [skipBlanks, List.dropWhile_cons_of_neg hd] at h
      obtain ⟨rfl, rfl⟩ := List.cons.inj h
      exact ⟨_, _, rfl, .inr hc⟩

theorem takeWhile_append_of_dropWhile (h : cs.dropWhile p ≠ []) (tail : List Char) :
    (cs ++ tail).takeWhile p = cs.takeWhile p := by
  induction cs with
  | nil => simp at h
  | cons c cs ih =>
    by_cases hc : p c
    . rw [List.dropWhile_cons_of_pos hc] at h
      rw [List.cons_append, List.takeWhile_cons_of_pos hc, List.takeWhile_cons_of_pos hc, ih h]
    . rw [List.cons_append, List.takeWhile_cons_of_neg hc, List.takeWhile_cons_of_neg hc]

theorem dropWhile_append_of_dropWhile (h : cs.dropWhile p ≠ []) (tail : List Char) :
    (cs ++ tail).dropWhile p = cs.dropWhile p ++ tail := by
  rw [List.dropWhile_append, if_neg]
  simpa using h

theorem skipBlanks_append (h : skipBlanks cs ≠ []) (tail : List Char) :
    skipBlanks (cs ++ tail) = skipBlanks cs ++ tail :=
  dropWhile_append_of_dropWhile h tail

theorem skipBlanks_append_of_eq_cons {c : Char} (h : skipBlanks cs = c :: rest)
    (tail : List Char) : skipBlanks (cs ++ tail) = c :: (rest ++ tail) := by
  rw [skipBlanks_append (h ▸ List.cons_ne_nil c rest), h, List.cons_append]

theorem codeUnit?_append {n : Nat} (h : codeUnit? cs = some n) (tail : List Char) :
    codeUnit? (cs ++ tail) = some n := by
  unfold codeUnit? at h
  split at h
  . exact h
  . cases h

theorem exists_of_codeUnit? {n : Nat} (h : codeUnit? cs = some n) :
    ∃ a b c d e rest, cs = a :: b :: c :: d :: e :: rest := by
  unfold codeUnit? at h
  split at h
  . exact ⟨_, _, _, _, _, _, rfl⟩
  . cases h

theorem escape_append {opened opened' : List Char} {found : Wide} {point : CodePoint} {width : Nat}
    [Wording τ] {s : τ} (h : escape opened cs = .ok (point, width))
    (hread : readText opened found width cs = .ok (s, rest)) (tail : List Char) :
    escape opened' (cs ++ tail) = .ok (point, width) := by
  unfold escape at h
  split at h
  . cases h
  . next digits =>
    split at h
    . cases h
    . next high hunit =>
      obtain ⟨a, b, c, d, e, more, rfl⟩ := exists_of_codeUnit? hunit
      have hunit' := codeUnit?_append hunit tail
      simp only [List.cons_append] at hunit' ⊢
      simp only [escape, hunit', List.drop_succ_cons, List.drop_zero] at h ⊢
      split at h
      . next hhigh heq =>
        obtain ⟨rfl, rfl⟩ := List.cons.inj heq
        simp only [List.cons_append, hhigh]
        split at h
        . next hlow =>
          simp only [codeUnit?_append hlow]
          exact h
        . next hnone =>
          -- The text ends within the second half of a pair, so it has no closing quote.
          split at h
          . cases h
            simp [readText, escape, hnone] at hread
          . cases h
      . next hother =>
        cases h
        split
        . next hhigh heq =>
          obtain ⟨rfl, htail⟩ := List.cons.inj heq
          cases more with
          | nil => simp [readText, escape] at hread
          | cons u more =>
            obtain ⟨rfl, _⟩ := List.cons.inj htail
            exact (hother _ hhigh rfl).elim
        . rfl
  . next c rest hu =>
    rw [List.cons_append]
    unfold escape
    split
    . next heq => cases heq
    . next heq =>
      obtain ⟨rfl, _⟩ := List.cons.inj heq
      exact (hu rfl).elim
    . next heq =>
      obtain ⟨rfl, rfl⟩ := List.cons.inj heq
      split at h
      . exact h
      . cases h

theorem readText_append [Wording τ] {opened : List Char} {found : Wide} {skip : Nat} {s : τ}
    (h : readText opened found skip cs = .ok (s, rest)) (opened' tail : List Char) :
    readText opened' found skip (cs ++ tail) = .ok (s, rest ++ tail) := by
  induction cs generalizing found skip with
  | nil => cases h
  | cons c cs ih =>
    rw [List.cons_append]
    unfold readText at h ⊢
    split at h
    . exact ih h
    . split at h
      . next hquote =>
        cases h
        rw [if_pos hquote]
      . next hquote =>
        rw [if_neg hquote]
        split at h
        . next hslash =>
          rw [if_pos hslash]
          split at h
          . cases h
          . next hescape =>
            rw [escape_append hescape h]
            exact ih h
        . next hslash =>
          rw [if_neg hslash]
          split at h
          . cases h
          . next hcontrol =>
            rw [if_neg hcontrol]
            exact ih h

theorem wholeDigits?_append {whole : List Char} (h : wholeDigits? cs = some (whole, rest))
    (hrest : rest ≠ []) (tail : List Char) :
    wholeDigits? (cs ++ tail) = some (whole, rest ++ tail) := by
  unfold wholeDigits? at h
  split at h
  . cases h
    rfl
  . next c cs hzero =>
    split at h
    . next hdigit =>
      cases h
      rw [List.cons_append]
      unfold wholeDigits?
      split
      . next heq =>
        obtain ⟨rfl, _⟩ := List.cons.inj heq
        exact (hzero rfl).elim
      . next heq =>
        obtain ⟨rfl, rfl⟩ := List.cons.inj heq
        rw [if_pos hdigit, takeWhile_append_of_dropWhile hrest, dropWhile_append_of_dropWhile hrest]
      . next heq => cases heq
    . cases h
  . cases h

theorem fraction_append (hne : (fraction cs).2 ≠ []) (hpoint : (fraction cs).2.head? ≠ some '.')
    (tail : List Char) : fraction (cs ++ tail) = ((fraction cs).1, (fraction cs).2 ++ tail) := by
  cases cs with
  | nil => exact (hne rfl).elim
  | cons c cs =>
    by_cases hc : c = '.'
    . subst hc
      simp only [List.cons_append, fraction] at hne hpoint ⊢
      split at hne
      . next hnone => simp [hnone] at hpoint
      . next hsome =>
        rw [takeWhile_append_of_dropWhile hne, dropWhile_append_of_dropWhile hne]
        split
        . next hnone => exact (hsome hnone).elim
        . rfl
    . simp [fraction, hc]

theorem sign_append (hne : cs ≠ []) (tail : List Char) :
    Numeral.sign (cs ++ tail) = ((Numeral.sign cs).1, (Numeral.sign cs).2 ++ tail) := by
  cases cs with
  | nil => exact (hne rfl).elim
  | cons c cs =>
    rw [List.cons_append]
    unfold Numeral.sign
    split <;> simp_all

theorem exponent_append (h : EndsNumber (exponent cs).2) (tail : List Char) :
    exponent (cs ++ tail) = ((exponent cs).1, (exponent cs).2 ++ tail) := by
  cases cs with
  | nil => exact (h.ne_nil rfl).elim
  | cons c cs =>
    rw [List.cons_append]
    unfold exponent at h ⊢
    dsimp only at h ⊢
    split at h
    . next hletter hdigits =>
      have hne : cs ≠ [] := by
        rintro rfl
        cases hdigits
      have hdrop := h.ne_nil
      rw [sign_append hne]
      dsimp only
      rw [takeWhile_append_of_dropWhile hdrop, dropWhile_append_of_dropWhile hdrop, hdigits,
        hletter]
    . have hletter : (c == 'e' || c == 'E') = false := by
        rw [Bool.eq_false_iff]
        intro htrue
        exact h.head_ne (.inr (by simpa using htrue))
      simp [hletter]

theorem readNumber?_append {negative : Bool} {v : Json τ}
    (h : readNumber? negative cs = some (.ok (v, rest))) (hrest : EndsNumber rest)
    (tail : List Char) : readNumber? negative (cs ++ tail) = some (.ok (v, rest ++ tail)) := by
  unfold readNumber? at h ⊢
  obtain ⟨⟨whole, left⟩, hwhole, hresult⟩ := Option.map_eq_some_iff.1 h
  dsimp only at hresult
  have hleft : (exponent (fraction left).2).2 = rest := by
    split at hresult
    . split at hresult
      . cases hresult
      . cases hresult
        rfl
    . cases hresult
      rfl
  -- Each part of the number is followed by something, so that none of them takes from the tail.
  have hexponent : EndsNumber (exponent (fraction left).2).2 := hleft ▸ hrest
  have hfraction : (fraction left).2 ≠ [] := by
    intro hnil
    rw [hnil] at hexponent
    exact hexponent.ne_nil rfl
  have hpoint : (fraction left).2.head? ≠ some '.' := by
    intro hhead
    obtain ⟨more, hmore⟩ := List.head?_eq_some_iff.1 hhead
    rw [hmore] at hexponent
    exact hexponent.head_ne (.inl rfl)
  have hne : left ≠ [] := by
    rintro rfl
    exact hfraction rfl
  rw [wholeDigits?_append hwhole hne, Option.map_some]
  dsimp only
  rw [fraction_append hfraction hpoint]
  dsimp only
  rw [exponent_append hexponent]
  dsimp only
  rw [hleft] at hresult ⊢
  split at hresult
  . next hint =>
    rw [if_pos hint]
    split at hresult
    . cases hresult
    . next hlong =>
      rw [if_neg hlong]
      cases hresult
      rfl
  . next hint =>
    rw [if_neg hint]
    cases hresult
    rfl

theorem isDigit_of_readNumber? {negative : Bool} {result : Except Stop (Json τ × List Char)}
    (h : readNumber? negative cs = some result) : ∃ c rest, cs = c :: rest ∧ c.isDigit := by
  obtain ⟨⟨whole, rest⟩, hwhole, _⟩ := Option.map_eq_some_iff.1 h
  unfold wholeDigits? at hwhole
  split at hwhole
  . exact ⟨_, _, rfl, rfl⟩
  . next c rest _ =>
    split at hwhole
    . next hdigit => exact ⟨c, rest, rfl, hdigit⟩
    . cases hwhole
  . cases hwhole

theorem readScalar_of_isDigit {c : Char} (h : c.isDigit) (cs : List Char) :
    readScalar (τ := τ) (c :: cs)
      =
    (readNumber? false (c :: cs)).getD (.error (.malformed .value (c :: cs))) := by
  unfold readScalar
  split
  case h_8 => rfl
  all_goals
    next heq =>
    obtain ⟨rfl, _⟩ := List.cons.inj heq
    simp at h

theorem readScalar_minus {c : Char} (h : c.isDigit) (cs : List Char) :
    readScalar (τ := τ) ('-' :: c :: cs)
      =
    (readNumber? true (c :: cs)).getD (.error (.malformed .value ('-' :: c :: cs))) := by
  unfold readScalar
  split
  case h_7 heq => rw [(List.cons.inj heq).2]
  case h_6 heq =>
    obtain ⟨rfl, _⟩ := List.cons.inj (List.cons.inj heq).2
    simp at h
  all_goals simp_all

theorem readNumber?_of_getD {negative : Bool} {stop : Stop} {result : Json τ × List Char}
    (h : (readNumber? negative cs).getD (.error stop) = .ok result) :
    readNumber? negative cs = some (.ok result) := by
  cases hnumber : readNumber? (τ := τ) negative cs with
  | none =>
    rw [hnumber] at h
    cases h
  | some number =>
    rw [hnumber, Option.getD_some] at h
    rw [h]

theorem readScalar_append {v : Json τ} (h : readScalar cs = .ok (v, rest))
    (hrest : EndsNumber rest) (tail : List Char) : readScalar (cs ++ tail) = .ok (v, rest ++ tail) := by
  unfold readScalar at h
  split at h
  case h_7 left _ =>
    have hnumber := readNumber?_of_getD h
    obtain ⟨c, digits, rfl, hc⟩ := isDigit_of_readNumber? hnumber
    have hnumber := readNumber?_append hnumber hrest tail
    rw [List.cons_append] at hnumber
    rw [List.cons_append, List.cons_append, readScalar_minus hc, hnumber, Option.getD_some]
  case h_8 =>
    have hnumber := readNumber?_of_getD h
    obtain ⟨c, digits, rfl, hc⟩ := isDigit_of_readNumber? hnumber
    have hnumber := readNumber?_append hnumber hrest tail
    rw [List.cons_append] at hnumber
    rw [List.cons_append, readScalar_of_isDigit hc, hnumber, Option.getD_some]
  all_goals
    cases h
    rfl

variable [BEq τ] [Wording τ]

section Steps

variable {room fuel : Nat} {found : List (Json τ)} {fields : Fields τ} {item value : Json τ}
  {name : τ} {left more : List Char} {c : Char}

theorem readValue_text (h : readText ('"' :: cs) [] 0 cs = .ok (name, rest)) :
    readValue room (fuel + 1) ('"' :: cs) = .ok (.str name, rest) := by
  simp [readValue, h]

theorem readValue_array_close (h : skipBlanks cs = ']' :: rest) :
    readValue (τ := τ) (room + 1) (fuel + 1) ('[' :: cs) = .ok (.arr [], rest) := by
  simp [readValue, h]

theorem readValue_array (h : skipBlanks cs = c :: rest) (hc : c ≠ ']') :
    readValue (τ := τ) (room + 1) (fuel + 1) ('[' :: cs) = readItems room fuel [] (c :: rest) := by
  simp [readValue, h, hc]

theorem readValue_object_close (h : skipBlanks cs = '}' :: rest) :
    readValue (τ := τ) (room + 1) (fuel + 1) ('{' :: cs) = .ok (.obj [], rest) := by
  simp [readValue, h]

theorem readValue_object (h : skipBlanks cs = c :: rest) (hc : c ≠ '}') :
    readValue (τ := τ) (room + 1) (fuel + 1) ('{' :: cs) = readFields room fuel [] (c :: rest) := by
  simp [readValue, h, hc]

theorem readValue_scalar (htext : c ≠ '"') (harray : c ≠ '[') (hobject : c ≠ '{') :
    readValue (τ := τ) room (fuel + 1) (c :: cs) = readScalar (c :: cs) := by
  simp [readValue, htext, harray, hobject]

theorem readItems_close (h : readValue room fuel cs = .ok (item, rest))
    (hskip : skipBlanks rest = ']' :: left) :
    readItems room (fuel + 1) found cs = .ok (.arr (item :: found).reverse, left) := by
  simp [readItems, h, hskip]

theorem readItems_comma (h : readValue room fuel cs = .ok (item, rest))
    (hskip : skipBlanks rest = ',' :: left) :
    readItems room (fuel + 1) found cs = readItems room fuel (item :: found) (skipBlanks left) := by
  simp [readItems, h, hskip]

theorem readFields_close (hname : readText ('"' :: cs) [] 0 cs = .ok (name, rest))
    (hcolon : skipBlanks rest = ':' :: left)
    (hvalue : readValue room fuel (skipBlanks left) = .ok (value, more)) {last : List Char}
    (hskip : skipBlanks more = '}' :: last) :
    readFields room (fuel + 1) fields ('"' :: cs) = .ok (.obj (setField name value fields), last) := by
  simp [readFields, hname, hcolon, hvalue, hskip]

theorem readFields_comma (hname : readText ('"' :: cs) [] 0 cs = .ok (name, rest))
    (hcolon : skipBlanks rest = ':' :: left)
    (hvalue : readValue room fuel (skipBlanks left) = .ok (value, more)) {last : List Char}
    (hskip : skipBlanks more = ',' :: last) :
    readFields room (fuel + 1) fields ('"' :: cs)
      =
    readFields room fuel (setField name value fields) (skipBlanks last) := by
  simp [readFields, hname, hcolon, hvalue, hskip]

theorem readValue_nil (room fuel : Nat) (result : Json τ × List Char) :
    readValue room fuel [] ≠ .ok result := by
  cases fuel <;> simp [readValue, readScalar, readNumber?, wholeDigits?]

theorem readItems_nil (room fuel : Nat) (found : List (Json τ)) (result : Json τ × List Char) :
    readItems room fuel found [] ≠ .ok result := by
  cases fuel with
  | zero => simp [readItems]
  | succ fuel =>
    unfold readItems
    split
    . simp
    . next hvalue => exact (readValue_nil _ _ _ hvalue).elim

theorem readFields_nil (room fuel : Nat) (found : Fields τ) (result : Json τ × List Char) :
    readFields room fuel found [] ≠ .ok result := by
  cases fuel <;> simp [readFields]

theorem exists_of_not_close {close : Char} (hne : skipBlanks cs ≠ [])
    (hclose : ∀ left, skipBlanks cs = close :: left → False) :
    ∃ c left, skipBlanks cs = c :: left ∧ c ≠ close := by
  obtain ⟨c, left, hskip⟩ := List.exists_cons_of_ne_nil hne
  refine ⟨c, left, hskip, ?_⟩
  rintro rfl
  exact hclose left hskip

end Steps

mutual

/--
A value is read from the same characters if the text goes on, with any more fuel. A number needs an
end for that, which all other values have in themselves.
-/
theorem readValue_append {room fuel fuel' : Nat} {cs rest : List Char} {v : Json τ}
    (h : readValue room fuel cs = .ok (v, rest)) (hfuel : fuel ≤ fuel')
    (hrest : cs.head? = some '{' ∨ EndsNumber rest) (tail : List Char) :
    readValue room fuel' (cs ++ tail) = .ok (v, rest ++ tail) := by
  cases fuel with
  | zero => cases h
  | succ fuel =>
    obtain ⟨fuel', rfl⟩ := Nat.exists_eq_add_of_le' (Nat.le_of_add_left_le hfuel)
    have hfuel := Nat.le_of_add_le_add_right hfuel
    unfold readValue at h
    split at h
    . split at h
      . cases h
      . next htext =>
        cases h
        exact readValue_text (readText_append htext _ tail)
    . next cs =>
      split at h
      . cases h
      . next room =>
        split at h
        . next hskip =>
          cases h
          exact readValue_array_close (skipBlanks_append_of_eq_cons hskip tail)
        . next hclose =>
          have hne : skipBlanks cs ≠ [] := by
            intro hnil
            rw [hnil] at h
            exact readItems_nil _ _ _ _ h
          obtain ⟨c, left, hskip, hc⟩ := exists_of_not_close hne hclose
          have hitems := readItems_append h hfuel tail
          rw [hskip] at hitems
          rw [← hitems]
          exact readValue_array (skipBlanks_append_of_eq_cons hskip tail) hc
    . next cs =>
      split at h
      . cases h
      . next room =>
        split at h
        . next hskip =>
          cases h
          exact readValue_object_close (skipBlanks_append_of_eq_cons hskip tail)
        . next hclose =>
          have hne : skipBlanks cs ≠ [] := by
            intro hnil
            rw [hnil] at h
            exact readFields_nil _ _ _ _ h
          obtain ⟨c, left, hskip, hc⟩ := exists_of_not_close hne hclose
          have hfields := readFields_append h hfuel tail
          rw [hskip] at hfields
          rw [← hfields]
          exact readValue_object (skipBlanks_append_of_eq_cons hskip tail) hc
    . next htext harray hobject =>
      cases cs with
      | nil => exact (readValue_nil (τ := τ) room 1 _ (by simpa [readValue] using h)).elim
      | cons c cs =>
        -- Only here the end of the value is not seen in the value itself.
        have hrest : EndsNumber rest := by
          cases hrest with
          | inl hhead => exact (hobject cs (by simpa using hhead)).elim
          | inr hends => exact hends
        rw [← readScalar_append h hrest tail]
        apply readValue_scalar <;> rintro rfl
        . exact htext cs rfl
        . exact harray cs rfl
        . exact hobject cs rfl

theorem readItems_append {room fuel fuel' : Nat} {found : List (Json τ)} {cs rest : List Char}
    {v : Json τ} (h : readItems room fuel found cs = .ok (v, rest)) (hfuel : fuel ≤ fuel')
    (tail : List Char) :
    readItems room fuel' found (cs ++ tail) = .ok (v, rest ++ tail) := by
  cases fuel with
  | zero => cases h
  | succ fuel =>
    obtain ⟨fuel', rfl⟩ := Nat.exists_eq_add_of_le' (Nat.le_of_add_left_le hfuel)
    have hfuel := Nat.le_of_add_le_add_right hfuel
    unfold readItems at h
    split at h
    . cases h
    . next hvalue =>
      split at h
      . next hskip =>
        cases h
        have hends := endsNumber_of_skipBlanks hskip (by simp)
        have hvalue := readValue_append hvalue hfuel (.inr hends) tail
        exact readItems_close hvalue (skipBlanks_append_of_eq_cons hskip tail)
      . next left hskip =>
        have hends := endsNumber_of_skipBlanks hskip (by simp)
        have hvalue := readValue_append hvalue hfuel (.inr hends) tail
        have hleft : skipBlanks left ≠ [] := by
          intro hnil
          rw [hnil] at h
          exact readItems_nil _ _ _ _ h
        rw [readItems_comma hvalue (skipBlanks_append_of_eq_cons hskip tail),
          skipBlanks_append hleft]
        exact readItems_append h hfuel tail
      . cases h

theorem readFields_append {room fuel fuel' : Nat} {found : Fields τ} {cs rest : List Char}
    {v : Json τ} (h : readFields room fuel found cs = .ok (v, rest)) (hfuel : fuel ≤ fuel')
    (tail : List Char) :
    readFields room fuel' found (cs ++ tail) = .ok (v, rest ++ tail) := by
  cases fuel with
  | zero => cases h
  | succ fuel =>
    obtain ⟨fuel', rfl⟩ := Nat.exists_eq_add_of_le' (Nat.le_of_add_left_le hfuel)
    have hfuel := Nat.le_of_add_le_add_right hfuel
    unfold readFields at h
    split at h
    . next cs =>
      split at h
      . cases h
      . next hname =>
        have hname := readText_append hname ('"' :: (cs ++ tail)) tail
        split at h
        . next left hcolon =>
          have hcolon := skipBlanks_append_of_eq_cons hcolon tail
          split at h
          . cases h
          . next hvalue =>
            have hleft : skipBlanks left ≠ [] := by
              intro hnil
              rw [hnil] at hvalue
              exact readValue_nil _ _ _ hvalue
            dsimp only at h
            split at h
            . next hskip =>
              cases h
              have hends := endsNumber_of_skipBlanks hskip (by simp)
              have hvalue := readValue_append hvalue hfuel (.inr hends) tail
              rw [← skipBlanks_append hleft] at hvalue
              exact readFields_close hname hcolon hvalue (skipBlanks_append_of_eq_cons hskip tail)
            . next last hskip =>
              have hends := endsNumber_of_skipBlanks hskip (by simp)
              have hvalue := readValue_append hvalue hfuel (.inr hends) tail
              rw [← skipBlanks_append hleft] at hvalue
              have hlast : skipBlanks last ≠ [] := by
                intro hnil
                rw [hnil] at h
                exact readFields_nil _ _ _ _ h
              have hskip := skipBlanks_append_of_eq_cons hskip tail
              rw [List.cons_append, readFields_comma hname hcolon hvalue hskip,
                skipBlanks_append hlast]
              exact readFields_append h hfuel tail
            . cases h
        . cases h
    . cases h

end

end CodeGauge.Json
