import CodeGauge.Proofs.Text.Blank

/-!
This module contains the parts of a text between separators, and what is left of a text without the
blanks at its ends.
-/

namespace CodeGauge.Text

variable {p : Char → Bool} {cs : List Char} {c : Char} {s part : String} {parts : List String}

theorem not_mem_of_mem_splitOn {α : Type} [BEq α] [LawfulBEq α] {x : α} {xs part : List α}
    (h : part ∈ xs.splitOn x) : x ∉ part := by
  unfold List.splitOn at h
  induction xs generalizing part with
  | nil =>
    rw [List.splitOnP_nil, List.mem_singleton] at h
    rw [h]
    exact List.not_mem_nil
  | cons y xs ih =>
    rw [List.splitOnP_cons_eq_if_modifyHead] at h
    split at h
    . cases List.mem_cons.1 h with
      | inl heq =>
        rw [heq]
        exact List.not_mem_nil
      | inr hmem => exact ih hmem
    . next hne =>
      cases hrest : xs.splitOnP (· == x) with
      | nil => exact (List.splitOnP_ne_nil _ _ hrest).elim
      | cons first rest =>
        rw [hrest, List.modifyHead_cons] at h
        rw [hrest, List.forall_mem_cons] at ih
        cases List.mem_cons.1 h with
        | inl heq =>
          rw [heq, List.mem_cons, not_or]
          exact ⟨fun hxy => hne (beq_iff_eq.2 hxy.symm), ih.1⟩
        | inr hmem => exact ih.2 part hmem

/--
The parts of a text between its commas.
-/
def commaParts (s : String) : List String :=
  (s.toList.splitOn ',').map String.ofList

theorem intercalate_commaParts (s : String) : ",".intercalate (commaParts s) = s := by
  apply String.toList_inj.1
  simp [String.toList_intercalate, commaParts, Function.comp_def]

theorem comma_not_mem_of_mem_commaParts (h : part ∈ commaParts s) : ',' ∉ part.toList := by
  obtain ⟨cs, hcs, rfl⟩ := List.mem_map.1 h
  rw [String.toList_ofList]
  exact not_mem_of_mem_splitOn hcs

theorem commaParts_intercalate (hne : parts ≠ []) (h : ∀ part ∈ parts, ',' ∉ part.toList) :
    commaParts (",".intercalate parts) = parts := by
  have hcomma : ∀ cs ∈ parts.map String.toList, ',' ∉ cs := by
    simpa using h
  have hsplit := List.splitOn_intercalate ',' hcomma (by simpa using hne)
  simp [commaParts, String.toList_intercalate, hsplit, Function.comp_def]

theorem of_mem_head?_dropWhile : ∀ c ∈ (cs.dropWhile p).head?, p c = false := by
  intro c hc
  have h := List.head?_dropWhile_not p cs
  rw [hc] at h
  simpa using h

theorem of_mem_head?_strip : ∀ c ∈ (strip p cs).head?, p c = false := by
  intro c hc
  obtain ⟨r, hr⟩ := strip_prefix_dropWhile p cs
  have hhead : c ∈ (cs.dropWhile p).head? := by
    rw [← hr, List.head?_append, hc]
    rfl
  exact of_mem_head?_dropWhile c hhead

theorem of_mem_getLast?_strip : ∀ c ∈ (strip p cs).getLast?, p c = false := by
  rw [strip, List.getLast?_reverse]
  exact of_mem_head?_dropWhile

theorem trim_trim (s : String) : trim (trim s) = trim s := by
  unfold trim
  rw [String.toList_ofList, strip_eq_self of_mem_head?_strip of_mem_getLast?_strip]

end CodeGauge.Text
