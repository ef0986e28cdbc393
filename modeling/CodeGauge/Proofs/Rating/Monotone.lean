import CodeGauge.Proofs.Rating

/-!
This module contains the rating of features that are compared count by count. Where each count is at
least as large, the rating is no better, but for one exception: a loop that halves its range stands
beside what would be sorting alone, and takes its class.
-/

namespace CodeGauge

namespace Features

variable {f g : Features}


/--
Whether each count of one text is at least that of another.
-/
structure Dominates (f g : Features) : Prop where
  loops : g.loops ≤ f.loops
  nestedLoops : g.nestedLoops ≤ f.nestedLoops
  recursions : g.recursions ≤ f.recursions
  sortCalls : g.sortCalls ≤ f.sortCalls
  logCalls : g.logCalls ≤ f.logCalls
  arrays : g.arrays ≤ f.arrays
  maps : g.maps ≤ f.maps
  sets : g.sets ≤ f.sets
  allocations : g.allocations ≤ f.allocations

/--
Whether the class of time is that of a loop that halves its range, whatever else there is.
-/
def IsHalved (f : Features) : Prop :=
  f.halvesRange ∧ f.nestedLoops = 0 ∧ 0 < f.loops

theorem Dominates.containers_le (h : f.Dominates g) : g.containers ≤ f.containers := by
  have := h.arrays
  have := h.maps
  have := h.sets
  have := h.allocations
  unfold containers
  omega

theorem Dominates.covers (h : f.Dominates g) : f.Covers g where
  loops hg := Nat.lt_of_lt_of_le hg h.loops
  nestedLoops hg := Nat.lt_of_lt_of_le hg h.nestedLoops
  recursions hg := Nat.lt_of_lt_of_le hg h.recursions
  sortCalls hg := Nat.lt_of_lt_of_le hg h.sortCalls
  logCalls hg := Nat.lt_of_lt_of_le hg h.logCalls
  containers := h.containers_le

theorem rank_time_of_isHalved (h : f.IsHalved) : f.time.rank = 1 := by
  obtain ⟨hhalves, hnested, hloops⟩ := h
  simp [time, hhalves, hnested, hloops, Growth.rank]

theorem time_of_not_isHalved (h : ¬ f.IsHalved) : f.time = f.baseTime := by
  unfold time
  rw [if_neg]
  simp only [Bool.and_eq_true, beq_iff_eq, decide_eq_true_eq]
  rintro ⟨⟨hnested, hloops⟩, hhalves⟩
  exact h ⟨hhalves, hnested, hloops⟩

/--
Without loops and sorting, time costs no more than a logarithm or than the space does.
-/
theorem rank_baseTime_le_of_no_sortCalls (hnested : g.nestedLoops = 0) (hloops : g.loops = 0)
    (hsort : g.sortCalls = 0) : g.baseTime.rank ≤ max 1 g.space.rank := by
  unfold baseTime space
  grind [Growth.rank]

theorem rank_baseTime_of_sortCalls (hnested : g.nestedLoops = 0) (hsort : 0 < g.sortCalls) :
    g.baseTime.rank = 3 := by
  simp [baseTime, hnested, hsort, Growth.rank]

theorem rank_space_le_two (f : Features) : f.space.rank ≤ 2 := by
  unfold space
  grind [Growth.rank]

namespace Dominates

theorem nestedLoops_eq_zero (h : f.Dominates g) (hf : f.IsHalved) : g.nestedLoops = 0 :=
  Nat.eq_zero_of_le_zero (hf.2.1 ▸ h.nestedLoops)

theorem rate_le_of_isHalved (h : f.Dominates g) (hf : f.IsHalved) (hg : g.IsHalved) :
    rate f.time f.space ≤ rate g.time g.space := by
  have hspace := rank_space_le h.covers
  apply rate_le_rate
  rw [rank_time_of_isHalved hf, rank_time_of_isHalved hg]
  omega

/--
Without a loop of its own, `g` is rated better only if it does not sort.
-/
theorem rate_le_iff_of_no_loops (h : f.Dominates g) (hf : f.IsHalved) (hg : g.loops = 0) :
    rate f.time f.space ≤ rate g.time g.space ↔ g.sortCalls = 0 := by
  have hnested := h.nestedLoops_eq_zero hf
  have htime : g.time = g.baseTime := by
    apply time_of_not_isHalved
    rintro ⟨_, _, hloops⟩
    omega
  rw [htime]
  constructor
  . intro hrate
    by_contra hsort
    -- Sorting alone has a higher rank than a logarithm and than any class of space.
    have hspace := rank_space_le_two f
    unfold rate at hrate
    rw [rank_time_of_isHalved hf, rank_baseTime_of_sortCalls hnested (by omega)] at hrate
    omega
  . intro hsort
    have hspace := rank_space_le h.covers
    have hbase := rank_baseTime_le_of_no_sortCalls hnested hg hsort
    apply rate_le_rate
    rw [rank_time_of_isHalved hf]
    omega

end Dominates

/--
Where features have at least as many signals of each kind, and halve the range if and only if the
others do, their rating is at most that of the others, unless a loop that is not nested halves the
range in them and the others have no loop but sort.
-/
theorem rate_le_iff (h : f.Dominates g) (hhalves : f.halvesRange = g.halvesRange) :
    rate f.time f.space ≤ rate g.time g.space
      ↔
    ¬ (f.halvesRange ∧ f.nestedLoops = 0 ∧ 0 < f.loops ∧ g.loops = 0 ∧ 0 < g.sortCalls) := by
  by_cases hf : f.IsHalved
  . by_cases hg : g.loops = 0
    . rw [h.rate_le_iff_of_no_loops hf hg]
      obtain ⟨hhalves, hnested, hloops⟩ := hf
      simp [hhalves, hnested, hloops, hg]
    . have hhalved : g.IsHalved := ⟨hhalves ▸ hf.1, h.nestedLoops_eq_zero hf, by omega⟩
      simp [h.rate_le_of_isHalved hf hhalved, hg]
  . refine iff_of_true (rate_le_of_covers h.covers (time_of_not_isHalved hf)) ?_
    rintro ⟨hhalves, hnested, hloops, _⟩
    exact hf ⟨hhalves, hnested, hloops⟩

theorem rate_le_iff_sort_in_loop :
    Dominates { loops := 1, sortCalls := 1, halvesRange := true }
        { sortCalls := 1, halvesRange := true }
      ∧ (rate (time { loops := 1, sortCalls := 1, halvesRange := true })
            (space { loops := 1, sortCalls := 1, halvesRange := true })
          ≤ rate (time { sortCalls := 1, halvesRange := true })
            (space { sortCalls := 1, halvesRange := true })
        ↔ ¬ (true ∧ 0 = 0 ∧ 0 < 1 ∧ 0 = 0 ∧ 0 < 1)) := by
  have h : Dominates { loops := 1, sortCalls := 1, halvesRange := true }
      { sortCalls := 1, halvesRange := true } := by
    constructor <;> decide
  exact ⟨h, rate_le_iff h rfl⟩

end Features
end CodeGauge
