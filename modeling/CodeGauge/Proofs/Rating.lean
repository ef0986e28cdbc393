import CodeGauge.Proofs.Signal.Seam
import CodeGauge.Verdict

/-!
This module contains the effect of more code on features and on a rating. In two texts that are
joined, most signals are as many as in both together. Their rating is at most that of the worse one,
as long as no loop is seen that halves its range.
-/

namespace CodeGauge

/--
A pair of classes is rated no better than another one if its worse class is at least as bad.
-/
theorem rate_le_rate {time space time' space' : Growth}
    (h : max time'.rank space'.rank ≤ max time.rank space.rank) :
    rate time space ≤ rate time' space' := by
  unfold rate
  omega

namespace Features

/--
Whether all that one text shows is also there in another. For containers it takes at least as many,
as their number counts.
-/
structure Covers (f g : Features) : Prop where
  loops : 0 < g.loops → 0 < f.loops
  nestedLoops : 0 < g.nestedLoops → 0 < f.nestedLoops
  recursions : 0 < g.recursions → 0 < f.recursions
  sortCalls : 0 < g.sortCalls → 0 < f.sortCalls
  logCalls : 0 < g.logCalls → 0 < f.logCalls
  containers : g.containers ≤ f.containers

variable {f g : Features}

theorem rank_baseTime_le (h : f.Covers g) : g.baseTime.rank ≤ f.baseTime.rank := by
  obtain ⟨hloops, hnested, hrecursions, hsort, hlog, _⟩ := h
  unfold baseTime
  grind [Growth.rank]

theorem rank_space_le (h : f.Covers g) : g.space.rank ≤ f.space.rank := by
  have hrecursions := h.recursions
  have hcontainers := h.containers
  unfold space
  grind [Growth.rank]

theorem rank_time_le (f : Features) : f.time.rank ≤ f.baseTime.rank := by
  unfold time baseTime
  grind [Growth.rank]

theorem time_of_not_halvesRange (h : f.halvesRange = false) : f.time = f.baseTime := by
  simp [time, h]

theorem rate_le_of_covers (h : f.Covers g) (htime : f.time = f.baseTime) :
    rate f.time f.space ≤ rate g.time g.space := by
  have hbase := rank_baseTime_le h
  have hspace := rank_space_le h
  have hg := rank_time_le g
  apply rate_le_rate
  rw [htime]
  omega

theorem rating_le_of_covers (h : f.Covers g) (hhalves : f.halvesRange = false) :
    (Verdict.ofFeatures f).rating ≤ (Verdict.ofFeatures g).rating :=
  rate_le_of_covers h (time_of_not_halvesRange hhalves)

end Features

section

variable (a b : String)

theorem toList_seam : (a ++ ";" ++ b).toList = a.toList ++ ';' :: b.toList := by
  simp

theorem count_toList_seam {p : Pattern} (hleast : 0 < p.least) (h : p.refuses ';') :
    p.count (a ++ ";" ++ b).toList = p.count a.toList + p.count b.toList := by
  rw [toList_seam]
  exact Pattern.count_seam hleast h

theorem loops_seam :
    (Features.ofText (a ++ ";" ++ b)).loops
      =
    (Features.ofText a).loops + (Features.ofText b).loops :=
  count_toList_seam a b (by decide) (by decide)

theorem sortCalls_seam :
    (Features.ofText (a ++ ";" ++ b)).sortCalls
      =
    (Features.ofText a).sortCalls + (Features.ofText b).sortCalls :=
  count_toList_seam a b (by decide) (by decide)

theorem logCalls_seam :
    (Features.ofText (a ++ ";" ++ b)).logCalls
      =
    (Features.ofText a).logCalls + (Features.ofText b).logCalls :=
  count_toList_seam a b (by decide) (by decide)

theorem containers_seam :
    (Features.ofText (a ++ ";" ++ b)).containers
      =
    (Features.ofText a).containers + (Features.ofText b).containers := by
  simp only [Features.ofText, Features.containers]
  rw [count_toList_seam a b (p := Signal.array) (by decide) (by decide)]
  rw [count_toList_seam a b (p := Signal.map) (by decide) (by decide)]
  rw [count_toList_seam a b (p := Signal.set) (by decide) (by decide)]
  rw [count_toList_seam a b (p := Signal.allocation) (by decide) (by decide)]
  omega

/--
Where a semicolon joins two texts, no signal is lost and none is gained, apart from nested loops,
recursion and halving: each of the other counts is the sum of those in the two texts.
-/
theorem Features.ofText_seam :
    (ofText (a ++ ";" ++ b)).loops = (ofText a).loops + (ofText b).loops
      ∧ (ofText (a ++ ";" ++ b)).sortCalls = (ofText a).sortCalls + (ofText b).sortCalls
      ∧ (ofText (a ++ ";" ++ b)).logCalls = (ofText a).logCalls + (ofText b).logCalls
      ∧ (ofText (a ++ ";" ++ b)).arrays = (ofText a).arrays + (ofText b).arrays
      ∧ (ofText (a ++ ";" ++ b)).maps = (ofText a).maps + (ofText b).maps
      ∧ (ofText (a ++ ";" ++ b)).sets = (ofText a).sets + (ofText b).sets
      ∧ (ofText (a ++ ";" ++ b)).allocations
        = (ofText a).allocations + (ofText b).allocations := by
  refine ⟨loops_seam a b, sortCalls_seam a b, logCalls_seam a b, ?arrays, ?maps, ?sets,
    ?allocations⟩
  all_goals exact count_toList_seam a b (by decide) (by decide)

theorem nestedLoops_seam_left (h : 0 < (Features.ofText a).nestedLoops) :
    0 < (Features.ofText (a ++ ";" ++ b)).nestedLoops := by
  simp only [Features.ofText, toList_seam, ← Pattern.occurs_iff] at h ⊢
  exact Pattern.occurs_of_looksAtOwn (l := []) (by decide) h

theorem nestedLoops_seam_right (h : 0 < (Features.ofText b).nestedLoops) :
    0 < (Features.ofText (a ++ ";" ++ b)).nestedLoops := by
  simp only [Features.ofText, toList_seam, ← Pattern.occurs_iff] at h ⊢
  simpa using Pattern.occurs_of_looksAtOwn (l := a.toList ++ [';']) (r := []) (by decide) h

variable {a b}

theorem recursions_seam (ha : Signal.ClosesParens a.toList) :
    (Features.ofText a).recursions + (Features.ofText b).recursions
      ≤
    (Features.ofText (a ++ ";" ++ b)).recursions := by
  simp only [Features.ofText, toList_seam]
  exact Signal.recursionCount_seam ha

theorem covers_seam_left (ha : Signal.ClosesParens a.toList) :
    (Features.ofText (a ++ ";" ++ b)).Covers (Features.ofText a) := by
  have hrecursions := recursions_seam (b := b) ha
  constructor
  . rw [loops_seam]
    omega
  . exact nestedLoops_seam_left a b
  . omega
  . rw [sortCalls_seam]
    omega
  . rw [logCalls_seam]
    omega
  . rw [containers_seam]
    omega

theorem covers_seam_right (ha : Signal.ClosesParens a.toList) :
    (Features.ofText (a ++ ";" ++ b)).Covers (Features.ofText b) := by
  have hrecursions := recursions_seam (b := b) ha
  constructor
  . rw [loops_seam]
    omega
  . exact nestedLoops_seam_right a b
  . omega
  . rw [sortCalls_seam]
    omega
  . rw [logCalls_seam]
    omega
  . rw [containers_seam]
    omega

end

/--
More code makes no rating better: unless a loop is seen that halves its range, the rating of two
texts that are joined by a semicolon is at most that of each.
-/
theorem rating_seam_le {a b : String} (ha : Signal.ClosesParens a.toList)
    (h : Signal.halvesRange (a ++ ";" ++ b).toList = false) :
    (Verdict.ofText (a ++ ";" ++ b)).rating
      ≤
    min (Verdict.ofText a).rating (Verdict.ofText b).rating := by
  apply Nat.le_min.2
  constructor
  . exact Features.rating_le_of_covers (covers_seam_left ha) h
  . exact Features.rating_le_of_covers (covers_seam_right ha) h

theorem rating_seam_le_split_function :
    Signal.ClosesParens "function f(n) \x7b g(n)".toList
      ∧ Signal.halvesRange ("function f(n) \x7b g(n)" ++ ";" ++ "f(n - 1) \x7d").toList = false
      ∧ (Verdict.ofText ("function f(n) \x7b g(n)" ++ ";" ++ "f(n - 1) \x7d")).rating
        ≤ min (Verdict.ofText "function f(n) \x7b g(n)").rating
          (Verdict.ofText "f(n - 1) \x7d").rating := by
  have hclosed : Signal.ClosesParens "function f(n) \x7b g(n)".toList :=
    .inr ⟨"function f(n) \x7b g".toList, "n)".toList, by decide, by decide, by decide⟩
  have hhalves : Signal.halvesRange ("function f(n) \x7b g(n)" ++ ";" ++ "f(n - 1) \x7d").toList
      = false := by
    decide +kernel
  exact ⟨hclosed, hhalves, rating_seam_le hclosed hhalves⟩

end CodeGauge
