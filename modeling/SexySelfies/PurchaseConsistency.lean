import Mathlib.Analysis.Real.Sqrt
import Mathlib.Algebra.BigOperators.Ring.List
import Mathlib.Algebra.Order.BigOperators.Group.List
import Mathlib.Algebra.Order.Floor.Ring

/-!
# Purchase consistency

`_calculatePurchaseConsistency` of `memberScoring.service.js` and the confidence that
`predictLifetimeValue` derives from it, over exact reals; `none` is not a number. Purchases that are
all simultaneous have no interval to compare with, and zero is divided by zero.
-/

namespace SexySelfies.Consistency

open List

structure Purchases where
  createdAt : List ℝ
  sorted : createdAt.Pairwise (· ≤ ·)

noncomputable section

def intervals (ts : List ℝ) : List ℝ :=
  List.zipWith (fun later earlier => (later - earlier) / (1000 * 60 * 60 * 24)) ts.tail ts

def avgInterval (xs : List ℝ) : ℝ := xs.sum / xs.length

def stdDev (xs : List ℝ) : ℝ :=
  √((xs.map fun interval => (interval - avgInterval xs) ^ 2).sum / xs.length)

/-- `Math.max(0, 1 - a / b)`; a zero divides a positive `a` to infinity. -/
def relative (a b : ℝ) : Option ℝ :=
  if b = 0 then if a = 0 then none else some 0 else some (max 0 (1 - a / b))

def calculatePurchaseConsistency (ts : List ℝ) : Option ℝ :=
  if ts.length < 2 then some 0
  else relative (stdDev (intervals ts)) (avgInterval (intervals ts))

def membershipDays (ts : List ℝ) : ℝ :=
  max 1 ((ts.getLastD 0 - ts.headD 0) / (1000 * 60 * 60 * 24))

def dataConfidence (ts : List ℝ) : ℝ :=
  if ts.length ≥ 10 ∧ membershipDays ts ≥ 30 then 85
  else if ts.length ≥ 5 ∧ membershipDays ts ≥ 14 then 70
  else if ts.length ≥ 3 then 50
  else 30

def rounded (x : ℝ) : ℝ := ⌊x + 1 / 2⌋

def lifetimeConfidence (ts : List ℝ) : Option ℝ :=
  if ts = [] then some 0
  else (calculatePurchaseConsistency ts).map fun purchaseConsistency =>
    rounded (min 95 (dataConfidence ts + purchaseConsistency * 10))

/-- What is said of the measure and the confidence. -/
structure Consistent (ps : Purchases) : Prop where
  range : ∃ r, calculatePurchaseConsistency ps.createdAt = some r ∧ 0 ≤ r ∧ r ≤ 1
  regular : 2 ≤ ps.createdAt.length → (∃ d, ∀ x ∈ intervals ps.createdAt, x = d) →
    calculatePurchaseConsistency ps.createdAt = some 1
  scaled : ∀ (c : ℝ) (qs : Purchases), 0 < c →
    intervals qs.createdAt = (intervals ps.createdAt).map (c * ·) →
    calculatePurchaseConsistency qs.createdAt = calculatePurchaseConsistency ps.createdAt
  confidence : ∃ n, lifetimeConfidence ps.createdAt = some n ∧ 0 ≤ n ∧ n ≤ 95

variable {ts : List ℝ} {c : ℝ}

theorem length_intervals : (intervals ts).length = ts.length - 1 := by simp [intervals]

theorem intervals_nonneg (h : ts.Pairwise (· ≤ ·)) : ∀ x ∈ intervals ts, 0 ≤ x := by
  induction ts with
  | nil => simp [intervals]
  | cons a ts ih =>
    rcases ts with - | ⟨b, ts⟩
    · simp [intervals]
    rw [pairwise_cons] at h
    intro x hx
    rcases mem_cons.mp hx with rfl | hx
    · exact div_nonneg (sub_nonneg.mpr (h.1 b mem_cons_self)) (by norm_num)
    · exact ih h.2 x hx

theorem eq_of_intervals_zero {a : ℝ} (h : ∀ x ∈ intervals (a :: ts), x = 0) : ∀ b ∈ ts, b = a := by
  induction ts generalizing a with
  | nil => simp
  | cons b ts ih =>
    have hab : (b - a) / (1000 * 60 * 60 * 24) = 0 := h _ mem_cons_self
    obtain rfl : b = a := by
      rcases div_eq_zero_iff.mp hab with h0 | h0
      · exact sub_eq_zero.mp h0
      · norm_num at h0
    intro x hx
    rcases mem_cons.mp hx with rfl | hx
    · rfl
    · exact ih (fun y hy => h y (mem_cons_of_mem _ hy)) x hx

theorem intervals_zero {t : ℝ} (h : ∀ x ∈ ts, x = t) : ∀ x ∈ intervals ts, x = 0 := by
  intro x hx
  obtain ⟨i, hi, rfl⟩ := getElem_of_mem hx
  simp only [intervals, getElem_zipWith, getElem_tail]
  rw [h _ (getElem_mem _), h _ (getElem_mem _), sub_self, zero_div]

theorem avgInterval_pos {xs : List ℝ} (h : ∀ x ∈ xs, 0 ≤ x) {y : ℝ} (hy : y ∈ xs) (h0 : y ≠ 0) :
    0 < avgInterval xs := by
  have hlen : 0 < xs.length := length_pos_of_mem hy
  have hsum : y ≤ xs.sum := single_le_sum h y hy
  exact div_pos (((h y hy).lt_of_ne' h0).trans_le hsum) (by exact_mod_cast hlen)

theorem avgInterval_const {xs : List ℝ} {d : ℝ} (hne : xs ≠ []) (h : ∀ x ∈ xs, x = d) :
    avgInterval xs = d := by
  have hlen : (xs.length : ℝ) ≠ 0 := by simpa using hne
  rw [avgInterval, eq_replicate_of_mem h]
  simp only [sum_replicate, length_replicate, nsmul_eq_mul]
  exact mul_div_cancel_left₀ d hlen

theorem stdDev_const {xs : List ℝ} {d : ℝ} (hne : xs ≠ []) (h : ∀ x ∈ xs, x = d) :
    stdDev xs = 0 := by
  have hsum : (xs.map fun x => (x - avgInterval xs) ^ 2).sum = 0 := by
    refine sum_eq_zero fun y hy => ?_
    obtain ⟨x, hx, rfl⟩ := mem_map.mp hy
    rw [avgInterval_const hne h, h x hx, sub_self, zero_pow two_ne_zero]
  rw [stdDev, hsum, zero_div, Real.sqrt_zero]

theorem avgInterval_scaled (xs : List ℝ) : avgInterval (xs.map (c * ·)) = c * avgInterval xs := by
  rw [avgInterval, length_map, avgInterval, ← mul_div_assoc]
  congr 1
  simpa using sum_map_mul_left xs id c

theorem stdDev_scaled (hc : 0 < c) (xs : List ℝ) : stdDev (xs.map (c * ·)) = c * stdDev xs := by
  have hsum : ((xs.map (c * ·)).map fun x => (x - avgInterval (xs.map (c * ·))) ^ 2).sum
      = c ^ 2 * (xs.map fun x => (x - avgInterval xs) ^ 2).sum := by
    rw [← sum_map_mul_left, map_map, avgInterval_scaled]
    congr 2
    funext x
    simp only [Function.comp_apply]
    ring
  rw [stdDev, hsum, length_map, mul_div_assoc, Real.sqrt_mul (sq_nonneg c),
    Real.sqrt_sq hc.le, stdDev]

theorem relative_range {a b : ℝ} (ha : 0 ≤ a) (hb : 0 < b) :
    ∃ r, relative a b = some r ∧ 0 ≤ r ∧ r ≤ 1 := by
  refine ⟨max 0 (1 - a / b), if_neg hb.ne', le_max_left _ _, max_le zero_le_one ?_⟩
  exact sub_le_self 1 (div_nonneg ha hb.le)

theorem consistency_long (h : ¬ ts.length < 2) : calculatePurchaseConsistency ts
    = relative (stdDev (intervals ts)) (avgInterval (intervals ts)) := if_neg h

theorem consistency_scaled (hc : 0 < c) {us : List ℝ}
    (h : intervals us = (intervals ts).map (c * ·)) :
    calculatePurchaseConsistency us = calculatePurchaseConsistency ts := by
  have hlen : us.length - 1 = ts.length - 1 := by
    rw [← length_intervals, h, length_map, length_intervals]
  have hiff : us.length < 2 ↔ ts.length < 2 := by omega
  simp only [calculatePurchaseConsistency, h, hiff, avgInterval_scaled, stdDev_scaled hc,
    relative, mul_eq_zero, hc.ne', false_or, mul_div_mul_left _ _ hc.ne']

theorem dataConfidence_nonneg : 0 ≤ dataConfidence ts := by
  unfold dataConfidence
  split_ifs <;> norm_num

theorem rounded_range {x : ℝ} (h0 : 0 ≤ x) (h1 : x ≤ 95) : 0 ≤ rounded x ∧ rounded x ≤ 95 := by
  have hlow : 0 ≤ ⌊x + 1 / 2⌋ := Int.floor_nonneg.mpr (by linarith)
  have hup : ⌊x + 1 / 2⌋ < 95 + 1 := Int.floor_lt.mpr (by norm_num; linarith)
  rw [rounded]
  exact ⟨mod_cast hlow, mod_cast Int.le_of_lt_add_one hup⟩

theorem confidence_range {r : ℝ} (h : calculatePurchaseConsistency ts = some r) (h0 : 0 ≤ r) :
    ∃ n, lifetimeConfidence ts = some n ∧ 0 ≤ n ∧ n ≤ 95 := by
  by_cases hts : ts = []
  · exact ⟨0, if_pos hts, le_rfl, by norm_num⟩
  refine ⟨_, by rw [lifetimeConfidence, if_neg hts, h]; rfl, rounded_range (le_min ?_ ?_) ?_⟩
  · norm_num
  · exact add_nonneg dataConfidence_nonneg (by positivity)
  · exact min_le_left _ _

theorem consistent_of_range (ps : Purchases)
    (h : ∃ r, calculatePurchaseConsistency ps.createdAt = some r ∧ 0 ≤ r ∧ r ≤ 1)
    (hreg : 2 ≤ ps.createdAt.length → (∃ d, ∀ x ∈ intervals ps.createdAt, x = d) →
      calculatePurchaseConsistency ps.createdAt = some 1) : Consistent ps := by
  refine ⟨h, hreg, fun c qs hc hq => consistency_scaled hc hq, ?_⟩
  obtain ⟨r, hr, h0, -⟩ := h
  exact confidence_range hr h0

theorem consistent_of_short {ps : Purchases} (h : ps.createdAt.length < 2) : Consistent ps :=
  consistent_of_range ps ⟨0, if_pos h, le_rfl, zero_le_one⟩ fun h2 => absurd h2 (by omega)

theorem consistent_of_apart {ps : Purchases} (hlen : ¬ ps.createdAt.length < 2) {y : ℝ}
    (hy : y ∈ intervals ps.createdAt) (h0 : y ≠ 0) : Consistent ps := by
  have havg := avgInterval_pos (intervals_nonneg ps.sorted) hy h0
  have heq := consistency_long hlen
  refine consistent_of_range ps ?_ ?_
  · rw [heq]
    exact relative_range (Real.sqrt_nonneg _) havg
  · rintro - ⟨d, hd⟩
    rw [heq, stdDev_const (ne_nil_of_mem hy) hd, relative,
      if_neg havg.ne', zero_div, sub_zero, max_eq_right zero_le_one]

theorem consistency_simultaneous {t : ℝ} (hlen : ¬ ts.length < 2) (h : ∀ x ∈ ts, x = t) :
    calculatePurchaseConsistency ts = none := by
  have hne : intervals ts ≠ [] := by
    rw [← length_pos_iff, length_intervals]
    omega
  rw [consistency_long hlen, avgInterval_const hne (intervals_zero h),
    stdDev_const hne (intervals_zero h), relative, if_pos rfl, if_pos rfl]

/-- The measure is right exactly if there are fewer than two purchases or they are not all at one
time. -/
theorem consistent_iff (ps : Purchases) : Consistent ps ↔
    ps.createdAt.length < 2 ∨ ∃ a ∈ ps.createdAt, ∃ b ∈ ps.createdAt, a ≠ b := by
  by_cases hlen : ps.createdAt.length < 2
  · exact iff_of_true (consistent_of_short hlen) (.inl hlen)
  obtain ⟨t, ts, hts⟩ : ∃ t ts, ps.createdAt = t :: ts := exists_cons_of_length_pos (by omega)
  constructor
  · rintro ⟨⟨r, hr, -⟩, -⟩
    by_contra hall
    push Not at hall
    have hone : ∀ x ∈ ps.createdAt, x = t := fun x hx => hall.2 x hx t (by simp [hts])
    rw [consistency_simultaneous hlen hone] at hr
    cases hr
  · rintro (h | ⟨a, ha, b, hb, hab⟩)
    · exact absurd h hlen
    by_contra hnot
    have hz : ∀ x ∈ intervals (t :: ts), x = 0 := fun y hy => by
      by_contra h0
      exact hnot (consistent_of_apart hlen (hts ▸ hy) h0)
    have hone : ∀ x ∈ ps.createdAt, x = t := fun x hx => by
      rcases mem_cons.mp (hts ▸ hx) with rfl | hx
      · rfl
      · exact eq_of_intervals_zero hz x hx
    exact hab ((hone a ha).trans (hone b hb).symm)

theorem not_consistent_simultaneous :
    calculatePurchaseConsistency [0, 0] = none ∧ ¬ ∀ ps : Purchases, Consistent ps := by
  have h : calculatePurchaseConsistency [0, 0] = none :=
    consistency_simultaneous (t := 0) (by simp) (by simp)
  refine ⟨h, fun hall => ?_⟩
  obtain ⟨r, hr, -⟩ := (hall ⟨[0, 0], by simp⟩).range
  cases h.symm.trans hr

end

end SexySelfies.Consistency
