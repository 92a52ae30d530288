import Mathlib.Algebra.BigOperators.Ring.List
import SexySelfies.SalesTracking

/-!
# Earnings predictions

`predictNextPeriod` of `models/CreatorEarnings.js` and the predictions its save hook sets: the
average of the last seven periods, scaled by the trend from their first three to their last three.
When the first three earned nothing the trend divides by zero.
-/

namespace SexySelfies.Forecasts

open Js SalesActivity

inductive Timeframe where
  | daily | weekly | monthly | quarterly | yearly

def Breakdown := Timeframe → List ℚ≥0

structure Prediction where
  estimated : Number
  confidence : ℚ

def times (k : ℚ≥0) : Number → Number
  | .fin q => .fin (k * q)
  | n => if k = 0 then .nan else n

def recentPeriods (historicalData : List ℚ≥0) : List ℚ≥0 :=
  historicalData.drop (historicalData.length - 7)

def average (recent : List ℚ≥0) : ℚ≥0 := recent.sum / recent.length
def firstHalf (recent : List ℚ≥0) : ℚ≥0 := (recent.take 3).sum / 3
def secondHalf (recent : List ℚ≥0) : ℚ≥0 := (recent.drop (recent.length - 3)).sum / 3

def trend (recent : List ℚ≥0) : Number :=
  quotient (.fin (secondHalf recent - firstHalf recent)) (.fin (firstHalf recent))

def predictNextPeriod (historicalData : List ℚ≥0) : Prediction :=
  if historicalData.length < 7 then ⟨.fin 0, 0⟩
  else
    let recent := recentPeriods historicalData
    ⟨times (average recent) ((Number.fin 1).add (trend recent)), min 95 (50 + recent.length * 2)⟩

structure Predictions where
  nextDay : Prediction
  nextWeek : Prediction

def savePredictions (byTimeframe : Breakdown) : Predictions :=
  ⟨predictNextPeriod (byTimeframe .daily), predictNextPeriod (byTimeframe .weekly)⟩

/-- The estimate is finite and grows with the amounts. -/
structure Sound (h : List ℚ≥0) : Prop where
  finite : ∃ q : ℚ≥0, (predictNextPeriod h).estimated = .fin q
  scales : ∀ c : ℚ≥0, 0 < c → ∃ q : ℚ≥0, (predictNextPeriod h).estimated = .fin q ∧
    (predictNextPeriod (h.map (c * ·))).estimated = .fin (c * q)

def IsFinite (n : Number) : Prop := ∃ q, n = .fin q

/-- Fewer than seven periods, or the first three of the last seven are
not all empty. -/
def Starts (h : List ℚ≥0) : Prop := h.length < 7 ∨ ∃ x ∈ (recentPeriods h).take 3, x ≠ 0

variable {h : List ℚ≥0}

theorem firstHalf_eq_zero {recent : List ℚ≥0} :
    firstHalf recent = 0 ↔ ∀ x ∈ recent.take 3, x = 0 := by simp [firstHalf, List.sum_eq_zero_iff]

theorem estimated_of_empty {recent : List ℚ≥0} (h0 : firstHalf recent = 0) (q : ℚ) :
    times (average recent) ((Number.fin 1).add (trend recent)) ≠ .fin q := by
  rcases eq_or_ne (secondHalf recent) 0 with h2 | h2
  · simp [trend, quotient, h0, h2, Number.add, times]
  · have hpos : (0 : ℚ) < secondHalf recent := by exact_mod_cast pos_iff_ne_zero.mpr h2
    simp [trend, quotient, h0, h2, Number.add, times, hpos, ite_eq_iff]

theorem estimated_of_trend {recent : List ℚ≥0} (h0 : firstHalf recent ≠ 0) :
    times (average recent) ((Number.fin 1).add (trend recent))
      = .fin (average recent * (secondHalf recent / firstHalf recent) : ℚ≥0) := by
  have hne : (firstHalf recent : ℚ) ≠ 0 := by exact_mod_cast h0
  rw [trend, quotient, if_pos hne, Number.add_fin, times, Number.fin.injEq]
  push_cast
  field_simp
  ring

theorem recentPeriods_map (f : ℚ≥0 → ℚ≥0) : recentPeriods (h.map f) = (recentPeriods h).map f := by
  rw [recentPeriods, recentPeriods, List.length_map, List.map_drop]

variable {c : ℚ≥0}

theorem sum_scaled (l : List ℚ≥0) : (l.map (c * ·)).sum = c * l.sum := by
  simpa using List.sum_map_mul_left l id c

variable {recent : List ℚ≥0}

theorem average_scaled : average (recent.map (c * ·)) = c * average recent := by
  simp [average, sum_scaled, mul_div_assoc]

theorem firstHalf_scaled : firstHalf (recent.map (c * ·)) = c * firstHalf recent := by
  simp [firstHalf, ← List.map_take, sum_scaled, mul_div_assoc]

theorem secondHalf_scaled : secondHalf (recent.map (c * ·)) = c * secondHalf recent := by
  simp [secondHalf, ← List.map_drop, sum_scaled, mul_div_assoc]

theorem sound_of_short (hl : h.length < 7) : Sound h := by
  have hest : ∀ k : List ℚ≥0, k.length < 7 → (predictNextPeriod k).estimated = .fin 0 := by
    intro k hk
    rw [predictNextPeriod, if_pos hk]
  refine ⟨⟨0, hest h hl⟩, fun c _ => ⟨0, hest h hl, ?_⟩⟩
  rw [hest _ (by simpa using hl), NNRat.cast_zero, mul_zero]

theorem estimated_long (hl : ¬ h.length < 7) : (predictNextPeriod h).estimated
    = times (average (recentPeriods h)) ((Number.fin 1).add (trend (recentPeriods h))) := by
  rw [predictNextPeriod, if_neg hl]

theorem sound_of_start (hl : ¬ h.length < 7) (h0 : firstHalf (recentPeriods h) ≠ 0) : Sound h := by
  have hest := (estimated_long hl).trans (estimated_of_trend h0)
  refine ⟨⟨_, hest⟩, fun c hc => ⟨_, hest, ?_⟩⟩
  have hsca : firstHalf (recentPeriods (h.map (c * ·))) ≠ 0 := by
    rw [recentPeriods_map, firstHalf_scaled]
    exact mul_ne_zero hc.ne' h0
  rw [estimated_long (by simpa using hl), estimated_of_trend hsca, recentPeriods_map,
    average_scaled, firstHalf_scaled, secondHalf_scaled, mul_div_mul_left _ _ hc.ne', mul_assoc]
  push_cast
  rfl

theorem not_finite_of_empty (hl : ¬ h.length < 7) (h0 : firstHalf (recentPeriods h) = 0) :
    ¬ IsFinite (predictNextPeriod h).estimated := by
  rintro ⟨q, hq⟩
  rw [estimated_long hl] at hq
  exact estimated_of_empty h0 q hq

theorem starts_iff (hl : ¬ h.length < 7) : Starts h ↔ firstHalf (recentPeriods h) ≠ 0 := by
  rw [Starts, Ne, firstHalf_eq_zero]
  simp [hl]

theorem sound_iff_starts : Sound h ↔ Starts h := by
  by_cases hl : h.length < 7
  · exact iff_of_true (sound_of_short hl) (.inl hl)
  rw [starts_iff hl]
  constructor
  · rintro ⟨⟨q, hq⟩, -⟩ h0
    exact not_finite_of_empty hl h0 ⟨q, hq⟩
  · exact sound_of_start hl

theorem finite_iff_starts : IsFinite (predictNextPeriod h).estimated ↔ Starts h := by
  constructor
  · intro hfin
    by_cases hl : h.length < 7
    · exact .inl hl
    · exact (starts_iff hl).mpr fun h0 => not_finite_of_empty hl h0 hfin
  · intro hs
    obtain ⟨q, hq⟩ := (sound_iff_starts.mpr hs).finite
    exact ⟨q, hq⟩

/-- The estimates are right exactly for the histories that `Starts` describes. -/
theorem sound_iff (byTimeframe : Breakdown) :
    (∀ t, Sound (byTimeframe t) ↔ Starts (byTimeframe t)) ∧
    (IsFinite (savePredictions byTimeframe).nextDay.estimated ∧
      IsFinite (savePredictions byTimeframe).nextWeek.estimated ↔
      Starts (byTimeframe .daily) ∧ Starts (byTimeframe .weekly)) :=
  ⟨fun _ => sound_iff_starts, and_congr finite_iff_starts finite_iff_starts⟩

theorem not_sound_after_pause :
    (predictNextPeriod [0, 0, 0, 0, 0, 0, 70]).estimated = .posInf ∧
      ¬ Sound [0, 0, 0, 0, 0, 0, 70] := by
  have h : (predictNextPeriod [0, 0, 0, 0, 0, 0, 70]).estimated = .posInf := by decide +kernel
  refine ⟨h, ?_⟩
  rintro ⟨⟨q, hq⟩, -⟩
  cases h.symm.trans hq

end SexySelfies.Forecasts
