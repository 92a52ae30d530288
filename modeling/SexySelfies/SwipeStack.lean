import Mathlib.Data.Rat.Floor
import Mathlib.Algebra.Order.Floor.Ring
import SexySelfies.Picking

/-!
# The order of the swipe stack

`applySmartAlgorithm` of `creator.connection.controller.js`: the creators are scored and sorted, and
then taken from the sorted list one by one, mostly from its front, sometimes from one of its first
five places. All draws are arbitrary: a stream of numbers from 0 below 1.
-/

namespace SexySelfies.SwipeStack

open Picking List

def Draw : Type := { q : ℚ // 0 ≤ q ∧ q < 1 }

structure Creator where
  id : Nat
  lastActive : Option ℤ
  isVerified : Bool
  lastContentAt : Option ℤ

structure Scored where
  creator : Creator
  score : ℚ

variable (now : ℤ)

def isActiveNow : Option ℤ → Bool
  | none => false
  | some lastActive => ((now - lastActive : ℤ) : ℚ) / (1000 * 60) < 15

def isFresh : Option ℤ → Bool
  | none => false
  | some lastContentAt => ⌊((now - lastContentAt : ℤ) : ℚ) / (1000 * 60 * 60 * 24)⌋ < 7

def scoreOf (creator : Creator) (draw : Draw) : ℚ :=
  (if isActiveNow now creator.lastActive then 50 else 0)
    + (if creator.isVerified then 30 else 0)
    + (if isFresh now creator.lastContentAt then 40 else 0)
    + draw.val * 20

variable (draws : Nat → Draw)

def scoreAll (now : ℤ) (creators : List Creator) : List Scored :=
  creators.mapIdx fun i creator => ⟨creator, scoreOf now creator (draws i)⟩

variable (scored : List Scored)

/-- `sort((a, b) => b.score - a.score)`, which is stable. -/
def sortByScore : List Scored :=
  scored.mergeSort fun a b => b.score ≤ a.score

def pickIndex (k length : Nat) : Nat × Nat :=
  if (draws k).val < 7 / 10 then (0, 1)
  else (⌊(draws (k + 1)).val * (min 5 length : Nat)⌋.toNat, 2)

/-- The loop, from the draw `k` on; `none` when the rounds are used up. -/
def shuffle : (rounds k : Nat) → (scored : List Scored) → (shuffled : List (Option Scored)) →
    Option (List (Option Scored))
  | _, _, [], shuffled => some shuffled
  | 0, _, _ :: _, _ => none
  | rounds + 1, k, a :: scored, shuffled =>
    let (index, used) := pickIndex draws k (a :: scored).length
    shuffle rounds (k + used) ((a :: scored).eraseIdx index)
      (shuffled ++ [(a :: scored)[index]?])

def applySmartAlgorithm (rounds : Nat) (now : ℤ) (creators : List Creator) :
    Option (List (Option Scored)) :=
  shuffle draws rounds creators.length (sortByScore (scoreAll draws now creators)) []

/-! ## The order -/

theorem pickIndex_lt (k : Nat) {length : Nat} (h : 0 < length) :
    (pickIndex draws k length).1 ≤ 4 ∧ (pickIndex draws k length).1 < length := by
  unfold pickIndex
  split
  · exact ⟨Nat.zero_le 4, h⟩
  · obtain ⟨hnonn, hlt⟩ := (draws (k + 1)).2
    have hpos : (0 : ℚ) < (min 5 length : Nat) := by exact_mod_cast Nat.lt_min.mpr ⟨by decide, h⟩
    have hflo : ⌊(draws (k + 1)).val * (min 5 length : Nat)⌋ < (min 5 length : Nat) := by
      rw [Int.floor_lt]
      exact_mod_cast mul_lt_of_lt_one_left hpos hlt
    have hfloor0 : 0 ≤ ⌊(draws (k + 1)).val * (min 5 length : Nat)⌋ :=
      Int.floor_nonneg.mpr (mul_nonneg hnonn hpos.le)
    dsimp only
    omega

theorem shuffle_picked (k : Nat) (scored : List Scored) :
    ∃ out, Picked 4 scored out ∧ ∀ rounds shuffled, scored.length ≤ rounds →
      shuffle draws rounds k scored shuffled = some (shuffled ++ out.map some) := by
  induction hn : scored.length generalizing k scored with
  | zero =>
    obtain rfl := length_eq_zero_iff.mp hn
    refine ⟨[], .nil, fun rounds shuffled _ => ?_⟩
    simp [shuffle]
  | succ n ih =>
    obtain ⟨hfour, hlt⟩ := pickIndex_lt draws k (hn ▸ Nat.succ_pos n : 0 < scored.length)
    generalize hpick : pickIndex draws k scored.length = pick at hfour hlt
    obtain ⟨index, used⟩ := pick
    have hr : (scored.eraseIdx index).length = n := by
      rw [length_eraseIdx_of_lt hlt, hn, Nat.add_sub_cancel]
    obtain ⟨out, hout, hres⟩ := ih (k + used) (scored.eraseIdx index) hr
    refine ⟨scored.get ⟨index, hlt⟩ :: out, .cons hfour hlt hout, fun rounds shuffled h => ?_⟩
    obtain ⟨rounds, rfl⟩ := Nat.exists_eq_add_one_of_ne_zero (Nat.ne_zero_of_lt h)
    have hget : scored[index]? = some (scored.get ⟨index, hlt⟩) := getElem?_eq_getElem hlt
    cases scored with
    | nil => cases hn
    | cons =>
      simp only [shuffle, hpick, hget]
      rw [hres rounds _ (Nat.le_of_succ_le_succ h), append_assoc]
      rfl

theorem sortByScore_perm : (sortByScore scored).Perm scored :=
  mergeSort_perm _ _

theorem sortByScore_sorted :
    (sortByScore scored).Pairwise fun a b => b.score ≤ a.score := by
  have hso : (sortByScore scored).Pairwise fun a b => decide (b.score ≤ a.score) = true := by
    refine pairwise_mergeSort (fun a b c hab hbc => ?_) (fun a b => ?_) scored
    · simp only [decide_eq_true_eq] at hab hbc ⊢
      exact hbc.trans hab
    · simp only [Bool.or_eq_true, decide_eq_true_eq]
      exact le_total b.score a.score
  simpa only [decide_eq_true_eq] using hso

theorem scoreAll_creators (now : ℤ) (creators : List Creator) :
    (scoreAll draws now creators).map Scored.creator = creators := by
  refine ext_getElem (by simp [scoreAll]) ?_
  intro i hi hi'
  simp [scoreAll]

/-- **Nobody is lost, and nobody moved forward by more than four places.** For all draws the
algorithm ends with each creator once, at most 4 places before the creator's rank by score. -/
theorem stack_keeps_ranks (draws : Nat → Draw) (now : ℤ) (creators : List Creator) :
    ∃ (stack : List Scored) (ranks : List Nat),
      (∀ rounds, creators.length ≤ rounds →
        applySmartAlgorithm draws rounds now creators = some (stack.map some))
      ∧ (stack.map Scored.creator).Perm creators
      ∧ (sortByScore (scoreAll draws now creators)).Pairwise (fun a b => b.score ≤ a.score)
      ∧ ranks.Perm (List.range creators.length)
      ∧ stack.map some
        = ranks.map (fun rank => (sortByScore (scoreAll draws now creators))[rank]?)
      ∧ ∀ position rank, ranks[position]? = some rank → rank ≤ position + 4 := by
  have hperm := sortByScore_perm (scoreAll draws now creators)
  have hlen : (sortByScore (scoreAll draws now creators)).length = creators.length := by
    rw [hperm.length_eq, scoreAll, length_mapIdx]
  obtain ⟨stack, hpic, hres⟩ := shuffle_picked draws creators.length
    (sortByScore (scoreAll draws now creators))
  obtain ⟨ranks, hran, hsta, hle⟩ := hpic.exists_ranks
  rw [hlen] at hres hran
  refine ⟨stack, ranks, fun rounds h => hres rounds [] h, ?_, sortByScore_sorted _, hran, hsta, hle⟩
  have hcre := (hpic.perm.trans hperm).map Scored.creator
  rwa [scoreAll_creators] at hcre

end SexySelfies.SwipeStack
