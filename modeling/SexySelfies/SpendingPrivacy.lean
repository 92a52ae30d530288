import SexySelfies.JsonTree

/-!
# What spending data a requester sees

`anonymizeSpendingData` of `utils/privacyFilters.js`. Unless the requester is an admin or has a
permission, the answer has ranges in the place of amounts, and of some amounts only whether they are
positive.
-/

namespace SexySelfies.Privacy

open Js

/-! ## Ranges -/

def isUnknown : Option Json → Bool
  | none => true
  | some (.num _) => false
  | some v => !v.truthy

def isPositive (amount : Option Json) : Option Bool :=
  (Json.operand amount).map fun n => Number.lt (.fin 0) n

def getRange (ranges : List (ℚ × String)) (positive : String) (amount : Option Json) :
    Option String :=
  if isUnknown amount then some "Unknown"
  else
    (Json.operand amount).map fun n =>
      match ranges.find? fun r => Number.le (.fin r.1) n with
      | some r => r.2
      | none => if Number.lt (.fin 0) n then positive else "$0"

def spendingRanges : List (ℚ × String) :=
  [(1000, "$1000+"), (500, "$500-999"), (200, "$200-499"), (100, "$100-199"), (50, "$50-99"),
    (20, "$20-49"), (10, "$10-19")]

def getSpendingRange : Option Json → Option String := getRange spendingRanges "$1-9"

def lifetimeRanges : List (ℚ × String) :=
  [(10000, "$10,000+"), (5000, "$5,000-9,999"), (2500, "$2,500-4,999"), (1000, "$1,000-2,499"),
    (500, "$500-999"), (100, "$100-499")]

def getLifetimeRange : Option Json → Option String := getRange lifetimeRanges "$1-99"

def percentageRanges : List (ℚ × String) :=
  [(100, ">100% increase"), (50, "50-100% increase"), (25, "25-50% increase"),
    (10, "10-25% increase"), (0, "0-10% increase"), (-10, "0-10% decrease"),
    (-25, "10-25% decrease"), (-50, "25-50% decrease")]

def getPercentageRange (percentage : Option Json) : Option String :=
  if isUnknown percentage then some "Stable"
  else
    (Json.operand percentage).map fun n =>
      match percentageRanges.find? fun r => Number.lt (.fin r.1) n with
      | some r => r.2
      | none => ">50% decrease"

/-! ## The function -/

structure Options where
  level : String := "standard"
  showTier : Bool := true
  showTrend : Bool := true
  showRange : Bool := false
  requesterRole : String := "creator"
  hasPermission : Bool := false

inductive Anonymized where
  | full (spendingData : Json)
  | minimal (tier : Option Json) (velocity : Option (Json × String)) (hasSpendingHistory : Bool)
  | standard (tier : Option Json) (last30DaysRange lifetimeRange : Option String)
      (velocity : Option (Option Json × String)) (averagePurchaseRange : String)
      (hasRecentActivity : Bool)
  | strict (tier : Option Json) (isActive hasHistory : Bool)
  | complete (dataProtected : Bool) (message : String)
  | error (error : String) (dataProtected : Bool)

def velocityOf (d : Json) (name : String) : Option (Option Json) :=
  (d.read "velocity").map fun velocity => Json.readOptional velocity name

variable (o : Options) (d : Json)

def tierOf (hidden : String) : Option (Option Json) :=
  if o.showTier then d.read "tier" else some (some (.str (units hidden)))

def trendOrStable (trend : Option Json) : Json :=
  match trend with
  | some v => if v.truthy then v else .str (units "stable")
  | none => .str (units "stable")

def isText (text : String) : Option Json → Bool
  | some (.str s) => s = units text
  | _ => false

def directionOf (trend : Option Json) : String :=
  if isText "increasing" trend then "up"
  else if isText "decreasing" trend then "down"
  else "stable"

def minimalView : Option Anonymized := do
  let tier ← tierOf o d "hidden"
  let velocity ←
    if o.showTrend then
      (velocityOf d "trend").map fun trend => some (trendOrStable trend, directionOf trend)
    else some none
  let hasSpendingHistory ← (d.read "lifetime").bind isPositive
  return .minimal tier velocity hasSpendingHistory

def standardView : Option Anonymized := do
  let tier ← tierOf o d "hidden"
  let last30DaysRange ←
    if o.showRange then ((d.read "last30Days").bind getSpendingRange).map some else some none
  let lifetimeRange ←
    if o.showRange then ((d.read "lifetime").bind getLifetimeRange).map some else some none
  let velocity ←
    if o.showTrend then do
      let trend ← velocityOf d "trend"
      let percentageRange ← (velocityOf d "percentageChange").bind getPercentageRange
      some (some (trend, percentageRange))
    else some none
  let averagePurchaseRange ← (d.read "averagePurchase").bind getSpendingRange
  let hasRecentActivity ← (d.read "last24Hours").bind isPositive
  return .standard tier last30DaysRange lifetimeRange velocity averagePurchaseRange
    hasRecentActivity

def strictView : Option Anonymized := do
  let tier ← tierOf o d "member"
  let isActive ← (d.read "last30Days").bind isPositive
  let hasHistory ← (d.read "lifetime").bind isPositive
  return .strict tier isActive hasHistory

/-- `none` when an error is thrown. A level that is not known is asked for
again as `standard`. -/
def viewAt : Option Anonymized :=
  match o.level with
  | "minimal" => minimalView o d
  | "standard" => standardView o d
  | "strict" => strictView o d
  | "complete" => some (.complete true "Spending data is private")
  | _ => standardView { o with level := "standard" } d

def anonymizeSpendingData (spendingData : Json) (o : Options) : Anonymized :=
  if o.requesterRole = "admin" ∨ o.hasPermission = true then .full spendingData
  else (viewAt o spendingData).getD (.error "Unable to process spending data" true)

/-! ## Coarse data -/

/-- What can be seen of a record; `none` where reading it is an error. -/
structure Coarse where
  tier : Option (Option Json)
  trend : Option (Option Json)
  last30Days : Option String
  averagePurchase : Option String
  lifetime : Option String
  percentageChange : Option String
  last24Hours : Option Bool

def coarse : Coarse where
  tier := d.read "tier"
  trend := velocityOf d "trend"
  last30Days := (d.read "last30Days").bind getSpendingRange
  averagePurchase := (d.read "averagePurchase").bind getSpendingRange
  lifetime := (d.read "lifetime").bind getLifetimeRange
  percentageChange := (velocityOf d "percentageChange").bind getPercentageRange
  last24Hours := (d.read "last24Hours").bind isPositive

def isSpent (range : String) : Bool := range ≠ "$0" && range ≠ "Unknown"

theorem isPositive_of_isUnknown {amount : Option Json} (h : isUnknown amount) :
    isPositive amount = some false := by
  cases amount with
  | none => rfl
  | some v =>
    cases v with
    | null => rfl
    | bool b =>
      cases b with
      | false => rfl
      | true => cases h
    | num => cases h
    | str s =>
      have hs : s = [] := by simpa [isUnknown, Json.truthy] using h
      rw [hs]
      rfl
    | arr xs | obj f => cases h

variable {amount : Option Json}

theorem isPositive_eq {ra : List (ℚ × String)} {p : String}
    (hra : ∀ r ∈ ra, 0 < r.1 ∧ isSpent r.2) (hpo : isSpent p) :
    isPositive amount = (getRange ra p amount).map isSpent := by
  unfold getRange
  split
  · next hun => exact isPositive_of_isUnknown hun
  · rw [isPositive, Option.map_map]
    refine congrArg (fun f => (Json.operand amount).map f) (funext fun n => ?_)
    dsimp only [Function.comp]
    split
    · next r hf =>
      obtain ⟨hpos, hspe⟩ := hra r (List.mem_of_find?_eq_some hf)
      rw [hspe]
      have hrch := List.find?_some hf
      cases n with
      | fin => exact decide_eq_true (hpos.trans_le (of_decide_eq_true hrch))
      | nan | negInf => cases hrch
      | posInf => rfl
    · split
      · next hlt => rw [hlt, hpo]
      · next hlt => exact Bool.eq_false_iff.mpr hlt

theorem isPositive_lifetime (amount : Option Json) :
    isPositive amount = (getLifetimeRange amount).map isSpent := by
  refine isPositive_eq (fun r hr => ?_) (by decide)
  simp only [lifetimeRanges, List.mem_cons, List.not_mem_nil, or_false] at hr
  rcases hr with rfl | rfl | rfl | rfl | rfl | rfl <;> exact ⟨by norm_num, by decide⟩

theorem isPositive_spending (amount : Option Json) :
    isPositive amount = (getSpendingRange amount).map isSpent := by
  refine isPositive_eq (fun r hr => ?_) (by decide)
  simp only [spendingRanges, List.mem_cons, List.not_mem_nil, or_false] at hr
  rcases hr with rfl | rfl | rfl | rfl | rfl | rfl | rfl <;> exact ⟨by norm_num, by decide⟩

/-! ## Two records -/

theorem positive_congr {range : Option Json → Option String} {x y : Option (Option Json)}
    (hran : ∀ amount, isPositive amount = (range amount).map isSpent)
    (h : x.bind range = y.bind range) : x.bind isPositive = y.bind isPositive := by
  have hpo : isPositive = Option.map isSpent ∘ range := funext hran
  rw [hpo, ← Option.map_bind, ← Option.map_bind, h]

section

variable {a b : Json} (h : coarse a = coarse b)

include h

variable (o : Options)

theorem tierOf_congr (hidden : String) : tierOf o a hidden = tierOf o b hidden := by
  have hti : a.read "tier" = b.read "tier" := congrArg Coarse.tier h
  rw [tierOf, tierOf, hti]

theorem positive_lifetime_congr :
    (a.read "lifetime").bind isPositive = (b.read "lifetime").bind isPositive :=
  positive_congr isPositive_lifetime (congrArg Coarse.lifetime h)

theorem positive_last30Days_congr :
    (a.read "last30Days").bind isPositive = (b.read "last30Days").bind isPositive :=
  positive_congr isPositive_spending (congrArg Coarse.last30Days h)

theorem minimalView_congr : minimalView o a = minimalView o b := by
  have htre : velocityOf a "trend" = velocityOf b "trend" := congrArg Coarse.trend h
  rw [minimalView, minimalView, tierOf_congr h, htre, positive_lifetime_congr h]

theorem standardView_congr : standardView o a = standardView o b := by
  have htre : velocityOf a "trend" = velocityOf b "trend" := congrArg Coarse.trend h
  have hl : (a.read "last30Days").bind getSpendingRange
      = (b.read "last30Days").bind getSpendingRange := congrArg Coarse.last30Days h
  have hli : (a.read "lifetime").bind getLifetimeRange
      = (b.read "lifetime").bind getLifetimeRange := congrArg Coarse.lifetime h
  have hpct : (velocityOf a "percentageChange").bind getPercentageRange
      = (velocityOf b "percentageChange").bind getPercentageRange :=
    congrArg Coarse.percentageChange h
  have hav : (a.read "averagePurchase").bind getSpendingRange
      = (b.read "averagePurchase").bind getSpendingRange := congrArg Coarse.averagePurchase h
  have hday : (a.read "last24Hours").bind isPositive = (b.read "last24Hours").bind isPositive :=
    congrArg Coarse.last24Hours h
  rw [standardView, standardView, tierOf_congr h, htre, hl, hli, hpct, hav, hday]

theorem strictView_congr : strictView o a = strictView o b := by
  rw [strictView, strictView, tierOf_congr h, positive_last30Days_congr h,
    positive_lifetime_congr h]

theorem viewAt_congr : viewAt o a = viewAt o b := by
  unfold viewAt
  split
  · exact minimalView_congr h o
  · exact standardView_congr h o
  · exact strictView_congr h o
  · rfl
  · exact standardView_congr h { o with level := "standard" }

end

/-- **Coarse data only.** For a requester who is not an admin and has no
permission, the answer is the same for two records that agree on the coarse
data, at every level. -/
theorem spending_of_coarse (o : Options) (hrole : o.requesterRole ≠ "admin")
    (hpermission : o.hasPermission = false) (a b : Json) (h : coarse a = coarse b) :
    anonymizeSpendingData a o = anonymizeSpendingData b o := by
  have hnot : ¬ (o.requesterRole = "admin" ∨ o.hasPermission = true) := by
    rintro (ha | hper)
    · exact hrole ha
    · cases hpermission.symm.trans hper
  rw [anonymizeSpendingData, anonymizeSpendingData, if_neg hnot, if_neg hnot, viewAt_congr h]

def someSpending (lifetime average : ℚ) : Json :=
  .obj [(units "tier", .str (units "whale")), (units "lifetime", .num lifetime),
    (units "averagePurchase", .num average)]

theorem spending_of_coarse_hidden :
    coarse (someSpending 1200 30) = coarse (someSpending 2400 45)
      ∧ anonymizeSpendingData (someSpending 1200 30) { level := "other", showRange := true }
        = anonymizeSpendingData (someSpending 2400 45) { level := "other", showRange := true } := by
  have h : coarse (someSpending 1200 30) = coarse (someSpending 2400 45) := by
    simp only [coarse, Coarse.mk.injEq]
    exact ⟨rfl, rfl, rfl, by decide +kernel, by decide +kernel, rfl, rfl⟩
  exact ⟨h, spending_of_coarse _ (by decide) rfl _ _ h⟩

end SexySelfies.Privacy
