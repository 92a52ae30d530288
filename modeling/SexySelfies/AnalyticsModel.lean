import Mathlib.Tactic.NormNum
import SexySelfies.ContactModel

/-!
# The analytics of a member

`MemberAnalytics.js` keeps one record for each member. A save validates the document, then the hook
sets the tier, the activity level and the value score. Times are in milliseconds.
-/

namespace SexySelfies.Analytics

open Contact (Tier)

inductive Trend where
  | increasing
  | stable
  | decreasing
  | inactive
deriving DecidableEq

inductive Level where
  | veryActive
  | active
  | regular
  | occasional
  | dormant
deriving DecidableEq

structure Record where
  member : Nat
  last24Hours : Option ℚ
  last7Days : Option ℚ
  last30Days : Option ℚ
  last90Days : Option ℚ
  lifetime : Option ℚ
  averagePurchase : Option ℚ
  tier : Option Tier
  trend : Option Trend
  percentageChange : Option ℚ
  lastActive : Option ℚ
  monthlyActiveDays : Option ℚ
  level : Option Level
  topCategories : List String
  messageResponseRate : Option ℚ
  valueScore : Option ℚ
  engagementScore : Option ℚ
  discoverable : Option Bool
  blockedCreators : List Nat
  totalPurchases : Option ℚ
  createdAt : ℚ
deriving DecidableEq

def value (x : Option ℚ) : ℚ := x.getD 0

def plus (x : Option ℚ) (amount : ℚ) : Option ℚ := some (value x + amount)

def Record.new (member : Nat) (now : ℚ) : Record where
  member
  last24Hours := some 0
  last7Days := some 0
  last30Days := some 0
  last90Days := some 0
  lifetime := some 0
  averagePurchase := some 0
  tier := some .new
  trend := some .stable
  percentageChange := some 0
  lastActive := some now
  monthlyActiveDays := some 0
  level := some .regular
  topCategories := []
  messageResponseRate := some 0
  valueScore := some 50
  engagementScore := some 50
  discoverable := some true
  blockedCreators := []
  totalPurchases := some 0
  createdAt := now

/-! ## Saving -/

variable (r : Record)

def Record.bounds : List (Option ℚ × Option ℚ) :=
  [(r.last24Hours, none), (r.last7Days, none), (r.last30Days, none), (r.last90Days, none),
    (r.lifetime, none), (r.averagePurchase, none), (r.monthlyActiveDays, some 31),
    (r.messageResponseRate, some 100), (r.valueScore, some 100), (r.engagementScore, some 100),
    (r.totalPurchases, none)]

def InBounds (x max : Option ℚ) : Prop := ∀ q ∈ x, 0 ≤ q ∧ ∀ m ∈ max, q ≤ m

/-- Every bounded path is within its bounds. -/
def Record.Valid : Prop := ∀ b ∈ r.bounds, InBounds b.1 b.2

instance (x max : Option ℚ) : Decidable (InBounds x max) :=
  inferInstanceAs (Decidable (∀ q ∈ x, 0 ≤ q ∧ ∀ m ∈ max, q ≤ m))

instance (r : Record) : Decidable r.Valid :=
  inferInstanceAs (Decidable (∀ b ∈ r.bounds, InBounds b.1 b.2))

def tierOf (spending : ℚ) : Tier :=
  if 300 ≤ spending then .whale
  else if 100 ≤ spending then .vip
  else if 50 ≤ spending then .regular
  else if 10 ≤ spending then .occasional
  else .new

def Record.calculateSpendingTier : Tier := tierOf (value r.last30Days)

def day : ℚ := 1000 * 60 * 60 * 24

variable (now : ℚ)

def Record.calculateActivityLevel (r : Record) : Level :=
  let daysSinceActive := (now - value r.lastActive) / day
  let monthlyDays := value r.monthlyActiveDays
  if daysSinceActive ≤ 1 ∧ 20 ≤ monthlyDays then .veryActive
  else if daysSinceActive ≤ 7 ∧ 10 ≤ monthlyDays then .active
  else if daysSinceActive ≤ 14 ∧ 5 ≤ monthlyDays then .regular
  else if daysSinceActive ≤ 30 then .occasional
  else .dormant

def round (q : ℚ) : ℤ := ⌊q + 1 / 2⌋

def orFifty (x : Option ℚ) : ℚ := if value x = 0 then 50 else value x

def Record.calculateValueScore : ℤ :=
  let spendingScore := min 100 (value r.last30Days / 500 * 100)
  let activityScore := min 100 (value r.monthlyActiveDays / 30 * 100)
  let engagementScore := orFifty r.engagementScore
  round (spendingScore * (4 / 10) + activityScore * (3 / 10) + engagementScore * (3 / 10))

def Record.hook (r : Record) : Record :=
  { r with
    tier := some r.calculateSpendingTier
    level := some (r.calculateActivityLevel now)
    valueScore := some r.calculateValueScore }

def Record.save (r : Record) : Option Record :=
  if r.Valid then some (r.hook now) else none

def Record.Saved : Prop := ∃ now r₀, Record.save now r₀ = some r

theorem round_mono {p q : ℚ} (h : p ≤ q) : round p ≤ round q := Int.floor_le_floor (by linarith)

theorem round_mem {q : ℚ} (h0 : 0 ≤ q) (h100 : q ≤ 100) : 0 ≤ round q ∧ round q ≤ 100 := by
  constructor
  · exact Int.floor_nonneg.mpr (by linarith)
  · exact Int.lt_add_one_iff.mp (Int.floor_lt.mpr (by push_cast; linarith))

theorem value_mem {x max : Option ℚ} (h : InBounds x max) :
    0 ≤ value x ∧ ∀ m ∈ max, 0 ≤ m → value x ≤ m := by
  cases x with
  | none => exact ⟨le_rfl, fun m _ hm => hm⟩
  | some q => exact ⟨(h q rfl).1, fun m hm _ => (h q rfl).2 m hm⟩

theorem orFifty_mem {x : Option ℚ} (h : InBounds x (some 100)) :
    0 ≤ orFifty x ∧ orFifty x ≤ 100 := by
  unfold orFifty
  split
  · norm_num
  · exact ⟨(value_mem h).1, (value_mem h).2 100 rfl (by norm_num)⟩

variable {r : Record}

theorem Record.Valid.last30Days (h : r.Valid) : InBounds r.last30Days none :=
  h (r.last30Days, none) (by simp [bounds])

theorem Record.Valid.monthlyActiveDays (h : r.Valid) : InBounds r.monthlyActiveDays (some 31) :=
  h (r.monthlyActiveDays, some 31) (by simp [bounds])

theorem Record.Valid.engagementScore (h : r.Valid) : InBounds r.engagementScore (some 100) :=
  h (r.engagementScore, some 100) (by simp [bounds])

theorem calculateValueScore_mem (h : r.Valid) :
    0 ≤ r.calculateValueScore ∧ r.calculateValueScore ≤ 100 := by
  have hsp := (value_mem h.last30Days).1
  have hda := (value_mem h.monthlyActiveDays).1
  obtain ⟨hlow, hhi⟩ := orFifty_mem h.engagementScore
  have hspe : 0 ≤ min 100 (value r.last30Days / 500 * 100) := le_min (by norm_num) (by positivity)
  have hac : 0 ≤ min 100 (value r.monthlyActiveDays / 30 * 100) :=
    le_min (by norm_num) (by positivity)
  have hspe' := min_le_left 100 (value r.last30Days / 500 * 100)
  have hac' := min_le_left 100 (value r.monthlyActiveDays / 30 * 100)
  refine round_mem ?_ ?_
  · linarith
  · linarith

theorem valid_hook (h : r.Valid) (now : ℚ) : (r.hook now).Valid := by
  have hsc : InBounds (some (r.calculateValueScore : ℚ)) (some 100) := by
    obtain ⟨hlow, hhi⟩ := calculateValueScore_mem h
    rintro q ⟨⟩
    exact ⟨Int.cast_nonneg hlow, fun m hm => by cases hm; exact_mod_cast hhi⟩
  simp only [Record.Valid, Record.bounds, List.forall_mem_cons] at h ⊢
  obtain ⟨h1, h2, h3, h4, h5, h6, h7, h8, -, h10⟩ := h
  exact ⟨h1, h2, h3, h4, h5, h6, h7, h8, hsc, h10⟩

theorem Record.Saved.cases (h : r.Saved) : ∃ now, ∃ r₀ : Record, r₀.Valid ∧ r = r₀.hook now := by
  obtain ⟨now, r₀, hs⟩ := h
  unfold save at hs
  split at hs
  · next hv => exact ⟨now, r₀, hv, (Option.some.inj hs).symm⟩
  · cases hs

theorem Record.Saved.valid (h : r.Saved) : r.Valid := by
  obtain ⟨now, r₀, hv, rfl⟩ := h.cases
  exact valid_hook hv now

theorem Record.Saved.tier (h : r.Saved) : r.tier = some (tierOf (value r.last30Days)) := by
  obtain ⟨now, r₀, -, rfl⟩ := h.cases
  rfl

end SexySelfies.Analytics
