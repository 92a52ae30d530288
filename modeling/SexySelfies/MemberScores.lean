import SexySelfies.AnalyticsModel

/-!
# Scores of a member

The value score that the save hook stores, and the score that `calculateMemberScore` of
`memberScoring.service.js` answers. The hook reads an engagement score of zero as a missing one and
takes 50 for it.
-/

namespace SexySelfies.Analytics

open Contact (Tier)

/-! ## The value score -/

/-- The number is raised to `x`, within its bounds. -/
def Raised (old max : Option ℚ) (x : ℚ) : Prop := ∃ q ∈ old, q ≤ x ∧ ∀ m ∈ max, x ≤ m

/-- The stored score is in its range, and raising a field does not lower it. -/
structure Record.Sound (r : Record) : Prop where
  range : 0 ≤ r.calculateValueScore ∧ r.calculateValueScore ≤ 100
  spending : ∀ x, Raised r.last30Days none x →
    r.calculateValueScore ≤ { r with last30Days := some x }.calculateValueScore
  activity : ∀ x, Raised r.monthlyActiveDays (some 31) x →
    r.calculateValueScore ≤ { r with monthlyActiveDays := some x }.calculateValueScore
  engagement : ∀ x, Raised r.engagementScore (some 100) x →
    r.calculateValueScore ≤ { r with engagementScore := some x }.calculateValueScore

def weighted (spending days engagement : ℚ) : ℤ :=
  round (min 100 (spending / 500 * 100) * (4 / 10) + min 100 (days / 30 * 100) * (3 / 10)
    + engagement * (3 / 10))

variable {r : Record}

theorem calculateValueScore_eq : r.calculateValueScore
    = weighted (value r.last30Days) (value r.monthlyActiveDays) (orFifty r.engagementScore) := rfl

theorem weighted_mono {s s' d d' e e' : ℚ} (hs : s ≤ s') (hd : d ≤ d') (he : e ≤ e') :
    weighted s d e ≤ weighted s' d' e' := by
  have hspe : min 100 (s / 500 * 100) ≤ min 100 (s' / 500 * 100) :=
    min_le_min_left 100 (by linarith)
  have hac : min 100 (d / 30 * 100) ≤ min 100 (d' / 30 * 100) := min_le_min_left 100 (by linarith)
  exact round_mono (by linarith)

theorem weighted_ten (s d : ℚ) : weighted s d 10 = weighted s d 50 - 12 := by
  have hshi : ∀ x : ℚ, round (x + 10 * (3 / 10)) = round (x + 50 * (3 / 10)) - 12 := by
    intro x
    unfold round
    rw [← Int.floor_sub_ofNat]
    congr 1
    ring
  exact hshi _

theorem value_of_mem {x : Option ℚ} {q : ℚ} (h : q ∈ x) : value x = q := by
  cases h
  rfl

/-- For every valid record, what the hook stores is sound exactly if the
engagement score is not zero. -/
theorem valueScore_sound_iff {r : Record} (h : r.Valid) : r.Sound ↔ r.engagementScore ≠ some 0 := by
  constructor
  · intro hs hz
    have hrai : Raised r.engagementScore (some 100) 10 :=
      ⟨0, hz, by norm_num, by rintro m ⟨⟩; norm_num⟩
    have hle := hs.engagement 10 hrai
    rw [calculateValueScore_eq, calculateValueScore_eq, hz] at hle
    have hten := weighted_ten (value r.last30Days) (value r.monthlyActiveDays)
    have hfif : orFifty (some 0) = 50 := if_pos rfl
    have hself : orFifty (some 10) = 10 := if_neg (by norm_num [value])
    rw [hfif] at hle
    simp only [hself, hten] at hle
    omega
  · intro hne
    refine ⟨calculateValueScore_mem h, ?_, ?_, ?_⟩
    · rintro x ⟨q, hq, hx, -⟩
      exact weighted_mono ((value_of_mem hq).trans_le hx) le_rfl le_rfl
    · rintro x ⟨q, hq, hx, -⟩
      exact weighted_mono le_rfl ((value_of_mem hq).trans_le hx) le_rfl
    · rintro x ⟨q, hq, hx, -⟩
      have hpos : 0 < q := lt_of_le_of_ne (h.engagementScore q hq).1
        fun h0 => hne (hq.trans (congrArg some h0.symm))
      refine weighted_mono le_rfl le_rfl ?_
      have hx0 : x ≠ 0 := (hpos.trans_le hx).ne'
      rw [orFifty, value_of_mem hq, if_neg hpos.ne', orFifty, value_of_mem rfl, if_neg hx0]
      exact hx

def engagedAt (engagementScore : ℚ) : Record :=
  { Record.new 1 0 with engagementScore := some engagementScore }

theorem valueScore_sound_engaged : (engagedAt 20).Valid ∧ (engagedAt 20).Sound := by
  have hv : (engagedAt 20).Valid := by decide +kernel
  exact ⟨hv, (valueScore_sound_iff hv).mpr (by decide)⟩

theorem valueScore_lowered :
    (engagedAt 0).Valid ∧ (engagedAt 10).Valid
      ∧ ((engagedAt 0).hook 0).valueScore = some 15
      ∧ ((engagedAt 10).hook 0).valueScore = some 3 := by decide +kernel

/-! ## The score of a member -/

def tierScore : Option Tier → ℚ
  | some .whale => 100
  | some .vip => 80
  | some .regular => 60
  | some .occasional => 40
  | some .new => 10
  | none => 0

def Record.calculateSpendingScore (r : Record) : ℚ :=
  if 500 < value r.last30Days then min 100 (tierScore r.tier + 20)
  else if 200 < value r.last30Days then min 100 (tierScore r.tier + 10)
  else if 50 < value r.last30Days then min 100 (tierScore r.tier + 5)
  else tierScore r.tier

def hour : ℚ := 1000 * 60 * 60

variable (now : ℚ)

/-- Of the levels that have a score the schema knows two. -/
def Record.calculateActivityScore (r : Record) : ℚ :=
  let score :=
    match r.level with
    | some .veryActive => 100
    | some .active => 75
    | _ => 0
  let hoursSinceActive := (now - value r.lastActive) / hour
  if hoursSinceActive < 1 then min 100 (score + 20)
  else if hoursSinceActive < 24 then min 100 (score + 10)
  else if 168 < hoursSinceActive then max 0 (score - 20)
  else score

structure Interaction where
  responded : Bool
  converted : Bool

def percentage (p : Interaction → Bool) (interactions : List Interaction) : ℚ :=
  (interactions.filter p).length / interactions.length * 100

def calculateInteractionScore : Option (List Interaction) → ℚ
  | none => 0
  | some [] => 0
  | some interactions =>
      min 100 (50 + percentage Interaction.responded interactions * (3 / 10)
        + percentage Interaction.converted interactions * (2 / 10))

def Record.calculateGrowthScore (r : Record) : ℚ :=
  match r.trend with
  | some .increasing => 80
  | some .stable => 50
  | some .decreasing => 20
  | _ => 50

structure Options where
  includeInteractions : Bool
  includePurchases : Bool
  includeActivity : Bool
  creatorId : Option Nat

def Record.score (o : Options) (interactions : Option (List Interaction))
    (r : Record) : ℤ :=
  round ((if o.includePurchases then r.calculateSpendingScore * (4 / 10) else 0)
    + (if o.includeActivity then r.calculateActivityScore now * (3 / 10) else 0)
    + (if o.includeInteractions && o.creatorId.isSome then
        calculateInteractionScore interactions * (2 / 10) else 0)
    + r.calculateGrowthScore * (1 / 10))

/-- The path `valueScore` that is assigned to is not declared, so the save stores
what the hook computes. -/
def Record.calculateMemberScore (o : Options)
    (interactions : Option (List Interaction)) (r : Record) : Option (ℤ × Record) :=
  (r.save now).map fun saved => (r.score now o interactions, saved)

theorem tierScore_mem (tier : Option Tier) : 0 ≤ tierScore tier ∧ tierScore tier ≤ 100 := by
  unfold tierScore
  split <;> norm_num

def bonus (spending : ℚ) : ℚ :=
  if 500 < spending then 20 else if 200 < spending then 10 else if 50 < spending then 5 else 0

theorem calculateSpendingScore_eq :
    r.calculateSpendingScore = min 100 (tierScore r.tier + bonus (value r.last30Days)) := by
  unfold Record.calculateSpendingScore bonus
  split
  · rfl
  · split
    · rfl
    · split
      · rfl
      · rw [add_zero, min_eq_right (tierScore_mem r.tier).2]

theorem calculateSpendingScore_mem (r : Record) :
    0 ≤ r.calculateSpendingScore ∧ r.calculateSpendingScore ≤ 100 := by
  have hbon : 0 ≤ bonus (value r.last30Days) := by
    unfold bonus
    split_ifs <;> norm_num
  rw [calculateSpendingScore_eq]
  exact ⟨le_min (by norm_num) (add_nonneg (tierScore_mem r.tier).1 hbon), min_le_left _ _⟩

theorem calculateActivityScore_mem (r : Record) :
    0 ≤ r.calculateActivityScore now ∧ r.calculateActivityScore now ≤ 100 := by
  have hsc : ∀ score : ℚ, 0 ≤ score → score ≤ 100 →
      ∀ hours : ℚ, let adjusted := if hours < 1 then min 100 (score + 20)
        else if hours < 24 then min 100 (score + 10)
        else if 168 < hours then max 0 (score - 20) else score
      0 ≤ adjusted ∧ adjusted ≤ 100 := by
    intro score hlow hhi hours
    dsimp only
    split
    · exact ⟨le_min (by norm_num) (by linarith), min_le_left _ _⟩
    · split
      · exact ⟨le_min (by norm_num) (by linarith), min_le_left _ _⟩
      · split
        · exact ⟨le_max_left _ _, max_le (by norm_num) (by linarith)⟩
        · exact ⟨hlow, hhi⟩
  unfold Record.calculateActivityScore
  split
  · exact hsc 100 (by norm_num) le_rfl _
  · exact hsc 75 (by norm_num) (by norm_num) _
  · exact hsc 0 le_rfl (by norm_num) _

theorem calculateInteractionScore_mem (interactions : Option (List Interaction)) :
    0 ≤ calculateInteractionScore interactions ∧ calculateInteractionScore interactions ≤ 100 := by
  have hpct : ∀ p (xs : List Interaction), 0 ≤ percentage p xs := by
    intro p xs
    unfold percentage
    positivity
  unfold calculateInteractionScore
  split
  · norm_num
  · norm_num
  · next xs _ =>
    have hre := hpct Interaction.responded xs
    have hco := hpct Interaction.converted xs
    exact ⟨le_min (by norm_num) (by linarith), min_le_left _ _⟩

theorem calculateGrowthScore_mem (r : Record) :
    0 ≤ r.calculateGrowthScore ∧ r.calculateGrowthScore ≤ 100 := by
  unfold Record.calculateGrowthScore
  split <;> norm_num

variable {now : ℚ} {o : Options} {interactions : Option (List Interaction)}

theorem score_mem : 0 ≤ r.score now o interactions ∧ r.score now o interactions ≤ 100 := by
  have hpa : ∀ (b : Bool) {x c : ℚ}, 0 ≤ x ∧ x ≤ 100 → 0 ≤ c →
      0 ≤ (if b then x * c else 0) ∧ (if b then x * c else 0) ≤ 100 * c := by
    intro b x c hx hc
    have hpr := mul_le_mul_of_nonneg_right hx.2 hc
    cases b with
    | false => exact ⟨le_rfl, mul_nonneg (by norm_num) hc⟩
    | true => exact ⟨mul_nonneg hx.1 hc, hpr⟩
  have h1 := hpa o.includePurchases (calculateSpendingScore_mem r) (c := 4 / 10) (by norm_num)
  have h2 := hpa o.includeActivity (calculateActivityScore_mem now r) (c := 3 / 10) (by norm_num)
  have h3 := hpa (o.includeInteractions && o.creatorId.isSome)
    (calculateInteractionScore_mem interactions) (c := 2 / 10) (by norm_num)
  have h4 := calculateGrowthScore_mem r
  refine round_mem ?_ ?_
  · linarith [h1.1, h2.1, h3.1, h4.1]
  · linarith [h1.2, h2.2, h3.2, h4.2]

/-! ## More spending, no lower score -/

theorem bonus_mono {x y : ℚ} (h : x ≤ y) : bonus x ≤ bonus y := by
  unfold bonus
  split_ifs <;> linarith

theorem tierScore_mono {x y : ℚ} (h : x ≤ y) :
    tierScore (some (tierOf x)) ≤ tierScore (some (tierOf y)) := by
  unfold tierOf
  split_ifs <;> first | linarith | norm_num [tierScore]

theorem score_mono {r r' : Record} (h : r.Saved) (h' : r'.Saved) (hlev : r'.level = r.level)
    (hact : r'.lastActive = r.lastActive) (htre : r'.trend = r.trend)
    (hle : value r.last30Days ≤ value r'.last30Days) :
    r.score now o interactions ≤ r'.score now o interactions := by
  have hspe : r.calculateSpendingScore ≤ r'.calculateSpendingScore := by
    rw [calculateSpendingScore_eq, calculateSpendingScore_eq, h.tier, h'.tier]
    exact min_le_min_left 100 (add_le_add (tierScore_mono hle) (bonus_mono hle))
  have hac : r'.calculateActivityScore now = r.calculateActivityScore now := by
    rw [Record.calculateActivityScore, Record.calculateActivityScore, hlev, hact]
  have hgr : r'.calculateGrowthScore = r.calculateGrowthScore := by
    rw [Record.calculateGrowthScore, Record.calculateGrowthScore, htre]
  unfold Record.score
  rw [hac, hgr]
  refine round_mono ?_
  gcongr
  split
  · linarith
  · exact le_rfl

/-- A score between 0 and 100 is answered, and a record that differs only in more spending of the
last thirty days, and in what the hook makes of it, has no lower score. -/
theorem memberScore_sound (now : ℚ) (o : Options) (interactions : Option (List Interaction))
    {r : Record} (h : r.Saved) :
    (∃ score saved, r.calculateMemberScore now o interactions = some (score, saved)
        ∧ 0 ≤ score ∧ score ≤ 100)
      ∧ ∀ r' : Record, r'.Saved →
        r' = { r with
          last30Days := r'.last30Days, tier := r'.tier, valueScore := r'.valueScore } →
        value r.last30Days ≤ value r'.last30Days →
        ∀ score saved score' saved',
          r.calculateMemberScore now o interactions = some (score, saved) →
          r'.calculateMemberScore now o interactions = some (score', saved') → score ≤ score' := by
  have ha : ∀ {r : Record}, r.Saved → ∃ saved,
      r.calculateMemberScore now o interactions = some (r.score now o interactions, saved) :=
    fun h => ⟨_, by rw [Record.calculateMemberScore, Record.save, if_pos h.valid]; rfl⟩
  constructor
  · obtain ⟨saved, hsv⟩ := ha h
    exact ⟨_, saved, hsv, score_mem⟩
  · intro r' h' hs hle score saved score' saved' hsc hsc'
    obtain ⟨_, hf⟩ := ha h
    obtain ⟨_, hsec⟩ := ha h'
    cases hf.symm.trans hsc
    cases hsec.symm.trans hsc'
    exact score_mono h h' (by rw [hs]) (by rw [hs]) (by rw [hs]) hle

def spentRecord (amount : ℚ) : Record :=
  { Record.new 1 0 with last30Days := some amount }.hook 0

theorem saved_spentRecord {amount : ℚ}
    (h : { Record.new 1 0 with last30Days := some amount }.Valid) : (spentRecord amount).Saved :=
  ⟨0, _, if_pos h⟩

theorem memberScore_sound_spent :
    ∃ score saved score' saved',
      (spentRecord 0).calculateMemberScore 0 ⟨true, true, true, none⟩ none = some (score, saved)
        ∧ (spentRecord 120).calculateMemberScore 0 ⟨true, true, true, none⟩ none
          = some (score', saved') ∧ 0 ≤ score ∧ score ≤ 100 ∧ score ≤ score' := by
  have h : (spentRecord 0).Saved := saved_spentRecord (by decide +kernel)
  have h' : (spentRecord 120).Saved := saved_spentRecord (by decide +kernel)
  obtain ⟨⟨score, saved, hsc, hlow, hhigh⟩, hmono⟩ :=
    memberScore_sound 0 ⟨true, true, true, none⟩ none h
  obtain ⟨⟨score', saved', hsc', -⟩, -⟩ := memberScore_sound 0 ⟨true, true, true, none⟩ none h'
  exact ⟨score, saved, score', saved', hsc, hsc', hlow, hhigh,
    hmono _ h' rfl (by decide +kernel) _ _ _ _ hsc hsc'⟩

end SexySelfies.Analytics
