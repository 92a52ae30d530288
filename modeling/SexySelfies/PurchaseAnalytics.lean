import SexySelfies.AnalyticsModel
import SexySelfies.Runs

/-!
# Purchases in the analytics

`updateMemberAnalytics` of `payment.service.js` adds the amount to the fields of the schema and
saves. `updateMemberPurchaseAnalytics` of `memberAnalytics.service.js` also works on paths that the
schema does not declare: it reads the length of a list at such a path before it saves, so it always
throws, and the error is swallowed.

Each of the two, a third service and the save hook turn the spending of thirty days into a tier, by
thresholds of their own.
-/

namespace SexySelfies.Analytics

open Contact (Tier)
open Runs Record List

def tierTexts : List (String × Tier) :=
  [("whale", .whale), ("vip", .vip), ("regular", .regular), ("occasional", .occasional),
    ("new", .new)]

def determineSpendingTier (spending : ℚ) : String :=
  if 1000 ≤ spending then "whale"
  else if 500 ≤ spending then "vip"
  else if 100 ≤ spending then "regular"
  else if 10 ≤ spending then "occasional"
  else if 0 < spending then "casual"
  else "new"

def calculateSpendingTier (last30Days : ℚ) : String :=
  if 1000 ≤ last30Days then "vip"
  else if 500 ≤ last30Days then "whale"
  else if 100 ≤ last30Days then "high"
  else if 20 ≤ last30Days then "standard"
  else "new"

def paymentTier (spending : ℚ) : Tier :=
  if 500 ≤ spending then .whale
  else if 200 ≤ spending then .vip
  else if 50 ≤ spending then .regular
  else if 10 ≤ spending then .occasional
  else .new

/-! ## The two services -/

structure Purchase where
  amount : ℚ
  transactionType : String
  creatorId : Option Nat
  time : ℚ

structure Favorite where
  creator : Nat
  totalSpent : ℚ
  purchaseCount : ℚ

structure Draft where
  record : Record
  totalTransactions : Option ℚ
  contentUnlocks : Option ℚ
  tipsGiven : Option ℚ
  joinDate : Option ℚ
  favoriteCreators : Option (List Favorite)

/-- A document that was loaded or made has no value at an undeclared path. -/
def Record.draft (r : Record) : Draft := ⟨r, none, none, none, none, none⟩

/-- Every text it answers is outside the enumeration of the schema. -/
def calculateActivityLevel (now : ℚ) (d : Draft) : String :=
  let normalizedScore : Option ℚ := do
    let transactions ← d.totalTransactions
    let unlocks ← d.contentUnlocks
    let tips ← d.tipsGiven
    let joinDate ← d.joinDate
    return (transactions * 10 + unlocks * 5 + tips * 15) / max ((now - joinDate) / day) 1
  match normalizedScore with
  | none => "new"
  | some score =>
      if 50 ≤ score then "high" else if 20 ≤ score then "medium" else if 5 ≤ score then "low"
      else "new"

def levelTexts : List (String × Level) :=
  [("very-active", .veryActive), ("active", .active), ("regular", .regular),
    ("occasional", .occasional), ("dormant", .dormant)]

/-- The value score and the engagement score; the others are not declared. `none`
when it throws, or a score is not a number. -/
def calculateMemberScoring (d : Draft) (averagePurchase : Option ℚ) : Option (ℤ × ℤ) := do
  let _ ← d.favoriteCreators
  let average ← averagePurchase
  let transactions ← d.totalTransactions
  let unlocks ← d.contentUnlocks
  let tips ← d.tipsGiven
  return (round (min (value d.record.last30Days / 10) 50 + min (value d.record.lifetime / 50) 30
      + min (average * 2) 20),
    round (min (transactions * 5) 40 + min (unlocks * 2) 30 + min (tips * 10) 30))

def addFavorite (creator : Nat) (amount : ℚ) (favorites : List Favorite) : List Favorite :=
  let added :=
    if favorites.any (·.creator = creator) then
      favorites.map fun f =>
        if f.creator = creator then
          { f with totalSpent := f.totalSpent + amount, purchaseCount := f.purchaseCount + 1 }
        else f
    else favorites ++ [⟨creator, amount, 1⟩]
  (added.mergeSort fun a b => b.totalSpent ≤ a.totalSpent).take 10

variable (member : Nat) (categories : List String)

/-- The document of a first purchase; its categories are read off the member. -/
def firstDocument (now : ℚ) : Record :=
  { Record.new member now with
    topCategories := categories, valueScore := some 25, engagementScore := some 10 }

/-- What is stored; `none` when it throws, or the save is rejected. -/
def updateMemberPurchaseAnalytics (p : Purchase)
    (stored : Option Record) : Option Record := do
  let d := (stored.getD (firstDocument member categories p.time)).draft
  let d := { d with
    record := { d.record with
      lifetime := plus d.record.lifetime p.amount
      totalPurchases := plus d.record.totalPurchases 1
      lastActive := some p.time
      last30Days := plus d.record.last30Days p.amount
      last7Days := plus d.record.last7Days p.amount }
    totalTransactions := d.totalTransactions.map (· + 1)
    contentUnlocks :=
      if p.transactionType = "content_unlock" then d.contentUnlocks.map (· + 1)
      else d.contentUnlocks
    tipsGiven :=
      if p.transactionType = "tip" then d.tipsGiven.map (· + 1) else d.tipsGiven }
  let averagePurchase := d.totalTransactions.map (value d.record.lifetime / ·)
  let d ← match p.creatorId with
    | none => some d
    | some creator =>
        d.favoriteCreators.map fun favorites =>
          { d with favoriteCreators := some (addFavorite creator p.amount favorites) }
  let tier ← tierTexts.lookup (calculateSpendingTier (value d.record.last30Days))
  let level ← levelTexts.lookup (calculateActivityLevel p.time d)
  let (valueScore, engagementScore) ← calculateMemberScoring d averagePurchase
  let average ← averagePurchase
  Record.save p.time { d.record with
    averagePurchase := some average, tier := some tier, level := some level
    valueScore := some valueScore, engagementScore := some engagementScore }

def Record.paid (amount : ℚ) (r : Record) : Record :=
  { r with
    last24Hours := plus r.last24Hours amount
    last7Days := plus r.last7Days amount
    last30Days := plus r.last30Days amount
    last90Days := plus r.last90Days amount
    lifetime := plus r.lifetime amount
    totalPurchases := plus r.totalPurchases 1 }

def Record.setTier (tier : Tier) (r : Record) : Record := { r with tier := some tier }

/-- The score is recalculated through a method without its class, which throws before
anything else is written. -/
def updateMemberAnalytics (p : Purchase) (stored : Option Record) : Option Record :=
  let r := (stored.getD (Record.new member p.time)).paid p.amount
  (r.setTier (paymentTier (value r.last30Days))).save p.time

theorem save_setTier (now : ℚ) (tier : Tier) (r : Record) :
    (r.setTier tier).save now = r.save now := rfl

theorem updateMemberPurchaseAnalytics_eq_none (c : List String)
    (p : Purchase) (stored : Option Record) :
    updateMemberPurchaseAnalytics member c p stored = none := by
  unfold updateMemberPurchaseAnalytics calculateMemberScoring
  cases p.creatorId with
  | none | some creator => simp [draft]

/-! ## Whole histories -/

variable (stored : Option Record)

def purchaseStep
    (p : Purchase) : Option Record :=
  (updateMemberPurchaseAnalytics member categories p stored).or stored

def paymentStep (p : Purchase) : Option Record :=
  (updateMemberAnalytics member p stored).or stored

/-- The record after the purchases `done`. -/
structure Booked (done : List Purchase) (r : Record) : Prop where
  lifetime : value r.lifetime = (done.map Purchase.amount).sum
  totalPurchases : value r.totalPurchases = done.length
  valueScore : 0 ≤ value r.valueScore ∧ value r.valueScore ≤ 100
  engagementScore : 0 ≤ value r.engagementScore ∧ value r.engagementScore ≤ 100

theorem inBounds_plus {x : Option ℚ} {amount : ℚ} (h : InBounds x none) (ha : 0 ≤ amount) :
    InBounds (plus x amount) none := by
  rintro q ⟨⟩
  exact ⟨add_nonneg (value_mem h).1 ha, nofun⟩

theorem valid_paid {r : Record} (h : r.Valid) {amount : ℚ} (ha : 0 ≤ amount) :
    (r.paid amount).Valid := by
  simp only [Valid, bounds, forall_mem_cons] at h ⊢
  obtain ⟨h1, h2, h3, h4, h5, h6, h7, h8, h9, h10, h11, -⟩ := h
  exact ⟨inBounds_plus h1 ha, inBounds_plus h2 ha, inBounds_plus h3 ha, inBounds_plus h4 ha,
    inBounds_plus h5 ha, h6, h7, h8, h9, h10, inBounds_plus h11 zero_le_one,
    fun _ h => absurd h not_mem_nil⟩

theorem booked_of_valid {done : List Purchase} {r : Record} (h : r.Valid)
    (hli : value r.lifetime = (done.map Purchase.amount).sum)
    (ht : value r.totalPurchases = done.length) : Booked done r := by
  have hv := value_mem (h (r.valueScore, some 100) (by simp [bounds]))
  have hen := value_mem h.engagementScore
  exact ⟨hli, ht, ⟨hv.1, hv.2 100 rfl (by norm_num)⟩, hen.1, hen.2 100 rfl (by norm_num)⟩

theorem booked_payments {done : List Purchase} (h : ∀ p ∈ done, 0 ≤ p.amount)
    (now : ℚ) : ((final (paymentStep member) none done).getD (new member now)).Valid
      ∧ Booked done ((final (paymentStep member) none done).getD (new member now))
      ∧ (done ≠ [] → (final (paymentStep member) none done).isSome) := by
  induction done using List.reverseRecOn generalizing now with
  | nil =>
    have hv : (new 0 0).Valid := by decide +kernel
    exact ⟨hv, booked_of_valid hv rfl rfl, fun hne => absurd rfl hne⟩
  | append_singleton done p ih =>
    rw [forall_mem_append, forall_mem_singleton] at h
    obtain ⟨hv, hbo, -⟩ := ih h.1 p.time
    rw [final_append, final_cons, final_nil]
    generalize final (paymentStep member) none done = stored at hv hbo ⊢
    have hp := valid_paid hv h.2
    rw [paymentStep, updateMemberAnalytics, save_setTier, save, if_pos hp]
    refine ⟨valid_hook hp p.time, booked_of_valid (valid_hook hp p.time) ?_ ?_, fun _ => rfl⟩
    · rw [map_append, List.sum_append, ← hbo.lifetime]
      simp [Record.hook, paid, plus, value]
    · rw [length_append, Nat.cast_add, ← hbo.totalPurchases]
      simp [Record.hook, paid, plus, value]

/-- Recorded by the analytics service, the record is as it should be after each call
exactly if there is no call; recorded by the payment service, it always is. -/
theorem purchases_recorded_iff (member : Nat) (categories : List String)
    (purchases : List Purchase) (h : ∀ p ∈ purchases, 0 ≤ p.amount) :
    ((∀ done rest, purchases = done ++ rest → done ≠ [] →
        ∃ r, final (purchaseStep member categories) none done = some r ∧ Booked done r
          ∧ value r.averagePurchase * value r.totalPurchases = value r.lifetime)
        ↔ purchases = [])
      ∧ ∀ done rest, purchases = done ++ rest → done ≠ [] →
        ∃ r, final (paymentStep member) none done = some r ∧ Booked done r := by
  have hn : ∀ done, final (purchaseStep member categories) none done = none := by
    intro done
    induction done with
    | nil => rfl
    | cons p done ih =>
      rw [final_cons, purchaseStep, updateMemberPurchaseAnalytics_eq_none]
      exact ih
  refine ⟨⟨fun hall => ?_, ?_⟩, ?_⟩
  · by_contra hne
    obtain ⟨r, hr, -⟩ := hall purchases [] (append_nil _).symm hne
    rw [hn] at hr
    cases hr
  · rintro rfl done rest heq hne
    exact absurd (append_eq_nil_iff.mp heq.symm).1 hne
  · intro done rest heq hne
    have hdone : ∀ p ∈ done, 0 ≤ p.amount := fun p hp => h p (heq ▸ mem_append_left rest hp)
    obtain ⟨-, hboo, hs⟩ := booked_payments member hdone 0
    obtain ⟨r, hr⟩ := Option.isSome_iff_exists.mp (hs hne)
    rw [hr] at hboo
    exact ⟨r, hr, hboo⟩

def sampleTip : Purchase := ⟨20, "tip", some 7, 0⟩

theorem purchases_recorded_tip :
    ∃ r, final (paymentStep 1) none [sampleTip] = some r ∧ Booked [sampleTip] r := by
  have h : ∀ p ∈ [sampleTip], 0 ≤ p.amount := by decide +kernel
  exact (purchases_recorded_iff 1 [] [sampleTip] h).2 [sampleTip] [] rfl nofun

theorem tip_not_recorded :
    final (purchaseStep 1 []) none [sampleTip] = none
      ∧ ¬ ∃ r, final (purchaseStep 1 []) none [sampleTip] = some r ∧ Booked [sampleTip] r := by
  have hn : final (purchaseStep 1 []) none [sampleTip] = none := by
    rw [final_cons, final_nil, purchaseStep, updateMemberPurchaseAnalytics_eq_none]
    rfl
  refine ⟨hn, ?_⟩
  rintro ⟨r, hr, -⟩
  cases hn.symm.trans hr

/-! ## Writers of the tier -/

/-- All four thresholds give the tier. -/
structure Agreed (spending : ℚ) (t : Tier) : Prop where
  model : tierOf spending = t
  scoring : tierTexts.lookup (determineSpendingTier spending) = some t
  analytics : tierTexts.lookup (calculateSpendingTier spending) = some t
  payment : paymentTier spending = t

theorem tiers_agree_iff {x : ℚ} (h : 0 ≤ x) : (∃ t, Agreed x t) ↔ x = 0 := by
  constructor
  · rintro ⟨t, hmod, hsc, han, -⟩
    by_contra hne
    have hpos : 0 < x := lt_of_le_of_ne h (Ne.symm hne)
    rcases lt_or_ge x 10 with h10 | h10
    · have hca : determineSpendingTier x = "casual" := by
        rw [determineSpendingTier, if_neg (by linarith), if_neg (by linarith),
          if_neg (by linarith), if_neg (by linarith), if_pos hpos]
      rw [hca] at hsc
      cases hsc
    · have hnew : t ≠ .new := by
        rw [← hmod, tierOf]
        split_ifs <;> simp
      unfold calculateSpendingTier at han
      split_ifs at han with h1000 h500 h100 h20
      · rw [tierOf, if_pos (by linarith)] at hmod
        have hbo : some Tier.vip = some t := han
        cases hbo.trans (congrArg some hmod.symm)
      · rw [determineSpendingTier, if_neg h1000, if_pos h500] at hsc
        have hbo : some Tier.vip = some Tier.whale := hsc.trans han.symm
        cases hbo
      · cases han
      · cases han
      · exact hnew (Option.some.inj han).symm
  · rintro rfl
    exact ⟨.new, by decide +kernel, by decide +kernel, by decide +kernel, by decide +kernel⟩

inductive Writer where
  | updateSpending (amount time : ℚ)
  | updateMemberAnalytics (p : Purchase)
  | updateMemberPurchaseAnalytics (p : Purchase)
  | save (time : ℚ)

def Writer.write (r : Record) : Writer → Option Record
  | .updateSpending amount time =>
      let paid := r.paid amount
      let paid := { paid with
        averagePurchase := some (value paid.lifetime / value paid.totalPurchases) }
      (paid.setTier paid.calculateSpendingTier).save time
  | .updateMemberAnalytics p => Analytics.updateMemberAnalytics r.member p (some r)
  | .updateMemberPurchaseAnalytics p =>
      Analytics.updateMemberPurchaseAnalytics r.member [] p (some r)
  | .save time => r.save time

def Writer.adds : Writer → ℚ
  | .updateSpending amount _ => amount
  | .updateMemberAnalytics p => p.amount
  | .updateMemberPurchaseAnalytics _ | .save _ => 0

def writeStep (s : Record × Bool) (w : Writer) : Record × Bool :=
  match w.write s.1 with
  | none => s
  | some r => (r, true)

/-- The writers agree on a tier, and once one of them has saved the record, it is
stored. -/
def Settled (s : Record × Bool) : Prop :=
  ∃ t, Agreed (value s.1.last30Days) t ∧ (s.2 = true → s.1.tier = some t)

theorem write_cases {r : Record} (h : r.Valid) (w : Writer) : (w.write r = none ∧ w.adds = 0)
      ∨ ∃ (now : ℚ) (r₁ : Record), w.write r = r₁.save now
        ∧ value r₁.last30Days = value r.last30Days + w.adds ∧ (0 ≤ w.adds → r₁.Valid) := by
  cases w with
  | updateSpending amount time =>
    refine .inr ⟨time, _, save_setTier time _ _, rfl, fun ha => ?_⟩
    have hp := valid_paid h ha
    have ht := (value_mem (hp (_, none) (mem_of_getElem? (i := 10) rfl))).1
    have hli := (value_mem (hp (_, none) (mem_of_getElem? (i := 4) rfl))).1
    have hav : InBounds (some (value (r.paid amount).lifetime
        / value (r.paid amount).totalPurchases)) none := by
      rintro q ⟨⟩
      exact ⟨div_nonneg hli ht, nofun⟩
    simp only [Valid, bounds, forall_mem_cons] at hp ⊢
    obtain ⟨h1, h2, h3, h4, h5, -, hr⟩ := hp
    exact ⟨h1, h2, h3, h4, h5, hav, hr⟩
  | updateMemberAnalytics p =>
    exact .inr ⟨p.time, r.paid p.amount, save_setTier p.time _ _, rfl, valid_paid h⟩
  | updateMemberPurchaseAnalytics => exact .inl ⟨updateMemberPurchaseAnalytics_eq_none _ _ _ _, rfl⟩
  | save time => exact .inr ⟨time, r, rfl, (add_zero _).symm, fun _ => h⟩

def Spendless (s : Record × Bool) : Prop :=
  s.1.Valid ∧ value s.1.last30Days = 0 ∧ (s.2 = true → s.1.tier = some .new)

variable {s : Record × Bool}

theorem settled_of_spendless (h : Spendless s) : Settled s := by
  obtain ⟨t, ht⟩ := (tiers_agree_iff le_rfl).mpr (rfl : (0 : ℚ) = 0)
  have hnew : t = .new := ht.model.symm
  rw [Settled, h.2.1]
  exact ⟨t, ht, hnew ▸ h.2.2⟩

theorem spendless_step {w : Writer} (h : Spendless s) (hw : w.adds ≤ 0) :
    Spendless (writeStep s w) := by
  obtain ⟨hv, hz, hti⟩ := h
  unfold writeStep
  rcases write_cases hv w with ⟨hn, -⟩ | ⟨now, r₁, hwr, hspe, -⟩
  · rw [hn]
    exact ⟨hv, hz, hti⟩
  · rw [hwr, save]
    split_ifs with hv₁
    · have hno := (value_mem hv₁.last30Days).1
      have hz₁ : value r₁.last30Days = 0 := by linarith
      refine ⟨valid_hook hv₁ now, hz₁, fun _ => ?_⟩
      rw [Record.hook, Record.calculateSpendingTier, hz₁]
      rfl
    · exact ⟨hv, hz, hti⟩

theorem not_settled_step {w : Writer} (h : Spendless s) (hw : ¬ w.adds ≤ 0) :
    ¬ Settled (writeStep s w) := by
  obtain ⟨hv, hz, -⟩ := h
  have hpos := not_le.mp hw
  rcases write_cases hv w with ⟨-, had⟩ | ⟨now, r₁, hwr, hspe, hv₁⟩
  · exact absurd had.le hw
  · rw [writeStep, hwr, save, if_pos (hv₁ hpos.le)]
    rintro ⟨t, ht, -⟩
    have hspe' : value r₁.last30Days = w.adds := by linarith
    have hz' := (tiers_agree_iff hpos.le).mp ⟨t, hspe' ▸ ht⟩
    exact hpos.ne' hz'

/-- The four agree at all times and a saved record has their tier, exactly if there is no spending
to begin with and no writer that stores the record adds any. -/
theorem tiers_settled_iff {r : Record} (h : r.Valid) (writers : List Writer) :
    Always writeStep Settled (r, false) writers
      ↔ value r.last30Days = 0 ∧ ∀ w ∈ writers, w.adds ≤ 0 := by
  by_cases hz : value r.last30Days = 0
  · have hst : Spendless (r, false) := ⟨h, hz, nofun⟩
    have he : Always writeStep Settled (r, false) writers
        ↔ Every writeStep (fun _ w => w.adds ≤ 0) (r, false) writers :=
      always_iff_every_under (C := fun _ _ => True) (fun _ => settled_of_spendless)
        (fun _ _ hs _ hw => spendless_step hs hw) (fun _ _ hs _ hw => not_settled_step hs hw)
        hst (every_of_forall fun _ _ => trivial)
    rw [and_iff_right hz, he, every_iff_forall]
  · refine iff_of_false (fun hall => ?_) fun hboth => hz hboth.1
    obtain ⟨t, ht, -⟩ := hall.head
    exact hz ((tiers_agree_iff (value_mem h.last30Days).1).mp ⟨t, ht⟩)

theorem tiers_settled_new :
    (Record.new 1 0).Valid ∧ Always writeStep Settled (Record.new 1 0, false) [.save 0] := by
  have hv : (new 1 0).Valid := by decide +kernel
  refine ⟨hv, (tiers_settled_iff hv [.save 0]).mpr ⟨rfl, ?_⟩⟩
  exact forall_mem_singleton.mpr le_rfl

theorem tiers_disagree :
    determineSpendingTier 5 = "casual" ∧ tierTexts.lookup "casual" = none ∧ tierOf 5 = .new
      ∧ ¬ ∃ t, Agreed 5 t := by
  have hcas : tierTexts.lookup (determineSpendingTier 5) = none := by decide +kernel
  refine ⟨by decide +kernel, by decide +kernel, by decide +kernel, ?_⟩
  rintro ⟨t, ht⟩
  cases hcas.symm.trans ht.scoring

end SexySelfies.Analytics
