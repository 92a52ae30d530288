import Mathlib.Data.NNRat.Defs
import SexySelfies.Runs
import SexySelfies.SalesTracking

/-!
# Conversions that are tracked

`trackSalesActivity` passes the member's id to `recordConversion` where the revenue is expected.
Adding the text to a number writes the one after the other. Even when the result is the right
number, validators reject more conversions than interactions, the sixth conversion of the day and a
revenue above 200.

That is so if the list of achievements takes objects. It does not, and then no conversion is stored,
and no interaction after the seventh save of the day. A request saves twice.
-/

namespace SexySelfies.SalesActivity.Conversions

open Js Runs

inductive Event where
  | interaction (interactionType : InteractionType) (memberId : Value) (memberTier : Option String)
  | conversion (memberId : Value) (amount : ℚ≥0) (interactionType : Option String)

def Event.body : Event → Body
  | .interaction interactionType memberId memberTier =>
    .interaction interactionType memberId memberTier
  | .conversion memberId amount interactionType =>
    .conversion memberId (.fin amount) interactionType

structure Tracker where
  activity : Activity
  interactions : Nat
  conversions : Nat
  amount : ℚ
  allStored : Bool

/-- A new record, as the first request makes it, or as another handler has
made and saved it. -/
def Tracker.start (takes before : Bool) (today : Nat) : Tracker :=
  { activity := if before then ((Activity.new today).save takes today).getD (.new today)
      else .new today
    interactions := 0, conversions := 0, amount := 0, allStored := true }

def Tracker.note (t : Tracker) : Event → Tracker
  | .interaction .. => { t with interactions := t.interactions + 1 }
  | .conversion _ amount _ =>
    { t with conversions := t.conversions + 1, amount := t.amount + amount }

variable (takes before : Bool) (text : Number → String) (today : Nat) (t : Tracker)

def Tracker.step (e : Event) : Tracker :=
  { t.note e with
    activity := (trackSalesActivity takes text t.activity today e.body).1
    allStored := t.allStored && (t.activity.recorded takes text today e.body).isSome }

/-- Everything is stored, counted and within the rate. -/
def Tracker.Tracked : Prop :=
  t.allStored = true ∧ t.activity.sales = some (.fin t.conversions)
    ∧ t.activity.revenue = some (.fin t.amount)
    ∧ t.activity.revenueGoal.achieved = some (.fin t.amount)
    ∧ ∃ rate, t.activity.conversionRate = some (.fin rate) ∧ 0 ≤ rate ∧ rate ≤ 100

/-- If achievements can be pushed: the amount is what adding the member's id to the revenue adds,
and the conversion keeps to the maxima. If not: there are no conversions and at most four
interactions, or three with a record saved before. -/
def Fits : Event → Prop
  | .interaction .. => takes = true ∨ before.toNat + 2 * t.interactions < 7
  | .conversion memberId amount _ =>
    takes = true
      ∧ setNumber (plus text (.fin t.amount) memberId) = some (.fin (t.amount + amount))
      ∧ t.conversions < t.interactions ∧ t.conversions < 5 ∧ t.amount + amount ≤ 200

/-! ## The record of tracked requests -/

/-- The record holds the numbers of the requests. -/
structure Exact (today : Nat) (t : Tracker) : Prop where
  stored : t.allStored = true
  sound : t.activity.Sound
  date : t.activity.record.date = today
  total : t.activity.record.interactions.totalInteractions = some (.fin t.interactions)
  sales : t.activity.sales = some (.fin t.conversions)
  conversions : t.activity.conversionsGoal.achieved = some (.fin t.conversions)
  weeklyConversions : t.activity.weeklyConversions = some (.fin t.conversions)
  purchase : t.activity.purchase = some (.fin t.conversions)
  revenue : t.activity.revenue = some (.fin t.amount)
  achieved : t.activity.revenueGoal.achieved = some (.fin t.amount)
  weeklyRevenue : t.activity.weeklyRevenue = some (.fin t.amount)
  monthlyRevenue : t.activity.monthlyRevenue = some (.fin t.amount)
  conversionsTarget : t.activity.conversionsGoal.target = 5
  revenueTarget : t.activity.revenueGoal.target = 200

section

variable {takes before : Bool} {text : Number → String} {today : Nat} {t : Tracker}

theorem Exact.tracked (h : Exact today t) : t.Tracked := by
  obtain ⟨rate, hra, hlow, hhi⟩ := (forall_percentages.mp h.sound.percentages).1
  exact ⟨h.stored, h.sales, h.revenue, h.achieved, rate, hra, hlow, hhi⟩

variable {a : Activity}

theorem Exact.saved (h : Exact today t) (hs : t.activity.save takes today = some a) :
    Exact today { t with activity := a } := by
  have hsd := sound_save h.sound hs
  obtain ⟨-, score, ac, c, l, rfl⟩ := save_frame hs
  exact ⟨h.stored, hsd, h.date, h.total, h.sales, h.conversions, h.weeklyConversions,
    h.purchase, h.revenue, h.achieved, h.weeklyRevenue, h.monthlyRevenue, h.conversionsTarget,
    h.revenueTarget⟩

theorem exact_start : Exact today (.start takes before today) := by
  have hnew : Exact today (.start takes false today) :=
    ⟨rfl, sound_new today, rfl, rfl, rfl, rfl, rfl, rfl, rfl, rfl, rfl, rfl, rfl, rfl⟩
  cases before with
  | false => exact hnew
  | true =>
    rw [Tracker.start, if_pos rfl]
    cases hs : (Activity.new today).save takes today with
    | none => exact hnew
    | some => exact hnew.saved hs

theorem note_allStored (e : Event) : (t.note e).allStored = t.allStored := by
  cases e <;> rfl

variable {e : Event}

theorem step_of_stored (hst : t.allStored)
    (ha : t.activity.recorded takes text today e.body = some a) :
    t.step takes text today e = { t.note e with activity := (a.save takes today).getD a } := by
  have hall : (t.note e).allStored := (note_allStored e).trans hst
  simp [Tracker.step, trackSalesActivity, ha, hst, ← hall]

theorem Exact.step {b : Activity} (h : Exact today { t.note e with activity := b })
    (hre : t.activity.recorded takes text today e.body = b.save takes today)
    (hsm : (b.save takes today).isSome = true) : Exact today (t.step takes text today e) := by
  obtain ⟨a, ha⟩ := Option.isSome_iff_exists.mp hsm
  rw [step_of_stored ((note_allStored e).symm.trans h.stored) (hre.trans ha)]
  have hs := h.saved ha
  cases haga : a.save takes today with
  | none => exact hs
  | some => exact hs.saved haga

theorem Exact.interact (h : Exact today t) (type : InteractionType) (memberId : Value)
    (tier : Option String) : Exact today { t.note (.interaction type memberId tier) with
      activity := t.activity.recordInteraction type tier today } := by
  have hs := sound_recordInteraction h.sound h.date type tier
  obtain ⟨record, views, heq, hd, ht, -⟩ := recordInteraction_cases h.date
  rw [heq] at hs ⊢
  rw [h.total, increment_fin] at ht
  exact ⟨h.stored, hs, hd, ht, h.sales, h.conversions, h.weeklyConversions,
    h.purchase, h.revenue, h.achieved, h.weeklyRevenue, h.monthlyRevenue, h.conversionsTarget,
    h.revenueTarget⟩

/-! ### Conversions -/

theorem percent_of_pos (a : ℚ) {b : ℚ} (hb : 0 < b) :
    scale 100 (quotient (.fin a) (.fin b)) = .fin (a / b * 100) := by
  rw [quotient, if_pos hb.ne']
  rfl

theorem percent_of_zero {a : ℚ} (ha : 0 < a) :
    scale 100 (quotient (.fin a) (.fin 0)) = .posInf := by
  rw [quotient, if_neg (not_not.mpr rfl), if_neg ha.ne', if_pos ha]
  rfl

theorem percent_le_iff {a b : ℚ} (hb : 0 < b) : a / b * 100 ≤ 100 ↔ a ≤ b := by
  have hdiv := div_le_one (a := a) hb
  constructor
  · intro h
    exact hdiv.mp (by linarith)
  · intro h
    have := hdiv.mpr h
    linarith

variable {memberId : Value}

theorem Exact.convert_eq (h : Exact today t) {r : Option Number}
    (hr : setNumber (plus text (.fin t.amount) memberId) = r) :
    t.activity.recordConversion text memberId = { t.activity with
          sales := some (.fin (t.conversions + 1 : Nat))
          revenue := r
          conversionRate := some (scale 100 (quotient (.fin (t.conversions + 1 : Nat))
            (.fin t.interactions)))
          conversionsGoal := ⟨5, some (.fin (t.conversions + 1 : Nat)),
            some (scale 100 (quotient (.fin (t.conversions + 1 : Nat)) (.fin 5)))⟩
          revenueGoal := ⟨200, r, some (scale 100 (quotient (number r) (.fin 200)))⟩
          weeklyConversions := some (.fin (t.conversions + 1 : Nat))
          weeklyRevenue := r
          monthlyRevenue := r
          purchase := some (.fin (t.conversions + 1 : Nat)) } := by
  simp only [Activity.recordConversion, h.sales, h.conversions, h.weeklyConversions, h.purchase,
    h.total, h.revenue, h.achieved, h.weeklyRevenue, h.monthlyRevenue, h.conversionsTarget,
    h.revenueTarget, increment_fin, number, Option.getD_some, hr]

theorem Exact.amount_nonneg (h : Exact today t) : 0 ≤ t.amount := by
  have hctr := h.sound.figures t.activity.revenue (by simp [Activity.figures])
  rw [h.revenue] at hctr
  exact of_decide_eq_true hctr

theorem Exact.convert (h : Exact today t) {amount : ℚ≥0} {type : Option String}
    (hfi : Fits takes before text t (.conversion memberId amount type)) :
    Exact today { t.note (.conversion memberId amount type) with
      activity := t.activity.recordConversion text memberId } := by
  obtain ⟨-, hr, hle, hfiv, hmax⟩ := hfi
  obtain ⟨-, hre, -, -, hsc⟩ := forall_percentages.mp h.sound.percentages
  have hamt : 0 ≤ t.amount + amount := add_nonneg h.amount_nonneg amount.2
  have hc : (0 : ℚ) ≤ (t.conversions + 1 : Nat) := Nat.cast_nonneg _
  have hint : (0 : ℚ) < t.interactions := by exact_mod_cast Nat.zero_lt_of_lt hle
  rw [h.convert_eq hr, number, Option.getD_some, percent_of_pos _ hint,
    percent_of_pos _ (by norm_num), percent_of_pos _ (by norm_num)]
  refine ⟨h.stored, ⟨?_, h.sound.interactionCounts, h.sound.usage, h.sound.segments, ?_,
    h.sound.total⟩, h.date, h.total, rfl, rfl, rfl, rfl, rfl, rfl, rfl, rfl, rfl, rfl⟩
  · simp only [Activity.figures, List.forall_mem_cons]
    have hsa := isCounter_fin hc
    have hsum := isCounter_fin hamt
    exact ⟨hsa, hsum, hsa, hsum, hsa, hsum, hsum, hsa, fun _ h => absurd h List.not_mem_nil⟩
  · refine forall_percentages.mpr ⟨⟨_, rfl, by positivity, ?_⟩, hre,
      ⟨_, rfl, by positivity, ?_⟩, ⟨_, rfl, by positivity, ?_⟩, hsc⟩
    · exact (percent_le_iff hint).mpr (by exact_mod_cast hle)
    · exact (percent_le_iff (by norm_num)).mpr (by exact_mod_cast hfiv)
    · exact (percent_le_iff (by norm_num)).mpr hmax

theorem le_of_isPercentage {q : ℚ} (h : isPercentage (.fin q)) : q ≤ 100 :=
  of_decide_eq_true (Bool.and_eq_true _ _ |>.mp h).2

theorem Exact.fits_of_validates (h : Exact today t) {amount : ℚ≥0}
    (hr : setNumber (plus text (.fin t.amount) memberId) = some (.fin (t.amount + amount)))
    (hv : (t.activity.recordConversion text memberId).validates) :
    t.conversions < t.interactions ∧ t.conversions < 5 ∧ t.amount + amount ≤ 200 := by
  rw [h.convert_eq hr, Activity.validates, Bool.and_eq_true, List.all_eq_true,
    List.all_eq_true] at hv
  obtain ⟨hra, -, hco, hrev, -⟩ := forall_percentages.mp hv.2
  dsimp only at hra hco hrev
  have hsal : (0 : ℚ) < (t.conversions + 1 : Nat) := by positivity
  refine ⟨?_, ?_, ?_⟩
  · rcases Nat.eq_zero_or_pos t.interactions with hz | hpos
    · rw [hz, Nat.cast_zero, percent_of_zero hsal] at hra
      cases hra
    · have hpos' : (0 : ℚ) < t.interactions := by exact_mod_cast hpos
      rw [percent_of_pos _ hpos'] at hra
      have hle := (percent_le_iff hpos').mp (le_of_isPercentage hra)
      exact_mod_cast hle
  · rw [percent_of_pos _ (by norm_num)] at hco
    have hle := (percent_le_iff (by norm_num)).mp (le_of_isPercentage hco)
    exact_mod_cast hle
  · rw [number, Option.getD_some, percent_of_pos _ (by norm_num)] at hrev
    exact (percent_le_iff (by norm_num)).mp (le_of_isPercentage hrev)

/-! ## If achievements can be pushed -/

theorem save_isSome (h : a.Sound) : (a.save true today).isSome := by
  have hn : true = false → a.achievements = [] := fun h => absurd h.symm Bool.false_ne_true
  rcases save_cases h hn today with ⟨a', ha', -⟩ | ⟨-, h, -⟩
  · rw [ha']
    rfl
  · cases h

theorem exact_of_fits (h : Exact today t) (hfi : Fits true before text t e) :
    Exact today (t.step true text today e) := by
  cases e with
  | interaction type memberId tier =>
    have hpr := h.interact type memberId tier
    exact hpr.step rfl (save_isSome hpr.sound)
  | conversion =>
    have hpr := h.convert hfi
    exact hpr.step rfl (save_isSome hpr.sound)

theorem revenue_saved : ((a.save takes today).getD a).revenue = a.revenue := by
  cases hs : a.save takes today with
  | none => rfl
  | some =>
    obtain ⟨-, score, ac, c, l, rfl⟩ := save_frame hs
    rfl

theorem not_tracked_of_not_stored (h : t.activity.recorded takes text today e.body = none) :
    ¬ (t.step takes text today e).Tracked := by
  rintro ⟨hst, -⟩
  rw [Tracker.step, h] at hst
  simp at hst

theorem not_tracked_of_not_fits (h : Exact today t) (hnot : ¬ Fits true before text t e) :
    ¬ (t.step true text today e).Tracked := by
  cases e with
  | interaction => exact absurd (.inl rfl) hnot
  | conversion memberId amount type =>
    cases hs : (t.activity.recordConversion text memberId).save true today with
    | none => exact not_tracked_of_not_stored hs
    | some =>
      rintro ⟨-, -, hrev, -⟩
      have hst := step_of_stored (e := .conversion memberId amount type) h.stored hs
      rw [hst] at hrev
      replace hrev := revenue_saved.symm.trans hrev
      obtain ⟨hv, score, ac, c, l, rfl⟩ := save_frame hs
      rw [h.convert_eq rfl] at hrev
      exact hnot ⟨rfl, hrev, h.fits_of_validates hrev hv⟩

end

/-! ## If they cannot -/

/-- Two saves for each interaction, and perhaps one before, of which the eighth is rejected. -/
structure Few (before : Bool) (today : Nat) (t : Tracker) : Prop where
  exact : Exact today t
  early : ∃ whales ≤ (t.interactions : ℚ), Early false today whales t.activity
  daily : t.activity.currentDaily = min (before.toNat + 2 * t.interactions) 7

section

variable {before : Bool} {text : Number → String} {today : Nat} {t : Tracker} {a : Activity}

theorem earned_of_daily {whales : ℚ} (h : Early false today whales a)
    (hd : 7 ≤ a.currentDaily) : a.earned ≠ [] :=
  List.ne_nil_of_mem ((h.mem_earned "Week Warrior").mpr (.inr ⟨rfl, hd⟩))

theorem early_twice {whales : ℚ} (h : Early false today whales a) (hwh : whales < 5) :
    Early false today whales ((a.save false today).getD a)
      ∧ ((a.save false today).getD a).currentDaily
        = if 7 ≤ a.currentDaily then a.currentDaily else a.currentDaily + 1 := by
  cases hs : a.save false today with
  | none =>
    rcases h.rejected hs with hm | hm
    · exact absurd hm (not_le.mpr hwh)
    · exact ⟨h, (if_pos hm).symm⟩
  | some =>
    obtain ⟨he, hd, -⟩ := h.saved hs
    refine ⟨he, ?_⟩
    have hnot : ¬ 7 ≤ a.currentDaily := by
      intro hm
      have hn := save_of_earned (h.achievements rfl) (earned_of_daily h hm) today
      cases hn.symm.trans hs
    rw [if_neg hnot, Option.getD_some, hd, if_pos rfl]

theorem few_start : Few before today (.start false before today) := by
  cases before with
  | false => exact ⟨exact_start, ⟨0, le_rfl, early_new⟩, rfl⟩
  | true =>
    obtain ⟨he, hd⟩ := early_twice early_new (by norm_num : (0 : ℚ) < 5)
    exact ⟨exact_start, ⟨0, le_rfl, he⟩, hd⟩

theorem few_of_fits (h : Few before today t) {e : Event} (hfi : Fits false before text t e) :
    Few before today (t.step false text today e) := by
  cases e with
  | conversion => cases hfi.1
  | interaction type memberId tier =>
    have hsev : before.toNat + 2 * t.interactions < 7 := hfi.resolve_left Bool.false_ne_true
    have hfo : t.interactions < 4 := by omega
    obtain ⟨whales, hwh, he⟩ := h.early
    obtain ⟨w', hle, he', hd, -⟩ := he.interact type tier
    have hc : (t.interactions : ℚ) ≤ 3 := by exact_mod_cast Nat.lt_succ_iff.mp hfo
    have hdo : (t.activity.recordInteraction type tier today).currentDaily
        = before.toNat + 2 * t.interactions := by
      rw [hd, h.daily]
      omega
    cases hs : (t.activity.recordInteraction type tier today).save false today with
    | none =>
      rcases he'.rejected hs with hm | hm
      · linarith
      · omega
    | some a =>
      obtain ⟨he₁, hd₁, -⟩ := he'.saved hs
      rw [if_pos rfl, hdo] at hd₁
      obtain ⟨he₂, hd₂⟩ := early_twice he₁ (by linarith)
      have hst : t.step false text today (.interaction type memberId tier)
          = { t.note (.interaction type memberId tier) with
              activity := (a.save false today).getD a } :=
        step_of_stored h.exact.stored hs
      refine ⟨(h.exact.interact type memberId tier).step rfl (by rw [hs]; rfl), ?_, ?_⟩
      · rw [hst]
        refine ⟨w', ?_, he₂⟩
        simp only [Tracker.note]
        push_cast
        linarith
      · rw [hst]
        refine hd₂.trans ?_
        rw [hd₁]
        simp only [Tracker.note]
        split <;> omega

theorem first_sale_earned (h : a.sales = some (.fin 1)) : a.earned ≠ [] := by
  refine List.ne_nil_of_mem (a := "First Sale") ?_
  simp [Activity.earned, Activity.conditions, h]

theorem not_tracked_of_many (h : Few before today t) {e : Event}
    (hnot : ¬ Fits false before text t e) :
    ¬ (t.step false text today e).Tracked := by
  obtain ⟨whales, -, he⟩ := h.early
  cases e with
  | interaction type memberId tier =>
    have hm : ¬ before.toNat + 2 * t.interactions < 7 := fun h => hnot (.inr h)
    have hsev : 7 ≤ t.activity.currentDaily := by
      rw [h.daily]
      omega
    obtain ⟨w', -, he', hd, -⟩ := he.interact type tier
    have hea := earned_of_daily he' (hd ▸ hsev)
    exact not_tracked_of_not_stored (save_of_earned (he'.achievements rfl) hea today)
  | conversion memberId amount type =>
    have hz : t.conversions = 0 := by
      have hsal := h.exact.sales.symm.trans he.sales
      simpa using hsal
    have hone : (t.activity.recordConversion text memberId).sales = some (.fin 1) := by
      rw [h.exact.convert_eq rfl, hz]
      simp
    have hnil : (t.activity.recordConversion text memberId).achievements = [] := he.achievements rfl
    exact not_tracked_of_not_stored (save_of_earned hnil (first_sale_earned hone) today)

end

/-- **Conversions.** For every sequence of requests on the day of creation, of a record that the
first of them makes or that was saved before. -/
theorem sales_tracked_iff (takes before : Bool) (text : Number → String) (today : Nat)
    (events : List Event) :
    Always (Tracker.step takes text today) Tracker.Tracked (.start takes before today) events
      ↔ Every (Tracker.step takes text today) (Fits takes before text) (.start takes before today)
        events := by
  have hany : Every (Tracker.step takes text today) (fun _ _ => True) (.start takes before today)
      events := every_of_forall fun _ _ => trivial
  cases takes with
  | true =>
    exact always_iff_every_under (J := Exact today) (fun _ h => h.tracked)
      (fun _ _ h _ hfits => exact_of_fits h hfits)
      (fun _ _ h _ hnot => not_tracked_of_not_fits h hnot) exact_start hany
  | false =>
    exact always_iff_every_under (J := Few before today) (fun _ h => h.exact.tracked)
      (fun _ _ h _ hfits => few_of_fits h hfits)
      (fun _ _ h _ hnot => not_tracked_of_many h hnot) few_start hany

def sampleEvents : List Event :=
  [.interaction (.counted .pokes) (.str "64b7f0c2a1d3e4f5a6b7c8ff") none,
    .conversion (.str "64b7f0c2a1d3e4f5a6b7c8ff") 1 none]

theorem sale_not_stored :
    ¬ Always (Tracker.step false Number.text 0) Tracker.Tracked (.start false false 0) sampleEvents
      ∧ ¬ Always (Tracker.step true Number.text 0) Tracker.Tracked (.start true false 0)
        sampleEvents := by
  constructor
  · rintro ⟨-, -, h⟩
    exact absurd h.1 (by decide +kernel)
  · rintro ⟨-, -, h⟩
    exact absurd h.1 (by decide +kernel)

end SexySelfies.SalesActivity.Conversions
