import SexySelfies.PaymentModel

/-!
# The calendar of a monthly subscription

`recordBilling` of `models/Subscription.js` moves `nextBillingDate` on by `setMonth(getMonth() +
1)`. A day that the next month does not have runs over into the month after: the month is skipped,
and all later billings stay on the day the date ran over to.
-/

namespace SexySelfies.Payments

open Js CivilDate

/-! ## Runs of billings -/

structure BillingCall where
  amount : Option Number
  transactionId : Option String
  paymentId : Nat

def Subscription.bill (s : Subscription) (c : BillingCall) : Subscription :=
  (SubscriptionChange.recordBilling c.amount c.transactionId c.paymentId).apply s s

variable {s : Subscription}

theorem nextBillingDate_bill (c : BillingCall) :
    (s.bill c).nextBillingDate = s.billingCycle.next s.nextBillingDate := rfl

theorem billingCycle_bill (c : BillingCall) : (s.bill c).billingCycle = s.billingCycle := rfl

def Subscription.bills (s : Subscription) (calls : List BillingCall) : Subscription :=
  Runs.final Subscription.bill s calls

/-- None of the `k` months after that of the date is shorter than its day. -/
def Fits (d : Date) (k : Nat) : Prop :=
  ∀ j : Nat, 1 ≤ j → j ≤ k → d.day ≤ lengthOf (d.monthNumber + j)

theorem fits_succ_iff {d d' : Date} (hm : d'.monthNumber = d.monthNumber + 1)
    (hday : d'.day = d.day) (k : Nat) :
    Fits d (k + 1) ↔ d.day ≤ lengthOf (d.monthNumber + 1) ∧ Fits d' k := by
  constructor
  · intro h
    refine ⟨h 1 (by omega) (by omega), fun j hj hk => ?_⟩
    have hn := h (j + 1) (by omega) (by omega)
    rw [hday, hm]
    rwa [Nat.cast_add, Nat.cast_one, add_comm (j : Int), ← add_assoc] at hn
  · rintro ⟨hf, hr⟩ j hj hk
    obtain rfl | hlt := Nat.eq_or_lt_of_le hj
    · exact hf
    · have hpr := hr (j - 1) (by omega) (by omega)
      rw [hday, hm] at hpr
      have hj' : d.monthNumber + 1 + ((j - 1 : Nat) : Int) = d.monthNumber + j := by omega
      rwa [hj'] at hpr

/-- The `k`-th date after the first, as agreed: `k` months later, on the same
day or the last of a shorter month. -/
def OnSchedule (first : Date) (k : Nat) (d : Date) : Prop :=
  d.monthNumber = first.monthNumber + k ∧ d.day = min first.day (lengthOf d.monthNumber)

/-- Each billing goes on by one month. -/
def MonthByMonth (s : Subscription) (calls : List BillingCall) : Prop :=
  Runs.Every Subscription.bill
    (fun s c => (s.bill c).nextBillingDate.monthNumber = s.nextBillingDate.monthNumber + 1)
    s calls

section

variable {s : Subscription} (hmonthly : s.billingCycle = .monthly)
include hmonthly

theorem nextBillingDate_bill_monthly (c : BillingCall) :
    (s.bill c).nextBillingDate = s.nextBillingDate.addMonths 1 := by
  rw [nextBillingDate_bill, hmonthly]
  rfl

variable (calls : List BillingCall)

theorem monthNumber_bills_le :
    s.nextBillingDate.monthNumber + calls.length ≤ (s.bills calls).nextBillingDate.monthNumber := by
  induction calls generalizing s with
  | nil => simp [Subscription.bills]
  | cons c calls ih =>
    have hr := ih ((billingCycle_bill c).trans hmonthly)
    rw [nextBillingDate_bill_monthly hmonthly] at hr
    have hs : s.nextBillingDate.monthNumber + 1 ≤ (s.nextBillingDate.addMonths 1).monthNumber := by
      rcases addMonths_one_cases s.nextBillingDate with ⟨-, h, -⟩ | ⟨-, h⟩
      · omega
      · omega
    rw [List.length_cons]
    exact le_trans (by omega) hr

theorem monthNumber_bills_iff :
    (s.bills calls).nextBillingDate.monthNumber = s.nextBillingDate.monthNumber + calls.length ↔
      Fits s.nextBillingDate calls.length := by
  induction calls generalizing s with
  | nil =>
    refine iff_of_true (by simp [Subscription.bills]) fun j hj hk => ?_
    rw [List.length_nil] at hk
    omega
  | cons c calls ih =>
    have hn := (billingCycle_bill c).trans hmonthly
    rw [List.length_cons]
    rcases addMonths_one_cases s.nextBillingDate with ⟨hle, hm, hday⟩ | ⟨hlt, hm⟩
    · rw [fits_succ_iff hm hday, ← nextBillingDate_bill_monthly hmonthly c, ← ih hn,
        nextBillingDate_bill_monthly hmonthly, hm]
      have hc : s.nextBillingDate.monthNumber + ((calls.length + 1 : Nat) : Int)
          = s.nextBillingDate.monthNumber + 1 + calls.length := by omega
      rw [hc]
      exact (and_iff_right hle).symm
    · have hla := monthNumber_bills_le hn calls
      rw [nextBillingDate_bill_monthly hmonthly, hm] at hla
      refine iff_of_false (fun h => ?_) fun h => ?_
      · have hend : (s.bills (c :: calls)) = (s.bill c).bills calls := rfl
        rw [hend] at h
        omega
      · exact absurd (h 1 (by omega) (by omega)) (not_le.mpr hlt)

theorem kept_of_fits {calls : List BillingCall} (h : Fits s.nextBillingDate calls.length) :
    (s.bills calls).nextBillingDate.day = s.nextBillingDate.day ∧ MonthByMonth s calls := by
  induction calls generalizing s with
  | nil => exact ⟨rfl, trivial⟩
  | cons c calls ih =>
    have hn := (billingCycle_bill c).trans hmonthly
    rcases addMonths_one_cases s.nextBillingDate with ⟨-, hm, hday⟩ | ⟨hlt, -⟩
    · have hr := ((fits_succ_iff hm hday _).mp h).2
      rw [← nextBillingDate_bill_monthly hmonthly c] at hr hday hm
      obtain ⟨hday', hmo⟩ := ih hn hr
      exact ⟨hday'.trans hday, hm, hmo⟩
    · exact absurd (h 1 (by omega) (by simp)) (not_le.mpr hlt)

/-- No billing leaves the day of the first date, or the last of a shorter month, and no month is
left out, exactly when none of the months is shorter than that day. -/
theorem on_schedule_iff (calls : List BillingCall) :
    (OnSchedule s.nextBillingDate calls.length (s.bills calls).nextBillingDate
        ∧ MonthByMonth s calls) ↔ Fits s.nextBillingDate calls.length := by
  constructor
  · rintro ⟨⟨hm, -⟩, -⟩
    exact (monthNumber_bills_iff hmonthly calls).mp hm
  · intro h
    obtain ⟨hday, hmon⟩ := kept_of_fits hmonthly h
    have hlen := (s.bills calls).nextBillingDate.day_le_lengthOf
    refine ⟨⟨(monthNumber_bills_iff hmonthly calls).mpr h, ?_⟩, hmon⟩
    rw [hday] at hlen ⊢
    exact (Nat.min_eq_left hlen).symm

end

def monthlyFrom (d : Date) : Subscription :=
  { user := 0, member := 0, creator := 0, amount := 10, billingCycle := .monthly,
    status := .active, ccbillSubscriptionId := "S1", nextBillingDate := d, cancelledBy := none,
    billingHistory := [], failedPaymentCount := 0, amount_nonneg := ten_nonneg }

def sampleBilling : BillingCall := ⟨some (.fin 10), some "T1", 0⟩

theorem on_schedule_from_newYear :
    (monthlyFrom newYear).billingCycle = .monthly
      ∧ OnSchedule newYear 2
        ((monthlyFrom newYear).bills [sampleBilling, sampleBilling]).nextBillingDate := by
  have hfits : Fits newYear 2 := fun j _ _ => le_trans (by decide) (daysIn_bounds _ _).1
  exact ⟨rfl, ((on_schedule_iff rfl [sampleBilling, sampleBilling]).mpr hfits).1⟩

def billedInJanuary : Subscription := monthlyFrom (newYear.addDays 30)

theorem february_skipped :
    billedInJanuary.billingCycle = .monthly
      ∧ ¬ OnSchedule billedInJanuary.nextBillingDate 1
        (billedInJanuary.bills [sampleBilling]).nextBillingDate := by
  refine ⟨rfl, fun h => ?_⟩
  have hlate : (billedInJanuary.bills [sampleBilling]).nextBillingDate.monthNumber
      = billedInJanuary.nextBillingDate.monthNumber + 2 := by decide +kernel
  have hr := h.1
  omega

end SexySelfies.Payments
