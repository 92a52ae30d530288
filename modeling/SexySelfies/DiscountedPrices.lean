import SexySelfies.JsValue

/-!
# Discounted prices

`calculateDiscountedPrice` of `payment.service.js` and the minimum that `generatePaymentFormData`
enforces on what it returns. A fixed discount is floored at the minimum, also for a price below it;
a percentage has no floor. The numbers are doubles and each operation rounds.
-/

namespace SexySelfies.Discounts

open Js Double

structure Discount where
  type : Option String
  percentage : Option ℚ
  fixedAmount : Option ℚ
  percentage_mem : ∀ p ∈ percentage, 0 ≤ p ∧ p ≤ 100
  fixedAmount_nonneg : ∀ a ∈ fixedAmount, 0 ≤ a

/-- The double that `1.99` stands for. -/
def minimum : ℚ := toDouble (199 / 100)

/-- The part of the price that is left, as `1 - discount.percentage / 100` computes it. -/
def factor (percentage : ℚ) : ℚ := toDouble (1 - toDouble (percentage / 100))

def calculateDiscountedPrice (originalPrice : ℚ) : Option Discount → Number
  | none => .fin originalPrice
  | some d =>
    if d.type = some "percentage" then
      -- `undefined / 100` is not a number
      (d.percentage.map fun p => .fin (toDouble (originalPrice * factor p))).getD .nan
    else if d.type = some "fixed" then
      (d.fixedAmount.map fun a => .fin (max minimum (toDouble (originalPrice - a)))).getD .nan
    else .fin originalPrice

def checkAmount (amount : Number) : Except String Unit :=
  if amount.lt (.fin minimum) then .error "Minimum payment amount is $1.99" else .ok ()

/-- `e` is a discount of the type of `d` and not a smaller one. -/
def Discount.AtMost (d e : Discount) : Prop :=
  d.type = e.type ∧
    (d.type = some "percentage" → ∃ p ∈ d.percentage, ∃ q ∈ e.percentage, p ≤ q) ∧
    (d.type = some "fixed" → ∃ a ∈ d.fixedAmount, ∃ b ∈ e.fixedAmount, a ≤ b)

/-- Lowered at most to zero, monotone in both, and accepted where the price is. -/
structure Fair (price : ℚ) (d : Option Discount) : Prop where
  between : ∃ q, calculateDiscountedPrice price d = .fin q ∧ 0 ≤ q ∧ q ≤ price
  larger : ∀ a b, d = some a → a.AtMost b →
    (calculateDiscountedPrice price (some b)).le (calculateDiscountedPrice price d) = true
  higher : ∀ price', price ≤ price' →
    (calculateDiscountedPrice price d).le (calculateDiscountedPrice price' d) = true
  accepted : checkAmount (.fin price) = .ok () →
    checkAmount (calculateDiscountedPrice price d) = .ok ()

/-- A percentage is given and leaves of a price from the minimum on more than the middle between the
minimum and the double below it, a fixed amount is given and the price is not below the minimum. -/
def Fits (price : ℚ) (d : Discount) : Prop :=
  (d.type = some "percentage" →
    ∃ p ∈ d.percentage, minimum ≤ price → minimum - 2 ^ (-53 : ℤ) < price * factor p) ∧
  (d.type = some "fixed" → d.fixedAmount.isSome ∧ minimum ≤ price)

variable {price : ℚ} {d : Discount}

theorem checkAmount_ok {q : ℚ} : checkAmount (.fin q) = .ok () ↔ minimum ≤ q := by
  rw [checkAmount, Number.lt_fin]
  by_cases h : q < minimum
  · simp [h]
  · simp [h, not_lt.mp h]

theorem minimum_eq : minimum = (8962163258467287 : ℤ) * 2 ^ (-52 : ℤ) := by decide +kernel

theorem minimum_le_toDouble {q : ℚ} : minimum ≤ toDouble q ↔ minimum - 2 ^ (-53 : ℤ) < q := by
  have hmiddle : minimum - 2 ^ (-53 : ℤ)
      = ((8962163258467287 : ℤ) - 1 / 2 : ℚ) * 2 ^ (-52 : ℤ) := by decide +kernel
  rw [hmiddle, minimum_eq]
  exact le_toDouble_iff (by norm_num) (by norm_num) (by norm_num)

theorem minimum_nonneg : 0 ≤ minimum := toDouble_nonneg (by norm_num)

theorem factor_antitone : Antitone factor := by
  intro p q h
  have hdiv : toDouble (p / 100) ≤ toDouble (q / 100) := toDouble_mono (by linarith)
  exact toDouble_mono (by linarith)

theorem factor_nonneg {p : ℚ} (h : p ≤ 100) : 0 ≤ factor p := by
  have hfull : factor 100 = 0 := by decide +kernel
  exact hfull.symm.trans_le (factor_antitone h)

theorem factor_le_one {p : ℚ} (h : 0 ≤ p) : factor p ≤ 1 := by
  have hnone : factor 0 = 1 := by decide +kernel
  exact (factor_antitone h).trans_eq hnone

theorem price_percentage {p : ℚ} (ht : d.type = some "percentage") (hp : p ∈ d.percentage) :
    calculateDiscountedPrice price (some d) = .fin (toDouble (price * factor p)) := by
  rw [calculateDiscountedPrice, if_pos ht, Option.mem_def.mp hp]
  rfl

theorem price_fixed {a : ℚ} (ht : d.type = some "fixed") (ha : a ∈ d.fixedAmount) :
    calculateDiscountedPrice price (some d) = .fin (max minimum (toDouble (price - a))) := by
  rw [calculateDiscountedPrice, if_neg (by simp [ht]), if_pos ht, Option.mem_def.mp ha]
  rfl

theorem price_other (hp : d.type ≠ some "percentage") (hf : d.type ≠ some "fixed") :
    calculateDiscountedPrice price (some d) = .fin price := by
  rw [calculateDiscountedPrice, if_neg hp, if_neg hf]

theorem fair_percentage {p : ℚ} (h0 : 0 ≤ price) (hprice : IsDouble price)
    (ht : d.type = some "percentage") (hp : p ∈ d.percentage) :
    Fair price (some d) ↔ (minimum ≤ price → minimum - 2 ^ (-53 : ℤ) < price * factor p) := by
  obtain ⟨hp0, hp1⟩ := d.percentage_mem p hp
  have hfactor := factor_nonneg hp1
  constructor
  · intro h hmin
    have hok := h.accepted (checkAmount_ok.mpr hmin)
    rwa [price_percentage ht hp, checkAmount_ok, minimum_le_toDouble] at hok
  · intro h
    refine ⟨⟨_, price_percentage ht hp, ?_, ?_⟩, ?_, ?_, ?_⟩
    · exact toDouble_nonneg (mul_nonneg h0 hfactor)
    · have hle : price * factor p ≤ price := mul_le_of_le_one_right h0 (factor_le_one hp0)
      exact (toDouble_mono hle).trans_eq hprice.1
    · rintro _ b ⟨⟩ ⟨hty, hle, -⟩
      obtain ⟨p', hp', q, hq, hpq⟩ := hle ht
      obtain rfl := Option.mem_unique hp hp'
      rw [price_percentage ht hp, price_percentage (hty ▸ ht) hq]
      exact decide_eq_true (toDouble_mono (mul_le_mul_of_nonneg_left (factor_antitone hpq) h0))
    · intro price' hle
      rw [price_percentage ht hp, price_percentage ht hp]
      exact decide_eq_true (toDouble_mono (mul_le_mul_of_nonneg_right hle hfactor))
    · rw [price_percentage ht hp, checkAmount_ok, checkAmount_ok, minimum_le_toDouble]
      exact h

theorem fair_fixed {a : ℚ} (hprice : IsDouble price) (ht : d.type = some "fixed")
    (ha : a ∈ d.fixedAmount) : Fair price (some d) ↔ minimum ≤ price := by
  have ha0 := d.fixedAmount_nonneg a ha
  constructor
  · intro h
    obtain ⟨q, hq, -, hle⟩ := h.between
    rw [price_fixed ht ha, Number.fin.injEq] at hq
    exact (le_max_left _ _).trans (hq.trans_le hle)
  · intro hmin
    have hsub : toDouble (price - a) ≤ price :=
      (toDouble_mono (sub_le_self price ha0)).trans_eq hprice.1
    refine ⟨⟨_, price_fixed ht ha, ?_, max_le hmin hsub⟩, ?_, ?_, ?_⟩
    · exact le_max_of_le_left minimum_nonneg
    · rintro _ b ⟨⟩ ⟨hty, -, hle⟩
      obtain ⟨a', ha', c, hc, hac⟩ := hle ht
      obtain rfl := Option.mem_unique ha ha'
      rw [price_fixed ht ha, price_fixed (hty ▸ ht) hc]
      exact decide_eq_true (max_le_max_left _ (toDouble_mono (sub_le_sub_left hac price)))
    · intro price' hle
      rw [price_fixed ht ha, price_fixed ht ha]
      exact decide_eq_true (max_le_max_left _ (toDouble_mono (sub_le_sub_right hle a)))
    · intro _
      rw [price_fixed ht ha, checkAmount_ok]
      exact le_max_left _ _

theorem fair_of_unchanged {d : Option Discount} (h0 : 0 ≤ price)
    (h : ∀ q, calculateDiscountedPrice q d = .fin q)
    (hl : ∀ a b, d = some a → a.AtMost b → calculateDiscountedPrice price (some b) = .fin price) :
    Fair price d := by
  refine ⟨⟨price, h price, h0, le_rfl⟩, ?_, ?_, ?_⟩
  · intro a b ha hab
    rw [hl a b ha hab, h]
    exact decide_eq_true le_rfl
  · intro price' hle
    rw [h, h]
    exact decide_eq_true hle
  · rw [h]
    exact id

theorem fair_none (h0 : 0 ≤ price) : Fair price none :=
  fair_of_unchanged h0 (fun _ => rfl) fun _ _ ha => by cases ha

theorem not_fair_of_nan {d : Option Discount} (h : calculateDiscountedPrice price d = .nan) :
    ¬ Fair price d := by
  rintro ⟨⟨q, hq, -⟩, -⟩
  rw [h] at hq
  cases hq

def halfPrice : Discount := ⟨some "percentage", some 50, none, by simp; norm_num, by simp⟩

-- 80 % off 9.95 is refused as well
example : ¬ minimum ≤ toDouble (toDouble (995 / 100) * factor 80) := by decide +kernel

end SexySelfies.Discounts
