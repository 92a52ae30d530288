import SexySelfies.CreditTopup

/-!
# How a transaction's amount is split

`models/Transaction.js` names two parts of an amount, `platformFee` and `creatorEarnings`, both kept
to the cent. The `pre('save')` hook writes one of them: four fifths of the amount. The other keeps
whatever it was created with, which is twenty cents unless the caller passes a fee.
-/

namespace SexySelfies

open Js Platform Double

/-! ## The financial paths -/

structure PricedTransaction where
  transaction : Transaction
  platformFee : ℚ
  discount : Option ℚ
  originalPrice : Option Number

structure PricedInput where
  base : TransactionInput
  platformFee : Value := .undefined
  discount : Option ℚ := none
  originalPrice : Option ℚ := none

variable (d : PricedInput)

/-- The default of `platformFee`, or the setter's two decimals. -/
def PricedInput.feeOf : Option ℚ :=
  match d.platformFee with
  | .undefined => some (1 / 5)
  | .num (.fin q) => some (twoDecimals q)
  | _ => none

def PricedInput.discountOk : Bool :=
  d.discount.all fun x => 0 ≤ x && x ≤ 100

/-- `this.amount / (1 - this.discount / 100)`, to two decimals. -/
def undiscounted (amount discount : ℚ) : Number :=
  let rest := toDouble (1 - toDouble (discount / 100))
  if rest = 0 then (if amount = 0 then .nan else .posInf)
  else
    match (Number.fin (toDouble amount / rest)).rounded with
    | .fin q => .fin (round2 q)
    | n => n

def trackPrice (amount : ℚ) (discount : Option ℚ) (originalPrice : Option Number) : Option Number :=
  match discount.filter (· ≠ 0), originalPrice.filter Number.truthy with
  | some discount, none => some (undiscounted amount discount)
  | _, _ => originalPrice

def PricedTransaction.create : Except (List String) PricedTransaction :=
  match Transaction.create d.base, d.feeOf with
  | .ok transaction, some platformFee =>
    if d.discountOk then
      .ok
        { transaction, platformFee
          discount := d.discount
          originalPrice := trackPrice transaction.amount d.discount
            (d.originalPrice.map fun q => .fin (twoDecimals q)) }
    else .error ["discount"]
  | .ok _, none => .error ["platformFee"]
  | .error paths, _ => .error paths

def settable : Value → Option ℚ
  | .num (.fin q) => (some (twoDecimals q)).filter (0 ≤ ·)
  | _ => none

variable {a : ℚ} {v : Value}

theorem settable_nonneg (h : settable v = some a) : 0 ≤ a := by
  unfold settable at h
  split at h
  · exact of_decide_eq_true (Option.filter_eq_some_iff.mp h).2
  · cases h

variable (t : PricedTransaction)

/-- `t.amount = v` and `t.save()`. The hook runs on a changed amount; a refused
save leaves the stored document. -/
def PricedTransaction.resave (v : Value) : PricedTransaction :=
  match h : settable v with
  | none => t
  | some a =>
    if a = t.transaction.amount then t
    else
      { t with
        transaction :=
          { t.transaction with
            amount := a
            creatorEarnings := creatorShare a
            amount_nonneg := settable_nonneg h
            creatorEarnings_nonneg := creatorShare_nonneg (settable_nonneg h) }
        originalPrice := trackPrice a t.discount t.originalPrice }

def fifth (amount : ℚ) : ℚ := round2 (amount / 5)

/-- The fee that completes the creator's share: a fifth to the cent, as long as doubles are as fine
as cents. -/
def dueFee (amount : ℚ) : ℚ :=
  if amount ≤ 10 ^ 11 then fifth amount else amount - creatorShare amount

theorem fifth_cents {k : ℤ} (hk : 0 ≤ k) : fifth (k / 100) = ((2 * k + 5) / 10 : ℤ) / 100 := by
  have hk' : (0 : ℚ) ≤ k := by exact_mod_cast hk
  have htenths : (k / 100 : ℚ) / 5 * 100 + 1 / 2 = (2 * k + 5 : ℤ) / (10 : ℕ) := by
    push_cast
    ring
  rw [fifth, round2, hundredths, if_neg (not_lt.mpr (by positivity)), htenths,
    Rat.floor_intCast_div_natCast]
  rfl

theorem abs_toDouble_sub_le_small {q : ℚ} (h : 1 / 1000 ≤ q) (hq : q ≤ 10 ^ 11) :
    |toDouble q - q| ≤ 12 / 10 ^ 6 := by
  have hnormal : (2 : ℚ) ^ (-1022 : ℤ) ≤ q := by
    have hpow : (2 : ℚ) ^ (-1022 : ℤ) ≤ 2 ^ (-10 : ℤ) :=
      zpow_le_zpow_right₀ one_le_two (by norm_num)
    exact hpow.trans (le_trans (by norm_num) h)
  have heps : (2 : ℚ) ^ (-53 : ℤ) ≤ 12 / 10 ^ 17 := by norm_num
  calc |toDouble q - q| ≤ q * 2 ^ (-53 : ℤ) := abs_toDouble_sub_le hnormal
    _ ≤ 10 ^ 11 * (12 / 10 ^ 17) := mul_le_mul hq heps (by positivity) (by positivity)
    _ = 12 / 10 ^ 6 := by norm_num

/-- Four fifths of an amount are computed with an error below a tenth of a cent. -/
theorem abs_share_sub_le {x : ℚ} (h : 1 / 100 ≤ x) (hx : x ≤ 10 ^ 11) :
    |toDouble (toDouble x * toDouble (4 / 5)) - x * (4 / 5)| ≤ 1 / 2000 := by
  have hrate : 4 / 5 - 1 / 10 ^ 16 ≤ toDouble (4 / 5) ∧ toDouble (4 / 5) ≤ 4 / 5 + 1 / 10 ^ 16 := by
    decide +kernel
  obtain ⟨hrlow, hrup⟩ := hrate
  obtain ⟨hlow, hup⟩ := abs_le.mp (abs_toDouble_sub_le_small (by linarith) hx)
  have hprodup : toDouble x * toDouble (4 / 5) ≤ (x + 12 / 10 ^ 6) * (4 / 5 + 1 / 10 ^ 16) :=
    mul_le_mul (by linarith) hrup (by linarith) (by linarith)
  have hprodlow : (x - 12 / 10 ^ 6) * (4 / 5 - 1 / 10 ^ 16) ≤ toDouble x * toDouble (4 / 5) :=
    mul_le_mul (by linarith) hrlow (by norm_num) (by linarith)
  obtain ⟨hlow', hup'⟩ := abs_le.mp
    (abs_toDouble_sub_le_small (q := toDouble x * toDouble (4 / 5)) (by linarith) (by linarith))
  rw [abs_le]
  constructor <;> linarith

theorem creatorShare_cents {k : ℤ} (hk : 0 ≤ k) (hle : (k / 100 : ℚ) ≤ 10 ^ 11) :
    creatorShare (k / 100) = ((8 * k + 5) / 10 : ℤ) / 100 := by
  rcases hk.eq_or_lt with rfl | hpos
  · decide +kernel
  have hk' : (1 : ℚ) ≤ k := by exact_mod_cast hpos
  obtain ⟨hlow, hup⟩ := abs_le.mp (abs_share_sub_le (x := k / 100) (by linarith) hle)
  -- in tenths of a cent the exact value is even, so it is never next to a half
  have htenths : 10 * ((8 * k + 5) / 10) + 1 ≤ 8 * k + 5
      ∧ 8 * k + 5 ≤ 10 * ((8 * k + 5) / 10) + 9 := by omega
  have hcast : (10 * ((8 * k + 5) / 10 : ℤ) + 1 : ℚ) ≤ 8 * k + 5
      ∧ (8 * k + 5 : ℚ) ≤ 10 * ((8 * k + 5) / 10 : ℤ) + 9 := by exact_mod_cast htenths
  have hfloor : ⌊toDouble (toDouble (k / 100) * toDouble (4 / 5)) * 100 + 1 / 2⌋
      = (8 * k + 5) / 10 := by
    rw [Int.floor_eq_iff]
    constructor <;> linarith [hcast.1, hcast.2]
  rw [creatorShare, twoDecimals, round2, hundredths, if_neg (by linarith), hfloor]

theorem dueFee_add_creatorShare {k : ℤ} (hk : 0 ≤ k) :
    dueFee (k / 100) + creatorShare (k / 100) = k / 100 := by
  unfold dueFee
  split
  · rename_i hle
    have hsum : (2 * k + 5) / 10 + (8 * k + 5) / 10 = k := by omega
    have hsum' : (((2 * k + 5) / 10 : ℤ) : ℚ) + ((8 * k + 5) / 10 : ℤ) = k := by
      exact_mod_cast hsum
    rw [fifth_cents hk, creatorShare_cents hk hle, ← add_div, hsum']
  · exact sub_add_cancel _ _

/-! ## The split -/

/-- The fee and the share make up the amount. -/
def PricedTransaction.Splits : Prop :=
  t.platformFee + t.transaction.creatorEarnings = t.transaction.amount

/-- What the hook and the setters guarantee of every stored document. -/
structure PricedTransaction.Kept (t : PricedTransaction) : Prop where
  cents : ∃ k : ℤ, t.transaction.amount = k / 100
  earnings : t.transaction.creatorEarnings = creatorShare t.transaction.amount

variable {t : PricedTransaction}

theorem splits_iff (h : t.Kept) : t.Splits ↔ t.platformFee = dueFee t.transaction.amount := by
  obtain ⟨k, hk⟩ := h.cents
  have hk0 : 0 ≤ k := by
    have hpos := t.transaction.amount_nonneg
    rw [hk] at hpos
    have hc : (0 : ℚ) ≤ k := by linarith
    exact_mod_cast hc
  have hsum := dueFee_add_creatorShare hk0
  rw [PricedTransaction.Splits, h.earnings, hk]
  constructor
  · intro hsp
    linarith
  · intro hfee
    rw [hfee, hsum]

theorem settable_fin {q : ℚ} (h : settable (.num (.fin q)) = some a) : a = twoDecimals q := by
  have hfi : (some (twoDecimals q)).filter (fun a : ℚ => 0 ≤ a) = some a := h
  exact (Option.some.inj (Option.filter_eq_some_iff.mp hfi).1).symm

theorem settable_cents (h : settable v = some a) : ∃ k : ℤ, a = k / 100 := by
  have hfin : ∃ q, v = .num (.fin q) := by
    unfold settable at h
    split at h
    · exact ⟨_, rfl⟩
    · cases h
  obtain ⟨q, rfl⟩ := hfin
  exact ⟨hundredths (toDouble q), settable_fin h⟩

theorem resave_of_none (h : settable v = none) : t.resave v = t := by
  unfold PricedTransaction.resave
  split
  · rfl
  · next a ha => rw [h] at ha; cases ha

theorem resave_of_some (ht : t.Kept) (h : settable v = some a) :
    (t.resave v).transaction.amount = a ∧ (t.resave v).platformFee = t.platformFee
      ∧ (t.resave v).Kept := by
  unfold PricedTransaction.resave
  split
  · next hn => rw [h] at hn; cases hn
  · next a' ha =>
    obtain rfl : a = a' := Option.mem_unique h ha
    split
    · next hs => exact ⟨hs.symm, rfl, ht⟩
    · exact ⟨rfl, rfl, settable_cents h, rfl⟩

theorem kept_resave (ht : t.Kept) : (t.resave v).Kept := by
  cases h : settable v with
  | none =>
    rwa [resave_of_none h]
  | some => exact (resave_of_some ht h).2.2

theorem platformFee_resave (ht : t.Kept) : (t.resave v).platformFee = t.platformFee := by
  cases h : settable v with
  | none => rw [resave_of_none h]
  | some => exact (resave_of_some ht h).2.1

theorem splits_resave_iff (ht : t.Kept) (hs : t.Splits) :
    (t.resave v).Splits ↔ ∀ a, settable v = some a → t.platformFee = dueFee a := by
  cases h : settable v with
  | none =>
    rw [resave_of_none h]
    exact iff_of_true hs fun a ha => by cases ha
  | some a =>
    obtain ⟨hamt, hfee, hk⟩ := resave_of_some ht h
    rw [splits_iff hk, hamt, hfee]
    constructor
    · intro hfi b hb
      rwa [← Option.some.inj hb]
    · intro hfi
      exact hfi a rfl

theorem splits_always_iff (ht : t.Kept) (vs : List Value) :
    Runs.Always PricedTransaction.resave PricedTransaction.Splits t vs ↔
      t.platformFee = dueFee t.transaction.amount
        ∧ ∀ v ∈ vs, ∀ a, settable v = some a → t.platformFee = dueFee a := by
  have hrun : t.Splits → (Runs.Always PricedTransaction.resave PricedTransaction.Splits t vs ↔
      ∀ v ∈ vs, ∀ a, settable v = some a → t.platformFee = dueFee a) := by
    intro hs
    refine (Runs.always_iff_every_within
      (J := fun t' => t'.Kept ∧ t'.platformFee = t.platformFee) ?_ ?_ ⟨ht, rfl⟩ hs).trans
      Runs.every_iff_forall
    · rintro t' v ⟨hk, hfee⟩
      exact ⟨kept_resave hk, (platformFee_resave hk).trans hfee⟩
    · rintro t' v ⟨hk, hfee⟩ hs'
      rw [← hfee]
      exact splits_resave_iff hk hs'
  constructor
  · intro h
    exact ⟨(splits_iff ht).mp h.head, (hrun h.head).mp h⟩
  · rintro ⟨hfee, hr⟩
    exact (hrun ((splits_iff ht).mpr hfee)).mpr hr

/-! ## Documents as they are created -/

theorem create_settable {d : TransactionInput} {t : Transaction}
    (h : Transaction.create d = .ok t) :
    settable d.amount = some t.amount ∧ t.creatorEarnings = creatorShare t.amount := by
  unfold Transaction.create at h
  split at h
  · next hamt _ _ =>
    split at h
    · next hpos =>
      cases h
      refine ⟨?_, rfl⟩
      unfold TransactionInput.setAmount at hamt
      split at hamt
      · next q hq =>
        cases hamt
        rw [hq]
        exact Option.filter_some_pos (p := fun a : ℚ => 0 ≤ a) (decide_eq_true hpos)
      · cases hamt
    · cases h
  · cases h

theorem create_priced {d : PricedInput} (h : PricedTransaction.create d = .ok t) :
    Transaction.create d.base = .ok t.transaction ∧ d.feeOf = some t.platformFee := by
  unfold PricedTransaction.create at h
  split at h
  · next hba hfee =>
    split at h
    · cases h
      exact ⟨hba, hfee⟩
    · cases h
  · cases h
  · cases h

theorem create_priced_of {d : PricedInput} (hba : d.base.failures = [])
    (hfee : d.feeOf.isSome) (hdi : d.discount = none) :
    ∃ t, PricedTransaction.create d = .ok t := by
  obtain ⟨transaction, hok⟩ := (create_isOk_iff d.base).mpr hba
  obtain ⟨fee, hfee⟩ := Option.isSome_iff_exists.mp hfee
  have hal : d.discountOk := by rw [PricedInput.discountOk, hdi]; rfl
  unfold PricedTransaction.create
  rw [hok, hfee]
  exact ⟨_, if_pos hal⟩

/-- The parts of a document add up when it is stored, and after every later save of an amount,
exactly when the fee is the one due, to the cent a fifth of each amount. -/
theorem split_kept_iff {d : PricedInput} {t : PricedTransaction}
    (h : PricedTransaction.create d = .ok t) (vs : List Value) :
    Runs.Always PricedTransaction.resave PricedTransaction.Splits t vs ↔
      ∀ v ∈ d.base.amount :: vs, ∀ a, settable v = some a → d.feeOf = some (dueFee a) := by
  obtain ⟨hbase, hfee⟩ := create_priced h
  obtain ⟨hamo, hear⟩ := create_settable hbase
  rw [splits_always_iff ⟨settable_cents hamo, hear⟩, List.forall_mem_cons, hfee]
  simp only [hamo, Option.some.injEq]
  refine and_congr_left fun _ => ⟨fun hfits a ha => ?_, fun hfits => hfits _ rfl⟩
  rw [← ha]
  exact hfits

def tenDollars : PricedInput :=
  { base :=
      { transactionId := some "T1", memberId := some 0, creatorId := some 0, creator := some 0
        type := some "tip", amount := .num (.fin 10), status := some "completed" }
    platformFee := .num (.fin 2) }

theorem split_kept_ten :
    ∃ t, PricedTransaction.create tenDollars = .ok t
      ∧ Runs.Always PricedTransaction.resave PricedTransaction.Splits t
        [.num (.fin (1001 / 100)), .num (.fin (-3))] := by
  obtain ⟨t, ht⟩ := create_priced_of (d := tenDollars) (by decide +kernel) rfl rfl
  refine ⟨t, ht, (split_kept_iff ht _).mpr fun v hv a ha => ?_⟩
  have hall : ∀ v ∈ [.num (.fin 10), .num (.fin (1001 / 100)), .num (.fin (-3))],
      ((settable v).all fun a => tenDollars.feeOf = some (dueFee a)) = true := by decide +kernel
  have hfits := hall v hv
  rw [ha] at hfits
  exact of_decide_eq_true hfits

theorem five_credits_unsplit :
    (Wallet.requested 5).2 = .success 200 "" (some (Wallet.sampleLink 5 1))
      ∧ (Wallet.requested 5).1.transactions.map
          (fun r => (r.transaction.amount, r.transaction.creatorEarnings)) = [(5, 4)]
      ∧ ∃ t, PricedTransaction.create
            { base := Wallet.topupInput Wallet.sampleWidget (Wallet.sampleLink 5 1) 0 } = .ok t
          ∧ t.transaction.amount = 5 ∧ t.transaction.creatorEarnings = 4
          ∧ t.platformFee = 1 / 5 ∧ ¬ t.Splits := by
  refine ⟨by decide +kernel, by decide +kernel, ?_⟩
  obtain ⟨t, ht⟩ := create_priced_of
    (d := { base := Wallet.topupInput Wallet.sampleWidget (Wallet.sampleLink 5 1) 0 })
    (by decide +kernel) rfl rfl
  obtain ⟨hbase, hfee⟩ := create_priced ht
  obtain ⟨hamo, hear⟩ := create_settable hbase
  have hfive : settable (.num (.fin 5)) = some 5 := by decide +kernel
  have hfour : creatorShare 5 = 4 := by decide +kernel
  have hamo' : t.transaction.amount = 5 := Option.mem_unique hamo hfive
  have hear' : t.transaction.creatorEarnings = 4 := by rw [hear, hamo', hfour]
  have hfee' : t.platformFee = 1 / 5 := (Option.some.inj hfee).symm
  refine ⟨t, ht, hamo', hear', hfee', ?_⟩
  rw [PricedTransaction.Splits, hamo', hear', hfee']
  norm_num

end SexySelfies
