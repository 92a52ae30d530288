import SexySelfies.Platform

/-!
# The transaction schema

`models/Transaction.js`: the record of one sale. A stored document has passed the schema, so
`Transaction` carries what the schema guarantees. `Transaction.create` is the constructor with the
checks made explicit: it answers the paths that fail.
-/

namespace SexySelfies

open Js Platform Double

inductive TransactionType where
  | contentUnlock | profileUnlock | messageUnlock | bundleUnlock | tip | specialOffer
  | customContent | videoCall | priorityMessage | superLike | profileBoost
  | walletTopup | payout
deriving DecidableEq

inductive TransactionStatus where
  | pending | processing | completed | failed | refunded | disputed
deriving DecidableEq

inductive TransactionPaymentMethod where
  | card | wallet | ccbill | paypal | crypto

def TransactionType.names : List (String × TransactionType) :=
  [("content_unlock", .contentUnlock), ("profile_unlock", .profileUnlock),
   ("message_unlock", .messageUnlock), ("bundle_unlock", .bundleUnlock), ("tip", .tip),
   ("special_offer", .specialOffer), ("custom_content", .customContent),
   ("video_call", .videoCall), ("priority_message", .priorityMessage),
   ("super_like", .superLike), ("profile_boost", .profileBoost),
   ("wallet_topup", .walletTopup), ("payout", .payout)]

def TransactionStatus.names : List (String × TransactionStatus) :=
  [("pending", .pending), ("processing", .processing), ("completed", .completed),
   ("failed", .failed), ("refunded", .refunded), ("disputed", .disputed)]

def TransactionPaymentMethod.names : List (String × TransactionPaymentMethod) :=
  [("card", .card), ("wallet", .wallet), ("ccbill", .ccbill), ("paypal", .paypal),
   ("crypto", .crypto)]

/-! ## Documents -/

structure Transaction where
  transactionId : String
  memberId : Nat
  creatorId : Nat
  creator : Nat
  type : TransactionType
  amount : ℚ
  status : TransactionStatus
  paymentMethod : TransactionPaymentMethod
  creatorEarnings : ℚ
  payoutProcessed : Bool
  amount_nonneg : 0 ≤ amount
  creatorEarnings_nonneg : 0 ≤ creatorEarnings

/-- The setter `v => parseFloat(v.toFixed(2))`, on the double that the number stands for. The double
that is stored stands for the decimal here. -/
def twoDecimals (q : ℚ) : ℚ := round2 (toDouble q)

theorem twoDecimals_nonneg {q : ℚ} (h : 0 ≤ q) : 0 ≤ twoDecimals q :=
  round2_nonneg (toDouble_nonneg h)

-- the double below 1.025
example : twoDecimals (1025 / 1000) = 102 / 100 := by decide +kernel

/-- The hook `transactionSchema.pre('save')`: the creator gets 80%, and the
setter of the path keeps two decimals. -/
def creatorShare (amount : ℚ) : ℚ := twoDecimals (toDouble amount * toDouble (4 / 5))

theorem creatorShare_nonneg {amount : ℚ} (h : 0 ≤ amount) : 0 ≤ creatorShare amount :=
  twoDecimals_nonneg (mul_nonneg (toDouble_nonneg h) (toDouble_nonneg (by norm_num)))

structure TransactionInput where
  transactionId : Option String := none
  memberId : Option Nat := none
  creatorId : Option Nat := none
  creator : Option Nat := none
  type : Option String := none
  amount : Value := .undefined
  paymentMethod : Option String := none
  status : Option String := none

variable (d : TransactionInput)

/-- Only numbers have `toFixed`. -/
def TransactionInput.setAmount : Option ℚ :=
  match d.amount with
  | .num (.fin q) => some (twoDecimals q)
  | _ => none

def TransactionInput.typeOf : Option TransactionType :=
  d.type.bind fun s => TransactionType.names.lookup s

/-- An enumerated path with a default: an absent text takes the default, a
text outside the enumeration fails. -/
def withDefault {α : Type} (names : List (String × α)) (dflt : α) : Option String → Option α
  | none => some dflt
  | some s => names.lookup s

def TransactionInput.methodOf : Option TransactionPaymentMethod :=
  withDefault TransactionPaymentMethod.names .ccbill d.paymentMethod

def TransactionInput.statusOf : Option TransactionStatus :=
  withDefault TransactionStatus.names .pending d.status

def TransactionInput.failures : List String :=
  [("transactionId", d.transactionId.isNone), ("memberId", d.memberId.isNone),
   ("creatorId", d.creatorId.isNone), ("creator", d.creator.isNone),
   ("type", d.typeOf.isNone), ("amount", (d.setAmount.filter (0 ≤ ·)).isNone),
   ("paymentMethod", d.methodOf.isNone), ("status", d.statusOf.isNone)].filterMap
    fun x => if x.2 then some x.1 else none

/-- `Transaction.create`: the validated document, or the failing paths. -/
def Transaction.create : Except (List String) Transaction :=
  match d.transactionId, d.memberId, d.creatorId, d.creator, d.typeOf, d.setAmount,
      d.methodOf, d.statusOf with
  | some transactionId, some memberId, some creatorId, some creator, some type,
      some amount, some paymentMethod, some status =>
      if h : 0 ≤ amount then
        .ok
          { transactionId, memberId, creatorId, creator, type, amount, status,
            paymentMethod, creatorEarnings := creatorShare amount,
            payoutProcessed := false, amount_nonneg := h,
            creatorEarnings_nonneg := creatorShare_nonneg h }
      else .error d.failures
  | _, _, _, _, _, _, _, _ => .error d.failures

theorem create_isOk_iff :
    (∃ t, Transaction.create d = .ok t) ↔ d.failures = [] := by
  unfold Transaction.create TransactionInput.failures
  cases hid : d.transactionId with
  | none => simp
  | some id =>
  cases hm : d.memberId with
  | none => simp
  | some m =>
  cases hc : d.creatorId with
  | none => simp
  | some c =>
  cases hr : d.creator with
  | none => simp
  | some r =>
  cases ht : d.typeOf with
  | none => simp
  | some t =>
  cases ha : d.setAmount with
  | none => simp
  | some a =>
  cases hp : d.methodOf with
  | none => simp
  | some p =>
  cases hs : d.statusOf with
  | none => simp
  | some s =>
    by_cases hpos : 0 ≤ a
    · simp [hpos, Option.filter]
    · simp [hpos, Option.filter]

end SexySelfies
