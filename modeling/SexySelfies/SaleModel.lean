import SexySelfies.PaymentModel
import SexySelfies.TransactionModel

/-!
# Sales and their completion

`confirmPayment` of `payment.controller.js` and the three functions that complete a sale, over the
collections they write. The handlers name paths that the schemas do not declare:
`transaction.referenceId` and `transaction.member` are read, `transaction.processorTransactionId` is
assigned. Adding to a missing number is `NaN`, and the save of a document with a `NaN` is rejected.
-/

namespace SexySelfies.Sales

open Js Platform CivilDate Payments

/-! ## Transactions -/

/-- The paths `transactionSchema` declares. -/
def transactionPaths : List String :=
  ["transactionId", "memberId", "creatorId", "creator", "type", "contentId", "messageId",
   "bundleId", "offerId", "amount", "originalPrice", "discount", "platformFee",
   "creatorEarnings", "paymentMethod", "paymentDetails", "status", "statusHistory",
   "unlockDetails", "bundleDetails", "offerDetails", "refund", "analytics",
   "payoutProcessed", "metadata", "createdAt", "updatedAt"]

inductive PathValue where
  | ref (id : Nat)
  | value (v : Value)
  | details

structure Sale where
  transaction : Transaction
  other : List (String × PathValue)
  other_declared : ∀ f ∈ other, f.1 ∈ transactionPaths

variable (s : Sale)

def Sale.path (name : String) : Option PathValue := s.other.lookup name

theorem path_of_undeclared {name : String} (h : name ∉ transactionPaths) :
    s.path name = none := by
  rw [Sale.path, List.lookup_eq_none_iff]
  intro f hf
  have hne : name ≠ f.1 := fun heq => h (heq ▸ s.other_declared f hf)
  exact bne_iff_ne.mpr hne

/-- Assign the status and further paths, and save: strict mode keeps the
declared paths, and the enumeration refuses a status it does not have. -/
def Sale.assign (status : String) (paths : List (String × PathValue)) : Option Sale :=
  (TransactionStatus.names.lookup status).map fun st =>
    { transaction := { s.transaction with status := st }
      other := strict transactionPaths (paths ++ s.other)
      other_declared := fun _ hf => of_decide_eq_true (List.mem_filter.mp hf).2 }

/-- `transaction.creatorEarnings`, through the getter of the path. -/
def Sale.creatorEarnings : ℚ := round2 s.transaction.creatorEarnings

theorem assign_completed (paths : List (String × PathValue)) :
    ∃ s', s.assign "completed" paths = some s'
    ∧ s'.transaction = { s.transaction with status := .completed } := ⟨_, rfl, rfl⟩

/-! ## Creator earnings -/

structure Source where
  amount : ℚ
  count : Nat

structure TodayEarnings where
  amount : ℚ
  transactionCount : Nat
  lastUpdated : Date

structure PendingPayout where
  amount : Option ℚ
  processingFee : Option ℚ
  netAmount : Option ℚ

structure Goal where
  target : Option ℚ
  achieved : Option ℚ
  percentage : Option ℚ

/-- `earnings.revenue`, as the webhook controller assumes it. -/
structure Revenue where
  total : ℚ
  available : ℚ
  chargebacks : ℚ
  refunds : ℚ

/-- The top-level paths `creatorEarningsSchema` declares. -/
def creatorEarningsPaths : List String :=
  ["creator", "creatorProfile", "realTimeMetrics", "earningsBreakdown", "analytics",
   "predictions", "customerMetrics", "goals", "payouts", "insights", "optimization", "alerts",
   "createdAt", "updatedAt"]

structure Earnings where
  todayEarnings : TodayEarnings
  contentSales : Source
  tips : Source
  messages : Source
  lifetimeEarnings : ℚ
  pending : PendingPayout
  daily : Goal
  monthly : Goal
  other : List (String × Revenue)

def Earnings.new (today : Date) : Earnings :=
  { todayEarnings := ⟨0, 0, today⟩, contentSales := ⟨0, 0⟩, tips := ⟨0, 0⟩, messages := ⟨0, 0⟩,
    lifetimeEarnings := 0, pending := ⟨none, none, none⟩, daily := ⟨none, none, none⟩,
    monthly := ⟨none, none, none⟩, other := [] }

def Source.add (s : Source) (x : ℚ) : Source := ⟨s.amount + x, s.count + 1⟩

/-- A sale on another day than the last resets the figures of the day. -/
def TodayEarnings.add (t : TodayEarnings) (x : ℚ) (today : Date) : TodayEarnings :=
  if t.lastUpdated = today then
    { t with amount := t.amount + x, transactionCount := t.transactionCount + 1 }
  else ⟨x, 1, today⟩

def PendingPayout.add (p : PendingPayout) (x : ℚ) : Option PendingPayout :=
  p.amount.map fun a => { p with amount := some (a + x) }

def PendingPayout.setNet (p : PendingPayout) : PendingPayout :=
  { p with netAmount := p.amount.map fun a => a - p.processingFee.getD 0 }

def Goal.add (g : Goal) (x : ℚ) : Option Goal :=
  match g.target with
  | some target =>
    if 0 < target then
      g.achieved.map fun a =>
        { g with achieved := some (a + x), percentage := some ((a + x) / target * 100) }
    else some g
  | none => some g

variable (e : Earnings) (x : ℚ) (today : Date)

def Earnings.credit : Option Earnings :=
  (e.pending.add x).map fun pending =>
    { e with
      todayEarnings := e.todayEarnings.add x today
      lifetimeEarnings := e.lifetimeEarnings + x
      pending }

def Earnings.addGoals : Option Earnings := do
  let daily ← e.daily.add x
  let monthly ← e.monthly.add x
  return { e with daily, monthly }

def Earnings.addMessage : Option Earnings := do
  let e ← e.credit x today
  return { e with messages := e.messages.add x }

def Earnings.addTip : Option Earnings := do
  let e ← e.credit x today
  let e ← e.addGoals x
  return { e with tips := e.tips.add x }

def Earnings.addContentSale : Option Earnings := do
  let e ← e.credit x today
  let e ← e.addGoals x
  return { e with contentSales := e.contentSales.add x, pending := e.pending.setNet }

inductive PurchaseStatus where
  | locked | unlocked | expired | refunded
deriving DecidableEq

structure Message where
  status : PurchaseStatus
  transactionId : Option Nat

structure Db where
  sales : List Sale
  earnings : Nat → Option Earnings
  contents : List Content
  messages : List Message

structure Saves where
  content : Bool
  message : Bool
  earnings : Bool
  transaction : Bool

structure Context where
  today : Date
  saves : Saves

def Db.saveSale (db : Db) (id : Nat) (sale : Sale) (status : String)
    (paths : List (String × PathValue)) : Except Db Db :=
  match sale.assign status paths with
  | some sale' => .ok { db with sales := db.sales.set id sale' }
  | none => .error db

/-! ## Completing a sale -/

variable (c : Context)

/-- The balance record of the creator, made if there is none, is added to and
saved. -/
def creditEarnings (creator : Nat) (add : Earnings → Option Earnings) (db : Db) :
    Except Db Db :=
  match add ((db.earnings creator).getD (Earnings.new c.today)) with
  | some e =>
    if c.saves.earnings then
      .ok { db with earnings := Function.update db.earnings creator (some e) }
    else .error db
  | none => .error db

/-- The buyer is added to `content.monetization.unlocks` unless found there.
Without `transaction.member` the search throws or, in an empty list, the
access to `content.analytics` after it. -/
def noteUnlock (contentId : Nat) (content : Content) (sale : Sale) (db : Db) :
    Except Db Db :=
  match sale.path "member" with
  | some (.ref member) =>
    if content.unlockedBy member then .ok db
    else if (content.fields.lookup "analytics").isNone then .error db
    else if c.saves.content then
      let unlocked := content.unlock member sale.transaction.amount
      .ok { db with contents := db.contents.modify contentId (content.write unlocked) }
    else .error db
  | _ => .error db

def completeContentUnlock (id : Nat) (sale : Sale) (db : Db) : Except Db Db :=
  match sale.path "referenceId" with
  | some (.ref contentId) =>
    match (db.contents[contentId]?).map Content.hydrate with
    | some content => do
        let db ← noteUnlock c contentId content sale db
        let db ← creditEarnings c sale.transaction.creator
          (fun e => e.addContentSale sale.creatorEarnings c.today) db
        if c.saves.transaction then
          db.saveSale id sale "completed" [("unlockDetails", .details)]
        else .error db
    | none => .error db
  | _ => .error db

def completeMessageUnlock (id : Nat) (sale : Sale) (db : Db) : Except Db Db :=
  match sale.path "referenceId" with
  | some (.ref messageId) =>
    match db.messages[messageId]? with
    | some _ =>
      if c.saves.message then
        creditEarnings c sale.transaction.creator
          (fun e => e.addMessage sale.creatorEarnings c.today)
          { db with messages := db.messages.set messageId ⟨.unlocked, some id⟩ }
      else .error db
    | none => .error db
  | _ => .error db

def completeTip (sale : Sale) (db : Db) : Except Db Db :=
  creditEarnings c sale.transaction.creator
    (fun e => e.addTip sale.creatorEarnings c.today) db

structure ConfirmRequest where
  transactionId : Ref
  ccbillTransactionId : Value
  status : Value
  context : Context

/-- `confirmPayment` with the transaction found. The enumeration of types has
no `credits`, so the fourth case of the `switch` is never taken. -/
def confirmSale (r : ConfirmRequest) (id : Nat) (sale : Sale) (db : Db) : Except Db Db :=
  match r.status with
  | .str "approved" => do
      let db ← db.saveSale id sale "completed"
        [("completedAt", .details), ("processorTransactionId", .value r.ccbillTransactionId)]
      match sale.transaction.type with
      | .contentUnlock => completeContentUnlock r.context id sale db
      | .messageUnlock => completeMessageUnlock r.context id sale db
      | .tip => completeTip r.context sale db
      | _ => .ok db
  | _ => db.saveSale id sale "failed" [("failedAt", .details)]

def confirmPayment (r : ConfirmRequest) (db : Db) : Db × Response Unit :=
  match r.transactionId with
  | .malformed => (db, .failure 500 "Error confirming payment")
  | .absent => (db, .failure 404 "Transaction not found")
  | .id id =>
    match db.sales[id]? with
    | none => (db, .failure 404 "Transaction not found")
    | some sale =>
      match confirmSale r id sale db with
      | .error db => (db, .failure 500 "Error confirming payment")
      | .ok db =>
        match r.status with
        | .str "approved" => (db, .success 200 "Payment confirmed" none)
        | _ => (db, .failure 400 "Payment failed")

def soldTip (status : TransactionStatus) : Sale :=
  { transaction :=
      { transactionId := "T1", memberId := 0, creatorId := 0, creator := 0, type := .tip,
        amount := 10, status, paymentMethod := .ccbill, creatorEarnings := creatorShare 10,
        payoutProcessed := false, amount_nonneg := ten_nonneg,
        creatorEarnings_nonneg := creatorShare_nonneg ten_nonneg }
    other := []
    other_declared := fun _ hf => absurd hf List.not_mem_nil }

def acceptingContext : Context := ⟨newYear, ⟨true, true, true, true⟩⟩

end SexySelfies.Sales
