import Mathlib.Tactic.Ring
import SexySelfies.CivilDate
import SexySelfies.Collection
import SexySelfies.Interleave
import SexySelfies.Platform

/-!
# Payments, subscriptions and creator balances

The collections behind `ccbill.payment.controller.js` and `ccbill.webhook.controller.js`, and the
database operations both use. `save` writes only the paths that differ from what was loaded, so it
carries the loaded document along.

`Config` holds what the mapper decides: the order of validation and hooks, and whether the `$inc` on
`CreatorEarnings`, whose schema declares none of the paths, is stored. `Db.gateway` and
`Payment.chargedBack` are specification variables.
-/

namespace SexySelfies.Payments

open Js Platform Interleave CivilDate

structure Config where
  saveOrder : SaveOrder
  incStored : Bool

/-! ## Payments -/

inductive PaymentType where
  | tip | subscription | ppv | unlock
deriving DecidableEq

inductive PaymentStatus where
  | pending | completed | failed | refunded | cancelled
deriving DecidableEq

structure Payment where
  user : Nat
  member : Nat
  creator : Nat
  amount : ℚ
  type : PaymentType
  status : PaymentStatus
  ccbillTransactionId : Option String
  ccbillSubscriptionId : Option String
  platformFee : ℚ
  creatorEarnings : ℚ
  chargedBack : Bool
  amount_nonneg : 0 ≤ amount

/-- What the handlers pass to `new Payment`. None of them sets
`creatorEarnings`. -/
structure PaymentInput where
  user : Nat
  member : Nat
  creator : Nat
  amount : Value
  type : PaymentType
  status : PaymentStatus
  ccbillTransactionId : Option String
  ccbillSubscriptionId : Option String

/-- `new Payment({...}).save()` up to the write: casting, validation and the
hook that splits the amount. -/
def PaymentInput.validated (order : SaveOrder) (p : PaymentInput) : Except String Payment :=
  match castNumber p.amount with
  | some (some (.fin amount)) =>
    if h : 0 ≤ amount then
      match order with
      | .validateFirst =>
        .error "Payment validation failed: creatorEarnings: Path `creatorEarnings` is required."
      | .hooksFirst =>
        .ok
          { user := p.user, member := p.member, creator := p.creator, amount,
            type := p.type, status := p.status,
            ccbillTransactionId := p.ccbillTransactionId,
            ccbillSubscriptionId := p.ccbillSubscriptionId,
            platformFee := amount * (1 / 5), creatorEarnings := amount * (4 / 5),
            chargedBack := false, amount_nonneg := h }
    else .error "Payment validation failed: amount"
  | _ => .error "Payment validation failed: amount"

structure PaymentInput.Split (p : PaymentInput) (q : Payment) : Prop where
  creator_eq : q.creator = p.creator
  status_eq : q.status = p.status
  chargedBack_eq : q.chargedBack = false
  split_eq : q.platformFee + q.creatorEarnings = q.amount

theorem split_of_validated {order : SaveOrder} {p : PaymentInput} {q : Payment}
    (h : p.validated order = .ok q) : p.Split q := by
  unfold PaymentInput.validated at h
  split at h
  · split at h
    · cases order with
      | validateFirst => cases h
      | hooksFirst =>
        cases h
        refine ⟨rfl, rfl, rfl, ?_⟩
        ring
    · cases h
  · cases h

theorem validated_validateFirst (p : PaymentInput) :
    ∃ message, p.validated .validateFirst = .error message := by
  unfold PaymentInput.validated
  split
  · split
    · exact ⟨_, rfl⟩
    · exact ⟨_, rfl⟩
  · exact ⟨_, rfl⟩

/-- The model methods that change a payment, and the assignment of a
subscription id. -/
inductive PaymentChange where
  | markCompleted (transactionId : Option String)
  | setSubscriptionId (subscriptionId : String)
  | markFailed
  | processRefund
  | chargeback

/-- The stored payment after the change is made to the document loaded as
`old` and saved. -/
def PaymentChange.apply (old : Payment) (c : PaymentChange) (p : Payment) : Payment :=
  match c with
  | .markCompleted transactionId =>
    { p with
      status := assign old.status .completed p.status
      ccbillTransactionId :=
        assign old.ccbillTransactionId transactionId p.ccbillTransactionId }
  | .setSubscriptionId subscriptionId =>
    { p with
      ccbillSubscriptionId :=
        assign old.ccbillSubscriptionId (some subscriptionId) p.ccbillSubscriptionId }
  | .markFailed => { p with status := assign old.status .failed p.status }
  | .processRefund => { p with status := assign old.status .refunded p.status }
  | .chargeback =>
    { p with status := assign old.status .refunded p.status, chargedBack := true }

/-! ## Subscriptions -/

inductive SubscriptionStatus where
  | active | cancelled | expired | suspended | pending
deriving DecidableEq

inductive BillingCycle where
  | monthly | quarterly | yearly

def BillingCycle.names : List (String × BillingCycle) :=
  [("monthly", .monthly), ("quarterly", .quarterly), ("yearly", .yearly)]

inductive CancelledBy where
  | user | creator | admin | system
deriving DecidableEq

structure Billing where
  success : Bool
  amount : Option Number
  transactionId : Option String
  paymentId : Option Nat

structure Subscription where
  user : Nat
  member : Nat
  creator : Nat
  amount : ℚ
  billingCycle : BillingCycle
  status : SubscriptionStatus
  ccbillSubscriptionId : String
  nextBillingDate : Date
  cancelledBy : Option CancelledBy
  billingHistory : List Billing
  failedPaymentCount : Nat
  amount_nonneg : 0 ≤ amount

inductive SubscriptionChange where
  | activate
  | cancel (cancelledBy : CancelledBy)
  | recordBilling (amount : Option Number) (transactionId : Option String) (paymentId : Nat)
  | recordFailedBilling
  | expire
deriving DecidableEq

def BillingCycle.next (cycle : BillingCycle) (d : Date) : Date :=
  match cycle with
  | .monthly => d.addMonths 1
  | .quarterly => d.addMonths 3
  | .yearly => d.addYears 1

/-- The stored subscription after the change is made to the document loaded
as `old` and saved. A third failed payment also suspends: `suspend` saves
first, and the second `save` on the same document is refused. -/
def SubscriptionChange.apply (old : Subscription) (c : SubscriptionChange)
    (s : Subscription) : Subscription :=
  match c with
  | .activate => { s with status := assign old.status .active s.status }
  | .cancel by_ =>
    { s with
      status := assign old.status .cancelled s.status
      cancelledBy := assign old.cancelledBy (some by_) s.cancelledBy }
  | .recordBilling amount transactionId paymentId =>
    { s with
      billingHistory := s.billingHistory ++ [⟨true, amount, transactionId, some paymentId⟩]
      failedPaymentCount := assign old.failedPaymentCount 0 s.failedPaymentCount
      nextBillingDate := old.billingCycle.next old.nextBillingDate }
  | .recordFailedBilling =>
    { s with
      billingHistory := s.billingHistory ++ [⟨false, some (.fin old.amount), none, none⟩]
      failedPaymentCount := old.failedPaymentCount + 1
      status :=
        if 3 ≤ old.failedPaymentCount + 1 then assign old.status .suspended s.status
        else s.status }
  | .expire => { s with status := assign old.status .expired s.status }

/-! ## Content, cards, balances -/

inductive ContentField where
  | monetization (unlocks : List Nat) (totalEarnings : ℚ)
  | pricing (currentPrice : Option ℚ)
  | other
deriving DecidableEq

structure Content where
  creator : Nat
  fields : List (String × ContentField)

def contentPaths : List String :=
  ["creator", "type", "title", "description", "thumbnail", "customThumbnail", "media",
   "uploadBatch", "contentOrder", "price", "isFree", "isPreview", "tags", "purchasedBy",
   "stats", "allowTips", "isActive", "scheduledFor", "expiresAt", "createdAt", "updatedAt"]

variable (c : Content)

def Content.hydrate : Content := { c with fields := strict contentPaths c.fields }

def Content.write (loaded doc stored : Content) : Content :=
  let changed := (strict contentPaths doc.fields).filter fun f =>
    loaded.fields.lookup f.1 ≠ some f.2
  { stored with fields :=
      changed ++ stored.fields.filter fun f => ∀ g ∈ changed, g.1 ≠ f.1 }

/-- `content.monetization?.unlocks?.some(unlock => unlock.member == member)`. -/
def Content.unlockedBy (member : Nat) : Bool :=
  match c.fields.lookup "monetization" with
  | some (.monetization unlocks _) => member ∈ unlocks
  | _ => false

/-- `content.pricing?.currentPrice || 4.99`. -/
def Content.price : ℚ :=
  match c.fields.lookup "pricing" with
  | some (.pricing (some p)) => if p = 0 then 499 / 100 else p
  | _ => 499 / 100

def Content.unlock (member : Nat) (amount : ℚ) : Content :=
  match c.fields.lookup "monetization" with
  | some (.monetization unlocks totalEarnings) =>
    { c with fields :=
        ("monetization", .monetization (unlocks ++ [member]) (totalEarnings + amount))
          :: c.fields.filter fun f => f.1 ≠ "monetization" }
  | _ =>
    { c with fields :=
        ("monetization", .monetization [member] amount)
          :: c.fields.filter fun f => f.1 ≠ "monetization" }

structure Member where
  user : Nat
  purchasedContent : List Nat

structure PaymentMethod where
  user : Nat
  isActive : Bool
  expiryYear : Int
  expiryMonth : Nat

/-- `markUsed` validates the whole card again: one of a past year is refused,
one that expired this year is stored as inactive. -/
def PaymentMethod.markUsed (today : Date) (m : PaymentMethod) : Option PaymentMethod :=
  if m.expiryYear < today.year then none
  else if m.expiryYear = today.year ∧ m.expiryMonth < today.month + 1 then
    some { m with isActive := false }
  else some m

theorem markUsed_isSome {m : PaymentMethod} {today : Date} (h : today.year ≤ m.expiryYear) :
    (m.markUsed today).isSome := by
  unfold PaymentMethod.markUsed
  rw [if_neg (not_lt.mpr h)]
  split <;> rfl

structure Earnings where
  totalEarnings : ℚ
  availableBalance : ℚ
  totalTransactions : ℕ
  totalRefunds : ℚ
  totalChargebacks : ℚ

/-- An `$inc` on `CreatorEarnings`. -/
structure Inc where
  earnings : ℚ
  transactions : ℕ
  refunds : ℚ
  chargebacks : ℚ

def Earnings.empty : Earnings := ⟨0, 0, 0, 0, 0⟩

def Earnings.inc (i : Inc) (e : Earnings) : Earnings :=
  { totalEarnings := e.totalEarnings + i.earnings
    availableBalance := e.availableBalance + i.earnings
    totalTransactions := e.totalTransactions + i.transactions
    totalRefunds := e.totalRefunds + i.refunds
    totalChargebacks := e.totalChargebacks + i.chargebacks }

inductive GatewayCall where
  | chargePaymentToken (user : Nat) (content : Option Nat)
  | createSubscription (user creator : Nat)
  | cancelSubscription (ccbillSubscriptionId : String)
deriving DecidableEq

abbrev ChargeResult := Except String (Option String)

structure SubscriptionResult where
  subscriptionId : Option String
  transactionId : Option String
  nextBillingDate : Option Date

def isApproved {α : Type} : Except String α → Bool
  | .ok _ => true
  | .error _ => false

structure Db where
  members : List Member
  creators : Nat
  contents : List Content
  paymentMethods : List PaymentMethod
  payments : List Payment
  subscriptions : List Subscription
  earnings : Nat → Option Earnings
  gateway : List (GatewayCall × Bool)

inductive Op where
  | findMember (user : Nat)
  | findCreator (id : Nat)
  | findContent (id : Nat)
  | findPaymentMethod (id user : Nat)
  | findActiveSubscription (user creator : Nat)
  | findOwnSubscription (id user : Nat)
  | findSubscription (ccbillSubscriptionId : Option String)
  | findPayment (id : Nat)
  | findPaymentOf (ccbillTransactionId : Option String)
  | callGateway (call : GatewayCall) (approved : Bool)
  | insertPayment (p : Payment)
  | savePayment (id : Nat) (old : Payment) (c : PaymentChange)
  | markUsed (id : Nat) (old : PaymentMethod) (today : Date)
  | saveContent (id : Nat) (loaded doc : Content) (accepted : Bool)
  | saveMember (id content : Nat) (accepted : Bool)
  | incEarnings (creator : Nat) (i : Inc) (upsert : Bool)
  | insertSubscription (s : Subscription)
  | saveSubscription (id : Nat) (old : Subscription) (c : SubscriptionChange)

@[reducible] def Op.Res : Op → Type
  | .findMember _ => Option (Nat × Member)
  | .findCreator _ => Bool
  | .findContent _ => Option Content
  | .findPaymentMethod _ _ => Option PaymentMethod
  | .findActiveSubscription _ _ => Option (Nat × Subscription)
  | .findOwnSubscription _ _ => Option Subscription
  | .findSubscription _ => Option (Nat × Subscription)
  | .findPayment _ => Option Payment
  | .findPaymentOf _ => Option (Nat × Payment)
  | .callGateway _ _ => Unit
  | .insertPayment _ => Nat
  | .savePayment _ _ _ => Unit
  | .markUsed _ _ _ => Bool
  | .saveContent _ _ _ _ => Bool
  | .saveMember _ _ _ => Bool
  | .incEarnings _ _ _ => Unit
  | .insertSubscription _ => Option Nat
  | .saveSubscription _ _ _ => Unit

def Db.incEarnings (db : Db) (creator : Nat) (i : Inc) (upsert : Bool) : Db :=
  match db.earnings creator with
  | some e => { db with earnings := Function.update db.earnings creator (some (e.inc i)) }
  | none =>
    if upsert then
      { db with earnings :=
          Function.update db.earnings creator (some (Earnings.empty.inc i)) }
    else db

/-- The effect of an operation. The unique index on `ccbillSubscriptionId`
refuses a second subscription with the same id. -/
def exec (cfg : Config) : (o : Op) → Db → Db × o.Res
  | .findMember user, db => (db, Collection.findOne (fun m => m.user = user) db.members)
  | .findCreator id, db => (db, id < db.creators)
  | .findContent id, db => (db, (db.contents[id]?).map Content.hydrate)
  | .findPaymentMethod id user, db =>
    (db, (db.paymentMethods[id]?).filter fun m => m.user = user && m.isActive)
  | .findActiveSubscription user creator, db =>
    (db, Collection.findOne
      (fun s => s.user = user && s.creator = creator && s.status = .active)
      db.subscriptions)
  | .findOwnSubscription id user, db =>
    (db, (db.subscriptions[id]?).filter fun s => s.user = user)
  | .findSubscription ccbillId, db =>
    (db, Collection.findOne (fun s => some s.ccbillSubscriptionId = ccbillId)
      db.subscriptions)
  | .findPayment id, db => (db, db.payments[id]?)
  | .findPaymentOf transactionId, db =>
    (db, Collection.findOne (fun p => p.ccbillTransactionId = transactionId) db.payments)
  | .callGateway call approved, db =>
    ({ db with gateway := db.gateway ++ [(call, approved)] }, ())
  | .insertPayment p, db => ({ db with payments := db.payments ++ [p] }, db.payments.length)
  | .savePayment id old c, db =>
    ({ db with payments := db.payments.modify id (c.apply old) }, ())
  | .markUsed id old today, db =>
    match old.markUsed today with
    | none => (db, false)
    | some m =>
      ({ db with paymentMethods := db.paymentMethods.modify id fun stored =>
          { stored with isActive := assign old.isActive m.isActive stored.isActive } }, true)
  | .saveContent id loaded doc accepted, db =>
    if accepted then
      ({ db with contents := db.contents.modify id (loaded.write doc) }, true)
    else (db, false)
  | .saveMember id content accepted, db =>
    if accepted then
      ({ db with members := db.members.modify id fun m =>
          { m with purchasedContent := m.purchasedContent ++ [content] } }, true)
    else (db, false)
  | .incEarnings creator i upsert, db =>
    (if cfg.incStored then db.incEarnings creator i upsert else db, ())
  | .insertSubscription s, db =>
    if db.subscriptions.any fun t => t.ccbillSubscriptionId = s.ccbillSubscriptionId then
      (db, none)
    else ({ db with subscriptions := db.subscriptions ++ [s] }, some db.subscriptions.length)
  | .saveSubscription id old c, db =>
    ({ db with subscriptions := db.subscriptions.modify id (c.apply old) }, ())

/-! ## What an operation leaves alone -/

inductive Table where
  | members | contents | paymentMethods | payments | subscriptions | earnings | gateway
deriving DecidableEq

def Op.writes : Op → Option Table
  | .callGateway _ _ => some .gateway
  | .insertPayment _ => some .payments
  | .savePayment _ _ _ => some .payments
  | .markUsed _ _ _ => some .paymentMethods
  | .saveContent _ _ _ _ => some .contents
  | .saveMember _ _ _ => some .members
  | .incEarnings _ _ _ => some .earnings
  | .insertSubscription _ => some .subscriptions
  | .saveSubscription _ _ _ => some .subscriptions
  | _ => none

/-- An operation writes to one table at most. -/
structure Frame (o : Op) (db db' : Db) : Prop where
  creators_eq : db'.creators = db.creators
  members_eq : o.writes ≠ some .members → db'.members = db.members
  contents_eq : o.writes ≠ some .contents → db'.contents = db.contents
  payments_eq : o.writes ≠ some .payments → db'.payments = db.payments
  subscriptions_eq : o.writes ≠ some .subscriptions → db'.subscriptions = db.subscriptions
  earnings_eq : o.writes ≠ some .earnings → db'.earnings = db.earnings
  gateway_eq : o.writes ≠ some .gateway → db'.gateway = db.gateway

theorem Frame.refl (o : Op) (db : Db) : Frame o db db :=
  ⟨rfl, fun _ => rfl, fun _ => rfl, fun _ => rfl, fun _ => rfl, fun _ => rfl, fun _ => rfl⟩

theorem frame_exec (cfg : Config) (o : Op) (db : Db) : Frame o db (exec cfg o db).1 := by
  cases o with
  | callGateway | insertPayment | savePayment | saveSubscription =>
    constructor <;> simp [exec, Op.writes]
  | markUsed =>
    simp only [exec]
    split
    · exact Frame.refl _ db
    · constructor <;> simp [Op.writes]
  | saveContent id loaded doc accepted | saveMember id content accepted =>
    simp only [exec]
    split
    · constructor <;> simp [Op.writes]
    · exact Frame.refl _ db
  | insertSubscription =>
    simp only [exec]
    split
    · exact Frame.refl _ db
    · constructor <;> simp [Op.writes]
  | incEarnings =>
    simp only [exec, Db.incEarnings]
    split
    · split
      · constructor <;> simp [Op.writes]
      · split
        · constructor <;> simp [Op.writes]
        · exact Frame.refl _ db
    · exact Frame.refl _ db
  | _ => exact Frame.refl _ db

def newYear : CivilDate.Date := ⟨2025, 0, 1, by decide, by decide, by decide⟩

theorem ten_nonneg : (0 : ℚ) ≤ 10 := by decide

end SexySelfies.Payments
