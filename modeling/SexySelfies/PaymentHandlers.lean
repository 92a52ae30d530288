import SexySelfies.PaymentModel

/-!
# The payment endpoints and the webhook

The endpoints of `ccbill.payment.controller.js`, and `handleWebhook` of
`ccbill.webhook.controller.js` with its eight event handlers, as programs over the operations of
`PaymentModel`. What comes from outside is a parameter: the answer of the gateway, the date, whether
a signature is valid, and whether saves are accepted.
-/

namespace SexySelfies.Payments

open Js Platform Interleave CivilDate

inductive Data where
  | tip (paymentId : Nat) (transactionId : Option String) (amount creatorEarnings : ℚ)
  | purchase (paymentId : Nat) (transactionId : Option String) (amount : ℚ)
  | subscription (subscriptionId : Nat) (ccbillSubscriptionId : String) (amount : ℚ)
      (nextBillingDate : Date)
  | cancelled (subscriptionId : Nat)

abbrev Handler := Proc Op.Res (Response Data)

def orElse (message fallback : String) : String := if message = "" then fallback else message

def lookup {α : Type} (ref : Ref) (find : Nat → Proc Op.Res (Option α)) : Proc Op.Res (Option α) :=
  match ref with
  | .id n => find n
  | _ => pure none

def findCreator (id : Nat) : Proc Op.Res (Option Nat) := do
  let found ← perform (Op.findCreator id)
  return if found then some id else none

def findContent (id : Nat) : Proc Op.Res (Option (Nat × Content)) := do
  let content ← perform (Op.findContent id)
  return content.map fun c => (id, c)

def findPaymentMethod (user id : Nat) : Proc Op.Res (Option (Nat × PaymentMethod)) := do
  let method ← perform (Op.findPaymentMethod id user)
  return method.map fun m => (id, m)

def Inc.sale (earnings : ℚ) (transactions : ℕ) : Inc := ⟨earnings, transactions, 0, 0⟩

structure TipRequest where
  user : Nat
  creatorId : Ref
  amount : Value
  paymentMethodId : Ref
  gateway : ChargeResult
  today : Date

variable (cfg : Config)

def processTip (r : TipRequest) : Handler := do
  if !r.amount.truthy || r.amount.toNumber.lt (.fin (99 / 100)) then
    return .failure 400 "Minimum tip amount is $0.99"
  let some (memberId, _) ← perform (Op.findMember r.user)
    | return .failure 404 "Member not found"
  if r.creatorId = .malformed then
    return .failure 500 (castError "Creator")
  let some creator ← lookup r.creatorId findCreator
    | return .failure 404 "Creator not found"
  if r.paymentMethodId = .malformed then
    return .failure 500 (castError "PaymentMethod")
  let some (methodId, paymentMethod) ← lookup r.paymentMethodId (findPaymentMethod r.user)
    | return .failure 404 "Payment method not found"
  match PaymentInput.validated cfg.saveOrder
      { user := r.user, member := memberId, creator, amount := r.amount, type := .tip,
        status := .pending, ccbillTransactionId := none, ccbillSubscriptionId := none } with
  | .error message => return .failure 500 (orElse message "Failed to process tip")
  | .ok payment =>
    let paymentId ← perform (Op.insertPayment payment)
    perform (Op.callGateway (.chargePaymentToken r.user none) (isApproved r.gateway))
    match r.gateway with
    | .error message => return .failure 500 (orElse message "Failed to process tip")
    | .ok transactionId =>
      perform (Op.savePayment paymentId payment (.markCompleted transactionId))
      let used ← perform (Op.markUsed methodId paymentMethod r.today)
      if !used then
        return .failure 500 "PaymentMethod validation failed: expiryYear: Card has expired"
      perform (Op.incEarnings creator (.sale payment.creatorEarnings 0) true)
      return .success 200 ""
        (some (.tip paymentId transactionId payment.amount payment.creatorEarnings))

structure PurchaseRequest where
  user : Nat
  contentId : Ref
  paymentMethodId : Ref
  gateway : ChargeResult
  today : Date
  contentAccepted : Bool
  memberAccepted : Bool

def purchaseContent (r : PurchaseRequest) : Handler := do
  let some (memberId, _) ← perform (Op.findMember r.user)
    | return .failure 404 "Member not found"
  if r.contentId = .malformed then
    return .failure 500 (castError "Content")
  let some (contentId, content) ← lookup r.contentId findContent
    | return .failure 404 "Content not found"
  if content.unlockedBy memberId then
    return .failure 400 "Content already unlocked"
  let amount := content.price
  if r.paymentMethodId = .malformed then
    return .failure 500 (castError "PaymentMethod")
  let some (methodId, paymentMethod) ← lookup r.paymentMethodId (findPaymentMethod r.user)
    | return .failure 404 "Payment method not found"
  match PaymentInput.validated cfg.saveOrder
      { user := r.user, member := memberId, creator := content.creator,
        amount := .num (.fin amount), type := .unlock, status := .pending,
        ccbillTransactionId := none, ccbillSubscriptionId := none } with
  | .error message => return .failure 500 (orElse message "Failed to purchase content")
  | .ok payment =>
    let paymentId ← perform (Op.insertPayment payment)
    perform (Op.callGateway (.chargePaymentToken r.user (some contentId)) (isApproved r.gateway))
    match r.gateway with
    | .error message => return .failure 500 (orElse message "Failed to purchase content")
    | .ok transactionId =>
      perform (Op.savePayment paymentId payment (.markCompleted transactionId))
      let used ← perform (Op.markUsed methodId paymentMethod r.today)
      if !used then
        return .failure 500 "PaymentMethod validation failed: expiryYear: Card has expired"
      let stored ← perform
        (Op.saveContent contentId content (content.unlock memberId amount) r.contentAccepted)
      if !stored then
        return .failure 500 "Content validation failed"
      let noted ← perform (Op.saveMember memberId contentId r.memberAccepted)
      if !noted then
        return .failure 500 "Member validation failed"
      perform (Op.incEarnings content.creator (.sale payment.creatorEarnings 0) true)
      return .success 200 "" (some (.purchase paymentId transactionId payment.amount))

structure SubscribeRequest where
  user : Nat
  creatorId : Ref
  tier : Value
  amount : Value
  billingCycle : Value
  paymentMethodId : Ref
  gateway : Except String SubscriptionResult
  today : Date

def billingPeriodDays : Value → Nat
  | .str "monthly" => 30
  | .str "quarterly" => 90
  | .str "yearly" => 365
  | _ => 30

variable (r : SubscribeRequest)

/-- `new Subscription({...})` as `save` validates it. -/
def SubscribeRequest.validated (member creator : Nat)
    (result : SubscriptionResult) : Option Subscription :=
  let cycle := if r.billingCycle.truthy then textOf r.billingCycle else some "monthly"
  match castNumber r.amount, cycle.bind fun c => BillingCycle.names.lookup c,
      result.subscriptionId.filter (· ≠ "") with
  | some (some (.fin amount)), some billingCycle, some ccbillSubscriptionId =>
    if h : 0 ≤ amount then
      if isPresentText r.tier then
        some
          { user := r.user, member, creator, amount, billingCycle, status := .pending,
            ccbillSubscriptionId,
            nextBillingDate :=
              result.nextBillingDate.getD (r.today.addDays (billingPeriodDays r.billingCycle)),
            cancelledBy := none, billingHistory := [], failedPaymentCount := 0,
            amount_nonneg := h }
      else none
    else none
  | _, _, _ => none

/-- `createSubscription` from the gateway's approval on: the subscription is
stored and activated, then the first payment is recorded and credited. -/
def recordSubscription (memberId creator : Nat)
    (result : SubscriptionResult) : Handler := do
  let some subscription := r.validated memberId creator result
    | return .failure 500 "Subscription validation failed"
  let some id ← perform (Op.insertSubscription subscription)
    | return .failure 500 "E11000 duplicate key error"
  perform (Op.saveSubscription id subscription .activate)
  match PaymentInput.validated cfg.saveOrder
      { user := r.user, member := memberId, creator, amount := r.amount,
        type := .subscription, status := .completed,
        ccbillTransactionId := result.transactionId,
        ccbillSubscriptionId := result.subscriptionId } with
  | .error message => return .failure 500 (orElse message "Failed to create subscription")
  | .ok payment =>
    let _ ← perform (Op.insertPayment payment)
    perform (Op.incEarnings creator (.sale payment.creatorEarnings 0) true)
    return .success 200 "" (some (.subscription id subscription.ccbillSubscriptionId
      subscription.amount subscription.nextBillingDate))

def createSubscription : Handler := do
  let some (memberId, _) ← perform (Op.findMember r.user)
    | return .failure 404 "Member not found"
  if r.creatorId = .malformed then
    return .failure 500 (castError "Creator")
  let some creator ← lookup r.creatorId findCreator
    | return .failure 404 "Creator not found"
  let existing ← perform (Op.findActiveSubscription r.user creator)
  if existing.isSome then
    return .failure 400 "Already subscribed to this creator"
  if r.paymentMethodId = .malformed then
    return .failure 500 (castError "PaymentMethod")
  let some _ ← lookup r.paymentMethodId (findPaymentMethod r.user)
    | return .failure 404 "Payment method not found"
  perform (Op.callGateway (.createSubscription r.user creator) (isApproved r.gateway))
  match r.gateway with
  | .error message => return .failure 500 (orElse message "Failed to create subscription")
  | .ok result => recordSubscription cfg r memberId creator result

structure CancelRequest where
  user : Nat
  id : Option Nat
  gateway : Except String Unit

def cancelSubscription (r : CancelRequest) : Handler := do
  let some id := r.id | return .failure 500 (castError "Subscription")
  let some subscription ← perform (Op.findOwnSubscription id r.user)
    | return .failure 404 "Subscription not found"
  if subscription.status ≠ .active then
    return .failure 400 "Subscription is not active"
  perform (Op.callGateway (.cancelSubscription subscription.ccbillSubscriptionId)
    (isApproved r.gateway))
  match r.gateway with
  | .error message => return .failure 500 (orElse message "Failed to cancel subscription")
  | .ok _ =>
    perform (Op.saveSubscription id subscription (.cancel .user))
    return .success 200 "Subscription cancelled successfully" (some (.cancelled id))

/-! ## The webhook -/

/-- The fields of a webhook body that the handlers read. An expiration date
that is no date is `none`. -/
structure Event where
  eventType : Option String
  event_type : Option String
  transactionId : Option String
  subscriptionId : Option String
  merchantInvoiceId : Ref
  amount : Value
  expirationDate : Option Date

inductive EventKind where
  | newSaleSuccess | newSaleFailure | renewalSuccess | renewalFailure
  | cancellation | refund | chargeback | expiration
deriving DecidableEq

def EventKind.names : List (String × EventKind) :=
  [("NewSaleSuccess", .newSaleSuccess), ("new_sale_success", .newSaleSuccess),
   ("NewSaleFailure", .newSaleFailure), ("new_sale_failure", .newSaleFailure),
   ("RenewalSuccess", .renewalSuccess), ("renewal_success", .renewalSuccess),
   ("RenewalFailure", .renewalFailure), ("renewal_failure", .renewalFailure),
   ("Cancellation", .cancellation), ("cancellation", .cancellation),
   ("Refund", .refund), ("refund", .refund), ("Chargeback", .chargeback),
   ("chargeback", .chargeback), ("Expiration", .expiration), ("expiration", .expiration)]

variable (e : Event)

/-- `event.eventType || event.event_type`, as the `switch` reads it. -/
def Event.kind : Option EventKind :=
  ((e.eventType.filter (· ≠ "")).orElse fun _ => e.event_type).bind
    fun s => EventKind.names.lookup s

def findPayment (id : Nat) : Proc Op.Res (Option (Nat × Payment)) := do
  let payment ← perform (Op.findPayment id)
  return payment.map fun p => (id, p)

/-- An event handler answers whether it ran through; `false` is a `throw`. -/
abbrev EventHandler := Proc Op.Res Bool

/-- The end of `handleNewSaleSuccess`: a payment for a subscription activates
it and is its first billing. -/
def activateOnSale (paymentId : Nat) (payment : Payment) : EventHandler := do
  let subscriptionId := e.subscriptionId.filter (· ≠ "")
  if payment.type = .subscription ∧ subscriptionId.isSome then
    let some (id, subscription) ← perform (Op.findSubscription subscriptionId) | return true
    perform (Op.saveSubscription id subscription .activate)
    let some amount := castNumber e.amount | return false
    perform (Op.saveSubscription id subscription
      (.recordBilling amount e.transactionId paymentId))
  return true

theorem keeps_activateOnSale {cfg : Config} {R : Db → Db → Prop} {G : Db → Op → Prop}
    {P : Op → Prop} (hf : ∀ id, P (.findSubscription id))
    (hs : ∀ id old c, P (.saveSubscription id old c)) (e : Event) (p : Nat)
    (pa : Payment) (db : Db) :
    Keeps (exec cfg) R G (fun _ o => P o) db (activateOnSale e p pa) := by
  refine keeps_ite (fun _ => keeps_perform_of (hf _) fun s x => ?_) fun _ => trivial
  split
  · refine keeps_perform_of (hs _ _ _) fun s x => ?_
    split
    · exact keeps_perform_of (hs _ _ _) fun _ _ => trivial
    · trivial
  · trivial

/-- `Payment.findById(event.merchantInvoiceId)`, as both sale events begin:
an id that does not cast throws, an unknown one is logged and ignored. -/
def forInvoice (f : Nat → Payment → EventHandler) : EventHandler := do
  if e.merchantInvoiceId = .malformed then
    return false
  let some (paymentId, payment) ← lookup e.merchantInvoiceId findPayment | return true
  f paymentId payment

def handleNewSaleSuccess : EventHandler :=
  forInvoice e fun paymentId payment => do
    perform (Op.savePayment paymentId payment (.markCompleted e.transactionId))
    if let some ccbillId := e.subscriptionId.filter (· ≠ "") then
      perform (Op.savePayment paymentId payment (.setSubscriptionId ccbillId))
    perform (Op.incEarnings payment.creator (.sale payment.creatorEarnings 1) true)
    activateOnSale e paymentId payment

def handleNewSaleFailure : EventHandler :=
  forInvoice e fun paymentId payment => do
    perform (Op.savePayment paymentId payment .markFailed)
    return true

def handleRenewalSuccess (e : Event) : EventHandler := do
  let some (id, subscription) ← perform (Op.findSubscription e.subscriptionId) | return true
  match PaymentInput.validated cfg.saveOrder
      { user := subscription.user, member := subscription.member,
        creator := subscription.creator, amount := e.amount, type := .subscription,
        status := .completed, ccbillTransactionId := e.transactionId,
        ccbillSubscriptionId := e.subscriptionId } with
  | .error _ => return false
  | .ok payment =>
    let paymentId ← perform (Op.insertPayment payment)
    perform (Op.saveSubscription id subscription
      (.recordBilling ((castNumber e.amount).getD none) e.transactionId paymentId))
    perform (Op.incEarnings subscription.creator (.sale payment.creatorEarnings 1) true)
    return true

def handleRenewalFailure : EventHandler := do
  let some (id, subscription) ← perform (Op.findSubscription e.subscriptionId) | return true
  perform (Op.saveSubscription id subscription .recordFailedBilling)
  -- from the third failure on, the second `save` of the document is refused
  return decide (subscription.failedPaymentCount + 1 < 3)

def handleCancellation : EventHandler := do
  let some (id, subscription) ← perform (Op.findSubscription e.subscriptionId) | return true
  perform (Op.saveSubscription id subscription (.cancel .system))
  return true

/-- Refunds and chargebacks: the payment is found by transaction id, marked
refunded, and taken off an existing balance. -/
def reversePayment (c : PaymentChange) (inc : Payment → Inc) (e : Event) : EventHandler := do
  let some (paymentId, payment) ← perform (Op.findPaymentOf e.transactionId) | return true
  perform (Op.savePayment paymentId payment c)
  perform (Op.incEarnings payment.creator (inc payment) false)
  return true

def handleRefund : Event → EventHandler :=
  reversePayment .processRefund fun p => ⟨-p.creatorEarnings, 0, p.amount, 0⟩

def chargebackFee : ℚ := 15

def handleChargeback : Event → EventHandler :=
  reversePayment .chargeback fun p =>
    ⟨-(p.creatorEarnings + chargebackFee), 0, 0, p.amount + chargebackFee⟩

def handleExpiration : EventHandler := do
  let some (id, subscription) ← perform (Op.findSubscription e.subscriptionId) | return true
  if e.expirationDate.isNone then
    return false
  perform (Op.saveSubscription id subscription .expire)
  return true

def handleEvent (e : Event) : EventHandler :=
  match e.kind with
  | some .newSaleSuccess => handleNewSaleSuccess e
  | some .newSaleFailure => handleNewSaleFailure e
  | some .renewalSuccess => handleRenewalSuccess cfg e
  | some .renewalFailure => handleRenewalFailure e
  | some .cancellation => handleCancellation e
  | some .refund => handleRefund e
  | some .chargeback => handleChargeback e
  | some .expiration => handleExpiration e
  | none => pure true

def handleWebhook (isValid : Bool) (e : Event) : Handler := do
  if !isValid then
    return .failure 401 "Invalid signature"
  let processed ← handleEvent cfg e
  if processed then
    return .success 200 "Webhook processed" none
  return .success 200 "Webhook received but processing failed" none

inductive Request where
  | tip (r : TipRequest)
  | purchase (r : PurchaseRequest)
  | subscribe (r : SubscribeRequest)
  | cancel (r : CancelRequest)
  | webhook (isValid : Bool) (e : Event)

def handle : Request → Handler
  | .tip r => processTip cfg r
  | .purchase r => purchaseContent cfg r
  | .subscribe r => createSubscription cfg r
  | .cancel r => cancelSubscription r
  | .webhook isValid e => handleWebhook cfg isValid e

end SexySelfies.Payments
