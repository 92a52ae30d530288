import SexySelfies.SaleModel

/-!
# The DataLink webhook

`handleCCBillWebhook` of `webhook.controller.js`: the check of the request and the handlers of the
events behind it.

The handlers of sales call functions that `payment.controller.js` does not export, and throw.
Refunds, chargebacks and voids look for the transaction by `processorTransactionId`, which is never
stored; a query for `undefined` or `null` matches every document that lacks the path. Two of the
three statuses they assign are not in the enumeration.
-/

namespace SexySelfies.Sales

open Js Platform CivilDate Payments

/-! ## The request -/

structure Env where
  datalinkUser : String
  datalinkPass : String
  nodeEnv : Option String
  webhookBypass : Option String
  decodeBase64 : String → List UInt8
  jsonParse : String → Option Value
  searchParams : String → List (String × String)
  objectId : Value → Ref
  parseFloat : Value → Number
  user_noColon : ':' ∉ datalinkUser.toList

structure Headers where
  authorization : Option String
  Authorization : Option String

structure Request where
  headers : Headers
  body : Value

def Headers.auth (h : Headers) : Option String :=
  (h.authorization.filter (· ≠ "")).orElse fun _ => h.Authorization

def Headers.basic (h : Headers) : Option String :=
  match h.auth with
  | some header =>
    if "Basic ".toList.isPrefixOf header.toList then
      (header.toList.splitOn ' ')[1]?.map String.ofList
    else none
  | none => none

def asciiText (bytes : List UInt8) : List Char :=
  bytes.map fun b => Char.ofNat (b.toNat % 128)

variable (env : Env)

def Env.matches (credentials : List Char) : Bool :=
  (credentials.splitOn ':')[0]? = some env.datalinkUser.toList &&
    (credentials.splitOn ':')[1]? = some env.datalinkPass.toList

def verifyCCBillWebhook (headers : Headers) : Bool :=
  match headers.basic with
  | some base64Credentials => env.matches (asciiText (env.decodeBase64 base64Credentials))
  | none =>
    if env.nodeEnv = some "development" ∧ env.webhookBypass = some "true" then true
    else true

inductive EventKind where
  | newSaleSuccess | newSaleFailure | renewal | cancellation | chargeback | refund | void
deriving DecidableEq

def EventKind.names : List (String × EventKind) :=
  [("NewSaleSuccess", .newSaleSuccess), ("NewSaleFailure", .newSaleFailure),
   ("RenewalSuccess", .renewal), ("RenewalFailure", .renewal),
   ("Cancellation", .cancellation), ("Chargeback", .chargeback), ("Refund", .refund),
   ("Void", .void)]

variable (body : Value)

def eventKind : Option EventKind :=
  match body.get "eventType" with
  | .str s => EventKind.names.lookup s
  | _ => none

/-- `parseCustomFields`. Of the parameters of a query string, a later one of
the same name wins. -/
def parseCustomFields : Value → Value
  | .null => .null
  | .obj fields => .obj fields
  | .arr xs => .arr xs
  | .str s =>
    match env.jsonParse s with
    | some v => v
    | none => .obj ((env.searchParams s).reverse.map fun p => (p.1, .str p.2))
  | _ => .obj []

def Env.amount : Number :=
  env.parseFloat
    (if (body.get "accountingAmount").truthy then body.get "accountingAmount"
      else body.get "amount")

/-- `findById(customFields.transactionId)`. On `null` the access throws, and
what is no object id does not cast. -/
def Env.saleRef : Ref :=
  let customFields := parseCustomFields env (body.get "customFields")
  if customFields.isNullish then .malformed
  else
    let id := customFields.get "transactionId"
    if id.isNullish then .absent else env.objectId id

/-! ## Sales -/

def paymentControllerExports : List String :=
  ["createPaymentLink", "processContentUnlock", "processMessageUnlock", "processTip",
   "addCredits", "confirmPayment", "getCreditPackages", "getPaymentMethods",
   "createPaymentIntent", "addPaymentMethod", "removePaymentMethod",
   "setDefaultPaymentMethod", "requestPayout", "getPayoutMethods", "addPayoutMethod",
   "getPayoutHistory", "getPayoutSchedule", "enableInstantPayouts", "getTransactionHistory",
   "getTransaction", "downloadTransactionReport", "requestRefund", "getRefundStatus",
   "handleChargeback", "getPaymentAnalytics", "getRevenueReport", "getCustomerAnalytics",
   "applyPromoCode", "validatePromoCode", "createPromoCode", "getWalletBalance",
   "getWalletTransactions", "transferFunds", "exportTransactions", "disputeTransaction",
   "getSubscriptionPlans", "createSubscription", "cancelSubscription", "updateSubscription",
   "getTaxInfo", "submitTaxForms", "getTaxDocuments", "getPlatformFees", "calculateFees",
   "getExchangeRates"]

/-- `const { name } = require('./payment.controller'); await name(transaction)`. -/
def callExported (name : String) (f : Db → Except Db Db) (db : Db) : Except Db Db :=
  if name ∈ paymentControllerExports then f db else .error db

variable (c : Context)

def processContentUnlock (id : Nat) (sale : Sale) : Db → Except Db Db :=
  callExported "completeContentUnlock" (completeContentUnlock c id sale)

def processMessageUnlock (id : Nat) (sale : Sale) : Db → Except Db Db :=
  callExported "completeMessageUnlock" (completeMessageUnlock c id sale)

def processTip (sale : Sale) : Db → Except Db Db :=
  callExported "completeTip" (completeTip c sale)

def Earnings.revenue (e : Earnings) : Option Revenue :=
  (strict creatorEarningsPaths e.other).lookup "revenue"

def Earnings.setRevenue (e : Earnings) (r : Revenue) : Earnings :=
  { e with other := strict creatorEarningsPaths (("revenue", r) :: e.other) }

def updateCreatorEarnings (creator : Nat) (amount : Number) (db : Db) : Db :=
  let earnings := (db.earnings creator).getD
    ((Earnings.new c.today).setRevenue ⟨0, 0, 0, 0⟩)
  match earnings.revenue, amount with
  | some r, .fin a =>
    let r := { r with total := r.total + a, available := r.available + (a - a * (1 / 5)) }
    if c.saves.earnings then
      { db with earnings := Function.update db.earnings creator (some (earnings.setRevenue r)) }
    else db
  | _, _ => db

variable (c : Context) (body : Value)

def handleNewSale (id : Nat) (sale : Sale) (db : Db) :
    Except Db Db := do
  let db ← db.saveSale id sale "completed"
    [("completedAt", .details), ("processorTransactionId", .value (body.get "transactionId")),
     ("processorResponse", .details)]
  let db ← match sale.transaction.type with
    | .contentUnlock => processContentUnlock c id sale db
    | .messageUnlock => processMessageUnlock c id sale db
    | .tip => processTip c sale db
    | _ => .ok db
  return updateCreatorEarnings c sale.transaction.creator (env.amount body) db

def forSale (f : Nat → Sale → Db → Except Db Db) (db : Db) :
    Except Db Db :=
  match env.saleRef body with
  | .malformed => .error db
  | .absent => .ok db
  | .id id =>
    match db.sales[id]? with
    | some sale => f id sale db
    | none => .ok db

def handleNewSaleFailure (id : Nat) (sale : Sale) (db : Db) : Except Db Db :=
  db.saveSale id sale "failed"
    [("failedAt", .details), ("failureReason", .details), ("processorResponse", .details)]

/-! ## Reversals -/

def queryMatches (stored : Option PathValue) (v : Value) : Bool :=
  match stored with
  | some (.value w) => w.same v
  | some _ => false
  | none => v.isNullish

def Db.findByProcessorId (db : Db) (v : Value) : Option (Nat × Sale) :=
  Collection.findOne (fun s => queryMatches (s.path "processorTransactionId") v) db.sales

def correctRevenue (creator : Nat) (amount : Number)
    (correct : Revenue → ℚ → Revenue) (db : Db) : Except Db Db :=
  match db.earnings creator with
  | none => .ok db
  | some e =>
    match e.revenue, amount with
    | some r, .fin a =>
      if c.saves.earnings then
        .ok { db with earnings :=
          Function.update db.earnings creator (some (e.setRevenue (correct r a))) }
      else .error db
    | _, _ => .error db

/-- The handlers of refunds, chargebacks and voids: the transaction is found by
the processor's id, given the status and saved. -/
def reverseSale (status : String) (paths : List (String × PathValue))
    (correct : Sale → Db → Except Db Db) (body : Value) (db : Db) : Except Db Db :=
  match db.findByProcessorId (body.get "transactionId") with
  | none => .ok db
  | some (id, sale) => do
      let db ← db.saveSale id sale status paths
      correct sale db

def handleChargeback : Db → Except Db Db :=
  reverseSale "chargebacked" [("chargebackAt", .details), ("chargebackAmount", .details)]
    (fun sale => correctRevenue c sale.transaction.creator (env.amount body) fun r a =>
      { r with available := r.available - a, chargebacks := r.chargebacks + a }) body

def handleRefund : Db → Except Db Db :=
  reverseSale "refunded" [("refundedAt", .details), ("refundAmount", .details)]
    (fun sale => correctRevenue c sale.transaction.creator (env.amount body) fun r a =>
      { r with total := r.total - a, available := r.available - a, refunds := r.refunds + a })
    body

def handleVoid : Value → Db → Except Db Db :=
  reverseSale "voided" [("voidedAt", .details)] fun _ db => .ok db

def handleEvent (db : Db) : Except Db Db :=
  match eventKind body with
  | some .newSaleSuccess => forSale env body (handleNewSale env c body) db
  | some .newSaleFailure => forSale env body handleNewSaleFailure db
  | some .chargeback => handleChargeback env c body db
  | some .refund => handleRefund env c body db
  | some .void => handleVoid body db
  | some .renewal => .ok db
  | some .cancellation => .ok db
  | none => .ok db

def settled : Except Db Db → Db
  | .ok db => db
  | .error db => db

/-- A body that is missing makes the handler throw before the check; a refused
request is answered 401; whatever else happens, the answer is 200. -/
def handleCCBillWebhook (r : Request) (db : Db) : Db × Nat :=
  if r.body.isNullish then (db, 200)
  else if verifyCCBillWebhook env r.headers then (settled (handleEvent env c r.body db), 200)
  else (db, 401)

def sampleEnv : Env :=
  { datalinkUser := "user", datalinkPass := "pass", nodeEnv := some "production",
    webhookBypass := none, decodeBase64 := fun _ => [], jsonParse := fun _ => none,
    searchParams := fun _ => [], objectId := fun _ => .id 0,
    parseFloat := fun _ => .nan, user_noColon := by decide }

end SexySelfies.Sales
