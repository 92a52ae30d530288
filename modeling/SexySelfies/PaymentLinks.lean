import SexySelfies.JsNumeral
import SexySelfies.SaleModel
import SexySelfies.WalletModel

/-!
# Payment links

Five handlers of `payment.controller.js` sell something by a link to the gateway's hosted form. Each
checks its request, saves a pending transaction and answers the address that `buildCCBillUrl` makes.
None passes the `transactionId`, `memberId` and `creatorId` that `models/Transaction.js` requires,
so no link is ever answered. Four pass the id of the transaction inside `customFields`, which
`buildCCBillUrl` does not read.
-/

namespace SexySelfies.PaymentLinks

open Js Platform

/-! ## The link -/

/-- The settings of the form, the digest, and the texts of ids. A setting that
is missing has the text `undefined`. -/
structure Config where
  clientAccnum : String
  clientSubacc : String
  formName : String
  flexFormId : String
  salt : String
  approvalUrl : String
  declineUrl : String
  md5 : String → String
  idText : Nat → String

def currencyCode : String := "840"

structure Customer where
  firstName : String
  lastName : String
  email : String

structure LinkParams where
  initialPrice : Value
  initialPeriod : Nat
  formDigest : String
  transactionId : Option String := none
  memberId : Option String := none
  contentType : Option String := none
  type : Option String := none
  referenceId : Option String := none
  customerData : Option Customer := none

/-- `URLSearchParams` writes `undefined` for a missing value. -/
def orUndefined (v : Option String) : String := v.getD "undefined"

variable (cfg : Config)

def generateCCBillDigest (initialPrice : Value) (initialPeriod : Nat)
    (currencyCode : String) : String :=
  cfg.md5 (initialPrice.text ++ toString initialPeriod ++ currencyCode ++ cfg.salt)

def buildCCBillUrl (p : LinkParams) : List (String × String) :=
  [("clientAccnum", cfg.clientAccnum), ("clientSubacc", cfg.clientSubacc),
   ("formName", cfg.formName), ("flexFormId", cfg.flexFormId),
   ("initialPrice", p.initialPrice.text), ("initialPeriod", toString p.initialPeriod),
   ("currencyCode", currencyCode), ("formDigest", p.formDigest),
   ("approvalUrl", cfg.approvalUrl), ("declineUrl", cfg.declineUrl),
   ("customer_fname", (p.customerData.map Customer.firstName).getD ""),
   ("customer_lname", (p.customerData.map Customer.lastName).getD ""),
   ("email", (p.customerData.map Customer.email).getD ""),
   ("transactionId", orUndefined p.transactionId), ("memberId", orUndefined p.memberId),
   ("contentType", orUndefined ((p.contentType.filter (· ≠ "")).orElse fun _ => p.type)),
   ("referenceId", orUndefined p.referenceId)]

/-! ## Drafts -/

structure Message where
  creator : Nat
  member : Nat
  price : ℚ
  status : Sales.PurchaseStatus

structure Store where
  contents : List Payments.Content
  messages : List Message
  transactions : List Transaction

structure Answer where
  paymentUrl : List (String × String)
  transactionId : Nat

structure Draft where
  input : TransactionInput
  params : String → LinkParams

structure LinkHandler where
  failure : String
  draft : Store → Except (Response Answer) Draft

/-- Save the transaction and answer the link. What is thrown on the way is
answered with the handler's own text. -/
def LinkHandler.run (h : LinkHandler) (db : Store) : Store × Response Answer :=
  match h.draft db with
  | .error answer => (db, answer)
  | .ok d =>
    match Transaction.create d.input with
    | .error _ => (db, .failure 500 h.failure)
    | .ok t =>
      if db.transactions.any fun t' => t'.transactionId = t.transactionId then
        (db, .failure 500 h.failure)
      else
        let id := db.transactions.length
        ({ db with transactions := db.transactions ++ [t] },
          .success 200 "" (some ⟨buildCCBillUrl cfg (d.params (cfg.idText id)), id⟩))

/-- The four links that carry the id in `customFields`. -/
def plainParams (price : Value) (_id : String) : LinkParams :=
  { initialPrice := price, initialPeriod := 30
    formDigest := generateCCBillDigest cfg price 30 "840" }

def isOutside (low high : ℚ) (amount : Value) : Bool :=
  amount.toNumber.lt (.fin low) || (Number.fin high).lt amount.toNumber

/-- The text for the path `type`. What is no text fails at the path like a text
outside the enumeration. -/
def typeText : Value → Option String
  | .undefined => none
  | .null => none
  | v => some ((textOf v).getD "")

/-! ## The handlers -/

def createPaymentLink (amount type : Value) : LinkHandler where
  failure := "Error creating payment link"
  draft _ :=
    if isOutside (59 / 20) 100 amount then
      .error (.failure 400 "Amount must be between $2.95 and $100")
    else
      .ok { input := { amount, type := typeText type, status := some "pending" }
            params := plainParams cfg amount }

/-- `content.monetization?.unlocks?.find(u => u.member?.toString() === memberId)`
and `content.pricing?.currentPrice || 4.99` are read off the loaded document. -/
def processContentUnlock (memberId : Nat) (contentId : Ref) (customer : Customer) :
    LinkHandler where
  failure := "Error processing payment"
  draft db :=
    match contentId with
    | .malformed => .error (.failure 500 "Error processing payment")
    | .absent => .error (.failure 404 "Content not found")
    | .id id =>
      match (db.contents[id]?).map Payments.Content.hydrate with
      | none => .error (.failure 404 "Content not found")
      | some content =>
        if content.unlockedBy memberId then
          .error (.failure 400 "Content already unlocked")
        else
          let amount := Value.num (.fin content.price)
          .ok { input := { creator := some content.creator, amount
                           type := some "content_unlock", status := some "pending" }
                params := fun transactionId =>
                  { initialPrice := amount, initialPeriod := 30
                    formDigest := generateCCBillDigest cfg amount 30 currencyCode
                    transactionId := some transactionId
                    memberId := some (cfg.idText memberId)
                    contentType := some "content_unlock"
                    referenceId := some (cfg.idText id), customerData := some customer } }

def processMessageUnlock (memberId : Nat) (messageId : Ref) : LinkHandler where
  failure := "Error processing payment"
  draft db :=
    match messageId with
    | .malformed => .error (.failure 500 "Error processing payment")
    | .absent => .error (.failure 404 "Message not found")
    | .id id =>
      match db.messages[id]? with
      | none => .error (.failure 404 "Message not found")
      | some message =>
        if message.member ≠ memberId then .error (.failure 403 "Unauthorized")
        else if message.status = .unlocked then
          .error (.failure 400 "Message already unlocked")
        else
          let price := if message.price = 0 then 299 / 100 else message.price
          let amount := Value.num (.fin price)
          .ok { input := { creator := some message.creator, amount
                           type := some "message_unlock", status := some "pending" }
                params := plainParams cfg amount }

/-- A creator that is no id fails at its path. -/
def refId : Ref → Option Nat
  | .id n => some n
  | _ => none

def processTip (creatorId : Ref) (amount : Value) : LinkHandler where
  failure := "Error processing tip"
  draft _ :=
    if isOutside 1 500 amount then .error (.failure 400 "Tip must be between $1 and $500")
    else
      .ok { input := { creator := refId creatorId, amount, type := some "tip"
                       status := some "pending" }
            params := plainParams cfg amount }

structure CreditPackage where
  id : String
  credits : Nat
  price : ℚ
  bonus : Nat

def getCreditPackages : List CreditPackage :=
  [⟨"starter", 10, 999 / 100, 0⟩, ⟨"popular", 25, 1999 / 100, 5⟩, ⟨"value", 50, 3999 / 100, 15⟩,
   ⟨"premium", 100, 6999 / 100, 40⟩]

/-- The enumeration of types has no `credits`. -/
def addCredits (packageId : Value) : LinkHandler where
  failure := "Error adding credits"
  draft _ :=
    match getCreditPackages.find? fun p => packageId.same (.str p.id) with
    | none => .error (.failure 400 "Invalid package")
    | some selectedPackage =>
      let amount := Value.num (.fin selectedPackage.price)
      .ok { input := { amount, type := some "credits", status := some "pending" }
            params := plainParams cfg amount }

inductive Call where
  | createPaymentLink (amount type : Value)
  | processContentUnlock (memberId : Nat) (contentId : Ref) (customer : Customer)
  | processMessageUnlock (memberId : Nat) (messageId : Ref)
  | processTip (creatorId : Ref) (amount : Value)
  | addCredits (packageId : Value)

def Call.handler : Call → LinkHandler
  | .createPaymentLink amount type => PaymentLinks.createPaymentLink cfg amount type
  | .processContentUnlock memberId contentId customer =>
    PaymentLinks.processContentUnlock cfg memberId contentId customer
  | .processMessageUnlock memberId messageId =>
    PaymentLinks.processMessageUnlock cfg memberId messageId
  | .processTip creatorId amount => PaymentLinks.processTip cfg creatorId amount
  | .addCredits packageId => PaymentLinks.addCredits cfg packageId

def Call.handle (c : Call) (db : Store) : Store × Response Answer :=
  (c.handler cfg).run cfg db

/-! ## What is decided before the save -/

theorem draft_cases (c : Call) (db : Store) :
    (∃ status error, (c.handler cfg).draft db = .error (.failure status error))
      ∨ ∃ d, (c.handler cfg).draft db = .ok d ∧ d.input.transactionId = none := by
  cases c with
  | createPaymentLink =>
    dsimp only [Call.handler, createPaymentLink]
    split
    · exact .inl ⟨_, _, rfl⟩
    · exact .inr ⟨_, rfl, rfl⟩
  | processContentUnlock =>
    dsimp only [Call.handler, processContentUnlock]
    split
    · exact .inl ⟨_, _, rfl⟩
    · exact .inl ⟨_, _, rfl⟩
    split
    · exact .inl ⟨_, _, rfl⟩
    split
    · exact .inl ⟨_, _, rfl⟩
    · exact .inr ⟨_, rfl, rfl⟩
  | processMessageUnlock =>
    dsimp only [Call.handler, processMessageUnlock]
    split
    · exact .inl ⟨_, _, rfl⟩
    · exact .inl ⟨_, _, rfl⟩
    split
    · exact .inl ⟨_, _, rfl⟩
    split
    · exact .inl ⟨_, _, rfl⟩
    split
    · exact .inl ⟨_, _, rfl⟩
    · exact .inr ⟨_, rfl, rfl⟩
  | processTip =>
    dsimp only [Call.handler, processTip]
    split
    · exact .inl ⟨_, _, rfl⟩
    · exact .inr ⟨_, rfl, rfl⟩
  | addCredits =>
    dsimp only [Call.handler, addCredits]
    split
    · exact .inl ⟨_, _, rfl⟩
    · exact .inr ⟨_, rfl, rfl⟩

variable {c : Call} {cfg : Config} {d : Draft} {db : Store}

theorem transactionId_none (h : (c.handler cfg).draft db = .ok d) :
    d.input.transactionId = none := by
  rcases draft_cases cfg c db with ⟨status, error, herr⟩ | ⟨d', hok, hno⟩
  · rw [h] at herr
    cases herr
  · rw [h] at hok
    cases hok
    exact hno

/-- The digest of a link is that of the three strings it is sent with. -/
def DigestFits (cfg : Config) (url : List (String × String)) : Prop :=
  ∃ price period currency, url.lookup "initialPrice" = some price
    ∧ url.lookup "initialPeriod" = some period ∧ url.lookup "currencyCode" = some currency
    ∧ url.lookup "formDigest" = some (cfg.md5 (price ++ period ++ currency ++ cfg.salt))

/-! ## No transaction is saved -/

/-- One pending transaction is stored, and the answer is a link that names it
and whose digest fits. -/
def Delivers (cfg : Config) (c : Call) (db : Store) : Prop :=
  ∃ t answer, c.handle cfg db
      = ({ db with transactions := db.transactions ++ [t] }, .success 200 "" (some answer))
    ∧ t.status = .pending
    ∧ answer.paymentUrl.lookup "transactionId" = some (cfg.idText db.transactions.length)
    ∧ DigestFits cfg answer.paymentUrl

def Call.Passes (cfg : Config) (c : Call) (db : Store) : Prop :=
  ∃ d, (c.handler cfg).draft db = .ok d

theorem handle_of_passes (h : c.Passes cfg db) :
    c.handle cfg db = (db, .failure 500 (c.handler cfg).failure) := by
  obtain ⟨d, hd⟩ := h
  rw [Call.handle, LinkHandler.run, hd]
  dsimp only
  rw [Wallet.create_refused (transactionId_none hd)]

theorem handle_fails : ∃ status error, c.handle cfg db = (db, .failure status error) := by
  rcases draft_cases cfg c db with ⟨status, error, herr⟩ | ⟨d, hd, -⟩
  · refine ⟨status, error, ?_⟩
    rw [Call.handle, LinkHandler.run, herr]
  · exact ⟨500, _, handle_of_passes ⟨d, hd⟩⟩

/-- Whatever the request and the store, no link is delivered: the request is
answered with an error and nothing is stored. -/
theorem no_link_delivered (cfg : Config) (c : Call) (db : Store) :
    ¬ Delivers cfg c db ∧ ∃ status error, c.handle cfg db = (db, .failure status error) := by
  obtain ⟨status, error, hf⟩ := handle_fails
  refine ⟨?_, status, error, hf⟩
  rintro ⟨t, answer, hhan, -⟩
  rw [hf] at hhan
  cases (Prod.mk.inj hhan).2

def sampleConfig : Config :=
  ⟨"948700", "0000", "form", "flex", "salt", "/payment/success", "/payment/failed", id, toString⟩

theorem tip_not_delivered :
    (Call.processTip (.id 0) (.num (.fin 10))).Passes sampleConfig ⟨[], [], []⟩
      ∧ (Call.processTip (.id 0) (.num (.fin 10))).handle sampleConfig ⟨[], [], []⟩
        = (⟨[], [], []⟩, .failure 500 "Error processing tip")
      ∧ ¬ Delivers sampleConfig (.processTip (.id 0) (.num (.fin 10))) ⟨[], [], []⟩ := by
  have hins : isOutside 1 500 (.num (.fin 10)) = false := by decide +kernel
  have hpas : (Call.processTip (.id 0) (.num (.fin 10))).Passes sampleConfig ⟨[], [], []⟩ := by
    dsimp only [Call.Passes, Call.handler, processTip]
    rw [hins]
    exact ⟨_, rfl⟩
  have hhan := handle_of_passes hpas
  refine ⟨hpas, hhan, ?_⟩
  rintro ⟨t, answer, hdel, -⟩
  rw [hhan] at hdel
  cases (Prod.mk.inj hdel).2

end SexySelfies.PaymentLinks
