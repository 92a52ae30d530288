import SexySelfies.Collection
import SexySelfies.Interleave
import SexySelfies.TransactionModel

/-!
# Member credits

Four handlers write `Member.credits`. Each loads the member, computes the new credits in memory and
saves the document, which overwrites the stored credits. The schema stores credits that are a number
and at least zero. Infinity is one: a tip of `"-Infinity"` is accepted. `Record.confirmed` and
`Member.spent` are specification variables.
-/

namespace SexySelfies.Wallet

open Js Platform Interleave

/-! ## Documents -/

def isBalance (n : Number) : Bool := Number.le (.fin 0) n

theorem isBalance_add {n : Number} {q : ℚ} (hn : isBalance n) (hq : 0 ≤ q) :
    isBalance (n.add (.fin q)) := by
  cases n with
  | nan | negInf => cases hn
  | fin a =>
    have ha : 0 ≤ a := of_decide_eq_true hn
    exact decide_eq_true (add_nonneg ha hq)
  | posInf => rfl

theorem isBalance_sub {n : Number} {a : ℚ} (hn : isBalance n)
    (h : n.lt (.fin a) = false) : isBalance (n.sub (.fin a)) := by
  cases n with
  | nan | negInf => cases hn
  | fin q =>
    have hle : a ≤ q := not_lt.mp (of_decide_eq_false h)
    rw [Number.sub_fin]
    exact decide_eq_true (sub_nonneg.mpr hle)
  | posInf => rfl

structure Member where
  user : Nat
  credits : Number
  purchasedContent : List Nat
  spent : ℚ
  credits_valid : isBalance credits = true

structure Creator where
  totalEarnings : ℚ
  monthlyEarnings : ℚ

structure Content where
  creator : Nat
  price : ℚ
  purchases : ℕ
  revenue : ℚ
  price_nonneg : 0 ≤ price

structure Record where
  transaction : Transaction
  confirmed : Bool

/-- A change to the credits of a member, and the content noted with it. -/
inductive CreditChange where
  | topup (credits : Number)
  | spend (amount : Number) (content : Option Nat)

def CreditChange.result : CreditChange → Number → Number
  | .topup n, credits => credits.add n
  | .spend n _, credits => credits.sub n

def CreditChange.content : CreditChange → Option Nat
  | .topup _ => none
  | .spend _ content => content

def CreditChange.spent : CreditChange → ℚ
  | .spend (.fin a) _ => a
  | _ => 0

/-- The stored member after the change is made to the document loaded as
`old` and saved, or `none` when the schema refuses the new credits. -/
def Member.save (old : Member) (c : CreditChange) (m : Member) : Option Member :=
  if h : isBalance (c.result old.credits) = true then
    some
      { m with
        credits := assign old.credits (c.result old.credits) m.credits
        purchasedContent := m.purchasedContent ++ c.content.toList
        spent := m.spent + c.spent
        credits_valid := by
          unfold assign
          split
          · exact m.credits_valid
          · exact h }
  else none

structure WidgetEvent where
  merchantInvoiceId : Option String
  transactionId : Option String
  clientCustom2 : Option String
  eventType : Option String

variable (e : WidgetEvent)

/-- `body.merchantInvoiceId || body.transactionId`. -/
def WidgetEvent.key : Option String :=
  (e.merchantInvoiceId.filter (· ≠ "")).orElse fun _ => e.transactionId

def WidgetEvent.credits : Number :=
  match e.clientCustom2.filter (· ≠ "") with
  | some s => parseInt s
  | none => .fin 0

def WidgetEvent.status : String :=
  (e.eventType.filter (· ≠ "")).getD "NewSaleSuccess"

/-- The event of a successful sale. The handler does not ask. -/
def WidgetEvent.isSale : Bool := e.status = "NewSaleSuccess"

/-- `webhookData.credits || transaction.metadata.credits`, as a summand. The
schema declares no `metadata.credits`: the fallback is always `undefined`. -/
def WidgetEvent.creditsToAdd : Number :=
  if e.credits.truthy then e.credits else .nan

/-! ## The store -/

structure Db where
  members : List Member
  creators : List Creator
  contents : List Content
  transactions : List Record

inductive Op where
  | findMember (user : Nat)
  | findMemberById (id : Nat)
  | findCreator (ref : Ref)
  | findContent (ref : Ref)
  | findPurchase (member content : Nat)
  | findTransaction (transactionId : Option String)
  | completeTransaction (id : Nat) (old : Transaction) (e : WidgetEvent)
  | saveMember (id : Nat) (old : Member) (c : CreditChange)
  | insertTransaction (t : Transaction)
  | saveContent (id : Nat) (loaded : Content) (accepted : Bool)
  | saveCreator (id : Nat) (loaded : Creator) (earnings : ℚ)

@[reducible] def Op.Res : Op → Type
  | .findMember _ => Option (Nat × Member)
  | .findMemberById _ => Option Member
  | .findCreator _ => Option (Nat × Creator)
  | .findContent _ => Option (Nat × Content × Option Creator)
  | .findPurchase _ _ => Option (Nat × Record)
  | .findTransaction _ => Option (Nat × Record)
  | .completeTransaction _ _ _ => Unit
  | .saveMember _ _ _ => Bool
  | .insertTransaction _ => Option Nat
  | .saveContent _ _ _ => Bool
  | .saveCreator _ _ _ => Unit

variable (db : Db)

def Db.creator? : Ref → Option (Nat × Creator)
  | .id n => (db.creators[n]?).map fun c => (n, c)
  | _ => none

def Db.content? : Ref → Option (Nat × Content × Option Creator)
  | .id n => (db.contents[n]?).map fun c => (n, c, db.creators[c.creator]?)
  | _ => none

def Db.member? (user : Nat) : Option (Nat × Member) :=
  Collection.findOne (fun m => m.user = user) db.members

/-- The completed transaction of type `content_purchase` that
`createPurchase` looks for. It also asks for paths `member` and `content`; no
stored document has them, nor that type. -/
def Db.purchase? (_member _content : Nat) : Option (Nat × Record) :=
  Collection.findOne (fun r =>
      some r.transaction.type = TransactionType.names.lookup "content_purchase"
        && r.transaction.status = .completed)
    db.transactions

def Record.complete (old : Transaction) (e : WidgetEvent) (r : Record) : Record :=
  { transaction :=
      { r.transaction with status := assign old.status .completed r.transaction.status }
    confirmed := r.confirmed || e.isSale }

def exec : (o : Op) → Db → Db × o.Res
  | .findMember user, db => (db, db.member? user)
  | .findMemberById id, db => (db, db.members[id]?)
  | .findCreator ref, db => (db, db.creator? ref)
  | .findContent ref, db => (db, db.content? ref)
  | .findPurchase member content, db => (db, db.purchase? member content)
  | .findTransaction transactionId, db =>
    (db, Collection.findOne (fun r => some r.transaction.transactionId = transactionId)
      db.transactions)
  | .completeTransaction id old e, db =>
    ({ db with transactions := db.transactions.modify id (Record.complete old e) }, ())
  | .saveMember id old c, db =>
    match (db.members[id]?).bind (old.save c) with
    | some m => ({ db with members := db.members.set id m }, true)
    | none => (db, false)
  | .insertTransaction t, db =>
    if db.transactions.any fun r => r.transaction.transactionId = t.transactionId then
      (db, none)
    else
      ({ db with transactions := db.transactions ++ [⟨t, false⟩] },
        some db.transactions.length)
  | .saveContent id loaded accepted, db =>
    if accepted then
      ({ db with contents := db.contents.modify id fun c =>
          { c with purchases := loaded.purchases + 1
                   revenue := assign loaded.revenue (loaded.revenue + loaded.price)
                     c.revenue } }, true)
    else (db, false)
  | .saveCreator id loaded earnings, db =>
    ({ db with creators := db.creators.modify id fun c =>
        { totalEarnings :=
            assign loaded.totalEarnings (loaded.totalEarnings + earnings) c.totalEarnings
          monthlyEarnings :=
            assign loaded.monthlyEarnings (loaded.monthlyEarnings + earnings)
              c.monthlyEarnings } }, ())

theorem exec_saveMember (id : Nat) (old : Member) (c : CreditChange) (db : Db) :
    ((db.members[id]?).bind (old.save c) = none ∧ exec (.saveMember id old c) db = (db, false))
      ∨ ∃ m m', db.members[id]? = some m ∧ old.save c m = some m'
        ∧ exec (.saveMember id old c) db = ({ db with members := db.members.set id m' }, true) := by
  cases h : (db.members[id]?).bind (old.save c) with
  | none =>
    refine .inl ⟨rfl, ?_⟩
    simp only [exec, h]
  | some m' =>
    obtain ⟨m, hm, hs⟩ := Option.bind_eq_some_iff.mp h
    refine .inr ⟨m, m', hm, hs, ?_⟩
    simp only [exec, h]

/-! ## The handlers -/

inductive Data where
  | transaction (t : Transaction)
  | purchase (contentId : Nat) (remainingCredits : Number)

abbrev Handler := Proc Op.Res (Response Data)

def nullError (property : String) : String :=
  "Cannot read properties of null (reading '" ++ property ++ "')"

def validationError (paths : List String) : String :=
  "Transaction validation failed: " ++ ", ".intercalate paths

def handleWidgetWebhook : Handler := do
  let some (id, record) ← perform (Op.findTransaction e.key)
    | return .failure 404 "Transaction not found"
  perform (Op.completeTransaction id record.transaction e)
  let memberId := record.transaction.memberId
  match ← perform (Op.findMemberById memberId) with
  | none => return .success 200 "Webhook processed successfully" none
  | some member =>
    let saved ← perform (Op.saveMember memberId member (.topup e.creditsToAdd))
    if !saved then
      return .failure 500 "Member validation failed: credits"
    return .success 200 "Webhook processed successfully" none

def debit (memberId : Nat) (member : Member) (amount : Number) :
    Proc Op.Res (Option (Response Data)) := do
  if member.credits.lt amount then
    return some (.failure 400 "Insufficient credits")
  let saved ← perform (Op.saveMember memberId member (.spend amount none))
  if !saved then
    return some (.failure 500 "Member validation failed: credits")
  return none

structure TipRequest where
  user : Nat
  creatorId : Ref
  amount : Value

def TipRequest.input (r : TipRequest) (creatorId : Nat) : TransactionInput :=
  { creator := some creatorId, type := some "tip", amount := r.amount,
    status := some "completed" }

def createTip (r : TipRequest) : Handler := do
  let found ← perform (Op.findMember r.user)
  if r.creatorId = .malformed then
    return .failure 500 (castError "Creator")
  let some (creatorId, creator) ← perform (Op.findCreator r.creatorId)
    | return .failure 404 "Creator not found"
  let some (memberId, member) := found | return .failure 500 (nullError "credits")
  match ← debit memberId member r.amount.toNumber with
  | some answer => return answer
  | none =>
    match Transaction.create (r.input creatorId) with
    | .error paths => return .failure 500 (validationError paths)
    | .ok t =>
      let some _ ← perform (Op.insertTransaction t)
        | return .failure 500 "E11000 duplicate key error"
      perform (Op.saveCreator creatorId creator t.creatorEarnings)
      return .success 201 "" (some (.transaction t))

structure PurchaseRequest where
  user : Nat
  contentId : Ref
  paymentMethod : Value
  contentAccepted : Bool

variable (r : PurchaseRequest)

/-- `paymentMethod = 'credits'` in the body, by default too. -/
def PurchaseRequest.byCredits : Bool :=
  match r.paymentMethod with
  | .undefined => true
  | .str s => s = "credits"
  | _ => false

/-- The text for the path `paymentMethod`. What is no text fails at the path
like a text outside the enumeration. -/
def PurchaseRequest.method : Option String :=
  match r.paymentMethod with
  | .undefined => some "credits"
  | .null => none
  | v => some ((textOf v).getD "")

def purchaseInput (content : Content) (method : Option String) : TransactionInput :=
  { creator := some content.creator, type := some "content_purchase",
    amount := .num (.fin content.price), paymentMethod := method, status := some "completed" }

/-- The payment step of `createPurchase`: other methods than credits are taken
for paid. -/
def PurchaseRequest.pay (memberId : Nat) (member : Member) (price : ℚ) :
    Proc Op.Res (Option (Response Data)) :=
  if r.byCredits then debit memberId member (.fin price) else pure none

def PurchaseRequest.record (contentId : Nat) (content : Content)
    (creator : Option Creator) : Handler := do
  if creator.isNone then
    return .failure 500 (nullError "_id")
  match Transaction.create (purchaseInput content r.method) with
  | .error paths => return .failure 500 (validationError paths)
  | .ok t =>
    let some _ ← perform (Op.insertTransaction t)
      | return .failure 500 "E11000 duplicate key error"
    let stored ← perform (Op.saveContent contentId content r.contentAccepted)
    if !stored then
      return .failure 500 "Content validation failed"
    let some (creatorId, creator) ← perform (Op.findCreator (.id content.creator))
      | return .failure 500 (nullError "stats")
    perform (Op.saveCreator creatorId creator t.creatorEarnings)
    return .success 201 "" (some (.transaction t))

def createPurchase : Handler := do
  let found ← perform (Op.findMember r.user)
  if r.contentId = .malformed then
    return .failure 500 (castError "Content")
  let some (contentId, content, creator) ← perform (Op.findContent r.contentId)
    | return .failure 404 "Content not found"
  let some (memberId, member) := found | return .failure 500 (nullError "_id")
  let purchased ← perform (Op.findPurchase memberId contentId)
  if purchased.isSome then
    return .failure 400 "Content already purchased"
  match ← r.pay memberId member content.price with
  | some answer => return answer
  | none => r.record contentId content creator

structure BuyRequest where
  user : Nat
  contentId : Ref
  contentAccepted : Bool

def purchaseContent (r : BuyRequest) : Handler := do
  let found ← perform (Op.findMember r.user)
  if r.contentId = .malformed then
    return .failure 500 (castError "Content")
  let some (contentId, content, creator) ← perform (Op.findContent r.contentId)
    | return .failure 404 "Content not found"
  let some (memberId, member) := found | return .failure 500 (nullError "purchasedContent")
  if contentId ∈ member.purchasedContent then
    return .failure 400 "Content already purchased"
  if member.credits.lt (.fin content.price) then
    return .failure 400 "Insufficient credits"
  if creator.isNone then
    return .failure 500 (nullError "_id")
  let saved ← perform
    (Op.saveMember memberId member (.spend (.fin content.price) (some contentId)))
  if !saved then
    return .failure 500 "Member validation failed: credits"
  let stored ← perform (Op.saveContent contentId content r.contentAccepted)
  if !stored then
    return .failure 500 "Content validation failed"
  match Transaction.create (purchaseInput content none) with
  | .error paths => return .failure 500 (validationError paths)
  | .ok t =>
    let some _ ← perform (Op.insertTransaction t)
      | return .failure 500 "E11000 duplicate key error"
    let some (creatorId, creator) ← perform (Op.findCreator (.id content.creator))
      | return .failure 500 (nullError "stats")
    perform (Op.saveCreator creatorId creator (content.price * (4 / 5)))
    return .success 200 ""
      (some (.purchase contentId (member.credits.sub (.fin content.price))))

inductive Spend where
  | tip (r : TipRequest)
  | purchase (r : PurchaseRequest)
  | buy (r : BuyRequest)

def Spend.handle : Spend → Handler
  | .tip r => createTip r
  | .purchase r => createPurchase r
  | .buy r => purchaseContent r

theorem create_refused {d : TransactionInput} (h : d.transactionId = none) :
    Transaction.create d = .error d.failures := by
  unfold Transaction.create
  rw [h]

end SexySelfies.Wallet
