import SexySelfies.Collection
import SexySelfies.CivilDate
import SexySelfies.Interleave
import SexySelfies.Platform

/-!
# Payment methods

`models/PaymentMethod.js`, the handlers `addPaymentMethod` and `removePaymentMethod` of
`ccbill.payment.controller.js`, and what they use of `ccbill.service.js`. A `save` is a program of
its own: validation, two hooks and the write of the paths that differ from what was loaded.
-/

namespace SexySelfies.Cards

open Js Platform CivilDate Interleave

inductive CardType where
  | visa
  | masterCard
  | americanExpress
  | discover
  | other
deriving DecidableEq

variable (cardNumber : String)

def stripSpaces : List Char :=
  cardNumber.toList.filter fun c => !isSpace c

def lastFour (cs : List Char) : List Char := cs.drop (cs.length - 4)

def luhnSum : List Char → Bool → Nat
  | [], _ => 0
  | c :: cs, isEven =>
    let digit := c.toNat - '0'.toNat
    let doubled := if digit * 2 > 9 then digit * 2 - 9 else digit * 2
    (if isEven then doubled else digit) + luhnSum cs (!isEven)

def validateCardNumber : Bool :=
  let digits := stripSpaces cardNumber
  !digits.isEmpty && digits.all Char.isDigit && luhnSum digits.reverse false % 10 = 0

def detectType (digits : List Char) : CardType :=
  if !digits.all Char.isDigit then .other
  else match digits, digits.length with
    | '4' :: _, 13 => .visa
    | '4' :: _, 16 => .visa
    | '5' :: c :: _, 16 => if '1' ≤ c ∧ c ≤ '5' then .masterCard else .other
    | '3' :: c :: _, 15 => if c = '4' ∨ c = '7' then .americanExpress else .other
    | '6' :: '0' :: '1' :: '1' :: _, 16 => .discover
    | '6' :: '5' :: _, 16 => .discover
    | _, _ => .other

def detectCardType : CardType := detectType (stripSpaces cardNumber)

/-! ## Cards -/

structure Card where
  user : Nat
  token : String
  last4 : List Char
  cardType : CardType
  expiryMonth : Number
  expiryYear : Number
  isDefault : Bool
  isActive : Bool
  lastUsedAt : Option Date
deriving DecidableEq

variable (today : Date)

def Card.valid (c : Card) : Bool :=
  c.last4.length = 4 && c.last4.all Char.isDigit
    && Number.le (.fin 1) c.expiryMonth && Number.le c.expiryMonth (.fin 12)
    && Number.le (.fin today.year) c.expiryYear

def expired (month year : Number) : Bool :=
  Number.lt year (.fin today.year)
    || (year = .fin today.year && Number.lt month (.fin (today.month + 1 : Nat)))

def Card.isExpired (c : Card) : Bool := expired today c.expiryMonth c.expiryYear

def Card.checkExpiry (c : Card) : Card :=
  if c.isExpired today then { c with isActive := false } else c

def Card.write (loaded new stored : Card) : Card :=
  { stored with
    isDefault := assign loaded.isDefault new.isDefault stored.isDefault
    isActive := assign loaded.isActive new.isActive stored.isActive
    lastUsedAt := assign loaded.lastUsedAt new.lastUsedAt stored.lastUsedAt }

abbrev Db := List Card

variable (db : Db)

def Db.othersOf (user : Nat) (except : Option Nat) : List Nat :=
  (List.range db.length).filter fun i => db[i]?.any (·.user = user) && some i ≠ except

inductive Op where
  /-- `findOne({ _id, user })` -/
  | find (id user : Nat)
  /-- `findOne({ user, last4, cardType })` -/
  | findLike (user : Nat) (last4 : List Char) (cardType : CardType)
  /-- `updateMany({ user, _id: { $ne } }, { isDefault: false })` -/
  | unsetDefaults (user : Nat) (except : Option Nat)
  | insert (card : Card)
  | save (id : Nat) (loaded new : Card)

def Op.Res : Op → Type
  | .find _ _ => Option Card
  | .findLike _ _ _ => Option (Nat × Card)
  | .unsetDefaults _ _ => Unit
  | .insert _ => Option Nat
  | .save _ _ _ => Unit

/-- The index on `token` is unique. -/
def exec : (o : Op) → Db → Db × o.Res
  | .find id user, db => (db, (db[id]?).filter fun c => c.user = user)
  | .findLike user last4 cardType, db =>
    (db, Collection.findOne
      (fun c => c.user = user && c.last4 = last4 && c.cardType = cardType) db)
  | .unsetDefaults user except, db =>
    (Collection.updateMany (db.othersOf user except) (fun c => { c with isDefault := false }) db,
      ())
  | .insert card, db =>
    if db.any fun c => c.token = card.token then (db, none) else (db ++ [card], some db.length)
  | .save id loaded new, db => (db.modify id (loaded.write new), ())

def ensureOneDefault (unset : Bool) (user : Nat) (id : Option Nat) : Proc Op.Res Unit :=
  if unset then perform (Op.unsetDefaults user id) else pure ()

def saveNew (card : Card) : Proc Op.Res (Option (Nat × Card)) :=
  if !card.valid today then pure none
  else do
    ensureOneDefault card.isDefault card.user none
    let id ← perform (Op.insert (card.checkExpiry today))
    return id.map (·, card.checkExpiry today)

variable (id : Nat)

def saveLoaded (loaded new : Card) : Proc Op.Res (Option Card) :=
  if !new.valid today then pure none
  else do
    ensureOneDefault (new.isDefault && new.isDefault ≠ loaded.isDefault) new.user (some id)
    perform (Op.save id loaded (new.checkExpiry today))
    return some (new.checkExpiry today)

def setAsDefault (card : Card) : Proc Op.Res (Option Card) := do
  perform (Op.unsetDefaults card.user (some id))
  saveLoaded today id card { card with isDefault := true }

def deactivate (card : Card) : Proc Op.Res (Option Card) :=
  saveLoaded today id card { card with isActive := false }

def markUsed (card : Card) : Proc Op.Res (Option Card) :=
  saveLoaded today id card { card with lastUsedAt := some today }

def Db.methods (p : Card → Bool) : List (Nat × Card) :=
  ((db.zipIdx.filter fun x => p x.1).map fun x => (x.2, x.1)).reverse

/-- `find({ user, isActive: true }).sort({ isDefault: -1, createdAt: -1 })`. -/
def getUserMethods (user : Nat) : List (Nat × Card) :=
  db.methods (fun c => c.user = user && c.isActive && c.isDefault)
    ++ db.methods (fun c => c.user = user && c.isActive && !c.isDefault)

def getDefaultMethod (user : Nat) : Option (Nat × Card) :=
  Collection.findOne (fun c => c.user = user && c.isDefault && c.isActive) db

/-! ## Handlers -/

/-- Cast to `Boolean`, for a value that is neither `null` nor `undefined`. -/
def castBoolean : Value → Option Bool
  | .bool b => some b
  | .num (.fin q) => if q = 1 then some true else if q = 0 then some false else none
  | .str s =>
    if s ∈ ["true", "1", "yes"] then some true
    else if s ∈ ["false", "0", "no"] then some false
    else none
  | _ => none

structure AddRequest where
  cardData : Value
  setAsDefault : Value
  billingCasts : Bool
  gateway : Except String (Option String)
  today : Date

def AddRequest.isDefault (r : AddRequest) : Option Bool :=
  if r.setAsDefault.truthy then castBoolean r.setAsDefault else some false

def AddRequest.complete (r : AddRequest) : Bool :=
  r.cardData.truthy && (r.cardData.get "cardNumber").truthy
    && (r.cardData.get "expiryMonth").truthy && (r.cardData.get "expiryYear").truthy
    && (r.cardData.get "cvv").truthy

variable (user : Nat)

def AddRequest.card (cardNumber : String) (token : Option String) (r : AddRequest) :
    Option Card := do
  let token ← token
  let month ← castNumber (r.cardData.get "expiryMonth")
  let expiryMonth ← month
  let year ← castNumber (r.cardData.get "expiryYear")
  let expiryYear ← year
  let isDefault ← r.isDefault
  if r.billingCasts && token ≠ "" then
    some { user, token, last4 := lastFour cardNumber.toList, cardType := detectCardType cardNumber,
           expiryMonth, expiryYear, isDefault, isActive := true, lastUsedAt := none }
  else none

def storeCard (card : Option Card) : Proc Op.Res (Response (Nat × Card)) :=
  match card with
  | none => pure (.failure 500 "PaymentMethod validation failed")
  | some card => do
      match ← saveNew today card with
      | none => return .failure 500 "PaymentMethod validation failed"
      | some (id, card) =>
        if card.isDefault then
          match ← setAsDefault today id card with
          | none => return .failure 500 "PaymentMethod validation failed"
          | some card => return .success 200 "" (some (id, card))
        else return .success 200 "" (some (id, card))

def addPaymentMethod (r : AddRequest) : Proc Op.Res (Response (Nat × Card)) :=
  if !r.complete then pure (.failure 400 "Missing required card information")
  else match r.cardData.get "cardNumber" with
    | .str cardNumber =>
      if !validateCardNumber cardNumber then pure (.failure 400 "Invalid card number")
      else match r.gateway with
        | .error message => pure (.failure 500 message)
        | .ok token => do
            let existingMethod ← perform
              (Op.findLike user (lastFour cardNumber.toList) (detectCardType cardNumber))
            match existingMethod with
            | some _ => return .failure 400 "This payment method already exists"
            | none => storeCard r.today (r.card user cardNumber token)
    | _ => pure (.failure 500 "cardNumber.replace is not a function")

def withCard (id : Ref) (error : String)
    (f : Nat → Card → Proc Op.Res (Response (Nat × Card))) : Proc Op.Res (Response (Nat × Card)) :=
  match id with
  | .malformed => pure (.failure 500 error)
  | .absent => pure (.failure 404 "Payment method not found")
  | .id id => do
      match ← perform (Op.find id user) with
      | none => return .failure 404 "Payment method not found"
      | some card => f id card

def answerSaved (error message : String) (id : Nat) (saved : Option Card) : Response (Nat × Card) :=
  match saved with
  | none => .failure 500 error
  | some card => .success 200 message (some (id, card))

def removePaymentMethod (id : Ref) (today : Date) :
    Proc Op.Res (Response (Nat × Card)) :=
  withCard user id "Failed to remove payment method" fun id card => do
    let saved ← deactivate today id card
    return answerSaved "Failed to remove payment method" "Payment method removed successfully"
      id saved

/-- An operation on a user's cards. The methods `setAsDefault` and `markUsed`
are called on a card loaded for the purpose. -/
inductive Call where
  | add (r : AddRequest)
  | remove (id : Ref) (today : Date)
  | setAsDefault (id : Ref) (today : Date)
  | markUsed (id : Ref) (today : Date)

def handle : Call → Proc Op.Res (Response (Nat × Card))
  | .add r => addPaymentMethod user r
  | .remove id today => removePaymentMethod user id today
  | .setAsDefault id today =>
    withCard user id "" fun id card => do
      return answerSaved "" "" id (← setAsDefault today id card)
  | .markUsed id today =>
    withCard user id "" fun id card => do
      return answerSaved "" "" id (← markUsed today id card)

def january (year : Int) : Date := firstOf year 0 (Nat.zero_lt_succ 11)

def sampleAdd (cardNumber token : String) (setAsDefault : Bool) : AddRequest :=
  { cardData := .obj [("cardNumber", .str cardNumber), ("expiryMonth", .num (.fin 12)),
      ("expiryYear", .num (.fin 2026)), ("cvv", .str "123")]
    setAsDefault := .bool setAsDefault
    billingCasts := true
    gateway := .ok (some token)
    today := january 2026 }

end SexySelfies.Cards
