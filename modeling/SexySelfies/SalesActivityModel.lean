import SexySelfies.SalesLimitsModel

/-!
# Sales activity of a creator

The record of a creator's sales activity (`CreatorSalesActivity`) and the four handlers of
`memberProfile.controller.js` that count in it. `recordInteraction` starts the counters of the day
anew when the date is another one, by assigning a plain object: its children are then `undefined`
(`none`), and adding to one gives `NaN`, which fails validation.
-/

namespace SexySelfies.SalesActivity

open Js Platform
open SalesLimits (Calendar)

/-! ## The record -/

inductive Kind where
  | pokes
  | likes
  | messages
  | specialOffers
deriving DecidableEq

structure Interactions where
  pokes : Option Number
  likes : Option Number
  messages : Option Number
  specialOffers : Option Number
  totalInteractions : Option Number

variable (i : Interactions)

def Interactions.get : Kind → Option Number
  | .pokes => i.pokes
  | .likes => i.likes
  | .messages => i.messages
  | .specialOffers => i.specialOffers

def Interactions.set (n : Number) : Kind → Interactions
  | .pokes => { i with pokes := some n }
  | .likes => { i with likes := some n }
  | .messages => { i with messages := some n }
  | .specialOffers => { i with specialOffers := some n }

structure Limit where
  limit : Number
  used : Number

def Limit.reached (l : Limit) : Bool := Number.le l.limit l.used

/-- `pokes`, `messages` and `offers` are the paths under `limits.daily`. -/
structure Record where
  date : Nat
  interactions : Interactions
  segmentsEngaged : String → Option Number
  pokes : Limit
  messages : Limit
  offers : Limit
  messagesPerHour : Number
  awareness : Number

variable (record : Record)

/-- There is none for likes. -/
def Record.limit : Kind → Option Limit
  | .pokes => some record.pokes
  | .likes => none
  | .messages => some record.messages
  | .specialOffers => some record.offers

def Record.new (date : Nat) (pokes messages offers : Number) : Record where
  date := date
  interactions := ⟨some (.fin 0), some (.fin 0), some (.fin 0), some (.fin 0), some (.fin 0)⟩
  segmentsEngaged _ := some (.fin 0)
  pokes := ⟨pokes, .fin 0⟩
  messages := ⟨messages, .fin 0⟩
  offers := ⟨offers, .fin 0⟩
  messagesPerHour := .fin 0
  awareness := .fin 0

def orZero : Option Number → Number
  | some n => if n.truthy then n else .fin 0
  | none => .fin 0

theorem orZero_fin (q : ℚ) : orZero (some (.fin q)) = .fin q := by
  rw [orZero]
  split
  · rfl
  · rename_i hz
    simp only [Number.truthy, Bool.not_eq_true, decide_eq_false_iff_not, not_not] at hz
    rw [hz]

def increment (n : Option Number) : Number := (n.getD .nan).add (.fin 1)

theorem increment_fin (k : Nat) : increment (some (.fin k)) = .fin (k + 1 : Nat) := by
  rw [increment, Option.getD_some, Number.add_fin, Nat.cast_add, Nat.cast_one]

variable (type : Kind)

def Interactions.count : Interactions :=
  let i := i.set ((orZero (i.get type)).add (.fin 1)) type
  { i with totalInteractions := some (increment i.totalInteractions) }

def atLeastZero (n : Number) : Bool := Number.le (.fin 0) n

def Record.resetDay (today : Nat) : Record :=
  if record.date = today then record
  else
    { record with
      date := today
      interactions := ⟨none, none, none, none, none⟩
      segmentsEngaged := fun _ => none }

def declaredSegments : List String := ["whales", "vips", "regular", "new", "returning", "atRisk"]

variable (memberSegment : Option String)

/-- A segment that is not declared is set on an object that is not stored. -/
def Record.engage : Record :=
  match memberSegment with
  | none => record
  | some name =>
    if name ∈ declaredSegments then
      { record with
        segmentsEngaged := Function.update record.segmentsEngaged name
          (some ((orZero (record.segmentsEngaged name)).add (.fin 1))) }
    else record

def Limit.use (l : Limit) : Limit := { l with used := increment (some l.used) }

def Record.useLimit : Kind → Record
  | .messages =>
    { record with
      messages := record.messages.use
      messagesPerHour := increment (some record.messagesPerHour) }
  | .pokes => { record with pokes := record.pokes.use }
  | .specialOffers => { record with offers := record.offers.use }
  | .likes => record

def Record.validates : Bool :=
  (record.interactions.get type).all atLeastZero &&
    record.interactions.totalInteractions.all atLeastZero &&
    memberSegment.all (fun name => (record.segmentsEngaged name).all atLeastZero) &&
    (record.limit type).all (fun l => atLeastZero l.used) &&
    (type ≠ .messages || record.messagesPerHour ≠ .nan) && atLeastZero record.awareness

def Record.count (today : Nat) :
    Record :=
  let record := record.resetDay today
  let record := { record with interactions := record.interactions.count type }
  let record := (record.engage memberSegment).useLimit type
  { record with awareness := increment (some record.awareness) }

/-- `none` when `save` rejects. -/
def Record.recordInteraction
    (today : Nat) : Option Record :=
  let record := record.count type memberSegment today
  if record.validates type memberSegment then some record else none

/-! ## Requests -/

structure Interaction where
  member : Nat
  interactionType : Kind
  createdAt : Nat

structure Db where
  record : Record
  interactions : List Interaction

structure Analytics where
  tier : String
  allowBulkMessages : Bool
  allowSpecialOffers : Bool

/-- `saved` tells whether the offer and the interaction are created and saved,
and `hooked` whether the hooks of the record let its save through; `findUser`
tells which ids are users'. -/
structure Request where
  now : Nat
  memberId : String
  message : Value
  offerType : Value
  memberAnalytics : Option Analytics
  saved : Bool
  hooked : Bool
  creatorFound : Bool
  findUser : Value → Bool

inductive Answer where
  | failure (status : Nat) (message : String) (limit : Option Number)
  | success (message : String)
deriving DecidableEq

def Answer.isSuccess : Answer → Bool
  | .failure .. => false
  | .success _ => true

variable (r : Request)

/-- `User.findById`: an `undefined` id is looked up as `null`, which is no user's. -/
def Request.findById (id : Value) : Bool := !id.isNullish && r.findUser id

/-- It throws when there is no recipient. The handlers pass the member's id
where the function expects an object with a `recipientId`. -/
def sendNotification (notificationData : Value) : Bool :=
  r.findById (notificationData.get "recipientId")

def Request.notified : Bool :=
  r.creatorFound && sendNotification r (.str r.memberId)

theorem not_notified : r.notified = false := Bool.and_false _

/-- Whether the member's settings refuse the text as a bulk message. -/
def Request.isBulk (text : String) : Bool :=
  r.memberAnalytics.any fun analytics => !analytics.allowBulkMessages &&
    !(100 < utf16Length text && !includes text.toList "\x7bname\x7d".toList)

def Request.refusesOffers : Bool :=
  r.memberAnalytics.any fun analytics => !analytics.allowSpecialOffers

/-! ## Handlers -/

variable (cal : Calendar) (castId : String → Option Nat)

/-- The end of the four handlers: save the interaction, count it, and notify
the member. -/
def Db.interact (db : Db) (type : Kind) (member : Nat) (r : Request) (sent error : String) :
    Db × Answer :=
  if r.saved then
    let db := { db with interactions := ⟨member, type, r.now⟩ :: db.interactions }
    match if r.hooked then
        db.record.recordInteraction type (r.memberAnalytics.map Analytics.tier) (cal.date r.now)
      else none with
    | none => (db, .failure 500 error none)
    | some record =>
      ({ db with record },
        if r.notified then .success sent else .failure 500 error none)
  else (db, .failure 500 error none)

def Db.recentPoke (db : Db) (member now : Nat) : Bool :=
  db.interactions.any fun i =>
    i.member = member && i.interactionType = .pokes && now ≤ i.createdAt + 24 * 60 * 60 * 1000

def Db.existingLike (db : Db) (member : Nat) : Bool :=
  db.interactions.any fun i => i.member = member && i.interactionType = .likes

variable (r : Request) (db : Db)

def pokeMember : Db × Answer :=
  match castId r.memberId with
  | none => (db, .failure 500 "Error sending poke" none)
  | some member =>
    if db.recentPoke member r.now then
      (db, .failure 429 "Already poked this member recently. Wait 24 hours." none)
    else if db.record.pokes.reached then
      (db, .failure 429 "Daily poke limit reached" (some db.record.pokes.limit))
    else db.interact cal .pokes member r "Poke sent successfully" "Error sending poke"

def likeMember : Db × Answer :=
  match castId r.memberId with
  | none => (db, .failure 500 "Error liking member" none)
  | some member =>
    if db.existingLike member then (db, .failure 400 "Already liked this member" none)
    else db.interact cal .likes member r "Like sent successfully" "Error liking member"

/-- `message.trim()` throws on what is not a string. -/
def sendMessageToMember : Db × Answer :=
  if !r.message.truthy then (db, .failure 400 "Message content is required" none)
  else
    match r.message with
    | .str text =>
      if (trim text.toList).isEmpty then (db, .failure 400 "Message content is required" none)
      else if db.record.messages.reached then
        (db, .failure 429 "Daily message limit reached" (some db.record.messages.limit))
      else
        match castId r.memberId with
        | none => (db, .failure 500 "Error sending message" none)
        | some member =>
          if r.isBulk text then
            (db, .failure 403
              "Member does not accept bulk messages. Try a more personalized approach." none)
          else
            db.interact cal .messages member r "Message sent successfully"
              "Error sending message"
    | _ => (db, .failure 500 "Error sending message" none)

def sendSpecialOffer : Db × Answer :=
  if !r.offerType.truthy || !r.message.truthy then
    (db, .failure 400 "Offer type and message are required" none)
  else if db.record.offers.reached then
    (db, .failure 429 "Daily offer limit reached" (some db.record.offers.limit))
  else
    match castId r.memberId with
    | none => (db, .failure 500 "Error sending special offer" none)
    | some member =>
      if r.refusesOffers then (db, .failure 403 "Member does not accept special offers" none)
      else
        db.interact cal .specialOffers member r "Special offer sent successfully"
          "Error sending special offer"

structure Call where
  kind : Kind
  request : Request

def Call.run (c : Call) (db : Db) : Db × Answer :=
  match c.kind with
  | .pokes => pokeMember cal castId c.request db
  | .likes => likeMember cal castId c.request db
  | .messages => sendMessageToMember cal castId c.request db
  | .specialOffers => sendSpecialOffer cal castId c.request db

end SexySelfies.SalesActivity
