import SexySelfies.Collection
import SexySelfies.ModerationModel

/-!
# Contact between creators and members

The requests that write the list of blocked creators (`memberPrivacy.routes.js`), the middlewares
that read it (`checkMemberOptIn` and `respectBlockList` of `privacy.middleware.js`), and the
handlers that address many members (`sendBulkMessage` and `sendBulkOffer` of
`memberProfile.controller.js`).

The routes of the member take `req.user.memberId`, a path that `models/User.js` does not declare. A
filter on it matches a record that lacks the field.
-/

namespace SexySelfies.Contact

open Js Platform

inductive Tier where
  | whale
  | vip
  | regular
  | occasional
  | new
deriving DecidableEq

/-- A stored record. A flag that is missing counts as set when the document is
loaded, but matches no query. -/
structure Record where
  member : Option Nat
  discoverable : Option Bool
  allowBulkMessages : Option Bool
  allowSpecialOffers : Option Bool
  blockedCreators : List Nat
  tier : Tier
deriving DecidableEq

abbrev Db := List Record

/-- No member has two records. -/
def Distinct (db : Db) : Prop := (db.filterMap Record.member).Nodup

def newRecord (member : Option Nat) : Record :=
  ⟨member, some true, some true, some true, [], .new⟩

def memberOf : Ref → Option Nat
  | .id n => some n
  | .absent | .malformed => none

variable (objectId : Value → Ref)

/-- `req.user.memberId`; `objectId` reads a value as an id. -/
def memberIdOf (user : Moderation.User) : Ref :=
  match user.get "memberId" with
  | .undefined => .absent
  | v => objectId v

theorem memberIdOf_eq (user : Moderation.User) :
    memberIdOf objectId user = .absent := by
  rw [memberIdOf, Moderation.get_of_not_declared (by decide)]

/-! ## Blocking -/

variable (creator : Nat)

def addToSet (r : Record) : Record :=
  { r with blockedCreators :=
      if creator ∈ r.blockedCreators then r.blockedCreators else r.blockedCreators ++ [creator] }

def pull (r : Record) : Record :=
  { r with blockedCreators := r.blockedCreators.filter (· ≠ creator) }

variable (memberId : Ref) (db : Db)

def indexOf : Option Nat :=
  db.findIdx? fun r => r.member = memberOf memberId

/-- `POST /block`. The answer has the number of creators that are blocked. -/
def block (memberId creatorId : Ref) (db : Db) : Db × Response Nat :=
  match creatorId, memberId with
  | .absent, _ => (db, .failure 400 "Creator ID is required")
  | .malformed, _ => (db, .failure 500 "Error blocking creator")
  | .id _, .malformed => (db, .failure 500 "Error blocking creator")
  | .id creator, memberId =>
    match indexOf memberId db with
    | some i =>
      let db := db.modify i (addToSet creator)
      (db, .success 200 "Creator blocked successfully"
        (db[i]?.map fun r => r.blockedCreators.length))
    | none =>
      let r := addToSet creator (newRecord (memberOf memberId))
      (db ++ [r], .success 200 "Creator blocked successfully" (some r.blockedCreators.length))

/-- `DELETE /block/:creatorId`. Without a record the handler throws. -/
def unblock (memberId creatorId : Ref) (db : Db) : Db × Response Nat :=
  match creatorId, memberId with
  | .id creator, .absent | .id creator, .id _ =>
    match indexOf memberId db with
    | some i =>
      let db := db.modify i (pull creator)
      (db, .success 200 "Creator unblocked successfully"
        (db[i]?.map fun r => r.blockedCreators.length))
    | none => (db, .failure 500 "Error unblocking creator")
  | _, _ => (db, .failure 500 "Error unblocking creator")

inductive Verdict where
  | next
  | refused (status : Nat) (message : String)
deriving DecidableEq

def find (memberId : Nat) (db : Db) : Option Record := db.find? fun r => r.member = some memberId

/-- `interactionPreferences` is not declared, so the check of the kind of
contact never applies. -/
def checkMemberOptIn : Verdict :=
  match memberId with
  | .absent => .next
  | .malformed => .refused 500 "Error checking member privacy settings"
  | .id member =>
    match find member db with
    | none => .refused 404 "Member not found"
    | some r =>
      if !r.discoverable.getD true then
        .refused 403 "This member has opted out of discovery"
      else if creator ∈ r.blockedCreators then
        .refused 403 "You cannot interact with this member"
      else .next

/-- What is thrown is caught, and the request goes on; `blockedMembers` is not
declared for creators. -/
def respectBlockList : Verdict :=
  match memberId with
  | .absent | .malformed => .next
  | .id member =>
    if db.any fun r => r.member = some member && creator ∈ r.blockedCreators then
      .refused 403 "You are blocked by this member"
    else .next

def admits : Verdict :=
  match checkMemberOptIn creator memberId db with
  | .next => respectBlockList creator memberId db
  | refused => refused

/-! ## Bulk requests -/

inductive Segment where
  | missing
  | invalid
  | all
  | tiers (p : Tier → Bool)

structure Order where
  sort : List Record → List Record
  perm : ∀ l, (sort l).Perm l

/-- `content` is `message` or `offerData`. `accepted` tells which of the
documents the database takes. -/
structure BulkRequest where
  content : Value
  segment : Segment
  maxRecipients : Value
  order : Order
  accepted : Nat → Bool

/-- A number as a limit: it has to be an integer of 64 bits, zero is no limit
and the sign does not count. -/
def numberLimit : Number → Option (Option Nat)
  | .fin q =>
    if q.den = 1 ∧ q.num.natAbs < 2 ^ 63 then
      some (if q.num = 0 then none else some q.num.natAbs)
    else none
  | _ => none

/-- `.limit(v)`: a text is cast to a number, and what is no number is no
limit. -/
def limitOf (v : Value) : Option (Option Nat) :=
  match v with
  | .num n => numberLimit n
  | .str "" => some none
  | .str s => numberLimit (numberOfString s)
  | _ => some none

def orDefault (v : Value) (n : Nat) : Value :=
  match v with
  | .undefined => .num (.fin n)
  | v => v

def take {α : Type} : Option Nat → List α → List α
  | none, l => l
  | some n, l => l.take n

def Segment.query : Segment → Option (Tier → Bool)
  | .missing | .invalid => none
  | .all => some fun _ => true
  | .tiers p => some p

variable (allows : Record → Option Bool)

def selects (inSegment : Tier → Bool)
    (a : Record) : Bool :=
  a.discoverable = some true && !decide (creator ∈ a.blockedCreators)
    && allows a = some true && inSegment a.tier

def findMembers (most : Nat) (r : BulkRequest)
    (db : Db) : Option (List Record) :=
  match r.segment.query, limitOf (orDefault r.maxRecipients most) with
  | some inSegment, some limit =>
    some (take limit (r.order.sort (db.filter (selects creator allows inSegment))))
  | _, _ => none

def saves (r : BulkRequest) (k : Nat) (a : Record) : Option Nat :=
  if castsWithin 1000 r.content && r.accepted k then a.member else none

/-- The loop of `sendBulkMessage`: the members for whom an interaction is
saved, and the count. -/
def sendAll (r : BulkRequest) : Nat → List Record → Nat → List Nat × Nat
  | _, [], sentCount => ([], sentCount)
  | k, a :: rest, sentCount =>
    match saves r k a with
    | some member =>
      let (reached, sentCount) := sendAll r (k + 1) rest (sentCount + 1)
      (member :: reached, sentCount)
    | none => sendAll r (k + 1) rest sentCount

/-- The members reached, and the answer with `sentCount`. -/
def sendBulkMessage (r : BulkRequest) (db : Db) : List Nat × Response Nat :=
  match r.content.truthy, r.segment with
  | false, _ | _, .missing => ([], .failure 400 "Message and segment are required")
  | true, _ =>
    match findMembers creator Record.allowBulkMessages 50 r db with
    | none => ([], .failure 500 "Error sending bulk message")
    | some members =>
      let (reached, sentCount) := sendAll r 0 members 0
      (reached, .success 200 ("Bulk message sent to " ++ toString sentCount ++ " members")
        (some sentCount))

/-- The paths of a special offer that its validation needs; `details` says
whether the given offer passes. -/
structure SpecialOffer where
  members : List (Option Nat)
  details : Bool
  endDate : Option Nat

def SpecialOffer.valid (o : SpecialOffer) : Bool :=
  o.members.all Option.isSome && o.details && o.endDate.isSome

/-- The members reached, and the answer with `recipientCount`. The offer is
made without `validity`. -/
def sendBulkOffer (details : Bool) (creator : Nat) (r : BulkRequest) (db : Db) :
    List Nat × Response Nat :=
  match r.content.truthy, r.segment with
  | false, _ | _, .missing => ([], .failure 400 "Offer data and segment are required")
  | true, _ =>
    match findMembers creator Record.allowSpecialOffers 25 r db with
    | none => ([], .failure 500 "Error sending bulk offer")
    | some members =>
      let offer : SpecialOffer := ⟨members.map Record.member, details, none⟩
      if offer.valid && r.accepted 0 then
        (offer.members.filterMap id, .success 200
          ("Bulk offer sent to " ++ toString members.length ++ " members")
          (some members.length))
      else ([], .failure 500 "Error sending bulk offer")

/-! ## Who is reached -/

variable {creator : Nat} {r : BulkRequest} {db : Db}

theorem take_sublist {α : Type} (limit : Option Nat) (l : List α) : (take limit l).Sublist l := by
  cases limit with
  | none => exact List.Sublist.refl l
  | some n => exact List.take_sublist n l

theorem Distinct.sublist {members : List Record} (h : Distinct db) (hsub : members.Sublist db) :
    Distinct members := List.Nodup.sublist (hsub.filterMap Record.member) h

variable {allows : Record → Option Bool} {most : Nat} {members : List Record}

theorem findMembers_eq_some (h : findMembers creator allows most r db = some members) :
    ∃ i limit, r.segment.query = some i ∧ limitOf (orDefault r.maxRecipients most) = some limit
      ∧ members = take limit (r.order.sort (db.filter (selects creator allows i))) := by
  unfold findMembers at h
  split at h
  · rename_i i limit hseg hl
    exact ⟨i, limit, hseg, hl, (Option.some.inj h).symm⟩
  · cases h

theorem mem_findMembers (h : findMembers creator allows most r db = some members) {a : Record}
    (ha : a ∈ members) : a ∈ db ∧ a.discoverable = some true ∧ creator ∉ a.blockedCreators
      ∧ allows a = some true := by
  obtain ⟨i, limit, -, -, rfl⟩ := findMembers_eq_some h
  have hso := (take_sublist _ _).subset ha
  obtain ⟨hdb, hse⟩ := List.mem_filter.mp ((r.order.perm _).mem_iff.mp hso)
  simp only [selects, Bool.and_eq_true, Bool.not_eq_true', decide_eq_true_eq,
    decide_eq_false_iff_not] at hse
  obtain ⟨⟨⟨hdi, hblk⟩, hall⟩, -⟩ := hse
  exact ⟨hdb, hdi, hblk, hall⟩

theorem Distinct.findMembers (hun : Distinct db)
    (h : findMembers creator allows most r db = some members) : Distinct members := by
  obtain ⟨i, limit, -, -, rfl⟩ := findMembers_eq_some h
  have hf : Distinct (db.filter (selects creator allows i)) := hun.sublist List.filter_sublist
  have hso : Distinct (r.order.sort (db.filter (selects creator allows i))) :=
    ((r.order.perm _).filterMap Record.member).nodup_iff.mpr hf
  exact hso.sublist (take_sublist _ _)

variable {member : Nat}

theorem saves_eq {k : Nat} {a : Record} (h : saves r k a = some member) :
    a.member = some member := by
  unfold saves at h
  split at h
  · exact h
  · cases h

theorem mem_sendAll : ∀ {k s : Nat}, member ∈ (sendAll r k members s).1 →
      ∃ a ∈ members, a.member = some member := by
  induction members with
  | nil => exact fun h => absurd h List.not_mem_nil
  | cons a rest ih =>
    intro k s h
    rw [sendAll] at h
    split at h
    · rename_i saved hs
      rcases List.mem_cons.mp h with rfl | h
      · exact ⟨a, List.mem_cons_self, saves_eq hs⟩
      · obtain ⟨b, hb, hmb⟩ := ih h
        exact ⟨b, List.mem_cons_of_mem a hb, hmb⟩
    · obtain ⟨b, hb, hmb⟩ := ih h
      exact ⟨b, List.mem_cons_of_mem a hb, hmb⟩

theorem sendBulkMessage_cases : ((sendBulkMessage creator r db).1 = []
      ∧ (sendBulkMessage creator r db).2.isSuccess = false)
    ∨ ∃ members, findMembers creator Record.allowBulkMessages 50 r db = some members
      ∧ sendBulkMessage creator r db = ((sendAll r 0 members 0).1, .success 200
        ("Bulk message sent to " ++ toString (sendAll r 0 members 0).2 ++ " members")
        (some (sendAll r 0 members 0).2)) := by
  unfold sendBulkMessage
  split
  · exact .inl ⟨rfl, rfl⟩
  · exact .inl ⟨rfl, rfl⟩
  · split
    · exact .inl ⟨rfl, rfl⟩
    · rename_i members hmbs
      exact .inr ⟨members, hmbs, rfl⟩

theorem mem_sendBulkMessage (h : member ∈ (sendBulkMessage creator r db).1) :
    ∃ a ∈ db, a.member = some member ∧ a.discoverable = some true
      ∧ creator ∉ a.blockedCreators ∧ a.allowBulkMessages = some true := by
  rcases sendBulkMessage_cases with ⟨hn, -⟩ | ⟨members, hf, heq⟩
  · rw [hn] at h
    cases h
  · rw [heq] at h
    obtain ⟨a, ha, hmb⟩ := mem_sendAll h
    obtain ⟨hdb, hdi, hblk, hall⟩ := mem_findMembers hf ha
    exact ⟨a, hdb, hmb, hdi, hblk, hall⟩

theorem sendBulkOffer_none (details : Bool) : (sendBulkOffer details creator r db).1 = []
      ∧ (sendBulkOffer details creator r db).2.isSuccess = false := by
  unfold sendBulkOffer
  split
  · exact ⟨rfl, rfl⟩
  · exact ⟨rfl, rfl⟩
  · split
    · exact ⟨rfl, rfl⟩
    · simp [SpecialOffer.valid, Response.isSuccess]

end SexySelfies.Contact
