import SexySelfies.Platform
import SexySelfies.MemoryStore

/-!
# The sales limits of a creator

The middlewares of `salesLimits.middleware.js`. All of them count in one store in memory
(`MemoryStore`), under keys that name the creator, what is counted, and the local date or hour. A
creator that is not found throws; the error is caught and the request goes on.
-/

namespace SexySelfies.SalesLimits

open Js Platform

/-- `date`, `hours`, `midnight` and `nextHour` are `getDate` with month and
year, `getHours`, `setHours(24, 0, 0, 0)` and `setHours(getHours() + 1, 0, 0, 0)`. -/
structure Calendar where
  date : Nat → Nat
  hours : Nat → Nat
  midnight : Nat → Nat
  nextHour : Nat → Nat
  lt_midnight : ∀ t, t < midnight t
  date_eq_iff : ∀ t u, t ≤ u → (date u = date t ↔ u < midnight t)

theorem Calendar.midnight_eq_of_le (cal : Calendar) {t u : Nat} (hle : t ≤ u)
    (h : cal.date u = cal.date t) : cal.midnight u = cal.midnight t := by
  have hu : u < cal.midnight t := (cal.date_eq_iff t u hle).mp h
  have hu' := cal.lt_midnight u
  rcases Nat.lt_trichotomy (cal.midnight u) (cal.midnight t) with hlt | heq | hgt
  · have hs := (cal.date_eq_iff t (cal.midnight u) (hle.trans hu'.le)).mpr hlt
    have hov := (cal.date_eq_iff u (cal.midnight u) hu'.le).mp (hs.trans h.symm)
    exact absurd hov (Nat.lt_irrefl _)
  · exact heq
  · have hs := (cal.date_eq_iff u (cal.midnight t) hu.le).mpr hgt
    have hov := (cal.date_eq_iff t (cal.midnight t) (hle.trans hu.le)).mp (hs.trans h)
    exact absurd hov (Nat.lt_irrefl _)

def utc : Calendar where
  date t := t / 86400000
  hours t := t / 3600000 % 24
  midnight t := (t / 86400000 + 1) * 86400000
  nextHour t := (t / 3600000 + 1) * 3600000
  lt_midnight t := by omega
  date_eq_iff t u h := by omega

/-! ## Creators and requests -/

inductive VerificationLevel where
  | basic
  | standard
  | premium
  | vip
deriving DecidableEq

structure Creator where
  verificationLevel : Option VerificationLevel

inductive Lookup where
  | found
  | missing
  | failed

/-- `attached` tells whether `req.creator` is set; `action` is the last part of
the route. -/
structure Request where
  creatorId : Nat
  now : Nat
  attached : Bool
  findById : Lookup
  memberId : String
  action : String
  recipients : Value

/-- `req.creator || (await Creator.findById(creatorId))`; without a creator the
middleware throws, here or where it reads the level. -/
def Request.creator (level : Nat → Option VerificationLevel) (r : Request) : Option Creator :=
  if r.attached then some ⟨level r.creatorId⟩
  else
    match r.findById with
    | .found => some ⟨level r.creatorId⟩
    | .missing => none
    | .failed => none

structure RateLimit where
  limit : ℤ
  remaining : ℤ
  reset : Nat

/-- What an answer carries besides its text; `extra` is a field that only some
of the middlewares add. -/
inductive Details where
  | usage (limit : Option ℤ) (used resetsAt : Nat) (extra : Option (String × String))
  | levels (currentLevel : Option VerificationLevel) (requiredLevels : List VerificationLevel)
  | recipients (provided : Value) (maximum : Nat)
  | cooldown (remaining endsAt : ℤ)

inductive Answer where
  | next (headers : Option RateLimit)
  | refused (status : Nat) (message : String) (details : Details)

def Answer.isNext : Answer → Bool
  | .next _ => true
  | .refused .. => false

structure DailyLimits where
  profileViews : ℤ
  pokes : ℤ
  messages : ℤ
  specialOffers : ℤ
  bulkMessages : ℤ

/-- `-1` is no limit. -/
def getDailyLimits : Option VerificationLevel → DailyLimits
  | some .vip => ⟨-1, 200, 500, 50, 10⟩
  | some .premium => ⟨500, 100, 250, 25, 3⟩
  | some .standard => ⟨100, 50, 100, 10, 1⟩
  | some .basic => ⟨50, 25, 50, 5, 0⟩
  | none => ⟨50, 25, 50, 5, 0⟩

def DailyLimits.get (limits : DailyLimits) (name : String) : Option ℤ :=
  [("profileViews", limits.profileViews), ("pokes", limits.pokes), ("messages", limits.messages),
    ("specialOffers", limits.specialOffers), ("bulkMessages", limits.bulkMessages)].lookup name

inductive Key where
  | daily (creatorId : Nat) (name : String) (date : Nat)
  | hourly (creatorId : Nat) (name : String) (date hours : Nat)
  | cooldown (creatorId : Nat) (memberId : String) (action : String)
deriving DecidableEq

variable (cal : Calendar) (level : Nat → Option VerificationLevel) (r : Request)

def Request.dayKey (name : String) : Key := .daily r.creatorId name (cal.date r.now)

def Request.hourKey (name : String) : Key :=
  .hourly r.creatorId name (cal.date r.now) (cal.hours r.now)

def getSecondsUntilMidnight (now : Nat) : Nat := (cal.midnight now - now) / 1000

/-! ## The middlewares -/

/-- `undefined` compares false with every number. As the value of a header it
throws; the counter is already incremented then, and the request goes on. -/
def checkDailyInteractionLimit (interactionType : String) (r : Request) (s : MemoryStore Key) :
    MemoryStore Key × Answer :=
  match r.creator level with
  | none => (s, .next none)
  | some creator =>
    let limit := (getDailyLimits creator.verificationLevel).get interactionType
    if limit = some (-1) then (s, .next none)
    else
      let key := r.dayKey cal interactionType
      let (s, current) := s.get key r.now
      let used := current.getD 0
      if limit.any fun (limit : ℤ) => limit ≤ used then
        (s, .refused 429 ("Daily " ++ interactionType ++ " limit reached")
          (.usage limit used (cal.midnight r.now)
            (some ("upgradeUrl", "/creator/subscription/upgrade"))))
      else
        (s.count key (getSecondsUntilMidnight cal r.now) r.now,
          .next (limit.map fun limit => ⟨limit, limit - used - 1, cal.midnight r.now⟩))

structure Quota where
  name : String
  label : String
  hourlyLimit : ℤ
  dailyLimit : DailyLimits → ℤ
  fallback : ℤ
  /-- The answers carry a `type`. -/
  typed : Bool

/-- Only a creator put there before has a level here. -/
def Quota.limit (q : Quota) (r : Request) : ℤ :=
  if r.attached then
    match level r.creatorId with
    | some l => q.dailyLimit (getDailyLimits (some l))
    | none => q.fallback
  else q.fallback

def Quota.check (q : Quota) (r : Request) (s : MemoryStore Key) : MemoryStore Key × Answer :=
  let (s, hourlyCount) := s.get (r.hourKey cal q.name) r.now
  if q.hourlyLimit ≤ hourlyCount.getD 0 then
    (s, .refused 429 ("Hourly " ++ q.label ++ " limit reached")
      (.usage (some q.hourlyLimit) (hourlyCount.getD 0) (cal.nextHour r.now)
        (if q.typed then some ("type", "hourly") else none)))
  else
    let (s, dailyCount) := s.get (r.dayKey cal q.name) r.now
    if q.limit level r ≤ dailyCount.getD 0 then
      (s, .refused 429 ("Daily " ++ q.label ++ " limit reached")
        (.usage (some (q.limit level r)) (dailyCount.getD 0) (cal.midnight r.now)
          (if q.typed then some ("type", "daily") else none)))
    else
      let s := s.count (r.hourKey cal q.name) 3600 r.now
      (s.count (r.dayKey cal q.name) (getSecondsUntilMidnight cal r.now) r.now, .next none)

def messageQuota : Quota := ⟨"messages", "message", 20, DailyLimits.messages, 100, true⟩

def offerQuota : Quota := ⟨"offers", "special offer", 5, DailyLimits.specialOffers, 10, false⟩

variable (s : MemoryStore Key)

def checkMessageQuota : MemoryStore Key × Answer :=
  messageQuota.check cal level r s

def checkSpecialOfferLimits : MemoryStore Key × Answer :=
  offerQuota.check cal level r s

def cooldowns (action : String) : Option Nat :=
  [("poke", 86400), ("message", 300), ("special-offer", 3600), ("like", 60)].lookup action

def preventSpam : MemoryStore Key × Answer :=
  match cooldowns r.action with
  | none => (s, .next none)
  | some cooldownPeriod =>
    let cooldownKey := Key.cooldown r.creatorId r.memberId r.action
    let (s, isOnCooldown) := s.get cooldownKey r.now
    if isOnCooldown.isSome then
      let (s, remainingTime) := s.ttl cooldownKey r.now
      (s, .refused 429 ("Please wait before " ++ r.action ++ " this member again")
        (.cooldown remainingTime (r.now + remainingTime * 1000)))
    else (s.set cooldownKey 1 cooldownPeriod r.now, .next none)

def allowedLevels : List VerificationLevel := [.premium, .vip]

def bulkLimit (level : Option VerificationLevel) : ℤ := if level = some .vip then 10 else 3

def maxRecipients (level : Option VerificationLevel) : Nat := if level = some .vip then 100 else 50

def lengthOf : Value → Value
  | .str s => .num (.fin (utf16Length s))
  | .arr xs => .num (.fin xs.length)
  | .obj fields => (fields.lookup "length").getD .undefined
  | _ => .undefined

def Creator.allowsBulk (creator : Creator) : Bool :=
  creator.verificationLevel.any fun l => l ∈ allowedLevels

def Request.tooMany (maximum : Nat) : Bool :=
  r.recipients.truthy && Number.lt (.fin maximum) (lengthOf r.recipients).toNumber

def bulkActionLimits : MemoryStore Key × Answer :=
  match r.creator level with
  | none => (s, .next none)
  | some creator =>
    if !creator.allowsBulk then
      (s, .refused 403 "Bulk actions require premium verification"
        (.levels creator.verificationLevel allowedLevels))
    else
      let limit := bulkLimit creator.verificationLevel
      let (s, bulkCount) := s.get (r.dayKey cal "bulk") r.now
      let maximum := maxRecipients creator.verificationLevel
      if limit ≤ bulkCount.getD 0 then
        (s, .refused 429 "Daily bulk action limit reached"
          (.usage (some limit) (bulkCount.getD 0) (cal.midnight r.now) none))
      else if r.tooMany maximum then
        (s, .refused 400
          ("Maximum " ++ toString maximum ++ " recipients allowed per bulk action")
          (.recipients (lengthOf r.recipients) maximum))
      else (s.count (r.dayKey cal "bulk") (getSecondsUntilMidnight cal r.now) r.now, .next none)

/-- The types the routes of member profiles pass to `checkDailyInteractionLimit`. -/
inductive Interaction where
  | poke
  | message
  | specialOffer
  | gift
deriving DecidableEq

def Interaction.name : Interaction → String
  | .poke => "poke"
  | .message => "message"
  | .specialOffer => "special_offer"
  | .gift => "gift"

inductive Middleware where
  | dailyInteractionLimit (type : Interaction)
  | messageQuota
  | preventSpam
  | bulkActionLimits
  | specialOfferLimits
deriving DecidableEq

structure Call where
  middleware : Middleware
  request : Request

def Call.run (cal : Calendar) (level : Nat → Option VerificationLevel) (c : Call)
    (s : MemoryStore Key) : MemoryStore Key × Answer :=
  match c.middleware with
  | .dailyInteractionLimit type => checkDailyInteractionLimit cal level type.name c.request s
  | .messageQuota => checkMessageQuota cal level c.request s
  | .preventSpam => preventSpam c.request s
  | .bulkActionLimits => bulkActionLimits cal level c.request s
  | .specialOfferLimits => checkSpecialOfferLimits cal level c.request s

end SexySelfies.SalesLimits
