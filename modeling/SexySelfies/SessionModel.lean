import SexySelfies.Interleave
import SexySelfies.Platform

/-!
# User sessions

`models/UserSession.js` and the methods of `session.service.js` that read or write a stored session.
A loaded session is a copy. `save` writes the paths that were modified on that copy and leaves the
others as they are in the store by then. `security.suspiciousActivity` is declared as `[{ type:
String, … }]`, which the mapper reads as a list of strings, so that the object
`flagSuspiciousActivity` appends cannot be cast.
-/

namespace SexySelfies.Sessions

open Js Platform Interleave

/-! ## Documents -/

inductive UserType where
  | member
  | creator
  | admin
deriving DecidableEq

inductive DeviceType where
  | mobile
  | desktop
  | tablet
  | unknown
deriving DecidableEq

structure Location where
  ipAddress : String
  country : Option String
  city : Option String
  timezone : Option String
  isp : Option String

structure IpChange where
  fromIp : String
  toIp : String
  timestamp : Nat
  flagged : Bool

inductive Severity where
  | low
  | medium
  | high
  | critical

structure Suspicion where
  type : String
  description : String
  timestamp : Nat
  severity : Severity

/-- An object has no cast to a string. -/
def Suspicion.cast (_ : Suspicion) : Option String := none

def Severity.scoreIncrease : Severity → Nat
  | .low => 5
  | .medium => 15
  | .high => 30
  | .critical => 50

inductive ActivityType where
  | login | logout | profileUpdate | settingsChange
  | browseCreators | swipeLike | swipePass | swipeSuperlike | contentPurchase | messageSent
  | messageRead | contentView | profileView | searchPerformed
  | browseMembers | contentUpload | memberMessage | specialOfferSent | analyticsView
  | earningsCheck | profileEdit | contentEdit | memberInteraction
  | adminDashboard | userManagement | contentModeration | verificationReview | payoutProcessing

def ActivityType.names : List (String × ActivityType) :=
  [("login", .login), ("logout", .logout), ("profile_update", .profileUpdate),
   ("settings_change", .settingsChange), ("browse_creators", .browseCreators),
   ("swipe_like", .swipeLike), ("swipe_pass", .swipePass), ("swipe_superlike", .swipeSuperlike),
   ("content_purchase", .contentPurchase), ("message_sent", .messageSent),
   ("message_read", .messageRead), ("content_view", .contentView), ("profile_view", .profileView),
   ("search_performed", .searchPerformed), ("browse_members", .browseMembers),
   ("content_upload", .contentUpload), ("member_message", .memberMessage),
   ("special_offer_sent", .specialOfferSent), ("analytics_view", .analyticsView),
   ("earnings_check", .earningsCheck), ("profile_edit", .profileEdit),
   ("content_edit", .contentEdit), ("member_interaction", .memberInteraction),
   ("admin_dashboard", .adminDashboard), ("user_management", .userManagement),
   ("content_moderation", .contentModeration), ("verification_review", .verificationReview),
   ("payout_processing", .payoutProcessing)]

structure Activity where
  type : ActivityType
  timestamp : Nat

inductive Metric where
  | totalActivities | creatorsViewed | likes | passes | superLikes | purchaseCount
  | purchaseAmount | messagesSent | membersViewed | contentUploaded | specialOffersSent
  | memberInteractions
deriving DecidableEq

def logoutReasons : List String :=
  ["manual", "expired", "security", "inactivity", "admin_terminated"]

structure Session where
  sessionId : String
  user : Nat
  userType : UserType
  deviceType : DeviceType
  location : Location
  lastActiveAt : Nat
  expiresAt : Nat
  isActive : Bool
  endedAt : Option Nat
  logoutReason : Option String
  activities : List Activity
  metrics : Metric → Number
  ipChanges : List IpChange
  suspiciousActivity : List String
  riskScore : Nat

/-- `UserSession.createSession`, with the defaults of the schema. -/
def Session.new (sessionId : String) (user : Nat) (userType : UserType) (deviceType : DeviceType)
    (location : Location) (now expirationHours : Nat) : Session where
  sessionId := sessionId
  user := user
  userType := userType
  deviceType := deviceType
  location := location
  lastActiveAt := now
  expiresAt := now + expirationHours * 60 * 60 * 1000
  isActive := true
  endedAt := none
  logoutReason := none
  activities := []
  metrics := fun _ => .fin 0
  ipChanges := []
  suspiciousActivity := []
  riskScore := 0

/-! ## The store -/

/-- The value a path is saved with when it was assigned one: nothing, if it
had that value already. -/
def modified {α : Type} [DecidableEq α] (loaded new : α) : Option α :=
  if new = loaded then none else some new

structure Changes where
  lastActiveAt : Option Nat := none
  ipAddress : Option String := none
  location : Option Location := none
  isActive : Option Bool := none
  endedAt : Option Nat := none
  logoutReason : Option String := none
  metrics : List (Metric × Option Number) := []
  riskScore : Option Nat := none
  activities : List (Option ActivityType × Nat) := []
  ipChanges : List IpChange := []
  suspiciousActivity : List Suspicion := []

def Changes.valid (ch : Changes) : Bool :=
  ch.logoutReason.all (· ∈ logoutReasons) && ch.metrics.all (fun m => m.2.isSome) &&
    ch.riskScore.all (· ≤ 100) && ch.activities.all (fun a => a.1.isSome) &&
    ch.suspiciousActivity.all fun x => x.cast.isSome

def Session.write (s : Session) (ch : Changes) : Session :=
  { s with
    lastActiveAt := ch.lastActiveAt.getD s.lastActiveAt
    location :=
      { ch.location.getD s.location with
        ipAddress := ch.ipAddress.getD (ch.location.getD s.location).ipAddress }
    isActive := ch.isActive.getD s.isActive
    endedAt := ch.endedAt.or s.endedAt
    logoutReason := ch.logoutReason.or s.logoutReason
    metrics := fun k => ((ch.metrics.lookup k).join).getD (s.metrics k)
    riskScore := ch.riskScore.getD s.riskScore
    activities := s.activities ++ ch.activities.filterMap fun a => a.1.map fun t => ⟨t, a.2⟩
    ipChanges := s.ipChanges ++ ch.ipChanges
    suspiciousActivity := s.suspiciousActivity ++ ch.suspiciousActivity.filterMap Suspicion.cast }

/-- What `updateMany` sets; it does not validate. -/
def Session.end (now : Nat) (reason : String) (s : Session) : Session :=
  { s with isActive := false, endedAt := some now, logoutReason := some reason }

abbrev Db := List Session

/-- `find` asks for an active session, of the user and not expired where these
are given. -/
inductive Op where
  | find (sessionId : String) (user : Option Nat) (now : Option Nat)
  | save (id : Nat) (changes : Changes)
  | endOfUser (user now : Nat) (reason : String)
  | endExpired (now : Nat)

@[reducible] def Op.Res : Op → Type
  | .find _ _ _ => Option (Nat × Session)
  | .save _ _ => Bool
  | .endOfUser _ _ _ => Nat
  | .endExpired _ => Nat

def Session.matches (s : Session) (sessionId : String) (user now : Option Nat) : Bool :=
  s.sessionId = sessionId && user.all (· = s.user) && s.isActive && now.all (· < s.expiresAt)

def Db.endWhere (db : Db) (test : Session → Bool) (now : Nat) (reason : String) : Db × Nat :=
  (db.map fun s => if s.isActive && test s then s.end now reason else s,
    db.countP fun s => s.isActive && test s)

def exec : (o : Op) → Db → Db × o.Res
  | .find sessionId user now, db =>
    (db, (db.findIdx? fun s => s.matches sessionId user now).bind fun id =>
      db[id]?.map fun s => (id, s))
  | .save id changes, db =>
    if changes.valid then (db.modify id fun s => s.write changes, true) else (db, false)
  | .endOfUser user now reason, db => db.endWhere (fun s => s.user = user) now reason
  | .endExpired now, db => db.endWhere (fun s => s.expiresAt < now) now "expired"

/-! ## Requests -/

structure Origin where
  ip : Option String
  connectionAddress : Option String
  socketAddress : Option String
  innerAddress : Option String
  forwardedFor : Option String

def Origin.of (ip : String) : Origin := ⟨some ip, none, none, none, none⟩

def getClientIp (r : Origin) : String :=
  ([r.ip, r.connectionAddress, r.socketAddress, r.innerAddress,
    r.forwardedFor.map fun h => (h.splitOn ",").headD ""].filterMap
      fun x => x.filter (· ≠ "")).headD "127.0.0.1"

structure Geo where
  country : Option String
  city : Option String
  timezone : Option String

/-- What `geoip.lookup` knows of an address, and the text of a value. -/
structure Env where
  geoip : String → Option Geo
  text : Value → String

/-- `x || dflt` for a text. -/
def orDefault (x : Option String) (dflt : String) : String := (x.filter (· ≠ "")).getD dflt

def extractLocationInfo (env : Env) (r : Origin) : Location where
  ipAddress := getClientIp r
  country := some (orDefault ((env.geoip (getClientIp r)).bind Geo.country) "Unknown")
  city := some (orDefault ((env.geoip (getClientIp r)).bind Geo.city) "Unknown")
  timezone := ((env.geoip (getClientIp r)).bind Geo.timezone).filter (· ≠ "")
  isp := none

def shouldFlagIpChange (env : Env) (oldIp newIp : String) : Bool :=
  oldIp ≠ "" && newIp ≠ "" &&
    (env.geoip oldIp).bind Geo.country ≠ (env.geoip newIp).bind Geo.country

inductive Request where
  | validateSession (sessionId : String) (user : Nat) (origin : Origin) (now : Nat)
  | trackActivity (sessionId activityType : String) (amount : Value) (now : Nat)
  | endSession (sessionId reason : String) (now : Nat)
  | endAllUserSessions (user : Nat) (reason : String) (now : Nat)
  | cleanupExpiredSessions (now : Nat)

inductive Answer where
  | invalid (sessionId reason : String)
  | valid (sessionId : String) (id : Nat) (userType : UserType) (deviceType : DeviceType)
      (lastActiveAt riskScore : Nat)
  | done (success : Bool)
  | count (n : Nat)
deriving DecidableEq

abbrev Handler := Proc Op.Res Answer

def findSession (sessionId : String) (user now : Option Nat) :
    Proc Op.Res (Option (Nat × Session)) := perform (Op.find sessionId user now)

def save (id : Nat) (changes : Changes) : Proc Op.Res Bool := perform (Op.save id changes)

/-! ## Handlers -/

variable (env : Env) (session : Session)

/-- What the address of the request changes on the loaded session, and the new
location if the country is another one. -/
def ipChanged (origin : Origin) (now : Nat) : Changes × Option Location :=
  let ip := getClientIp origin
  if session.location.ipAddress = ip then ({}, none)
  else
    let location := extractLocationInfo env origin
    ({ ipChanges :=
        [⟨session.location.ipAddress, ip, now,
          shouldFlagIpChange env session.location.ipAddress ip⟩]
       ipAddress := some ip },
      if location.country = session.location.country then none else some location)

/-- `flagSuspiciousActivity('location_change', …, 'medium')`. The location was
replaced before, so both countries of the description are the new one. -/
def flagSuspiciousActivity (ch : Changes) (location : Location) (now : Nat) :
    Changes :=
  { ch with
    location := some location
    suspiciousActivity :=
      [⟨"location_change", "Location changed from " ++ location.country.getD "" ++ " to " ++
        location.country.getD "", now, .medium⟩]
    riskScore :=
      modified session.riskScore (min 100 (session.riskScore + Severity.medium.scoreIncrease)) }

variable (sessionId : String)

def refresh (id : Nat) (session : Session) (ch : Changes)
    (riskScore now : Nat) : Handler := do
  let saved ← save id { ch with lastActiveAt := modified session.lastActiveAt now }
  return if saved then .valid sessionId id session.userType session.deviceType now riskScore
    else .invalid sessionId "validation_error"

def validateSession (user : Nat) (origin : Origin) (now : Nat) : Handler := do
  match ← findSession sessionId (some user) (some now) with
  | none => return .invalid sessionId "session_not_found"
  | some (id, session) =>
    match ipChanged env session origin now with
    | (ch, none) => refresh sessionId id session ch session.riskScore now
    | (ch, some location) => do
        let saved ← save id (flagSuspiciousActivity session ch location now)
        if saved then
          refresh sessionId id session {}
            (min 100 (session.riskScore + Severity.medium.scoreIncrease)) now
        else return .invalid sessionId "validation_error"

/-- `total + (amount || 0)`: a text is appended to the text of the total. -/
def addAmount (total : Number) (amount : Value) : Value :=
  if amount.truthy then
    match amount with
    | .num n => .num (total.add n)
    | .bool _ => .num (total.add (.fin 1))
    | v => .str (env.text (.num total) ++ env.text v)
  else .num total

/-- The metrics an activity changes, with the values they are assigned. -/
def updateMetricsForActivity (metrics : Metric → Number) (amount : Value) :
    Option ActivityType → List (Metric × Value)
  | some .browseCreators => [increment .creatorsViewed]
  | some .profileView => [increment .creatorsViewed]
  | some .swipeLike => [increment .likes]
  | some .swipePass => [increment .passes]
  | some .swipeSuperlike => [increment .superLikes]
  | some .contentPurchase =>
    [increment .purchaseCount, (.purchaseAmount, addAmount env (metrics .purchaseAmount) amount)]
  | some .messageSent => [increment .messagesSent]
  | some .browseMembers => [increment .membersViewed]
  | some .contentUpload => [increment .contentUploaded]
  | some .specialOfferSent => [increment .specialOffersSent]
  | some .memberMessage => [increment .memberInteractions]
  | _ => []
where
  increment (m : Metric) : Metric × Value := (m, .num ((metrics m).add (.fin 1)))

/-- The changes of `addActivity`; `none` is a type the schema does not know. -/
def addActivity (type : Option ActivityType) (amount : Value) (now : Nat) :
    Changes :=
  { activities := [(type, now)]
    lastActiveAt := modified session.lastActiveAt now
    metrics :=
      ((.totalActivities, .num ((session.metrics .totalActivities).add (.fin 1))) ::
        updateMetricsForActivity env session.metrics amount type).filterMap fun m =>
          (modified (some (session.metrics m.1)) (castNumber m.2).join).map fun n => (m.1, n) }

def trackActivity (sessionId activityType : String) (amount : Value) (now : Nat) : Handler := do
  match ← findSession sessionId none none with
  | none => return .done false
  | some (id, session) =>
    let saved ← save id
      (addActivity env session (ActivityType.names.lookup activityType) amount now)
    return .done saved

def endSession (sessionId reason : String) (now : Nat) : Handler := do
  match ← findSession sessionId none none with
  | none => return .done false
  | some (id, session) =>
    let saved ← save id (addActivity env session (some .logout) .undefined now)
    if saved then do
      let ended ← save id
        { isActive := modified session.isActive false
          endedAt := (modified session.endedAt (some now)).join
          logoutReason := (modified session.logoutReason (some reason)).join }
      return .done ended
    else return .done false

def handle : Request → Handler
  | .validateSession sessionId user origin now => validateSession env sessionId user origin now
  | .trackActivity sessionId activityType amount now =>
    trackActivity env sessionId activityType amount now
  | .endSession sessionId reason now => endSession env sessionId reason now
  | .endAllUserSessions user reason now => do
      let n ← perform (.endOfUser user now reason)
      return .count n
  | .cleanupExpiredSessions now => do
      let n ← perform (.endExpired now)
      return .count n

def createSession (user : Nat) (userType : UserType)
    (deviceType : DeviceType) (origin : Origin) (now expirationHours : Nat) : Session :=
  let session := Session.new sessionId user userType deviceType (extractLocationInfo env origin)
    now expirationHours
  session.write (addActivity env session (some .login) .undefined now)

end SexySelfies.Sessions
