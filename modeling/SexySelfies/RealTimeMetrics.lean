import Mathlib.Algebra.BigOperators.Fin
import SexySelfies.CivilDate
import SexySelfies.JsNumeral
import SexySelfies.Runs
import SexySelfies.Wildcard

/-!
# Real-time metrics

`trackEvent` and `getRealTimeMetrics` of `analytics.service.js` over the events they store and the
counters they keep in memory. The trend of a creator is read at a key of user, category, day and
hour, which only an event of a category like `user:<id>:profile_view` would write: all 24 entries
are zero. The day is the one in UTC, the hour is local.
-/

namespace SexySelfies.RealTime

open Js CivilDate List

abbrev Text := List Char

def digits (n : Nat) : Text := Nat.toDigits 10 n

def pad (width n : Nat) : Text := List.replicate (width - (digits n).length) '0' ++ digits n

theorem january_lt : 0 < 12 := by decide

/-- `new Date(now).toISOString().split('T')[0]`, `now` in milliseconds. -/
def isoDate (now : Nat) : Text :=
  let date := (firstOf 1970 0 january_lt).addDays (now / (24 * 60 * 60 * 1000))
  pad 4 date.year.toNat ++ '-' :: (pad 2 (date.month + 1) ++ '-' :: pad 2 date.day)

/-! ## Events and counters -/

/-- An id holds hexadecimal digits only. -/
abbrev Id := { id : Text // ':' ∉ id }

structure EventData where
  category : Text
  action : String
  userId : Option Id
  userType : String
  platform : Option String
  deviceType : Option String

structure AnalyticsEvent where
  category : Text
  action : String
  userId : Id
  userType : String
  timestamp : Nat
  platform : String
  deviceType : String

def orText (text : Option String) (dflt : String) : String := (text.filter (· ≠ "")).getD dflt

/-- The constructor with the validation of the schema. -/
def AnalyticsEvent.new (data : EventData) (now : Nat) : Option AnalyticsEvent :=
  let platform := orText data.platform "web"
  let deviceType := orText data.deviceType "unknown"
  if data.category ≠ [] ∧ data.action ≠ "" ∧ data.userType ∈ ["creator", "member", "admin"] ∧
      platform ∈ ["web", "mobile", "api"] ∧
      deviceType ∈ ["desktop", "mobile", "tablet", "unknown"] then
    data.userId.map fun userId =>
      ⟨data.category, data.action, userId, data.userType, now, platform, deviceType⟩
  else none

abbrev Metrics := Text → Nat

def memoryIncr (metrics : Metrics) (key : Text) : Metrics :=
  Function.update metrics key (metrics key + 1)

def dayKey (category today : Text) : Text := "metrics:".toList ++ (category ++ ':' :: today)

def hourKey (category today : Text) (hour : Fin 24) : Text :=
  dayKey category today ++ ':' :: digits hour

def ofUser (userId category : Text) : Text := "user:".toList ++ (userId ++ ':' :: category)

structure State where
  events : List AnalyticsEvent
  metrics : Metrics

-- the local hour of an instant
variable (getHours : Nat → Fin 24)

def updateRealTimeMetrics (event : AnalyticsEvent) (metrics : Metrics) : Metrics :=
  let today := isoDate event.timestamp
  let hour := getHours event.timestamp
  memoryIncr (memoryIncr (memoryIncr metrics (dayKey event.category today))
    (hourKey event.category today hour)) (dayKey (ofUser event.userId.1 event.category) today)

/-- A call at the time `call.2`. An event that is not valid is not stored. -/
def trackEvent (s : State) (call : EventData × Nat) : State :=
  match AnalyticsEvent.new call.1 call.2 with
  | none => s
  | some event => ⟨s.events ++ [event], updateRealTimeMetrics getHours event s.metrics⟩

def run (calls : List (EventData × Nat)) : State :=
  Runs.final (trackEvent getHours) ⟨[], fun _ => 0⟩ calls

structure Trend where
  hour : Fin 24
  views : Nat
  interactions : Nat

structure Dashboard where
  profileViews : Nat
  interactions : Nat
  conversions : Nat
  revenue : Nat
  activeNow : Nat
  hourlyTrend : List Trend

def profileView : Text := "profile_view".toList
def interaction : Text := "interaction".toList

def getRealTimeMetrics (creatorId : Text) (now : Nat) (metrics : Metrics) : Dashboard :=
  let today := isoDate now
  { profileViews := metrics (dayKey (ofUser creatorId profileView) today)
    interactions := metrics (dayKey (ofUser creatorId interaction) today)
    conversions := metrics (dayKey (ofUser creatorId "conversion".toList) today)
    revenue := metrics (dayKey (ofUser creatorId "revenue".toList) today)
    activeNow := metrics ("metrics:active_users:".toList ++ digits (getHours now))
    hourlyTrend := (List.finRange 24).map fun i =>
      ⟨i, metrics (hourKey (ofUser creatorId profileView) today i),
        metrics (hourKey (ofUser creatorId interaction) today i)⟩ }

def isOf (category today : Text) (e : AnalyticsEvent) : Bool :=
  e.category = category && isoDate e.timestamp = today

def names (userId : Id) (category today : Text) (e : AnalyticsEvent) : Bool :=
  e.userId = userId && isOf category today e

/-- The metrics are those of the stored events. -/
structure Right (creatorId : Id) (now : Nat) (s : State) : Prop where
  profileViews : (getRealTimeMetrics getHours creatorId.1 now s.metrics).profileViews
    = s.events.countP (names creatorId profileView (isoDate now))
  interactions : (getRealTimeMetrics getHours creatorId.1 now s.metrics).interactions
    = s.events.countP (names creatorId interaction (isoDate now))
  views : ((getRealTimeMetrics getHours creatorId.1 now s.metrics).hourlyTrend.map (·.views)).sum
    = s.events.countP (names creatorId profileView (isoDate now))
  trend :
    ((getRealTimeMetrics getHours creatorId.1 now s.metrics).hourlyTrend.map (·.interactions)).sum
      = s.events.countP (names creatorId interaction (isoDate now))

/-! ## Keys -/

theorem notMem_digits {c : Char} (hc : c.isDigit = false) (n : Nat) : c ∉ digits n := by
  intro hmem
  have hd := (isDigits_toDigits n).2 c hmem
  rw [hc] at hd
  cases hd

theorem notMem_pad {c : Char} (hc : c.isDigit = false) (width n : Nat) : c ∉ pad width n := by
  rw [pad, mem_append, not_or]
  refine ⟨fun hmem => ?_, notMem_digits hc n⟩
  obtain rfl := eq_of_mem_replicate hmem
  cases hc

variable {now : Nat}

theorem colon_notMem_isoDate : ':' ∉ isoDate now := by
  simp only [isoDate, mem_append, mem_cons, not_or]
  exact ⟨notMem_pad rfl _ _, by decide, notMem_pad rfl _ _, by decide, notMem_pad rfl _ _⟩

theorem isoDate_ne_digits (n : Nat) : isoDate now ≠ digits n := by
  intro h
  refine notMem_digits (c := '-') rfl n (h ▸ ?_)
  simp [isoDate]

theorem dayKey_inj {a b : Text} {t t' : Nat} :
    dayKey a (isoDate t) = dayKey b (isoDate t') ↔ a = b ∧ isoDate t = isoDate t' := by
  constructor
  · intro h
    exact Wildcard.append_sep_inj_right colon_notMem_isoDate colon_notMem_isoDate
      (append_cancel_left h)
  · rintro ⟨rfl, ht⟩
    rw [ht]

theorem digits_fin_inj : ∀ h h' : Fin 24, digits h = digits h' → h = h' := by decide +kernel

theorem hourKey_inj {a b : Text} {t t' : Nat} {h h' : Fin 24} :
    hourKey a (isoDate t) h = hourKey b (isoDate t') h' ↔
      (a = b ∧ isoDate t = isoDate t') ∧ h = h' := by
  constructor
  · intro heq
    obtain ⟨hday, hho⟩ := Wildcard.append_sep_inj_right (notMem_digits rfl _)
      (notMem_digits rfl _) heq
    exact ⟨dayKey_inj.mp hday, digits_fin_inj h h' hho⟩
  · rintro ⟨hday, rfl⟩
    rw [hourKey, dayKey_inj.mpr hday]
    rfl

theorem dayKey_ne_hourKey {a b : Text} {t t' : Nat} {h : Fin 24} :
    dayKey a (isoDate t) ≠ hourKey b (isoDate t') h := by
  intro heq
  have hass : ("metrics:".toList ++ a) ++ ':' :: isoDate t
      = dayKey b (isoDate t') ++ ':' :: digits h := by
    rwa [append_assoc]
  have hcol : ':' ∉ digits h := notMem_digits rfl _
  have hl : isoDate t = digits h := (Wildcard.append_sep_inj_right colon_notMem_isoDate hcol hass).2
  exact isoDate_ne_digits h hl

theorem ofUser_inj {u v : Id} {a b : Text} : ofUser u.1 a = ofUser v.1 b ↔ u = v ∧ a = b := by
  constructor
  · intro h
    rw [ofUser, ofUser, append_right_inj] at h
    obtain ⟨huv, hab⟩ := Wildcard.append_sep_inj u.2 v.2 h
    exact ⟨Subtype.ext huv, hab⟩
  · rintro ⟨rfl, rfl⟩
    rfl

/-! ## What the counters hold -/

def hits (key : Text) (e : AnalyticsEvent) : Nat :=
  (if dayKey e.category (isoDate e.timestamp) = key then 1 else 0)
    + (if hourKey e.category (isoDate e.timestamp) (getHours e.timestamp) = key then 1 else 0)
    + (if dayKey (ofUser e.userId.1 e.category) (isoDate e.timestamp) = key then 1 else 0)

theorem memoryIncr_apply (m : Metrics) (k key : Text) :
    memoryIncr m k key = m key + if k = key then 1 else 0 := by
  by_cases h : k = key
  · simp [memoryIncr, h]
  · simp [memoryIncr, h, Ne.symm h]

theorem metrics_run (calls : List (EventData × Nat)) (key : Text) :
    (run getHours calls).metrics key =
    ((run getHours calls).events.map (hits getHours key)).sum := by
  refine (Runs.always_of_step (I := fun s : State =>
    s.metrics key = (s.events.map (hits getHours key)).sum) ?_ rfl).last
  intro s call hs
  rw [trackEvent]
  split
  · exact hs
  · simp only [updateRealTimeMetrics, memoryIncr_apply, hs, map_append, List.sum_append,
      map_cons, map_nil, sum_singleton, hits]
    omega

variable (creatorId : Id) (category : Text) (now : Nat)

theorem hits_day (e : AnalyticsEvent) :
    hits getHours (dayKey (ofUser creatorId.1 category) (isoDate now)) e
      = (if names creatorId category (isoDate now) e then 1 else 0)
        + if isOf (ofUser creatorId.1 category) (isoDate now) e then 1 else 0 := by
  simp only [hits, dayKey_inj, ofUser_inj, dayKey_ne_hourKey.symm, names, isOf, if_false,
    Bool.and_eq_true, decide_eq_true_eq, and_assoc]
  omega

theorem hits_hour (e : AnalyticsEvent) (i : Fin 24) :
    hits getHours (hourKey (ofUser creatorId.1 category) (isoDate now) i) e
      = if isOf (ofUser creatorId.1 category) (isoDate now) e && getHours e.timestamp = i
        then 1 else 0 := by
  simp [hits, hourKey_inj, dayKey_ne_hourKey, isOf]

theorem sum_indicators {f : AnalyticsEvent → Nat} {p q : AnalyticsEvent → Bool}
    (h : ∀ e, f e = (if p e then 1 else 0) + if q e then 1 else 0) (l : List AnalyticsEvent) :
    (l.map f).sum = l.countP p + l.countP q := by
  induction l with
  | nil => rfl
  | cons e l ih =>
    rw [map_cons, sum_cons, ih, h, countP_cons, countP_cons]
    omega

theorem sum_hours (p : AnalyticsEvent → Bool) (l : List AnalyticsEvent) :
    ∑ i, l.countP (fun e => p e && getHours e.timestamp = i) = l.countP p := by
  induction l with
  | nil => simp
  | cons e l ih =>
    simp only [countP_cons, Finset.sum_add_distrib, ih]
    by_cases he : p e
    · simp [he]
    · simp [he]

variable (calls : List (EventData × Nat))

theorem day_counter :
    (run getHours calls).metrics (dayKey (ofUser creatorId.1 category) (isoDate now))
    = (run getHours calls).events.countP (names creatorId category (isoDate now))
    + (run getHours calls).events.countP (isOf (ofUser creatorId.1 category) (isoDate now)) :=
  (metrics_run getHours calls _).trans (sum_indicators (hits_day getHours creatorId category now) _)

theorem hour_counters : ((List.finRange 24).map fun i =>
      (run getHours calls).metrics (hourKey (ofUser creatorId.1 category) (isoDate now) i)).sum
    = (run getHours calls).events.countP (isOf (ofUser creatorId.1 category) (isoDate now)) := by
  rw [← Fin.sum_univ_def, ← sum_hours getHours]
  refine Finset.sum_congr rfl fun i _ => ?_
  rw [metrics_run, funext (hits_hour getHours creatorId category now · i)]
  exact (sum_indicators (q := fun _ => false) (fun _ => rfl) _).trans (by simp)

theorem events_run :
    (run getHours calls).events = calls.filterMap fun call => AnalyticsEvent.new call.1 call.2 := by
  have hs : ∀ s, (Runs.final (trackEvent getHours) s calls).events
      = s.events ++ calls.filterMap fun call => AnalyticsEvent.new call.1 call.2 := by
    induction calls with
    | nil => exact fun s => (append_nil _).symm
    | cons call calls ih =>
      intro s
      rw [Runs.final_cons, ih, trackEvent, filterMap_cons]
      split
      · rename_i h
        rw [h]
      · rename_i h
        rw [h, append_assoc]
        rfl
  exact hs _

/-- The call stores no event of the day that names the creator, and none
whose category looks like the creator's. -/
def Apart (call : EventData × Nat) : Prop :=
  ∀ e, AnalyticsEvent.new call.1 call.2 = some e →
    names creatorId category (isoDate now) e = false ∧
      isOf (ofUser creatorId.1 category) (isoDate now) e = false

theorem counts_eq_zero :
    (run getHours calls).events.countP (names creatorId category (isoDate now)) = 0
      ∧ (run getHours calls).events.countP (isOf (ofUser creatorId.1 category) (isoDate now)) = 0 ↔
    ∀ call ∈ calls, Apart creatorId category now call := by
  simp only [countP_eq_zero, ← forall₂_and, events_run, forall_mem_filterMap,
    Bool.not_eq_true, Apart]

/-- The metrics are right exactly when there is nothing to count: no event of the day names the
creator, or has a category that looks so. -/
theorem right_iff_apart : Right getHours creatorId now (run getHours calls) ↔
    ∀ call ∈ calls,
      Apart creatorId profileView now call ∧ Apart creatorId interaction now call := by
  rw [forall₂_and, ← counts_eq_zero getHours, ← counts_eq_zero getHours]
  have hvie := day_counter getHours creatorId profileView now calls
  have hints := day_counter getHours creatorId interaction now calls
  have hvie' := hour_counters getHours creatorId profileView now calls
  have hints' := hour_counters getHours creatorId interaction now calls
  constructor
  · rintro ⟨h1, h2, h3, h4⟩
    simp only [getRealTimeMetrics, map_map, Function.comp_def] at h1 h2 h3 h4
    omega
  · rintro ⟨⟨h1, h2⟩, h3, h4⟩
    refine ⟨?_, ?_, ?_, ?_⟩ <;>
      simp only [getRealTimeMetrics, map_map, Function.comp_def] <;> omega

def someone : Id := ⟨['c'], by decide⟩

def oneView : List (EventData × Nat) :=
  [(⟨profileView, "view", some someone, "creator", none, none⟩, 0)]

theorem not_right_one_view : ¬ ∀ (getHours : Nat → Fin 24) (creatorId : Id) (now : Nat)
    (calls : List (EventData × Nat)), Right getHours creatorId now (run getHours calls) := by
  intro h
  have hvie := (h (fun _ => 0) someone 0 oneView).views
  simp only [getRealTimeMetrics, map_map, Function.comp_def] at hvie
  rw [hour_counters, events_run] at hvie
  exact absurd hvie (by decide +kernel)

end SexySelfies.RealTime
