import Mathlib.Data.List.Infix
import SexySelfies.Runs

/-!
# Cookie consent

`setCookieConsent` and `getCookieConsent` of the frontend's `cookieManager.js` over the cookies on
the root path and `localStorage`.

Cookies of a refused category are deleted by name, and so is every cookie whose name contains a
listed name or is a part of one, such as `id`. A script reaches neither `HttpOnly` cookies nor those
of other domains. Of `localStorage`, every key with `ad_` in it counts as marketing.
-/

namespace SexySelfies.Cookies

open List

abbrev Text := List Char

inductive Category where
  | functional | analytics | marketing
deriving DecidableEq

def Category.key : Category → Text
  | functional => "functional".toList
  | analytics => "analytics".toList
  | marketing => "marketing".toList

/-- `cookieCategories[category].cookies`. -/
def Category.cookies : Category → List Text
  | functional =>
    ["theme", "language", "preferences", "sidebar_state", "layout_preference"].map String.toList
  | analytics =>
    ["_ga", "_gid", "analytics_id", "user_session_analytics", "page_view_tracking"].map
      String.toList
  | marketing =>
    ["marketing_id", "campaign_source", "ad_tracking", "conversion_pixel"].map String.toList

def essentialCookies : List Text :=
  ["session_id", "auth_token", "csrf_token", "sexyselfies_tos_acceptance"].map String.toList

structure Preferences where
  functional : Bool
  analytics : Bool
  marketing : Bool

variable (consent : Preferences)

def categoriesToDelete : List Category :=
  (if consent.functional then [] else [.functional])
    ++ (if consent.analytics then [] else [.analytics])
    ++ if consent.marketing then [] else [.marketing]

def refused : List Text :=
  (categoriesToDelete consent).flatMap Category.cookies

/-- A cookie on the root path, with the labels of the domain it was set
for; without one it belongs to the host. -/
structure Cookie where
  name : Text
  domain : Option (List Text)
  httpOnly : Bool
  name_ne : name ≠ []

structure Consent where
  version : String
  timestamp : Nat
  preferences : Preferences

inductive Item where
  | consent (c : Consent)
  | other (text : Text)

structure Browser where
  cookies : List Cookie
  localStorage : Text → Option Item
  gaDisabled : Bool
  disableMarketingTracking : Bool

/-! ## Deleting cookies -/

-- the labels of `window.location.hostname`
variable (hostname : List Text)

def parentDomain : List Text := hostname.drop (hostname.length - 2)

/-- The cookie is removed when its name is set with a date in the past,
for the host or for the parent domain. -/
def deletable (c : Cookie) : Bool :=
  !c.httpOnly &&
    (c.domain = none || parentDomain hostname ≠ hostname && c.domain = some (parentDomain hostname))

variable (jar : List Cookie)

def deleteCookie (name : Text) : List Cookie :=
  jar.filter fun c => !(deletable hostname c && c.name = name)

def related (pattern name : Text) : Bool := pattern <:+: name || name <:+: pattern

/-- The names in `document.cookie`; an empty text has one part, too. -/
def visibleNames : List Text :=
  match jar.filter fun c => !c.httpOnly with
  | [] => [[]]
  | cs => cs.map (·.name)

def getCookiesByPattern (pattern : Text) : List Text :=
  (visibleNames jar).filter (related pattern)

def deletePattern (cookieName : Text) : List Cookie :=
  let jar := deleteCookie hostname jar cookieName
  (getCookiesByPattern jar cookieName).foldl (deleteCookie hostname) jar

variable (consent : Preferences)

def cleared (key : Text) : Bool :=
  (!consent.analytics && ("_ga".toList <+: key || "analytics".toList <:+: key)) ||
    (!consent.marketing && ("marketing".toList <:+: key || "campaign".toList <:+: key ||
      "ad_".toList <:+: key))

variable (b : Browser)

def deleteNonEssentialCookies : Browser :=
  { b with
    cookies := (refused consent).foldl (deletePattern hostname) b.cookies
    localStorage := fun key => if cleared consent key then none else b.localStorage key }

def applyCookiePreferences : Browser :=
  deleteNonEssentialCookies hostname consent
    { b with gaDisabled := !consent.analytics, disableMarketingTracking := !consent.marketing }

def consentKey : Text := "sexyselfies_cookie_consent".toList

def consentVersion : String := "1.0.0"

def consentExpiry : Nat := 365 * 24 * 60 * 60 * 1000

def setCookieConsent (now : Nat) (preferences : Preferences) (b : Browser) : Browser :=
  applyCookiePreferences hostname preferences { b with
    localStorage := Function.update b.localStorage consentKey
      (some (.consent ⟨consentVersion, now, preferences⟩)) }

def removeConsent : Browser :=
  { b with localStorage := Function.update b.localStorage consentKey none }

def getCookieConsent (now : Nat) (b : Browser) : Browser × Option Consent :=
  match b.localStorage consentKey with
  | none => (b, none)
  | some (.other _) => (removeConsent b, none)
  | some (.consent consent) =>
    if consent.timestamp + consentExpiry < now then (removeConsent b, none)
    else if consent.version ≠ consentVersion then (removeConsent b, none)
    else (b, some consent)

def afterReads (times : List Nat) : Browser :=
  Runs.final (fun b now => (getCookieConsent now b).1) b times

def Contains (name : Text) : Prop :=
  ∃ p ∈ refused consent, p <:+: name

/-- A key that names a refused category or one of its cookies. -/
def Concerns (key : Text) : Prop :=
  ∃ category ∈ categoriesToDelete consent,
    category.key <:+: key ∨ ∃ p ∈ category.cookies, p <:+: key

/-- What is refused is gone, and everything else is kept. -/
structure Sound (now : Nat) (consent : Preferences) (b b' : Browser) : Prop where
  gone : ∀ c ∈ b'.cookies, ¬ Contains consent c.name
  kept : ∀ c ∈ b.cookies, ¬ Contains consent c.name → c ∈ b'.cookies
  essential : ∀ c ∈ b.cookies, c.name ∈ essentialCookies → c ∈ b'.cookies
  stored : ∀ key ≠ consentKey, ¬ Concerns consent key → b'.localStorage key = b.localStorage key
  read : ∀ (times : List Nat) (t : Nat), (∀ u ∈ times, u ≤ t) →
    (getCookieConsent t (afterReads b' times)).2.map (·.preferences)
      = if t ≤ now + consentExpiry then some consent else none

/-- Every cookie with a refused name in its name can be deleted, no deletable one has only a part
of one, and only keys of a refused category are cleared. -/
structure Fits (consent : Preferences) (b : Browser) : Prop where
  reached : ∀ c ∈ b.cookies, Contains consent c.name → deletable hostname c = true
  whole : ∀ c ∈ b.cookies, deletable hostname c = true →
    (∃ p ∈ refused consent, c.name <:+: p) → Contains consent c.name
  concerned : ∀ key, (b.localStorage key).isSome → key ≠ consentKey → cleared consent key = true →
    Concerns consent key

/-! ## Cookies -/

variable {hostname} {jar : List Cookie} {c : Cookie} {consent : Preferences}

theorem foldl_deleteCookie (names : List Text) : names.foldl (deleteCookie hostname) jar
      = jar.filter fun c => !(deletable hostname c && c.name ∈ names) := by
  induction names generalizing jar with
  | nil => simp
  | cons name names ih =>
    rw [foldl_cons, ih, deleteCookie, filter_filter]
    refine filter_congr fun c _ => ?_
    by_cases hd : deletable hostname c
    · by_cases hn : c.name = name
      · simp [hd, hn]
      · simp [hd, hn]
    · simp [hd]

theorem mem_visibleNames (hc : c ∈ jar) (h : c.httpOnly = false) : c.name ∈ visibleNames jar := by
  have hmem : c ∈ jar.filter fun c => !c.httpOnly := by simp [hc, h]
  unfold visibleNames
  split
  · rename_i hnil
    rw [hnil] at hmem
    cases hmem
  · exact mem_map_of_mem hmem

theorem httpOnly_of_deletable (h : deletable hostname c) : c.httpOnly = false := by
  rw [deletable, Bool.and_eq_true, Bool.not_eq_true'] at h
  exact h.1

theorem deletePattern_eq (p : Text) : deletePattern hostname jar p
    = jar.filter fun c => !(deletable hostname c && related p c.name) := by
  rw [deletePattern, foldl_deleteCookie]
  generalize hnam : getCookiesByPattern (deleteCookie hostname jar p) p = names
  rw [deleteCookie, filter_filter]
  refine filter_congr fun c hc => ?_
  by_cases hd : deletable hostname c
  · by_cases hp : c.name = p
    · simp [hd, hp, related]
    · have hmem : c ∈ deleteCookie hostname jar p := by simp [deleteCookie, hc, hp]
      have hvis := mem_visibleNames hmem (httpOnly_of_deletable hd)
      simp [hd, hp, ← hnam, getCookiesByPattern, hvis]
  · simp [hd]

theorem foldl_deletePattern (ps : List Text) : ps.foldl (deletePattern hostname) jar
      = jar.filter fun c => !(deletable hostname c && ps.any (related · c.name)) := by
  induction ps generalizing jar with
  | nil => simp
  | cons p ps ih =>
    rw [foldl_cons, ih, deletePattern_eq, filter_filter]
    refine filter_congr fun c _ => ?_
    by_cases hd : deletable hostname c
    · simp [hd, Bool.and_comm]
    · simp [hd]

variable {now : Nat} {b : Browser}

theorem mem_cookies_set : c ∈ (setCookieConsent hostname now consent b).cookies ↔
    c ∈ b.cookies ∧ ¬ (deletable hostname c ∧
      (Contains consent c.name ∨ ∃ p ∈ refused consent, c.name <:+: p)) := by
  have hset : (setCookieConsent hostname now consent b).cookies
      = (refused consent).foldl (deletePattern hostname) b.cookies := rfl
  rw [hset, foldl_deletePattern, mem_filter, Bool.not_eq_true', ← Bool.not_eq_true,
    Bool.and_eq_true, any_eq_true]
  simp only [related, Bool.or_eq_true, decide_eq_true_eq, Contains, ← exists_or, and_or_left]

theorem essential_apart : ∀ name ∈ essentialCookies,
    ¬ (Contains consent name ∨ ∃ p ∈ refused consent, name <:+: p) := by
  have hall : ∀ name ∈ essentialCookies, ∀ p ∈ refused ⟨false, false, false⟩,
      ¬ p <:+: name ∧ ¬ name <:+: p := by decide +kernel
  have hsub : ∀ p ∈ refused consent, p ∈ refused ⟨false, false, false⟩ := by
    intro p hp
    obtain ⟨ca, -, hp⟩ := mem_flatMap.mp hp
    exact mem_flatMap.mpr ⟨ca, by cases ca <;> decide, hp⟩
  rintro name hn (⟨p, hp, h⟩ | ⟨p, hp, h⟩)
  · exact (hall name hn p (hsub p hp)).1 h
  · exact (hall name hn p (hsub p hp)).2 h

theorem consentKey_kept : cleared consent consentKey = false := by
  rcases consent with ⟨_ | _, _ | _, _ | _⟩ <;> decide +kernel

theorem stored_set (key : Text) : (setCookieConsent hostname now consent b).localStorage key
    = if cleared consent key then none
      else Function.update b.localStorage consentKey
        (some (.consent ⟨consentVersion, now, consent⟩)) key := rfl

theorem stored_consent : (setCookieConsent hostname now consent b).localStorage consentKey
    = some (.consent ⟨consentVersion, now, consent⟩) := by
  rw [stored_set, consentKey_kept, Function.update_self]
  rfl

theorem stored_other {key : Text} (h : key ≠ consentKey) :
    (setCookieConsent hostname now consent b).localStorage key
      = if cleared consent key then none else b.localStorage key := by
  rw [stored_set, Function.update_of_ne h]

theorem getCookieConsent_consent {t ti : Nat} (h : b.localStorage consentKey
    = some (.consent ⟨consentVersion, ti, consent⟩)) :
    getCookieConsent t b = if ti + consentExpiry < t then (removeConsent b, none)
      else (b, some ⟨consentVersion, ti, consent⟩) := by
  rw [getCookieConsent, h]
  simp

theorem getCookieConsent_none {t : Nat} (h : b.localStorage consentKey = none) :
    getCookieConsent t b = (b, none) := by rw [getCookieConsent, h]

/-- The first read after the expiry removes the consent. -/
theorem stored_afterReads {t : Nat} (times : List Nat) :
    (b.localStorage consentKey = some (.consent ⟨consentVersion, t, consent⟩) →
      (afterReads b times).localStorage consentKey = if ∀ u ∈ times, u ≤ t + consentExpiry
          then some (.consent ⟨consentVersion, t, consent⟩) else none) ∧
    (b.localStorage consentKey = none → (afterReads b times).localStorage consentKey = none) := by
  induction times generalizing b with
  | nil => exact ⟨fun h => by simpa [afterReads] using h, id⟩
  | cons u times ih =>
    have hco : afterReads b (u :: times) = afterReads (getCookieConsent u b).1 times := rfl
    rw [hco]
    constructor
    · intro h
      rw [getCookieConsent_consent h]
      by_cases hu : t + consentExpiry < u
      · have hn : (removeConsent b).localStorage consentKey = none := by simp [removeConsent]
        rw [if_pos hu, ih.2 hn, if_neg]
        intro hall
        exact absurd (hall u mem_cons_self) (by omega)
      · rw [if_neg hu, ih.1 h]
        simp [not_lt.mp hu]
    · intro h
      rw [getCookieConsent_none h]
      exact ih.2 h

theorem read_set (times : List Nat) (t : Nat) (h : ∀ u ∈ times, u ≤ t) :
    (getCookieConsent t (afterReads (setCookieConsent hostname now consent b) times)).2.map
      (·.preferences) = if t ≤ now + consentExpiry then some consent else none := by
  have hsto := (stored_afterReads times).1
    (@stored_consent hostname consent now b)
  split at hsto
  · rw [getCookieConsent_consent hsto]
    by_cases ht : t ≤ now + consentExpiry
    · rw [if_neg (not_lt.mpr ht), if_pos ht]
      rfl
    · rw [if_pos (not_le.mp ht), if_neg ht]
      rfl
  · rename_i hla
    rw [getCookieConsent_none hsto, if_neg]
    · rfl
    · intro ht
      exact hla fun u hu => (h u hu).trans ht

/-- Setting the consent does what it should exactly for the browsers that `Fits` describes. -/
theorem sound_set_iff (hostname : List Text) (now : Nat) (consent : Preferences) (b : Browser) :
    Sound now consent b (setCookieConsent hostname now consent b) ↔ Fits hostname consent b := by
  constructor
  · intro h
    refine ⟨fun c hc hco => ?_, fun c hc hd hpart => ?_, fun key hs hne hcle => ?_⟩
    · by_contra hd
      exact h.gone c (mem_cookies_set.mpr ⟨hc, fun hdel => hd hdel.1⟩) hco
    · by_contra hco
      exact (mem_cookies_set.mp (h.kept c hc hco)).2 ⟨hd, .inr hpart⟩
    · by_contra hnot
      have hk := h.stored key hne hnot
      rw [stored_other hne, if_pos hcle] at hk
      rw [← hk] at hs
      cases hs
  · intro h
    refine ⟨fun c hc hco => ?_, fun c hc hnot => ?_, fun c hc hess => ?_,
      fun key hne hnot => ?_, read_set⟩
    · obtain ⟨hc, hdel⟩ := mem_cookies_set.mp hc
      exact hdel ⟨h.reached c hc hco, .inl hco⟩
    · refine mem_cookies_set.mpr ⟨hc, ?_⟩
      rintro ⟨hd, hco | hpart⟩
      · exact hnot hco
      · exact hnot (h.whole c hc hd hpart)
    · exact mem_cookies_set.mpr ⟨hc, fun hdel => essential_apart _ hess hdel.2⟩
    · rw [stored_other hne]
      split
      · rename_i hcle
        by_contra hs
        exact hnot (h.concerned key (Option.isSome_iff_ne_none.mpr (Ne.symm hs)) hne hcle)
      · rfl

theorem not_sound_id_cookie :
    ¬ ∀ (hostname : List Text) (now : Nat) (consent : Preferences) (b : Browser),
      Sound now consent b (setCookieConsent hostname now consent b) := by
  intro h
  have hk := (h [] 0 ⟨true, false, true⟩
    ⟨[⟨['i', 'd'], none, false, by decide⟩], fun _ => none, false, false⟩).kept _
    mem_cons_self (by unfold Contains; decide +kernel)
  exact (mem_cookies_set.mp hk).2 ⟨by decide +kernel, .inr (by decide +kernel)⟩

end SexySelfies.Cookies
