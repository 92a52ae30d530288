import SexySelfies.VisibilityRules

/-!
# What a response keeps

`anonymizeMemberData` and `dataVisibilityRules` of `privacy.middleware.js` each replace the `data`
of a response by what a walk over it makes of it. Both walks are a `rewrite`: whatever is no array
is taken for a plain object.
-/

namespace SexySelfies.Privacy

namespace Frame

open Js Body Visibility

/-- `value.tier` and `value.velocity?.trend`, where they are defined. -/
def hideSpending (value : Body) : Body :=
  let tier := readOptional (some value) "tier"
  let trend := readOptional (readOptional (some value) "velocity") "trend"
  .obj ((tier.toList.map fun v => (units "tier", v))
    ++ trend.toList.map fun v => (units "trend", v))

def anonymizing (userRole : String) (key : Text) (value : Body) : Treatment :=
  if userRole ≠ "admin" then
    if shouldAnonymizeField key then
      if key = units "spending" ∧ value.truthy = true then .put (hideSpending value)
      else if key = units "email" then .ofOption (Visibility.hideEmail value)
      else if key = units "phone" then .put (.str (units "***-***-****"))
      else .drop
    else .descend
  else .keep

variable (ofId : Text → List (Text × Body)) (userRole : String)

def anonymizeData : Body → Option Body := rewrite ofId (anonymizing userRole)

def anonymizeMemberData : Body → Option Body :=
  Visibility.replaceData (anonymizeData ofId userRole)

/-! ## Paths that are kept -/

def dataOf : Body → Option Body
  | .obj fields => (fields.lookup (units "data")).filter truthy
  | _ => none

/-- The walk does not throw, and comes to nothing on a clean path that it loses. -/
def Passes (treat : Text → Body → Treatment) (clean : Text → Bool) (descends : Bool)
    (v : Body) : Prop :=
  ¬ Throws treat v ∧ ¬ Exposed clean descends v

/-- A response is sent, and shows the same as the body on the clean paths. -/
def Keeps (clean : Text → Bool) (body : Body) (response : Option Body) : Prop :=
  ∃ sent, response = some sent ∧ shown clean sent = shown clean body

section

variable {ofId : Text → List (Text × Body)} {treat : Text → Body → Treatment}
  {clean : Text → Bool} {descends : Bool}

theorem keeps_rewrite_iff (hpro : clean proto)
    (htre : ∀ k v, clean k → treat k v = if descends then .descend else .keep)
    {v : Body} : Keeps clean v (rewrite ofId treat v) ↔ Passes treat clean descends v := by
  unfold Keeps Passes
  rw [← @rewrite_eq_none ofId]
  cases hw : rewrite ofId treat v with
  | none => simp
  | some => simp [shown_rewrite_iff hpro htre hw]

theorem keeps_assignData_iff {f : Body → Option Body} (hda : clean (units "data"))
    (fi : List (Text × Body)) :
    (∃ sent, assignData f fi = some sent ∧ shownFields clean sent = shownFields clean fi)
      ↔ ∀ d, (fi.lookup (units "data")).filter truthy = some d → Keeps clean d (f d) := by
  induction fi with
  | nil => exact iff_of_true ⟨[], rfl, rfl⟩ fun _ h => by cases h
  | cons g fi ih =>
    obtain ⟨key, v⟩ := g
    rw [assignData]
    by_cases hkey : key = units "data"
    · rw [if_pos hkey, hkey, List.lookup_cons_self, Option.filter_some]
      by_cases htr : v.truthy = true
      · simp only [htr, if_true, Option.some.injEq, forall_eq', Keeps]
        cases f v with
        | none => simp
        | some => simp [shownFields, hda]
      · rw [if_neg htr, if_neg htr]
        exact iff_of_true ⟨_, rfl, rfl⟩ fun _ h => by cases h
    · rw [if_neg hkey, List.lookup_cons, beq_false_of_ne (Ne.symm hkey)]
      refine Iff.trans ?_ ih
      cases assignData f fi with
      | none => simp
      | some => cases hcle : clean key <;> simp [shownFields, hcle]

theorem keeps_replaceData_iff {f : Body → Option Body} {body : Body}
    (hda : clean (units "data")) : Keeps clean body (Visibility.replaceData f body)
      ↔ ∀ d, dataOf body = some d → Keeps clean d (f d) := by
  cases body with
  | obj fi =>
    refine Iff.trans ?_ (keeps_assignData_iff hda fi)
    rw [Visibility.replaceData, Keeps]
    cases assignData f fi with
    | none => simp
    | some => simp [shown]
  | _ => exact iff_of_true ⟨_, rfl, rfl⟩ fun _ h => by cases h

end

/-! ## The two middlewares -/

def insensitive (key : Text) : Bool := !shouldAnonymizeField key

def unconcerned (key : Text) : Bool :=
  !(["spending", "email", "payment"].any fun word => key.toLowerCase.includes word)

theorem anonymizing_of_insensitive (userRole : String) {key : Text} (value : Body)
    (h : insensitive key) :
    anonymizing userRole key value = if decide (userRole ≠ "admin") then .descend else .keep := by
  have hkey : shouldAnonymizeField key = false := by simpa [insensitive] using h
  simp [anonymizing, hkey]

theorem treatment_of_unconcerned (rules : Rules) {key : Text} (value : Body)
    (h : unconcerned key) :
    treatment rules key value = if true then .descend else .keep := by
  have hwor : ∀ word ∈ ["spending", "email", "payment"], key.toLowerCase.includes word = false := by
    simpa [unconcerned] using h
  have hin : ∀ word ∈ ["spending", "email", "payment"], key.includes word ≠ true := by
    intro word hwo hkey
    have hlow : ∀ word ∈ ["spending", "email", "payment"],
        Text.toLowerCase (units word) = units word := by decide
    have hfal := hwor word hwo
    rw [Text.includes_toLowerCase (hlow word hwo) hkey] at hfal
    cases hfal
  have hspe := hin "spending" (by decide)
  have hpay := hin "payment" (by decide)
  have he : key ≠ units "email" := by
    rintro rfl
    exact hin "email" (by decide) (by decide)
  simp [treatment, hspe, hpay, he]

/-- The text that is sent agrees with that of the body on the paths without sensitive keys exactly
if the `data`, where there is any, passes; the same for the visibility rules. -/
theorem response_frame_iff (ofId : Text → List (Text × Body)) (userRole : String) (body : Body) :
    (Keeps insensitive body (anonymizeMemberData ofId userRole body)
        ↔ ∀ d, dataOf body = some d →
          Passes (anonymizing userRole) insensitive (decide (userRole ≠ "admin")) d)
      ∧ (Keeps unconcerned body (dataVisibilityRules ofId userRole body)
        ↔ ∀ d, dataOf body = some d →
          Passes (treatment (visibilityRules userRole)) unconcerned true d) := by
  constructor
  · refine (keeps_replaceData_iff (by decide +kernel)).trans (forall₂_congr fun d _ => ?_)
    exact keeps_rewrite_iff (by decide +kernel) fun k v => anonymizing_of_insensitive userRole v
  · refine (keeps_replaceData_iff (by decide)).trans (forall₂_congr fun d _ => ?_)
    exact keeps_rewrite_iff (by decide) fun k v => treatment_of_unconcerned _ v

def lastActiveBody : Body :=
  .obj [(units "data",
    .obj [(units "lastActive", .date (some (units "2026-01-05T12:00:00.000Z")))])]

theorem not_keeps_lastActiveBody {treat : Text → Body → Treatment} {clean : Text → Bool}
    (hke : ∀ key ∈ [proto, units "data", units "lastActive"], clean key)
    (htre : ∀ k v, clean k → treat k v = .descend) : ¬ Keeps clean lastActiveBody
      (Visibility.replaceData (rewrite (fun _ => []) treat) lastActiveBody) := by
  simp only [List.forall_mem_cons] at hke
  obtain ⟨hpro, hda, hact, -⟩ := hke
  intro hkee
  have hpa : Passes treat clean true _ :=
    (keeps_rewrite_iff hpro htre).mp ((keeps_replaceData_iff hda).mp hkee _ rfl)
  exact hpa.2 (.value List.mem_cons_self hact rfl (.date _))

theorem date_lost :
    ¬ Keeps insensitive lastActiveBody (anonymizeMemberData (fun _ => []) "creator" lastActiveBody)
      ∧ ¬ Keeps unconcerned lastActiveBody
        (dataVisibilityRules (fun _ => []) "creator" lastActiveBody) := by
  constructor
  · exact not_keeps_lastActiveBody (by decide +kernel) fun k v =>
      anonymizing_of_insensitive "creator" v
  · exact not_keeps_lastActiveBody (by decide +kernel) fun k v => treatment_of_unconcerned _ v

end Frame

end SexySelfies.Privacy
