import SexySelfies.JsonTree

/-!
# Member data in a response

`anonymizeMemberData` of `privacy.middleware.js` replaces the `data` of a response by
`anonymizeData` of it, which goes through the whole tree. A field whose name has one of eleven words
in it is left out, except for three names: of `spending` the tier and the trend are kept, of `email`
the domain and two characters, and `phone` is replaced.
-/

namespace SexySelfies.Privacy

open Js

/-! ## The middleware -/

def sensitiveFields : List String :=
  ["email", "phone", "paymentMethod", "stripeCustomerId", "bankAccount", "ssn", "taxId",
    "spending", "revenue", "earnings", "balance"]

def shouldAnonymizeField (fieldName : Text) : Bool :=
  sensitiveFields.any fun field => fieldName.toLowerCase.includes field.toLower

def concealed (username domain : Text) : Text := username.take 2 ++ units "***@" ++ domain

/-- `undefined` is written for a missing domain. -/
def hideEmail (email : Json) : Option Json :=
  if !email.truthy then some .null
  else
    match email with
    | .str s =>
      match Text.split s atSign with
      | username :: domain :: _ => some (.str (concealed username domain))
      | username :: [] => some (.str (concealed username (units "undefined")))
      | [] => some .null
    | _ => none

/-- `value.tier` and `value.velocity?.trend`; a property that is `undefined` is
not part of the response. -/
def hideSpending (value : Json) : Json :=
  let tier := Json.readOptional (some value) "tier"
  let trend := Json.readOptional (Json.readOptional (some value) "velocity") "trend"
  .obj ((tier.toList.map fun v => (units "tier", v))
    ++ trend.toList.map fun v => (units "trend", v))

/-- What is stored for a field with a sensitive name: `some none` when it is
left out. -/
def hideField (key : Text) (value : Json) : Option (Option Json) :=
  if key = units "spending" ∧ value.truthy = true then some (some (hideSpending value))
  else if key = units "email" then (hideEmail value).map some
  else if key = units "phone" then some (some (.str (units "***-***-****")))
  else some none

/-- `anonymized[key] = value`, unless the field is left out. -/
def store (key : Text) (value : Option Json) (fields : List (Text × Json)) : List (Text × Json) :=
  match value with
  | none => fields
  | some value => Json.assign key value fields

variable (userRole : String)

mutual

def anonymizeData : Json → Option Json
  | .arr xs => (anonymizeElements xs).map .arr
  | .obj fields => (anonymizeFields fields).map .obj
  | v => some v

def anonymizeElements : List Json → Option (List Json)
  | [] => some []
  | x :: xs => do
      let y ← anonymizeData x
      let ys ← anonymizeElements xs
      return y :: ys

def anonymizeFields : List (Text × Json) → Option (List (Text × Json))
  | [] => some []
  | (key, value) :: fields => do
      let stored ← (
        if userRole ≠ "admin" then
          if shouldAnonymizeField key then hideField key value
          else (anonymizeData value).map some
        else some (some value) : Option (Option Json))
      let rest ← anonymizeFields fields
      return store key stored rest

end

/-- `data.data = anonymizeData(data.data, …)`, for the body of a response. -/
def replaceData (fields : List (Text × Json)) : Option (List (Text × Json)) :=
  match fields.lookup (units "data") with
  | none => some fields
  | some v =>
    if v.truthy then
      (anonymizeData userRole v).map fun w =>
        fields.map fun f => if f.1 = units "data" then (f.1, w) else f
    else some fields

def anonymizeMemberData : Json → Option Json
  | .obj fields => (replaceData userRole fields).map .obj
  | body => some body

/-- The values agree in what a sensitive field shows. -/
def Alike (key : Text) (v w : Json) : Prop :=
  (key = units "spending" → v.truthy = w.truthy
    ∧ (v.truthy = true → Json.readOptional (some v) "tier" = Json.readOptional (some w) "tier"
      ∧ Json.readOptional (Json.readOptional (some v) "velocity") "trend"
        = Json.readOptional (Json.readOptional (some w) "velocity") "trend"))
  ∧ (key = units "email" → v = w ∨ ∃ user user' domain, v = .str (user ++ atSign :: domain)
    ∧ w = .str (user' ++ atSign :: domain) ∧ atSign ∉ user ∧ atSign ∉ user' ∧ atSign ∉ domain
    ∧ user.take 2 = user'.take 2)

mutual

/-- Two trees that differ only inside values of sensitive fields. -/
def Related : Json → Json → Prop
  | .arr xs, .arr ys => RelatedElements xs ys
  | .obj fields, .obj fields' => RelatedFields fields fields'
  | v, w => v = w

def RelatedElements : List Json → List Json → Prop
  | [], [] => True
  | x :: xs, y :: ys => Related x y ∧ RelatedElements xs ys
  | _, _ => False

def RelatedFields : List (Text × Json) → List (Text × Json) → Prop
  | [], [] => True
  | (key, v) :: fields, (key', w) :: fields' =>
    key = key' ∧ (if shouldAnonymizeField key then Alike key v w else Related v w)
      ∧ RelatedFields fields fields'
  | _, _ => False

end

def RelatedBodies : Json → Json → Prop
  | .obj fields, .obj fields' =>
    fields = fields' ∨ ∃ before v w after, fields = before ++ (units "data", v) :: after
      ∧ fields' = before ++ (units "data", w) :: after
      ∧ before.lookup (units "data") = none ∧ Related v w
  | v, w => v = w

/-! ## One field -/

variable {v w : Json}

theorem hideSpending_congr
    (hti : Json.readOptional (some v) "tier" = Json.readOptional (some w) "tier")
    (htre : Json.readOptional (Json.readOptional (some v) "velocity") "trend"
    = Json.readOptional (Json.readOptional (some w) "velocity") "trend") :
    hideSpending v = hideSpending w := by rw [hideSpending, hideSpending, hti, htre]

theorem hideEmail_address {user d : Text} (hu : atSign ∉ user) (hdom : atSign ∉ d) :
    hideEmail (.str (user ++ atSign :: d)) = some (.str (concealed user d)) := by
  have htr : (Json.str (user ++ atSign :: d)).truthy := by simp [Json.truthy]
  simp [hideEmail, htr, Text.split_append hu hdom]

theorem hideField_spending (hv : v.truthy) :
    hideField (units "spending") v = some (some (hideSpending v)) := if_pos ⟨rfl, hv⟩

theorem hideField_no_spending (hv : v.truthy = false) :
    hideField (units "spending") v = some none := by
  have he : units "spending" ≠ units "email" := by decide
  have hpho : units "spending" ≠ units "phone" := by decide
  simp [hideField, hv, he, hpho]

theorem hideField_of_ne {key : Text} (hkey : key ≠ units "spending") (v : Json) : hideField key v =
    if key = units "email" then (hideEmail v).map some
    else if key = units "phone" then some (some (.str (units "***-***-****")))
    else some none := by simp [hideField, hkey]

theorem hideEmail_congr (h : v = w ∨ ∃ user user' d,
      v = .str (user ++ atSign :: d) ∧ w = .str (user' ++ atSign :: d) ∧ atSign ∉ user
        ∧ atSign ∉ user' ∧ atSign ∉ d ∧ user.take 2 = user'.take 2) :
    hideEmail v = hideEmail w := by
  rcases h with rfl | ⟨user, user', d, rfl, rfl, hu, hu', hdom, hta⟩
  · rfl
  · rw [hideEmail_address hu hdom, hideEmail_address hu' hdom, concealed, concealed, hta]

theorem hideField_congr {key : Text} (h : Alike key v w) : hideField key v = hideField key w := by
  obtain ⟨hspe, he⟩ := h
  by_cases hkey : key = units "spending"
  · obtain ⟨htr, hk⟩ := hspe hkey
    rw [hkey]
    cases hv : v.truthy with
    | true =>
      obtain ⟨hti, htre⟩ := hk hv
      rw [hideField_spending hv, hideField_spending (htr.symm.trans hv),
        hideSpending_congr hti htre]
    | false => rw [hideField_no_spending hv, hideField_no_spending (htr.symm.trans hv)]
  · rw [hideField_of_ne hkey, hideField_of_ne hkey]
    split
    · next hkey' => rw [hideEmail_congr (he hkey')]
    · rfl

/-! ## Whole trees -/

def isLeaf : Json → Bool
  | .arr _ => false
  | .obj _ => false
  | _ => true

theorem related_leaf (h : Related v w) (hv : isLeaf v) : v = w := by
  cases v with
  | arr xs | obj f => cases hv
  | _ => cases w <;> exact h

theorem related_truthy (h : Related v w) : v.truthy = w.truthy := by
  cases v with
  | arr =>
    cases w with
    | arr => rfl
    | _ => cases h
  | obj =>
    cases w with
    | obj => rfl
    | _ => cases h
  | _ => rw [related_leaf h rfl]

section

variable {userRole : String}

theorem anonymizeElements_congr {xs ys : List Json}
    (ih : ∀ x ∈ xs, ∀ y, Related x y → anonymizeData userRole x = anonymizeData userRole y)
    (h : RelatedElements xs ys) :
    anonymizeElements userRole xs = anonymizeElements userRole ys := by
  induction xs generalizing ys with
  | nil =>
    cases ys with
    | nil => rfl
    | cons => exact h.elim
  | cons x xs ihxs =>
    cases ys with
    | nil => exact h.elim
    | cons y ys =>
      obtain ⟨hx, hxs⟩ := h
      rw [anonymizeElements, anonymizeElements, ih x List.mem_cons_self y hx,
        ihxs (fun x hmem => ih x (List.mem_cons_of_mem _ hmem)) hxs]

variable (hrole : userRole ≠ "admin")

include hrole

theorem anonymizeFields_congr {fields fields' : List (Text × Json)}
    (ih : ∀ f ∈ fields, ∀ w, Related f.2 w → anonymizeData userRole f.2 = anonymizeData userRole w)
    (h : RelatedFields fields fields') :
    anonymizeFields userRole fields = anonymizeFields userRole fields' := by
  induction fields generalizing fields' with
  | nil =>
    cases fields' with
    | nil => rfl
    | cons => exact h.elim
  | cons f fields ihfields =>
    cases fields' with
    | nil => exact h.elim
    | cons f' fields' =>
      obtain ⟨key, v⟩ := f
      obtain ⟨key', w⟩ := f'
      obtain ⟨rfl, hv, hr⟩ := h
      have hst : (if shouldAnonymizeField key then hideField key v
            else (anonymizeData userRole v).map some)
          = if shouldAnonymizeField key then hideField key w
            else (anonymizeData userRole w).map some := by
        split at hv
        · next hkey => rw [if_pos hkey, if_pos hkey, hideField_congr hv]
        · next hkey => rw [if_neg hkey, if_neg hkey, ih (key, v) List.mem_cons_self w hv]
      rw [anonymizeFields, anonymizeFields, if_pos hrole, if_pos hrole, hst,
        ihfields (fun f hmem => ih f (List.mem_cons_of_mem _ hmem)) hr]

theorem anonymizeData_congr (v w : Json) (h : Related v w) :
    anonymizeData userRole v = anonymizeData userRole w := by
  induction v using Json.induction generalizing w with
  | null | bool b | num q | str s => rw [related_leaf h rfl]
  | arr xs ih =>
    cases w with
    | arr => rw [anonymizeData, anonymizeData, anonymizeElements_congr ih h]
    | _ => cases h
  | obj f ih =>
    cases w with
    | obj => rw [anonymizeData, anonymizeData, anonymizeFields_congr hrole ih h]
    | _ => cases h

/-! ## Responses -/

theorem replaceData_congr {before after : List (Text × Json)}
    (hbef : before.lookup (units "data") = none) (h : Related v w) :
    replaceData userRole (before ++ (units "data", v) :: after)
      = replaceData userRole (before ++ (units "data", w) :: after) := by
  have hlo : ∀ u : Json, (before ++ (units "data", u) :: after).lookup (units "data") = some u := by
    intro u
    rw [List.lookup_append, hbef, List.lookup_cons_self, Option.none_or]
  rw [replaceData, replaceData, hlo v, hlo w]
  dsimp only
  rw [← related_truthy h]
  split
  · rw [anonymizeData_congr hrole v w h]
    simp
  · next hfal =>
    cases v with
    | arr xs | obj f => exact absurd rfl hfal
    | _ => rw [related_leaf h rfl]

theorem anonymizeMemberData_congr (body body' : Json) (h : RelatedBodies body body') :
    anonymizeMemberData userRole body = anonymizeMemberData userRole body' := by
  cases body with
  | obj =>
    cases body' with
    | obj =>
      rcases h with rfl | ⟨before, v, w, after, rfl, rfl, hbef, h⟩
      · rfl
      · rw [anonymizeMemberData, anonymizeMemberData, replaceData_congr hrole hbef h]
    | _ => cases h
  | _ =>
    refine congrArg (anonymizeMemberData userRole) ?_
    cases body' <;> exact h

end

/-- No role but `admin` sees more of a sensitive field than its tier and trend
or the two characters and the domain, at any depth of a tree, and so in a
response. -/
theorem sensitive_values_unseen (userRole : String) (hrole : userRole ≠ "admin") :
    (∀ v w, Related v w → anonymizeData userRole v = anonymizeData userRole w)
      ∧ ∀ body body', RelatedBodies body body' →
        anonymizeMemberData userRole body = anonymizeMemberData userRole body' :=
  ⟨anonymizeData_congr hrole, anonymizeMemberData_congr hrole⟩

def sampleMember (balance : ℚ) (user : String) : Json :=
  .obj [(units "balance", .num balance),
    (units "contact", .arr [.obj [(units "email", .str (units user ++ atSign :: units "b.co"))]])]

theorem sampleMember_related : Related (sampleMember 5 "alice") (sampleMember 70 "albert") := by
  have he : Alike (units "email") (.str (units "alice" ++ atSign :: units "b.co"))
      (.str (units "albert" ++ atSign :: units "b.co")) := by
    refine ⟨fun h => absurd h (by decide), fun _ => .inr ?_⟩
    exact ⟨_, _, _, rfl, rfl, by decide, by decide, by decide, by decide⟩
  have hbal : Alike (units "balance") (.num 5) (.num 70) :=
    ⟨fun h => absurd h (by decide), fun h => absurd h (by decide)⟩
  have hc : shouldAnonymizeField (units "contact") = false := by decide +kernel
  refine ⟨rfl, ?_, rfl, ?_, trivial⟩
  · rwa [if_pos (by decide +kernel)]
  · rw [hc]
    refine ⟨⟨rfl, ?_, trivial⟩, trivial⟩
    rwa [if_pos (by decide +kernel)]

theorem sampleMember_unseen :
    sampleMember 5 "alice" ≠ sampleMember 70 "albert"
      ∧ anonymizeData "creator" (sampleMember 5 "alice")
        = anonymizeData "creator" (sampleMember 70 "albert")
      ∧ anonymizeMemberData "creator" (.obj [(units "data", sampleMember 5 "alice")])
        = anonymizeMemberData "creator" (.obj [(units "data", sampleMember 70 "albert")]) := by
  obtain ⟨htre, hbod⟩ := sensitive_values_unseen "creator" (by decide)
  refine ⟨?_, htre _ _ sampleMember_related, hbod _ _ ?_⟩
  · intro h
    simp [sampleMember] at h
  · exact .inr ⟨[], _, _, [], rfl, rfl, rfl, sampleMember_related⟩

end SexySelfies.Privacy
