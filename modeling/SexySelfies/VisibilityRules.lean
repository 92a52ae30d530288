import SexySelfies.BodyTree
import SexySelfies.MemberAnonymity

/-!
# Spending in a response under the visibility rules

`dataVisibilityRules` of `privacy.middleware.js` replaces the `data` of a response by
`applyVisibilityRules` of it. For a role that may not see exact spending, a number under a key with
`spending` in it becomes a range. The test for the key is made in the given case, so `totalSpending`
does not pass it, and below such a key the recursion is the same as anywhere else.
-/

namespace SexySelfies.Privacy.Visibility

open Js Body

/-! ## The middleware -/

structure Rules where
  canSeeExactSpending : Bool
  canSeeEmail : Bool
  canSeePaymentMethods : Bool

/-- The rules of a role. Those of a name that every object has, such as
`constructor`, are read off a function, which has none of them. -/
def visibilityRules (userRole : String) : Rules :=
  match userRole with
  | "creator" => ⟨false, false, false⟩
  | "admin" => ⟨true, true, false⟩
  | _ => ⟨false, false, false⟩

def getSpendingRange (amount : ℚ) : String :=
  if 1000 ≤ amount then "$1000+"
  else if 500 ≤ amount then "$500-999"
  else if 100 ≤ amount then "$100-499"
  else if 50 ≤ amount then "$50-99"
  else if 0 < amount then "$1-49"
  else "$0"

/-- Hiding what is no text throws. -/
def hideEmail (email : Body) : Option Body :=
  match email with
  | .str s =>
    match Privacy.hideEmail (.str s) with
    | some (.str hidden) => some (.str hidden)
    | _ => some .null
  | v => if v.truthy then none else some .null

def isNumber : Body → Bool
  | .num _ => true
  | _ => false

def amountOf : Body → ℚ
  | .num q => q
  | _ => 0

def treatment (rules : Rules) (key : Text) (value : Body) : Treatment :=
  if rules.canSeeExactSpending = false ∧ key.includes "spending" = true
      ∧ isNumber value = true then
    .put (.str (units (getSpendingRange (amountOf value))))
  else if rules.canSeeEmail = false ∧ key = units "email" then .ofOption (hideEmail value)
  else if rules.canSeePaymentMethods = false ∧ key.includes "payment" = true then .drop
  else .descend

variable (ofId : Text → List (Text × Body))

def applyVisibilityRules (rules : Rules) : Body → Option Body := rewrite ofId (treatment rules)

/-- `data.data = f(data.data)`, unless it is falsy. -/
def assignData (f : Body → Option Body) : List (Text × Body) → Option (List (Text × Body))
  | [] => some []
  | (key, v) :: fields =>
    if key = units "data" then
      if v.truthy then (f v).map fun w => (key, w) :: fields else some ((key, v) :: fields)
    else (assignData f fields).map ((key, v) :: ·)

def replaceData (f : Body → Option Body) : Body → Option Body
  | .obj fields => (assignData f fields).map .obj
  | body => some body

def dataVisibilityRules (ofId : Text → List (Text × Body)) (userRole : String) :
    Body → Option Body :=
  replaceData (applyVisibilityRules ofId (visibilityRules userRole))

def concernsSpending (key : Text) : Bool := key.toLowerCase.includes "spending"

/-- The same, or numbers shown as the same range. -/
def SameRange (v w : Body) : Prop :=
  v = w ∨ ∃ q r, v = .num q ∧ w = .num r ∧ getSpendingRange q = getSpendingRange r

def Below : Body → Body → Prop := Matches SameRange fun _ _ _ inner => inner

/-- Two bodies that differ only in amounts at or below keys that concern
spending, and there within the ranges. -/
def Related : Body → Body → Prop :=
  Matches Eq fun key v w inner => if concernsSpending key then Below v w else inner

/-- Of the value of such a field no amount is shown: it is replaced by a range,
shortened, left out or not stored. -/
def Hidden (key : Text) (value : Body) : Prop :=
  key.includes "spending" = true ∧ isNumber value = true ∨ key = units "email"
    ∨ key.includes "payment" = true ∨ key = proto

def Concealed : Body → Body → Prop := Matches Eq fun key v _ inner => Hidden key v ∨ inner

/-! ## One field -/

def strictRules : Rules := ⟨false, false, false⟩

theorem visibilityRules_eq {u : String} (h : (visibilityRules u).canSeeExactSpending = false) :
    visibilityRules u = strictRules := by
  unfold visibilityRules at h ⊢
  split
  · rfl
  · cases h
  · rfl

def Alike (v w : Body) : Prop :=
  SameRange v w ∨ (∃ xs ys, v = .arr xs ∧ w = .arr ys)
    ∨ ∃ fields fields', v = .obj fields ∧ w = .obj fields'

theorem alike_of_matches {leaf : Body → Body → Prop} {field : Text → Body → Body → Prop → Prop}
    {v w : Body} (hle : leaf v w → SameRange v w) (h : Matches leaf field v w) : Alike v w := by
  rcases matches_cases h with h | ⟨xs, ys, hv, hw, -⟩ | ⟨f, f', hv, hw, -⟩
  · exact .inl (hle h)
  · exact .inr (.inl ⟨xs, ys, hv, hw⟩)
  · exact .inr (.inr ⟨f, f', hv, hw⟩)

theorem amount_congr {v w : Body} (h : Alike v w) :
    isNumber v = isNumber w ∧ getSpendingRange (amountOf v) = getSpendingRange (amountOf w) := by
  rcases h with (rfl | ⟨q, r, rfl, rfl, hran⟩) | ⟨xs, ys, rfl, rfl⟩ | ⟨f, f', rfl, rfl⟩
  · exact ⟨rfl, rfl⟩
  · exact ⟨rfl, hran⟩
  · exact ⟨rfl, rfl⟩
  · exact ⟨rfl, rfl⟩

theorem hideEmail_congr {v w a b : Body} (h : Alike v w) (hv : hideEmail v = some a)
    (hw : hideEmail w = some b) : a = b := by
  have hnum : ∀ {q : ℚ} {c : Body}, hideEmail (.num q) = some c → c = .null := by
    intro q c hc
    simp only [hideEmail] at hc
    split at hc
    · cases hc
    · exact (Option.some.inj hc).symm
  rcases h with (rfl | ⟨q, r, rfl, rfl, -⟩) | ⟨xs, ys, rfl, rfl⟩ | ⟨f, f', rfl, rfl⟩
  · exact Option.mem_unique hv hw
  · rw [hnum hv, hnum hw]
  · cases hv
  · cases hv

section

variable {ofId : Text → List (Text × Body)} {key : Text} {v w : Body}

theorem treatment_of_number (hkey : key.includes "spending") (hv : isNumber v) :
    treatment strictRules key v = .put (.str (units (getSpendingRange (amountOf v)))) :=
  if_pos ⟨rfl, hkey, hv⟩

theorem treatment_of_not_number (h : ¬ (key.includes "spending" ∧ isNumber v)) :
    treatment strictRules key v =
    if key = units "email" then .ofOption (hideEmail v)
    else if key.includes "payment" = true then .drop
    else .descend := by simp [treatment, strictRules, h]

theorem sameField (h : Alike v w)
    (ih : SameResult ofId (treatment strictRules) v w (Concealed v w)) :
    SameField ofId (treatment strictRules) key v w (Hidden key v ∨ Concealed v w) := by
  intro o o' hv hw
  by_cases hnum : key.includes "spending" = true ∧ isNumber v = true
  · rw [treatment_of_number hnum.1 hnum.2] at hv
    rw [treatment_of_number hnum.1 ((amount_congr h).1.symm.trans hnum.2),
      ← (amount_congr h).2] at hw
    cases hv
    cases hw
    exact ⟨rfl, iff_of_true (.inr rfl) (.inl (.inl hnum))⟩
  · rw [treatment_of_not_number hnum] at hv
    rw [treatment_of_not_number ((amount_congr h).1 ▸ hnum)] at hw
    by_cases he : key = units "email"
    · rw [if_pos he] at hv hw
      cases ha : hideEmail v with
      | none =>
        rw [ha] at hv
        cases hv
      | some =>
        cases hb : hideEmail w with
        | none =>
          rw [hb] at hw
          cases hw
        | some =>
          rw [ha] at hv
          rw [hb, ← hideEmail_congr h ha hb] at hw
          cases hv
          cases hw
          exact ⟨rfl, iff_of_true (.inr rfl) (.inl (.inr (.inl he)))⟩
    · rw [if_neg he] at hv hw
      by_cases hpay : key.includes "payment" = true
      · rw [if_pos hpay] at hv hw
        cases hv
        cases hw
        exact ⟨rfl, iff_of_true (.inr rfl) (.inl (.inr (.inr (.inl hpay))))⟩
      · rw [if_neg hpay] at hv hw
        obtain ⟨a, ha, rfl⟩ := Option.map_eq_some_iff.mp hv
        obtain ⟨b, hb, rfl⟩ := Option.map_eq_some_iff.mp hw
        have hhid : Hidden key v ↔ key = proto := by
          simp [Hidden, hnum, he, hpay]
        exact ⟨rfl, by rw [hhid, Option.some_inj, ih a b ha hb]⟩

end

/-! ## Two responses -/

section

variable {ofId : Text → List (Text × Body)} {v w : Body}

theorem sameResult_below (h : Below v w) :
    SameResult ofId (treatment strictRules) v w (Concealed v w) := by
  refine rewrite_eq_iff (fun v w hle a b ha hb => ?_)
    (fun key v w hv ih => sameField (alike_of_matches id hv) (ih hv)) h
  rcases hle with rfl | ⟨q, r, rfl, rfl, -⟩
  · exact iff_of_true (Option.mem_unique ha hb) rfl
  · cases ha
    cases hb
    rfl

theorem sameResult (h : Related v w) :
    SameResult ofId (treatment strictRules) v w (Concealed v w) := by
  refine rewrite_eq_iff (fun v w hle a b ha hb => ?_) (fun key v w hv ih => ?_) h
  · subst hle
    exact iff_of_true (Option.mem_unique ha hb) rfl
  · split at hv
    · exact sameField (alike_of_matches id hv) (sameResult_below hv)
    · exact sameField (alike_of_matches .inl hv) (ih hv)

/-- Both responses fail, or neither does and they differ in hidden values only. -/
def Indistinct (v w : Body) : Prop :=
  Throws (treatment strictRules) v ∧ Throws (treatment strictRules) w
    ∨ ¬ Throws (treatment strictRules) v ∧ ¬ Throws (treatment strictRules) w ∧ Concealed v w

theorem rewrite_eq_rewrite_iff (h : Related v w) :
    rewrite ofId (treatment strictRules) v = rewrite ofId (treatment strictRules) w
      ↔ Indistinct v w := by
  unfold Indistinct
  rw [← @rewrite_eq_none ofId, ← @rewrite_eq_none ofId]
  cases hv : rewrite ofId (treatment strictRules) v with
  | none =>
    cases hw : rewrite ofId (treatment strictRules) w with
    | none | some b => simp
  | some a =>
    cases hw : rewrite ofId (treatment strictRules) w with
    | none => simp
    | some b => simp [sameResult h a b hv hw]

def bodyWith (before after : List (Text × Body)) (v : Body) : Body :=
  .obj (before ++ (units "data", v) :: after)

variable {before after : List (Text × Body)}

theorem assignData_append {f : Body → Option Body} (h : ∀ g ∈ before, g.1 ≠ units "data")
    (hv : v.truthy) : assignData f (before ++ (units "data", v) :: after)
      = (f v).map fun a => before ++ (units "data", a) :: after := by
  induction before with
  | nil =>
    rw [List.nil_append, assignData, if_pos rfl, if_pos hv]
    rfl
  | cons g before ih =>
    obtain ⟨hg, hbef⟩ := List.forall_mem_cons.mp h
    rw [List.cons_append, assignData, if_neg hg, ih hbef, Option.map_map]
    rfl

theorem replaceData_eq_iff {f : Body → Option Body} (h : ∀ g ∈ before, g.1 ≠ units "data")
    (hv : v.truthy) (hw : w.truthy) :
    replaceData f (bodyWith before after v) = replaceData f (bodyWith before after w)
      ↔ f v = f w := by
  rw [bodyWith, bodyWith, replaceData, replaceData, assignData_append h hv,
    assignData_append h hw, Option.map_map, Option.map_map]
  refine (Option.map_injective fun a b hab => ?_).eq_iff
  have hco := List.append_cancel_left (Body.obj.inj hab)
  exact congrArg Prod.snd (List.cons.inj hco).1

theorem truthy_of_related (h : Related v w) : v = w ∨ v.truthy ∧ w.truthy := by
  rcases matches_cases h with hle | ⟨xs, ys, rfl, rfl, -⟩ | ⟨f, f', rfl, rfl, -⟩
  · exact .inl hle
  · exact .inr ⟨rfl, rfl⟩
  · exact .inr ⟨rfl, rfl⟩

end

/-- Two bodies that differ in spending within the ranges become one for a role that may not see it
exactly if both fail, or neither does and they differ in hidden values only. -/
theorem spending_hidden_iff (ofId : Text → List (Text × Body)) {userRole : String}
    (hrole : (visibilityRules userRole).canSeeExactSpending = false) {v w : Body}
    (h : Related v w) :
    (applyVisibilityRules ofId (visibilityRules userRole) v
        = applyVisibilityRules ofId (visibilityRules userRole) w ↔ Indistinct v w)
      ∧ ∀ before after : List (Text × Body), (∀ g ∈ before, g.1 ≠ units "data") →
        (dataVisibilityRules ofId userRole (bodyWith before after v)
            = dataVisibilityRules ofId userRole (bodyWith before after w) ↔ Indistinct v w) := by
  unfold dataVisibilityRules applyVisibilityRules
  rw [visibilityRules_eq hrole]
  have hres : rewrite ofId (treatment strictRules) v = rewrite ofId (treatment strictRules) w
      ↔ Indistinct v w := rewrite_eq_rewrite_iff h
  refine ⟨hres, fun before after hbef => ?_⟩
  rcases truthy_of_related h with rfl | ⟨hv, hw⟩
  · exact iff_of_true rfl (hres.mp rfl)
  · exact (replaceData_eq_iff hbef hv hw).trans hres

def amountAt (amount : ℚ) : Body := .obj [(units "spending", .num amount)]

theorem indistinct_amountAt (q r : ℚ) : Indistinct (amountAt q) (amountAt r) := by
  have hs : ∀ q : ℚ, ¬ Throws (treatment strictRules) (amountAt q) := by
    intro q
    rw [← @rewrite_eq_none fun _ => []]
    exact Option.some_ne_none (Body.obj [(units "spending", .str (units (getSpendingRange q)))])
  exact .inr ⟨hs q, hs r, rfl, .inl (.inl ⟨by decide, rfl⟩), trivial⟩

theorem related_amountAt {q r : ℚ} (h : getSpendingRange q = getSpendingRange r) :
    Related (amountAt q) (amountAt r) := by
  refine ⟨rfl, ?_, trivial⟩
  have hkey : concernsSpending (units "spending") := by decide
  beta_reduce
  rw [if_pos hkey]
  exact .inr ⟨q, r, rfl, rfl, h⟩

theorem spending_hidden_creator :
    (visibilityRules "creator").canSeeExactSpending = false
      ∧ Related (amountAt 120) (amountAt 130)
      ∧ applyVisibilityRules (fun _ => []) (visibilityRules "creator") (amountAt 120)
        = applyVisibilityRules (fun _ => []) (visibilityRules "creator") (amountAt 130)
      ∧ dataVisibilityRules (fun _ => []) "creator" (bodyWith [] [] (amountAt 120))
        = dataVisibilityRules (fun _ => []) "creator" (bodyWith [] [] (amountAt 130)) := by
  have hrel := related_amountAt (q := 120) (r := 130) (by decide +kernel)
  obtain ⟨hdata, hb⟩ := @spending_hidden_iff (fun _ => []) "creator" rfl _ _ hrel
  exact ⟨rfl, hrel, hdata.mpr (indistinct_amountAt 120 130),
    (hb [] [] nofun).mpr (indistinct_amountAt 120 130)⟩

def spendingOf (amount : ℚ) : Body :=
  .obj [(units "spending", .obj [(units "last30Days", .num amount)])]

theorem related_spendingOf {q r : ℚ} (h : getSpendingRange q = getSpendingRange r) :
    Related (spendingOf q) (spendingOf r) := by
  refine ⟨rfl, ?_, trivial⟩
  have hkey : concernsSpending (units "spending") := by decide
  beta_reduce
  rw [if_pos hkey]
  exact ⟨rfl, .inr ⟨q, r, rfl, rfl, h⟩, trivial⟩

theorem applyVisibilityRules_spendingOf (q : ℚ) :
    applyVisibilityRules (fun _ => []) (visibilityRules "creator") (spendingOf q)
    = some (spendingOf q) := by rfl

theorem exact_spending_shown :
    (visibilityRules "creator").canSeeExactSpending = false
      ∧ Related (spendingOf 120) (spendingOf 130)
      ∧ applyVisibilityRules (fun _ => []) (visibilityRules "creator") (spendingOf 120)
        ≠ applyVisibilityRules (fun _ => []) (visibilityRules "creator") (spendingOf 130) := by
  refine ⟨rfl, related_spendingOf (by decide +kernel), ?_⟩
  rw [applyVisibilityRules_spendingOf, applyVisibilityRules_spendingOf]
  simp [spendingOf]

end SexySelfies.Privacy.Visibility
