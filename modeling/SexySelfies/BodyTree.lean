import SexySelfies.JsonTree

/-!
# Bodies of responses

What a handler passes to `res.json` is not yet JSON: beside arrays and plain objects there are dates
and object ids, which become texts only when the body is written out (`shown`). Taken for plain
objects, a date has no entries, and those of an id depend on the driver.
-/

namespace Js

open List

/-! ## Bodies -/

/-- A `date` comes with what its `toJSON` gives, which is `null` for an invalid
one, and an `objectId` with its hexadecimal digits. -/
inductive Body where
  | null
  | bool (b : Bool)
  | num (q : ℚ)
  | str (s : Text)
  | date (iso : Option Text)
  | objectId (hex : Text)
  | arr (xs : List Body)
  | obj (fields : List (Text × Body))

namespace Body

@[elab_as_elim]
theorem induction {P : Body → Prop} (null : P .null) (bool : ∀ b, P (.bool b))
    (num : ∀ q, P (.num q)) (str : ∀ s, P (.str s)) (date : ∀ iso, P (.date iso))
    (objectId : ∀ hex, P (.objectId hex)) (arr : ∀ xs, (∀ x ∈ xs, P x) → P (.arr xs))
    (obj : ∀ fields, (∀ f ∈ fields, P f.2) → P (.obj fields)) (v : Body) : P v := by
  refine @Body.rec P (fun xs => ∀ x ∈ xs, P x) (fun fields => ∀ f ∈ fields, P f.2)
    (fun f => P f.2) null bool num str date objectId arr obj ?_ ?_ ?_ ?_ ?_ v
  · exact nofun
  · exact fun x xs hx hxs => forall_mem_cons.mpr ⟨hx, hxs⟩
  · exact nofun
  · exact fun f fields hf hfl => forall_mem_cons.mpr ⟨hf, hfl⟩
  · exact fun _ _ h => h

def truthy : Body → Bool
  | null => false
  | bool b => b
  | num q => q ≠ 0
  | str s => s ≠ []
  | _ => true

def readOptional (v : Option Body) (name : String) : Option Body :=
  match v with
  | some (.obj fields) => fields.lookup (units name)
  | _ => none

def proto : Text := units "__proto__"

/-- `object[key] = value`, for an object without that key; `none` when nothing is
assigned. -/
def store (key : Text) (value : Option Body) (fields : List (Text × Body)) : List (Text × Body) :=
  match value with
  | none => fields
  | some value => if key = proto then fields else (key, value) :: fields

variable (clean : Text → Bool)

mutual

/-- What `JSON.stringify` writes at the paths all of whose keys are clean. -/
def shown : Body → Json
  | null => .null
  | bool b => .bool b
  | num q => .num q
  | str s => .str s
  | date none => .null
  | date (some iso) => .str iso
  | objectId hex => .str hex
  | arr xs => .arr (shownElements xs)
  | obj fields => .obj (shownFields fields)

def shownElements : List Body → List Json
  | [] => []
  | x :: xs => shown x :: shownElements xs

def shownFields : List (Text × Body) → List (Text × Json)
  | [] => []
  | (key, v) :: fields =>
    if clean key then (key, shown v) :: shownFields fields else shownFields fields

end

end Body

/-! ## Rewriting -/

inductive Treatment where
  | keep
  | descend
  | drop
  | put (v : Body)
  | throw

def Treatment.ofOption : Option Body → Treatment
  | none => throw
  | some v => put v

def Treatment.apply (t : Treatment) (value : Body) (inner : Option Body) : Option (Option Body) :=
  match t with
  | keep => some (some value)
  | descend => inner.map some
  | drop => some none
  | put v => some (some v)
  | throw => none

namespace Body

-- The object that is made of the entries of an id.
variable (ofId : Text → List (Text × Body)) (treat : Text → Body → Treatment)

mutual

/-- `none` when it throws. -/
def rewrite : Body → Option Body
  | arr xs => (rewriteElements xs).map arr
  | obj fields => (rewriteFields fields).map obj
  | date _ => some (obj [])
  | objectId hex => some (obj (ofId hex))
  | v => some v

def rewriteElements : List Body → Option (List Body)
  | [] => some []
  | x :: xs => do
      let y ← rewrite x
      let ys ← rewriteElements xs
      return y :: ys

def rewriteFields : List (Text × Body) → Option (List (Text × Body))
  | [] => some []
  | (key, value) :: fields => do
      let stored ← (treat key value).apply value (rewrite value)
      let rest ← rewriteFields fields
      return store key stored rest

end

inductive Throws : Body → Prop where
  | elem {xs x} (hx : x ∈ xs) (h : Throws x) : Throws (arr xs)
  | field {fields f} (hf : f ∈ fields) (h : treat f.1 f.2 = .throw) : Throws (obj fields)
  | value {fields f} (hf : f ∈ fields) (htreat : treat f.1 f.2 = .descend) (h : Throws f.2) :
      Throws (obj fields)

section

variable {ofId : Text → List (Text × Body)} {treat : Text → Body → Treatment}

theorem rewriteElements_cons {x : Body} {xs zs : List Body} :
    rewriteElements ofId treat (x :: xs) = some zs ↔ ∃ y, rewrite ofId treat x = some y
        ∧ ∃ ys, rewriteElements ofId treat xs = some ys ∧ y :: ys = zs := by
  simp [rewriteElements, Option.bind_eq_some_iff]

theorem rewriteFields_cons {key : Text} {v : Body} {fields gs : List (Text × Body)} :
    rewriteFields ofId treat ((key, v) :: fields) = some gs
      ↔ ∃ stored, (treat key v).apply v (rewrite ofId treat v) = some stored
        ∧ ∃ rest, rewriteFields ofId treat fields = some rest ∧ store key stored rest = gs := by
  simp [rewriteFields, Option.bind_eq_some_iff]

theorem rewriteElements_eq_none {xs : List Body} :
    rewriteElements ofId treat xs = none ↔ ∃ x ∈ xs, rewrite ofId treat x = none := by
  induction xs with
  | nil => simp [rewriteElements]
  | cons x xs ih =>
    rw [exists_mem_cons_iff, ← ih, rewriteElements]
    cases rewrite ofId treat x with
    | none => simp
    | some => cases rewriteElements ofId treat xs <;> simp

theorem rewriteFields_eq_none {fields : List (Text × Body)} : rewriteFields ofId treat fields = none
      ↔ ∃ f ∈ fields, (treat f.1 f.2).apply f.2 (rewrite ofId treat f.2) = none := by
  induction fields with
  | nil => simp [rewriteFields]
  | cons f fields ih =>
    rw [exists_mem_cons_iff, ← ih, rewriteFields]
    cases (treat f.1 f.2).apply f.2 (rewrite ofId treat f.2) with
    | none => simp
    | some => cases rewriteFields ofId treat fields <;> simp

theorem apply_eq_none {t : Treatment} {v : Body} {inner : Option Body} :
    t.apply v inner = none ↔ t = .throw ∨ t = .descend ∧ inner = none := by
  cases t <;> simp [Treatment.apply]

theorem rewrite_eq_none {v : Body} : rewrite ofId treat v = none ↔ Throws treat v := by
  induction v using Body.induction with
  | arr xs ih =>
    rw [rewrite, Option.map_eq_none_iff, rewriteElements_eq_none]
    constructor
    · rintro ⟨x, hx, h⟩
      exact .elem hx ((ih x hx).mp h)
    · rintro (⟨hx, h⟩ | _ | _)
      exact ⟨_, hx, (ih _ hx).mpr h⟩
  | obj fields ih =>
    rw [rewrite, Option.map_eq_none_iff, rewriteFields_eq_none]
    constructor
    · rintro ⟨f, hf, h⟩
      rcases apply_eq_none.mp h with hthr | ⟨hde, hinn⟩
      · exact .field hf hthr
      · exact .value hf hde ((ih f hf).mp hinn)
    · rintro (_ | ⟨hf, hthr⟩ | ⟨hf, hde, h⟩)
      · exact ⟨_, hf, apply_eq_none.mpr (.inl hthr)⟩
      · exact ⟨_, hf, apply_eq_none.mpr (.inr ⟨hde, (ih _ hf).mpr h⟩)⟩
  | _ => exact iff_of_false nofun nofun

end

/-! ## What is kept -/

section

variable (clean : Text → Bool) (descends : Bool)

/-- A date, an id or a field `__proto__` stands at a path of clean keys; without
`descends` no field is gone into. -/
inductive Exposed : Body → Prop where
  | date (iso) : Exposed (date iso)
  | objectId (hex) : Exposed (objectId hex)
  | elem {xs x} (hx : x ∈ xs) (h : Exposed x) : Exposed (arr xs)
  | proto {fields f} (hf : f ∈ fields) (hkey : f.1 = proto) : Exposed (obj fields)
  | value {fields f} (hf : f ∈ fields) (hkey : clean f.1 = true) (hdescends : descends = true)
      (h : Exposed f.2) : Exposed (obj fields)

variable {clean descends}

theorem exposed_arr {xs : List Body} :
    ¬ Exposed clean descends (arr xs) ↔ ∀ x ∈ xs, ¬ Exposed clean descends x := by
  constructor
  · exact fun h x hx hex => h (.elem hx hex)
  · rintro h (_ | _ | ⟨hx, hex⟩ | _ | _)
    exact h _ hx hex

variable {fields : List (Text × Body)}

theorem exposed_obj : ¬ Exposed clean descends (obj fields) ↔ ∀ f ∈ fields, f.1 ≠ proto
      ∧ (clean f.1 → descends → ¬ Exposed clean descends f.2) := by
  constructor
  · exact fun h f hf => ⟨fun hkey => h (.proto hf hkey),
      fun hkey hdes hex => h (.value hf hkey hdes hex)⟩
  · rintro h (_ | _ | _ | ⟨hf, hkey⟩ | ⟨hf, hkey, hdes, hex⟩)
    · exact (h _ hf).1 hkey
    · exact (h _ hf).2 hkey hdes hex

variable {ofId : Text → List (Text × Body)} {treat : Text → Body → Treatment}

theorem shownElements_iff {xs ys : List Body} (ih : ∀ x ∈ xs, ∀ y, rewrite ofId treat x = some y →
      (shown clean y = shown clean x ↔ ¬ Exposed clean descends x))
    (h : rewriteElements ofId treat xs = some ys) :
    shownElements clean ys = shownElements clean xs ↔ ∀ x ∈ xs, ¬ Exposed clean descends x := by
  induction xs generalizing ys with
  | nil =>
    cases h
    exact iff_of_true rfl nofun
  | cons x xs ihxs =>
    obtain ⟨y, hy, ys, hys, rfl⟩ := rewriteElements_cons.mp h
    rw [shownElements, shownElements, List.cons.injEq, forall_mem_cons]
    exact and_congr (ih x mem_cons_self y hy) (ihxs (fun x hx => ih x (mem_cons_of_mem _ hx)) hys)

theorem shownFields_ne_proto {gs : List (Text × Body)}
    (h : rewriteFields ofId treat fields = some gs) : ∀ f ∈ shownFields clean gs, f.1 ≠ proto := by
  induction fields generalizing gs with
  | nil =>
    cases h
    exact nofun
  | cons f fields ih =>
    obtain ⟨stored, -, rest, hr, rfl⟩ := rewriteFields_cons.mp h
    unfold store
    split
    · exact ih hr
    · split
      · exact ih hr
      · next hkey =>
        rw [shownFields]
        split
        · exact forall_mem_cons.mpr ⟨hkey, ih hr⟩
        · exact ih hr

variable (hproto : clean proto = true)
  (htreat : ∀ k v, clean k = true → treat k v = if descends then .descend else .keep)

include hproto htreat

theorem shownFields_iff {gs : List (Text × Body)}
    (ih : ∀ f ∈ fields, ∀ w, rewrite ofId treat f.2 = some w →
      (shown clean w = shown clean f.2 ↔ ¬ Exposed clean descends f.2))
    (h : rewriteFields ofId treat fields = some gs) :
    shownFields clean gs = shownFields clean fields ↔ ∀ f ∈ fields, f.1 ≠ proto
      ∧ (clean f.1 → descends → ¬ Exposed clean descends f.2) := by
  induction fields generalizing gs with
  | nil =>
    cases h
    exact iff_of_true rfl nofun
  | cons f fields i =>
    obtain ⟨key, v⟩ := f
    obtain ⟨stored, hst, rest, hr, rfl⟩ := rewriteFields_cons.mp h
    have hres := i (fun f hf => ih f (mem_cons_of_mem _ hf)) hr
    rw [forall_mem_cons, ← hres, shownFields]
    by_cases hkey : key = proto
    · refine iff_of_false (fun heq => ?_) fun hall => hall.1.1 hkey
      have hs : store key stored rest = rest := by
        unfold store
        split
        · rfl
        · rw [if_pos hkey]
      rw [hs, hkey, if_pos hproto] at heq
      exact shownFields_ne_proto hr _ (heq ▸ mem_cons_self) rfl
    · cases hcle : clean key with
      | false =>
        have hs : shownFields clean (store key stored rest) = shownFields clean rest := by
          cases stored with
          | none => rfl
          | some => simp [store, hkey, shownFields, hcle]
        rw [hs]
        simp [hkey]
      | true =>
        have hv : ∃ w, stored = some w ∧ (shown clean w = shown clean v
            ↔ (descends → ¬ Exposed clean descends v)) := by
          rw [htreat key v hcle] at hst
          cases hdes : descends with
          | false =>
            rw [hdes] at hst
            cases hst
            exact ⟨v, rfl, iff_of_true rfl nofun⟩
          | true =>
            rw [hdes] at hst
            obtain ⟨w, hw, rfl⟩ := Option.map_eq_some_iff.mp hst
            have hiff := ih (key, v) mem_cons_self w hw
            rw [hdes] at hiff
            exact ⟨w, rfl, hiff.trans ⟨fun h _ => h, fun h => h rfl⟩⟩
        obtain ⟨w, rfl, hiff⟩ := hv
        simp [store, hkey, shownFields, hcle, hiff]

theorem shown_rewrite_iff {v w : Body} (h : rewrite ofId treat v = some w) :
    shown clean w = shown clean v ↔ ¬ Exposed clean descends v := by
  induction v using Body.induction generalizing w with
  | arr xs ih =>
    obtain ⟨ys, hys, rfl⟩ := Option.map_eq_some_iff.mp h
    rw [shown, shown, Json.arr.injEq, exposed_arr]
    exact shownElements_iff (fun x hx y => ih x hx) hys
  | obj fields ih =>
    obtain ⟨gs, hgs, rfl⟩ := Option.map_eq_some_iff.mp h
    rw [shown, shown, Json.obj.injEq, exposed_obj]
    exact shownFields_iff hproto htreat (fun f hf w => ih f hf) hgs
  | date iso =>
    cases h
    refine iff_of_false (fun heq => ?_) fun hnot => hnot (.date iso)
    cases iso <;> cases heq
  | objectId hex =>
    cases h
    exact iff_of_false nofun fun hnot => hnot (.objectId hex)
  | _ =>
    cases h
    exact iff_of_true rfl nofun

end

/-! ## Two bodies -/

section

variable (leaf : Body → Body → Prop) (field : Text → Body → Body → Prop → Prop)

mutual

/-- Two bodies of one form: `leaf` says what may differ in a leaf, and `field`
what may differ in the value of a field, given whether the values match. -/
def Matches : Body → Body → Prop
  | arr xs, arr ys => MatchesElements xs ys
  | obj fields, obj fields' => MatchesFields fields fields'
  | v, w => leaf v w

def MatchesElements : List Body → List Body → Prop
  | [], [] => True
  | x :: xs, y :: ys => Matches x y ∧ MatchesElements xs ys
  | _, _ => False

def MatchesFields : List (Text × Body) → List (Text × Body) → Prop
  | [], [] => True
  | (key, v) :: fields, (key', w) :: fields' =>
    key = key' ∧ field key v w (Matches v w) ∧ MatchesFields fields fields'
  | _, _ => False

end

variable {leaf field} {leaf' : Body → Body → Prop} {field' : Text → Body → Body → Prop → Prop}

theorem matches_cases {v w : Body} (h : Matches leaf field v w) :
    leaf v w ∨ (∃ xs ys, v = arr xs ∧ w = arr ys ∧ MatchesElements leaf field xs ys)
      ∨ ∃ fields fields', v = obj fields ∧ w = obj fields'
        ∧ MatchesFields leaf field fields fields' := by
  cases v with
  | arr xs =>
    cases w with
    | arr ys => exact .inr (.inl ⟨xs, ys, rfl, rfl, h⟩)
    | _ => exact .inl h
  | obj fields =>
    cases w with
    | obj fields' => exact .inr (.inr ⟨fields, fields', rfl, rfl, h⟩)
    | _ => exact .inl h
  | _ => cases w <;> exact .inl h

end

theorem store_eq_iff {key : Text} {o o' : Option Body} {rest rest' : List (Text × Body)}
    (h : o.isSome = o'.isSome) :
    store key o rest = store key o' rest' ↔ (key = proto ∨ o = o') ∧ rest = rest' := by
  cases o with
  | none =>
    cases o' with
    | none => simp [store]
    | some => cases h
  | some =>
    cases o' with
    | none => cases h
    | some =>
      by_cases hkey : key = proto
      · simp [store, hkey]
      · simp [store, hkey]

section

variable {ofId : Text → List (Text × Body)} {treat : Text → Body → Treatment}
  {leaf leaf' : Body → Body → Prop} {field field' : Text → Body → Body → Prop → Prop}

/-- If both are rewritten, the results are equal exactly if `P`. -/
def SameResult (ofId : Text → List (Text × Body)) (treat : Text → Body → Treatment)
    (v w : Body) (P : Prop) : Prop :=
  ∀ a b, rewrite ofId treat v = some a → rewrite ofId treat w = some b → (a = b ↔ P)

theorem rewriteElements_eq_iff {xs ys as bs : List Body}
    (ih : ∀ x ∈ xs, ∀ y, Matches leaf field x y →
      SameResult ofId treat x y (Matches leaf' field' x y)) (h : MatchesElements leaf field xs ys)
    (hx : rewriteElements ofId treat xs = some as) (hy : rewriteElements ofId treat ys = some bs) :
    as = bs ↔ MatchesElements leaf' field' xs ys := by
  induction xs generalizing ys as bs with
  | nil =>
    cases ys with
    | nil => exact iff_of_true (Option.mem_unique hx hy) trivial
    | cons => exact h.elim
  | cons x xs ihxs =>
    cases ys with
    | nil => exact h.elim
    | cons y ys =>
      obtain ⟨a, ha, as, has, rfl⟩ := rewriteElements_cons.mp hx
      obtain ⟨b, hb, bs, hbs, rfl⟩ := rewriteElements_cons.mp hy
      rw [List.cons.injEq]
      exact and_congr (ih x mem_cons_self y h.1 a b ha hb)
        (ihxs (fun x hx => ih x (mem_cons_of_mem _ hx)) h.2 has hbs)

def SameField (ofId : Text → List (Text × Body)) (treat : Text → Body → Treatment)
    (key : Text) (v w : Body) (P : Prop) : Prop :=
  ∀ o o', (treat key v).apply v (rewrite ofId treat v) = some o →
    (treat key w).apply w (rewrite ofId treat w) = some o' →
    o.isSome = o'.isSome ∧ (key = proto ∨ o = o' ↔ P)

theorem rewriteFields_eq_iff {fields fields' gs gs' : List (Text × Body)}
    (ih : ∀ f ∈ fields, ∀ w, field f.1 f.2 w (Matches leaf field f.2 w) →
      SameField ofId treat f.1 f.2 w (field' f.1 f.2 w (Matches leaf' field' f.2 w)))
    (h : MatchesFields leaf field fields fields') (hf : rewriteFields ofId treat fields = some gs)
    (hf' : rewriteFields ofId treat fields' = some gs') :
    gs = gs' ↔ MatchesFields leaf' field' fields fields' := by
  induction fields generalizing fields' gs gs' with
  | nil =>
    cases fields' with
    | nil => exact iff_of_true (Option.mem_unique hf hf') trivial
    | cons => exact h.elim
  | cons f fields ihfields =>
    cases fields' with
    | nil => exact h.elim
    | cons g fields' =>
      obtain ⟨key, v⟩ := f
      obtain ⟨key', w⟩ := g
      obtain ⟨rfl, hv, hr⟩ := h
      obtain ⟨o, ho, rest, hres, rfl⟩ := rewriteFields_cons.mp hf
      obtain ⟨o', ho', rest', hre, rfl⟩ := rewriteFields_cons.mp hf'
      obtain ⟨hs, hst⟩ := ih (key, v) mem_cons_self w hv o o' ho ho'
      have hta := ihfields (fun f hf => ih f (mem_cons_of_mem _ hf)) hr hres hre
      rw [store_eq_iff hs, hst, hta]
      exact ⟨fun h => ⟨rfl, h⟩, fun h => h.2⟩

theorem rewrite_eq_iff (hle : ∀ v w, leaf v w → SameResult ofId treat v w (leaf' v w))
    (hfie : ∀ key v w, field key v w (Matches leaf field v w) →
      (Matches leaf field v w → SameResult ofId treat v w (Matches leaf' field' v w)) →
      SameField ofId treat key v w (field' key v w (Matches leaf' field' v w)))
    {v w : Body} (h : Matches leaf field v w) :
    SameResult ofId treat v w (Matches leaf' field' v w) := by
  induction v using Body.induction generalizing w with
  | arr xs ih =>
    cases w with
    | arr =>
      intro a b ha hb
      obtain ⟨as, has, rfl⟩ := Option.map_eq_some_iff.mp ha
      obtain ⟨bs, hbs, rfl⟩ := Option.map_eq_some_iff.mp hb
      rw [arr.injEq]
      exact rewriteElements_eq_iff (fun x hx y => ih x hx) h has hbs
    | _ => exact hle _ _ h
  | obj fields ih =>
    cases w with
    | obj =>
      intro a b ha hb
      obtain ⟨gs, hgs, rfl⟩ := Option.map_eq_some_iff.mp ha
      obtain ⟨gs', hgs', rfl⟩ := Option.map_eq_some_iff.mp hb
      rw [obj.injEq]
      exact rewriteFields_eq_iff (fun f hf w hv => hfie f.1 f.2 w hv (ih f hf)) h hgs hgs'
    | _ => exact hle _ _ h
  | _ => cases w <;> exact hle _ _ h

end

end Body

end Js
