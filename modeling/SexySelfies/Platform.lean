import SexySelfies.JsValue

/-!
# The platform of the handlers

The parts of the object-document mapper and of the web framework that decide what a handler stores
and answers: casting a value to a schema type, the order of validation and `pre('save')` hooks,
strict mode, and the shape of an answer.
-/

namespace Platform

open Js

/-! ## Casting -/

/-- Cast to `Number`: `none` is a `CastError`, `some none` a stored `null` or
a path left unset. -/
def castNumber : Value → Option (Option Number)
  | .undefined => some none
  | .null => some none
  | .str s =>
    if s = "" then some none
    else match numberOfString s with
      | .nan => none
      | n => some (some n)
  | .bool b => some (some (.fin (if b then 1 else 0)))
  | .num .nan => none
  | .num n => some (some n)
  | .arr _ => none
  | .obj _ => none

/-- Cast to `String`, where `numeral` is the text of a number. -/
def castString (numeral : Number → String) : Value → Option (Option String)
  | .undefined => some none
  | .null => some none
  | .bool b => some (some (if b then "true" else "false"))
  | .num n => some (some (numeral n))
  | .str s => some (some s)
  | .arr _ => none
  | .obj fields =>
    match fields.lookup "_id" with
    | some (.str s) => if s ≠ "" then some (some s) else none
    | _ => none

/-- Whether a value casts to `String`. An array never does, and an object
only through a string `_id`. -/
def castsToString : Value → Bool
  | .arr _ => false
  | .obj fields =>
    match fields.lookup "_id" with
    | some (.str s) => s ≠ ""
    | _ => false
  | _ => true

/-- The text a value casts to, where an enumeration could have it: not that of
a number or a boolean. -/
def textOf : Value → Option String
  | .str s => some s
  | .obj fields =>
    match fields.lookup "_id" with
    | some (.str s) => some s
    | _ => none
  | _ => none

/-- A required string path: castable, and neither missing nor empty. -/
def isPresentText (v : Value) : Bool :=
  castsToString v &&
    match v with
    | .undefined => false
    | .null => false
    | .str s => s ≠ ""
    | _ => true

/-- The length of a string in UTF-16 code units. -/
def utf16Length (s : String) : Nat :=
  (s.toList.map fun c => if c.toNat < 0x10000 then 1 else 2).sum

/-- A string path with a `maxlength`. The texts of numbers and booleans are
never long. -/
def castsWithin (maxlength : Nat) (v : Value) : Bool :=
  castsToString v &&
    match v with
    | .str s => utf16Length s ≤ maxlength
    | .obj fields =>
      match fields.lookup "_id" with
      | some (.str s) => utf16Length s ≤ maxlength
      | _ => true
    | _ => true

theorem castNumber_toNumber {v : Value} {n : Number} (h : castNumber v = some (some n)) :
    v.toNumber = n := by
  cases v with
  | undefined | null => simp [castNumber] at h
  | bool =>
    simp only [castNumber, Option.some.injEq] at h
    simpa only [Value.toNumber] using h
  | num m =>
    cases m with
    | nan => simp [castNumber] at h
    | negInf | fin q | posInf => simpa [castNumber, Value.toNumber] using h
  | str =>
    simp only [castNumber] at h
    split at h
    · simp at h
    · split at h
      · cases h
      · simp only [Option.some.injEq] at h
        simpa only [Value.toNumber] using h
  | arr xs | obj f => simp [castNumber] at h

theorem castNumber_ne_nan {v : Value} {n : Number} (h : castNumber v = some (some n)) :
    n ≠ .nan := by
  rintro rfl
  cases v with
  | undefined | null | bool b => simp [castNumber] at h
  | num m => cases m <;> simp [castNumber] at h
  | str =>
    simp only [castNumber] at h
    split at h
    · simp at h
    · split at h
      · cases h
      · rename_i hne
        simp only [Option.some.injEq] at h
        exact hne h
  | arr xs | obj f => simp [castNumber] at h

/-! ## Saving -/

/-- Which comes first in `save`: schema validation, or the `pre('save')`
hooks of the schema. -/
inductive SaveOrder where
  | validateFirst
  | hooksFirst

/-- A document reference in a request: left out, not an object id (looking it
up is a `CastError`), or an id. -/
inductive Ref where
  | absent
  | malformed
  | id (n : Nat)
deriving DecidableEq

/-- The reference that is stored; what is no object id fails validation. -/
def Ref.stored : Ref → Option (Option Nat)
  | .malformed => none
  | .absent => some none
  | .id n => some (some n)

def strict {α : Type} (declared : List String) (fields : List (String × α)) : List (String × α) :=
  fields.filter fun f => f.1 ∈ declared

theorem lookup_strict {α : Type} {declared : List String} {name : String}
    (h : name ∉ declared) (fields : List (String × α)) :
    (strict declared fields).lookup name = none := by
  rw [List.lookup_eq_none_iff]
  intro f hf
  have hmem : f.1 ∈ declared := of_decide_eq_true (List.mem_filter.mp hf).2
  have hne : name ≠ f.1 := fun heq => h (heq ▸ hmem)
  exact bne_iff_ne.mpr hne

/-- Assign a path: it is written when the value differs from the loaded one. -/
def assign {α : Type} [DecidableEq α] (loaded new stored : α) : α :=
  if new = loaded then stored else new

theorem assign_self {α : Type} [DecidableEq α] (a b : α) : assign a b a = b := by
  unfold assign
  split
  · rename_i h; exact h.symm
  · rfl

theorem assign_of_ne {α : Type} [DecidableEq α] {loaded new : α} (h : loaded ≠ new)
    (stored : α) : assign loaded new stored = new := if_neg fun heq => h heq.symm

/-! ## Answers -/

/-- What a handler answers: a status code and a text, with data on success. -/
inductive Response (δ : Type) where
  | failure (status : Nat) (error : String)
  | success (status : Nat) (message : String) (data : Option δ)
deriving DecidableEq

def castError (model : String) : String :=
  "Cast to ObjectId failed at path \"_id\" for model \"" ++ model ++ "\""

def Response.isSuccess {δ : Type} : Response δ → Bool
  | .failure _ _ => false
  | .success _ _ _ => true

end Platform
