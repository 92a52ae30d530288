import SexySelfies.JsValue

/-!
# JSON trees

A JSON value is a tree of arrays and objects over null, booleans, numbers and texts. A text is the
list of its code units, since that is what the language indexes, cuts and compares: cutting between
the two units of one character gives a text that is no `String`.
-/

namespace Js

open List

/-! ## Texts -/

abbrev Text := List UInt16

def charUnits (c : Char) : Text :=
  if c.toNat < 0x10000 then [c.toNat.toUInt16]
  else
    let n := c.toNat - 0x10000
    [(0xD800 + n / 0x400).toUInt16, (0xDC00 + n % 0x400).toUInt16]

def units (s : String) : Text := s.toList.flatMap charUnits

def atSign : UInt16 := 0x40

namespace Text

variable (u : UInt16)

/-- `\s`. No half of a pair of units is white space. -/
def isSpace : Bool := Js.isSpace (Char.ofNat u.toNat)

def isDigit : Bool := 0x30 ≤ u.toNat && u.toNat ≤ 0x39

/-- Lower case, as far as letters from `a` to `z` are concerned: of the letters
beyond ASCII two have one of them in their lower case, and the others are kept
here. -/
def lowerUnit : Text :=
  if 0x41 ≤ u.toNat && u.toNat ≤ 0x5A then [u + 0x20]
  else if u.toNat = 0x212A then units "k"
  else if u.toNat = 0x130 then units "i" ++ [0x307]
  else [u]

def toLowerCase (t : Text) : Text := t.flatMap lowerUnit

def includes (t : Text) (part : String) : Bool := Js.includes t (units part)

variable {t : Text}

theorem includes_toLowerCase {part : String} (hpa : toLowerCase (units part) = units part)
    (h : t.includes part) : t.toLowerCase.includes part := by
  obtain ⟨before, after, rfl⟩ := Js.includes_iff.mp h
  refine Js.includes_iff.mpr ⟨toLowerCase before, toLowerCase after, ?_⟩
  unfold toLowerCase at hpa ⊢
  rw [flatMap_append, flatMap_append, hpa]

def split (t : Text) (u : UInt16) : List Text := t.splitOn u

variable {u : UInt16}

theorem split_append {a b : Text} (ha : u ∉ a) (hb : u ∉ b) : split (a ++ u :: b) u = [a, b] := by
  rw [split, splitOn_append_cons_self_of_not_mem ha, splitOn_eq_singleton hb]

theorem split_eq_pair {a b : Text} : split t u = [a, b] ↔ t = a ++ u :: b ∧ u ∉ a ∧ u ∉ b := by
  constructor
  · intro h
    by_cases hmem : u ∈ t
    · obtain ⟨x, y, rfl, hx⟩ := eq_append_cons_of_mem hmem
      rw [split, splitOn_append_cons_self_of_not_mem hx] at h
      obtain ⟨rfl, hr⟩ := List.cons.inj h
      by_cases hmem' : u ∈ y
      · obtain ⟨x', y', rfl, hx'⟩ := eq_append_cons_of_mem hmem'
        rw [splitOn_append_cons_self_of_not_mem hx'] at hr
        exact absurd (List.cons.inj hr).2 (splitOn_ne_nil u y')
      · rw [splitOn_eq_singleton hmem'] at hr
        obtain rfl := head_eq_of_cons_eq hr
        exact ⟨rfl, hx, hmem'⟩
    · rw [split, splitOn_eq_singleton hmem] at h
      simp at h
  · rintro ⟨rfl, ha, hb⟩
    exact split_append ha hb

def ofInt (y : ℤ) : Text :=
  (if y < 0 then units "-" else []) ++ (Nat.toDigits 10 y.natAbs).map fun c => c.toNat.toUInt16

theorem length_ofInt_le {y : ℤ} {k : Nat} (hk : 0 < k) (hy : y.natAbs < 10 ^ k) :
    (ofInt y).length ≤ k + 1 := by
  have hsi : (if y < 0 then units "-" else []).length ≤ 1 := by split <;> decide
  have hdig := (Nat.length_toDigits_le_iff (by decide) hk).mpr hy
  rw [ofInt, length_append, length_map]
  omega

theorem mem_ofInt {y : ℤ} (h : u ∈ ofInt y) : u = 0x2D ∨ isDigit u := by
  rw [ofInt] at h
  rcases mem_append.mp h with hsi | hd
  · split at hsi
    · exact .inl (mem_singleton.mp hsi)
    · cases hsi
  · obtain ⟨c, hc, rfl⟩ := mem_map.mp hd
    have hran := Nat.isDigit_of_mem_toDigits (by decide) (by decide) hc
    simp only [Char.isDigit, Bool.and_eq_true, decide_eq_true_eq, ge_iff_le,
      UInt32.le_iff_toNat_le] at hran
    have hun : c.toNat.toUInt16.toNat = c.toNat := by
      have hsma : c.toNat ≤ 57 := hran.2
      simp only [Nat.toUInt16, UInt16.toNat_ofNat']
      omega
    refine .inr ?_
    rw [isDigit, hun]
    simpa using hran

/-- The text as a string, in which a unit without its other half is replaced. -/
def decode : Text → List Char
  | [] => []
  | u :: v :: rest =>
    if 0xD800 ≤ u.toNat && u.toNat < 0xDC00 && 0xDC00 ≤ v.toNat && v.toNat < 0xE000 then
      Char.ofNat (0x10000 + (u.toNat - 0xD800) * 0x400 + (v.toNat - 0xDC00)) :: decode rest
    else unit u :: decode (v :: rest)
  | [u] => [unit u]
where
  unit (u : UInt16) : Char :=
    if 0xD800 ≤ u.toNat && u.toNat < 0xE000 then '�' else Char.ofNat u.toNat

def toNumber (t : Text) : Number := numberOfString (String.ofList t.decode)

end Text

/-! ## Trees -/

inductive Json where
  | null
  | bool (b : Bool)
  | num (q : ℚ)
  | str (s : Text)
  | arr (xs : List Json)
  | obj (fields : List (Text × Json))

namespace Json

@[elab_as_elim]
theorem induction {P : Json → Prop} (null : P .null) (bool : ∀ b, P (.bool b))
    (num : ∀ q, P (.num q)) (str : ∀ s, P (.str s)) (arr : ∀ xs, (∀ x ∈ xs, P x) → P (.arr xs))
    (obj : ∀ fi, (∀ f ∈ fi, P f.2) → P (.obj fi)) (v : Json) : P v := by
  refine @Json.rec P (fun xs => ∀ x ∈ xs, P x) (fun fi => ∀ f ∈ fi, P f.2)
    (fun f => P f.2) null bool num str arr obj ?_ ?_ ?_ ?_ ?_ v
  · exact nofun
  · exact fun x xs hx hxs => forall_mem_cons.mpr ⟨hx, hxs⟩
  · exact nofun
  · exact fun f fi hf hfl => forall_mem_cons.mpr ⟨hf, hfl⟩
  · exact fun _ _ h => h

/-! ### Properties -/

def truthy : Json → Bool
  | null => false
  | bool b => b
  | num q => q ≠ 0
  | str s => s ≠ []
  | arr _ => true
  | obj _ => true

/-- `v[name]`, for a name that arrays and texts do not have: `some none` is
`undefined`, and `none` is the error that reading a property of `null` is. -/
def read (v : Json) (name : String) : Option (Option Json) :=
  match v with
  | null => none
  | obj fields => some (fields.lookup (units name))
  | _ => some none

/-- `v?.[name]`, for a value that may be missing. -/
def readOptional (v : Option Json) (name : String) : Option Json :=
  match v with
  | some (.obj fields) => fields.lookup (units name)
  | _ => none

/-- `object[key] = value`, for an object without that key. Assigning to `__proto__`
stores no field. -/
def assign (key : Text) (value : Json) (fields : List (Text × Json)) : List (Text × Json) :=
  if key = units "__proto__" then fields else (key, value) :: fields

/-! ### Numbers -/

mutual

/-- The value has no text: an object with its own `toString`, which is not a
function. -/
def hasNoText : Json → Bool
  | obj fields => (fields.lookup (units "toString")).isSome
  | arr xs => anyHasNoText xs
  | _ => false

def anyHasNoText : List Json → Bool
  | [] => false
  | x :: xs => hasNoText x || anyHasNoText xs

end

/-- `Number(v)` of a value that has a text. -/
def toNumber : Json → Number
  | null => .fin 0
  | bool b => .fin (if b then 1 else 0)
  | num q => .fin q
  | str s => Text.toNumber s
  | arr [] => .fin 0
  | arr [null] => .fin 0
  | arr [bool _] => .nan
  | arr [v] => v.toNumber
  | arr (_ :: _ :: _) => .nan
  | obj _ => .nan

/-- What a value is compared as, where a number is on the other side; `none` when
this throws. -/
def operand : Option Json → Option Number
  | none => some .nan
  | some v => if v.hasNoText then none else some v.toNumber

/-! ### Traversals -/

section

variable {α : Type} (leaf : Json → List α) (field : Text → Json → List α → List α)

mutual

/-- What `leaf` finds in the leaves of a tree, where `field` says what becomes of
what is found below a field. -/
def collect : Json → List α
  | arr xs => collectElements xs
  | obj fields => collectFields fields
  | v => leaf v

def collectElements : List Json → List α
  | [] => []
  | x :: xs => collect x ++ collectElements xs

def collectFields : List (Text × Json) → List α
  | [] => []
  | (key, v) :: fields => field key v (collect v) ++ collectFields fields

end

variable {leaf field} {a : α}

theorem mem_collectElements {xs : List Json} :
    a ∈ collectElements leaf field xs ↔ ∃ x ∈ xs, a ∈ collect leaf field x := by
  induction xs with
  | nil => simp [collectElements]
  | cons x xs ih => simp [collectElements, ih]

theorem mem_collectFields {fi : List (Text × Json)} : a ∈ collectFields leaf field fi
      ↔ ∃ f ∈ fi, a ∈ field f.1 f.2 (collect leaf field f.2) := by
  induction fi with
  | nil => simp [collectFields]
  | cons f fi ih => simp [collectFields, ih]

end

def text : Json → List Text
  | str s => [s]
  | _ => []

def strings : Json → List Text := collect text fun _ _ inner => inner

variable {s : Text}

theorem mem_strings_arr {xs : List Json} : s ∈ (arr xs).strings ↔ ∃ x ∈ xs, s ∈ x.strings :=
  mem_collectElements

theorem mem_strings_obj {fi : List (Text × Json)} :
    s ∈ (obj fi).strings ↔ ∃ f ∈ fi, s ∈ f.2.strings := mem_collectFields

theorem mem_strings_assign {key : Text} {value : Json} {f : List (Text × Json)} :
    s ∈ (obj (assign key value f)).strings
      ↔ key ≠ units "__proto__" ∧ s ∈ value.strings ∨ s ∈ (obj f).strings := by
  rw [assign]
  split
  · next hkey => simp [hkey]
  · next hkey => simp [mem_strings_obj, hkey]

end Json

end Js
