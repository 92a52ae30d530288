import Mathlib.Algebra.Order.Floor.Ring
import Mathlib.Data.List.Infix
import Mathlib.Data.Rat.Floor
import Mathlib.Tactic.Linarith
import SexySelfies.Double

/-!
# JSON values and number coercion

What a request body can hold, and what the language does with it where a number is expected. Number
values are rationals together with the three non-finite values. The operations are exact; `rounded`
is the double that one results in, for the code where that shows.
-/

namespace Js

/-! ## Numbers -/

inductive Number where
  | nan
  | negInf
  | fin (q : ℚ)
  | posInf
deriving DecidableEq

namespace Number

def lt : Number → Number → Bool
  | fin a, fin b => a < b
  | negInf, fin _ => true
  | negInf, posInf => true
  | fin _, posInf => true
  | _, _ => false

def le : Number → Number → Bool
  | fin a, fin b => a ≤ b
  | negInf, nan => false
  | negInf, _ => true
  | nan, posInf => false
  | _, posInf => true
  | _, _ => false

def neg : Number → Number
  | nan => nan
  | negInf => posInf
  | fin q => fin (-q)
  | posInf => negInf

def add : Number → Number → Number
  | fin a, fin b => fin (a + b)
  | nan, _ => nan
  | _, nan => nan
  | negInf, posInf => nan
  | posInf, negInf => nan
  | negInf, _ => negInf
  | _, negInf => negInf
  | posInf, _ => posInf
  | _, posInf => posInf

def sub (a b : Number) : Number := a.add b.neg

def div (n : Number) (k : ℚ) : Number :=
  match n with
  | fin q => fin (q / k)
  | n => n

def truthy : Number → Bool
  | nan => false
  | fin q => q ≠ 0
  | _ => true

/-- The double that an operation results in. -/
def rounded : Number → Number
  | fin q =>
    if Double.overflow ≤ Double.toDouble q then posInf
    else if Double.toDouble q ≤ -Double.overflow then negInf
    else fin (Double.toDouble q)
  | n => n

@[simp] theorem lt_fin (a b : ℚ) : (fin a).lt (fin b) = decide (a < b) := rfl

@[simp] theorem sub_fin (a b : ℚ) : (fin a).sub (fin b) = fin (a - b) := by
  simp only [sub, neg, add, sub_eq_add_neg]

@[simp] theorem add_fin (a b : ℚ) : (fin a).add (fin b) = fin (a + b) := rfl

end Number

/-! ## Number literals in strings -/

def digitOf (radix : Nat) (c : Char) : Option Nat :=
  let v :=
    if '0' ≤ c ∧ c ≤ '9' then some (c.toNat - '0'.toNat)
    else if 'a' ≤ c ∧ c ≤ 'z' then some (c.toNat - 'a'.toNat + 10)
    else if 'A' ≤ c ∧ c ≤ 'Z' then some (c.toNat - 'A'.toNat + 10)
    else none
  v.filter (· < radix)

def readDigits (radix : Nat) (cs : List Char) : Option Nat :=
  if cs.isEmpty then none
  else cs.foldlM (fun acc c => (digitOf radix c).map (acc * radix + ·)) 0

variable (cs : List Char)

def readMantissa : Option ℚ :=
  match cs.span (· ≠ '.') with
  | (a, []) => (readDigits 10 a).map (↑·)
  | ([], [_]) => none
  | ([], _ :: frac) => (readDigits 10 frac).map fun y => (y : ℚ) / 10 ^ frac.length
  | (a, [_]) => (readDigits 10 a).map (↑·)
  | (a, _ :: frac) =>
    (readDigits 10 a).bind fun x =>
      (readDigits 10 frac).map fun y => (x : ℚ) + (y : ℚ) / 10 ^ frac.length

def readDecimal : Option ℚ :=
  match cs.span (fun c => c ≠ 'e' && c ≠ 'E') with
  | (m, []) => readMantissa m
  | (m, _ :: '-' :: ds) =>
    (readMantissa m).bind fun x => (readDigits 10 ds).map fun n => x / 10 ^ n
  | (m, _ :: '+' :: ds) =>
    (readMantissa m).bind fun x => (readDigits 10 ds).map fun n => x * 10 ^ n
  | (m, _ :: ds) =>
    (readMantissa m).bind fun x => (readDigits 10 ds).map fun n => x * 10 ^ n

def isSpace (c : Char) : Bool :=
  c.toNat ∈ [0x09, 0x0A, 0x0B, 0x0C, 0x0D, 0x20, 0xA0, 0x1680, 0x2028, 0x2029, 0x202F,
    0x205F, 0x3000, 0xFEFF] || (0x2000 ≤ c.toNat && c.toNat ≤ 0x200A)

def trimStart : List Char := cs.dropWhile isSpace

def trim : List Char := (trimStart (trimStart cs).reverse).reverse

/-- `text.includes(part)`, over the units of a text. -/
def includes {α : Type} [BEq α] (text part : List α) : Bool := text.tails.any part.isPrefixOf

theorem includes_iff {α : Type} [BEq α] [LawfulBEq α] {text part : List α} :
    includes text part ↔ part <:+: text := by
  rw [includes, List.any_eq_true]
  constructor
  · rintro ⟨rest, hr, hpa⟩
    have hp : part <+: rest := List.isPrefixOf_iff_prefix.mp hpa
    exact hp.isInfix.trans ((List.mem_tails rest text).mp hr).isInfix
  · rintro ⟨before, after, rfl⟩
    refine ⟨part ++ after, (List.mem_tails _ _).mpr ⟨before, ?_⟩, ?_⟩
    · rw [List.append_assoc]
    · exact List.isPrefixOf_iff_prefix.mpr (List.prefix_append _ _)

def readUnsigned : Number :=
  if cs = "Infinity".toList then .posInf
  else ((readDecimal cs).map Number.fin).getD .nan

def readRadix (radix : Nat) (cs : List Char) : Number :=
  ((readDigits radix cs).map fun n => Number.fin n).getD .nan

def numberOfString (s : String) : Number :=
  match trim s.toList with
  | [] => .fin 0
  | '0' :: 'x' :: ds => readRadix 16 ds
  | '0' :: 'X' :: ds => readRadix 16 ds
  | '0' :: 'o' :: ds => readRadix 8 ds
  | '0' :: 'O' :: ds => readRadix 8 ds
  | '0' :: 'b' :: ds => readRadix 2 ds
  | '0' :: 'B' :: ds => readRadix 2 ds
  | '+' :: ds => readUnsigned ds
  | '-' :: ds => (readUnsigned ds).neg
  | ds => readUnsigned ds

def parseInt (s : String) : Number :=
  let unsigned (cs : List Char) : Number :=
    match cs with
    | '0' :: 'x' :: ds => readRadix 16 (ds.takeWhile fun c => (digitOf 16 c).isSome)
    | '0' :: 'X' :: ds => readRadix 16 (ds.takeWhile fun c => (digitOf 16 c).isSome)
    | ds => readRadix 10 (ds.takeWhile fun c => (digitOf 10 c).isSome)
  match trimStart s.toList with
  | '+' :: ds => unsigned ds
  | '-' :: ds => (unsigned ds).neg
  | ds => unsigned ds

inductive Value where
  | undefined
  | null
  | bool (b : Bool)
  | num (n : Number)
  | str (s : String)
  | arr (xs : List Value)
  | obj (fields : List (String × Value))

namespace Value

/-- `Number(v)`. An array coerces through its text: the text of `[x]` is the
text of `x` (empty for `null`), and two elements leave a comma. -/
def toNumber : Value → Number
  | undefined => .nan
  | null => .fin 0
  | bool b => .fin (if b then 1 else 0)
  | num n => n
  | str s => numberOfString s
  | arr [] => .fin 0
  | arr [undefined] => .fin 0
  | arr [null] => .fin 0
  | arr [bool _] => .nan
  | arr [v] => v.toNumber
  | arr (_ :: _ :: _) => .nan
  | obj _ => .nan

def truthy : Value → Bool
  | undefined => false
  | null => false
  | bool b => b
  | num n => n.truthy
  | str s => s ≠ ""
  | arr _ => true
  | obj _ => true

def isNullish : Value → Bool
  | undefined => true
  | null => true
  | _ => false

/-- `v[name]` for a name that arrays and texts do not have. On `undefined`
and `null` the access throws. -/
def get (v : Value) (name : String) : Value :=
  match v with
  | obj fields => (fields.lookup name).getD undefined
  | _ => undefined

def same : Value → Value → Bool
  | undefined, undefined => true
  | null, null => true
  | bool b, bool c => b = c
  | num m, num n => m = n && m ≠ .nan
  | str s, str t => s = t
  | _, _ => false

end Value

/-! ## Two decimals -/

/-- The hundredths `toFixed(2)` writes: ties go away from zero. -/
def hundredths (q : ℚ) : ℤ :=
  if q < 0 then -⌊-q * 100 + 1 / 2⌋ else ⌊q * 100 + 1 / 2⌋

def round2 (q : ℚ) : ℚ := hundredths q / 100

def toFixed2 (q : ℚ) : String :=
  let n := (hundredths q).natAbs
  let cents := toString (n % 100)
  (if q < 0 then "-" else "") ++ toString (n / 100) ++ "."
    ++ (if n % 100 < 10 then "0" ++ cents else cents)

def Number.toFixed2 : Number → String
  | .nan => "NaN"
  | .negInf => "-Infinity"
  | .fin q => Js.toFixed2 q
  | .posInf => "Infinity"

theorem round2_nonneg {q : ℚ} (h : 0 ≤ q) : 0 ≤ round2 q := by
  have hflo : 0 ≤ ⌊q * 100 + 1 / 2⌋ := Int.floor_nonneg.mpr (by linarith)
  rw [round2, hundredths, if_neg (not_lt.mpr h)]
  exact div_nonneg (by exact_mod_cast hflo) (by norm_num)

end Js
