import Mathlib.Data.List.TakeWhile
import Mathlib.Tactic.Positivity
import SexySelfies.JsValue

/-!
# Numbers written out and read back

`numeral` is the text of a number, for numbers from `10 ^ (-6)` up: plain digits with an optional
fraction below `10 ^ 21`, and from there on one digit, its fraction and an exponent.
-/

namespace Js

open List

/-! ## Digits -/

def digitChars : List Char := "0123456789".toList

variable {c : Char}

theorem mem_digitChars : c ∈ digitChars ↔ c.isDigit := by
  constructor
  · have hall : digitChars.all Char.isDigit := by decide
    exact all_eq_true.mp hall c
  · intro h
    have hall : ∀ n < 58, 48 ≤ n → Char.ofNat n ∈ digitChars := by decide
    obtain ⟨hlow, hhigh⟩ : 48 ≤ c.toNat ∧ c.toNat ≤ 57 := by
      simpa [Char.isDigit, UInt32.le_iff_toNat_le] using h
    have hmem := hall c.toNat (by omega) hlow
    rwa [Char.ofNat_toNat] at hmem

theorem digit_of_all {p : Char → Bool} (hall : digitChars.all p) (h : c.isDigit) :
    p c := all_eq_true.mp hall c (mem_digitChars.mpr h)

theorem not_isSpace_of_isDigit (h : c.isDigit) : isSpace c = false := by
  have hall := digit_of_all (p := fun c => !isSpace c) (by decide) h
  exact Bool.not_eq_true' (isSpace c) ▸ hall

theorem digitOf_of_isDigit (h : c.isDigit) : digitOf 10 c = some (c.toNat - '0'.toNat) :=
  of_decide_eq_true
    (digit_of_all (p := fun c => digitOf 10 c = some (c.toNat - '0'.toNat)) (by decide) h)

def IsDigits (cs : List Char) : Prop := cs ≠ [] ∧ ∀ c ∈ cs, c.isDigit = true

theorem isDigits_toDigits (n : Nat) : IsDigits (Nat.toDigits 10 n) :=
  ⟨Nat.toDigits_ne_nil, fun _ hc => Nat.isDigit_of_mem_toDigits (by decide) (by decide) hc⟩

theorem toString_injective : Function.Injective (toString : Nat → String) := by
  intro a b h
  have hdig : Nat.toDigits 10 a = Nat.toDigits 10 b := by
    simpa only [Nat.toString_eq_repr, Nat.toList_repr] using congrArg String.toList h
  have hv := congrArg (fun ds => Nat.ofDigitChars 10 ds 0) hdig
  simpa only [Nat.ofDigitChars_ten_toDigits] using hv

variable {cs : List Char}

theorem foldlM_digits (h : ∀ c ∈ cs, c.isDigit) (acc : Nat) :
    cs.foldlM (fun acc c => (digitOf 10 c).map (acc * 10 + ·)) acc
      = some (Nat.ofDigitChars 10 cs acc) := by
  induction cs generalizing acc with
  | nil => rfl
  | cons c cs ih =>
    rw [foldlM_cons, digitOf_of_isDigit (h c mem_cons_self), Nat.ofDigitChars_cons,
      Nat.mul_comm 10 acc]
    exact ih (fun d hd => h d (mem_cons_of_mem c hd)) _

theorem readDigits_digits (h : IsDigits cs) :
    readDigits 10 cs = some (Nat.ofDigitChars 10 cs 0) := by
  rw [readDigits, if_neg (by simpa using h.1), foldlM_digits h.2]

/-! ## Reading -/

variable {ds rest : List Char}

theorem takeWhile_digits (hds : IsDigits ds) (hr : ∀ c ∈ rest.head?, c = '.' ∨ c = 'e') :
    (ds ++ rest).takeWhile (fun c => (digitOf 10 c).isSome) = ds := by
  have hin : ∀ c ∈ ds, (digitOf 10 c).isSome := by
    intro c hc
    rw [digitOf_of_isDigit (hds.2 c hc)]
    rfl
  have hout : rest.takeWhile (fun c => (digitOf 10 c).isSome) = [] := by
    cases rest with
    | nil => rfl
    | cons c rest =>
      refine takeWhile_cons_of_neg (p := fun c => (digitOf 10 c).isSome) ?_
      rcases hr c rfl with rfl | rfl <;> decide
  rw [takeWhile_append_of_pos hin, hout, append_nil]

theorem second_notMem {d : Char} (hds : IsDigits (d :: ds))
    (hr : ∀ c ∈ rest.head?, c = '.' ∨ c = 'e') (h : ds ++ rest = c :: cs) :
    c ∉ ['x', 'X', 'o', 'O', 'b', 'B'] := by
  cases ds with
  | nil => rcases hr c (congrArg List.head? h) with rfl | rfl <;> decide
  | cons e ds =>
    obtain ⟨rfl, -⟩ := List.cons.inj h
    have he := hds.2 e (mem_cons_of_mem d mem_cons_self)
    exact of_decide_eq_true
      (digit_of_all (p := fun c => c ∉ ['x', 'X', 'o', 'O', 'b', 'B']) (by decide) he)

theorem parseInt_digits (hds : IsDigits ds) (hr : ∀ c ∈ rest.head?, c = '.' ∨ c = 'e') :
    parseInt (String.ofList (ds ++ rest)) = .fin (Nat.ofDigitChars 10 ds 0) := by
  have htake := takeWhile_digits hds hr
  have hrd : readRadix 10 ds = .fin (Nat.ofDigitChars 10 ds 0) := by
    rw [readRadix, readDigits_digits hds]
    rfl
  cases ds with
  | nil => exact absurd rfl hds.1
  | cons d ds =>
    have hd := hds.2 d mem_cons_self
    have htrim : trimStart (d :: ds ++ rest) = d :: ds ++ rest :=
      dropWhile_cons_of_neg (by rw [not_isSpace_of_isDigit hd]; decide)
    unfold parseInt
    rw [String.toList_ofList, htrim, cons_append]
    split
    · next heq =>
      obtain ⟨rfl, -⟩ := List.cons.inj heq
      exact absurd hd (by decide)
    · next heq =>
      obtain ⟨rfl, -⟩ := List.cons.inj heq
      exact absurd hd (by decide)
    · dsimp only
      split
      · next heq => exact absurd (by simp) (second_notMem hds hr (List.cons.inj heq).2)
      · next heq => exact absurd (by simp) (second_notMem hds hr (List.cons.inj heq).2)
      · rw [← cons_append, htake, hrd]

theorem trim_eq_self {d : Char} (hc : isSpace c = false) (hd : isSpace d = false) :
    trim (c :: cs ++ [d]) = c :: cs ++ [d] := by
  have hs : trimStart (c :: cs ++ [d]) = c :: cs ++ [d] :=
    dropWhile_cons_of_neg (by rw [hc]; decide)
  have hend : trimStart (c :: cs ++ [d]).reverse = (c :: cs ++ [d]).reverse := by
    rw [reverse_append]
    exact dropWhile_cons_of_neg (by rw [hd]; decide)
  rw [trim, hs, hend, reverse_reverse]

variable {a b : List Char}

theorem readMantissa_point (ha : IsDigits a) (hb : IsDigits b) : readMantissa (a ++ '.' :: b)
      = some ((Nat.ofDigitChars 10 a 0 : ℚ) + (Nat.ofDigitChars 10 b 0 : ℚ) / 10 ^ b.length) := by
  have hin : ∀ c ∈ a, decide (c ≠ '.') = true := by
    intro c hc
    have hd := ha.2 c hc
    refine decide_eq_true ?_
    rintro rfl
    exact absurd hd (by decide)
  have hspan : (a ++ '.' :: b).span (fun c => decide (c ≠ '.')) = (a, '.' :: b) := by
    rw [span_eq_takeWhile_dropWhile, takeWhile_append_of_pos hin,
      dropWhile_append_of_pos hin, takeWhile_cons_of_neg (by decide),
      dropWhile_cons_of_neg (by decide), append_nil]
  have hdigits_a := readDigits_digits ha
  have hdigits_b := readDigits_digits hb
  obtain ⟨hne_a, -⟩ := ha
  obtain ⟨hne_b, -⟩ := hb
  cases a with
  | nil => exact absurd rfl hne_a
  | cons =>
    cases b with
    | nil => exact absurd rfl hne_b
    | cons =>
      rw [readMantissa, hspan]
      simp only [hdigits_a, hdigits_b, Option.bind_some]
      rfl

theorem readDecimal_point (ha : IsDigits a) (hb : IsDigits b) : readDecimal (a ++ '.' :: b)
      = some ((Nat.ofDigitChars 10 a 0 : ℚ) + (Nat.ofDigitChars 10 b 0 : ℚ) / 10 ^ b.length) := by
  have hd : ∀ {c : Char}, c.isDigit → (c ≠ 'e' && c ≠ 'E') = true := by
    intro c h
    exact digit_of_all (p := fun c => c ≠ 'e' && c ≠ 'E') (by decide) h
  have hpl : ∀ c ∈ a ++ '.' :: b, (c ≠ 'e' && c ≠ 'E') = true := by
    intro c hc
    rcases mem_append.mp hc with hc | hc
    · exact hd (ha.2 c hc)
    · rcases mem_cons.mp hc with rfl | hc
      · decide
      · exact hd (hb.2 c hc)
  have hspan : (a ++ '.' :: b).span (fun c => c ≠ 'e' && c ≠ 'E') = (a ++ '.' :: b, []) := by
    rw [span_eq_takeWhile_dropWhile, takeWhile_eq_self_iff.mpr hpl, dropWhile_eq_nil_iff.mpr hpl]
  rw [readDecimal, hspan]
  exact readMantissa_point ha hb

theorem numberOfString_unsigned (hc : c.isDigit) (htrim : trim (c :: cs) = c :: cs)
    (hsec : ∀ d ds, cs = d :: ds → d ∉ ['x', 'X', 'o', 'O', 'b', 'B']) :
    numberOfString (String.ofList (c :: cs))
      = ((readDecimal (c :: cs)).map Number.fin).getD .nan := by
  have hword : c :: cs ≠ "Infinity".toList := by
    intro heq
    obtain ⟨rfl, -⟩ := List.cons.inj heq
    exact absurd hc (by decide)
  unfold numberOfString
  rw [String.toList_ofList, htrim]
  split
  · next heq => cases heq
  · next heq => exact absurd (by simp) (hsec 'x' _ (List.cons.inj heq).2)
  · next heq => exact absurd (by simp) (hsec 'X' _ (List.cons.inj heq).2)
  · next heq => exact absurd (by simp) (hsec 'o' _ (List.cons.inj heq).2)
  · next heq => exact absurd (by simp) (hsec 'O' _ (List.cons.inj heq).2)
  · next heq => exact absurd (by simp) (hsec 'b' _ (List.cons.inj heq).2)
  · next heq => exact absurd (by simp) (hsec 'B' _ (List.cons.inj heq).2)
  · next heq =>
    obtain ⟨rfl, -⟩ := List.cons.inj heq
    exact absurd hc (by decide)
  · next heq =>
    obtain ⟨rfl, -⟩ := List.cons.inj heq
    exact absurd hc (by decide)
  · rw [readUnsigned, if_neg hword]

theorem numberOfString_point (ha : IsDigits a) (hb : IsDigits b) :
    numberOfString (String.ofList (a ++ '.' :: b))
      = .fin ((Nat.ofDigitChars 10 a 0 : ℚ) + (Nat.ofDigitChars 10 b 0 : ℚ) / 10 ^ b.length) := by
  have hdeci := readDecimal_point ha hb
  cases a with
  | nil => exact absurd rfl ha.1
  | cons x a =>
    obtain ⟨b', y, rfl⟩ : ∃ b' y, b = b' ++ [y] :=
      ⟨b.dropLast, b.getLast hb.1, (dropLast_append_getLast hb.1).symm⟩
    have hx := ha.2 x mem_cons_self
    have hy := hb.2 y (mem_append_right b' mem_cons_self)
    have hsha : x :: (a ++ '.' :: (b' ++ [y])) = x :: (a ++ '.' :: b') ++ [y] := by simp
    have htrim : trim (x :: (a ++ '.' :: (b' ++ [y]))) = x :: (a ++ '.' :: (b' ++ [y])) := by
      rw [hsha]
      exact trim_eq_self (not_isSpace_of_isDigit hx) (not_isSpace_of_isDigit hy)
    have hpoi : ∀ c ∈ ('.' :: (b' ++ [y])).head?, c = '.' ∨ c = 'e' := by
      rintro c ⟨⟩
      exact .inl rfl
    rw [cons_append, numberOfString_unsigned hx htrim fun d ds h => second_notMem ha hpoi h,
      ← cons_append, hdeci]
    rfl

/-! ## Writing -/

variable (q : ℚ)

/-- The digits behind the point, as few as write the fraction in full. Every
finite number of the language has such digits. -/
def fractionDigits : List Char :=
  match (List.range (q.den + 1)).find? fun k => 10 ^ k % q.den = 0 with
  | some k =>
    let ds := Nat.toDigits 10 ((q - ⌊q⌋) * 10 ^ k).num.toNat
    List.replicate (k - ds.length) '0' ++ ds
  | none => []

def plain : List Char :=
  let whole := Nat.toDigits 10 ⌊q⌋.toNat
  if q.den = 1 then whole else whole ++ '.' :: fractionDigits q

def exponentOf : Nat := (Nat.toDigits 10 ⌊q⌋.toNat).length - 1

/-- `q.toString()`, for `q` zero or at least `10 ^ (-6)`. -/
def numeral : String :=
  String.ofList
    (if q < 10 ^ 21 then plain q
     else plain (q / 10 ^ exponentOf q) ++ 'e' :: '+' :: Nat.toDigits 10 (exponentOf q))

/-- `q.toFixed(2)`. -/
def toFixed : String := if q < 10 ^ 21 then toFixed2 q else numeral q

def Number.text : Number → String
  | .nan => "NaN"
  | .negInf => "-Infinity"
  | .fin q => numeral q
  | .posInf => "Infinity"

def Number.toFixed : Number → String
  | .fin q => Js.toFixed q
  | n => n.text

mutual

/-- `String(v)`. An array is the texts of its elements with commas between. -/
def Value.text : Value → String
  | .undefined => "undefined"
  | .null => "null"
  | .bool b => if b then "true" else "false"
  | .num n => n.text
  | .str s => s
  | .arr xs => ",".intercalate (Value.elementTexts xs)
  | .obj _ => "[object Object]"

def Value.elementTexts : List Value → List String
  | [] => []
  | v :: vs => (if v.isNullish then "" else v.text) :: Value.elementTexts vs

end

example : numeral (25 * 10 ^ 21) = "2.5e+22" := by decide +kernel

theorem numeral_ne_empty : numeral q ≠ "" := by
  have hpl : ∀ q, plain q ≠ [] := by
    intro q
    unfold plain
    split
    · exact Nat.toDigits_ne_nil
    · exact append_ne_nil_of_left_ne_nil Nat.toDigits_ne_nil _
  intro h
  have hnil := congrArg String.toList h
  rw [numeral, String.toList_ofList] at hnil
  split at hnil
  · exact hpl q hnil
  · exact append_ne_nil_of_left_ne_nil (hpl _) _ hnil

theorem parseInt_plain (rest : List Char) (hr : ∀ c ∈ rest.head?, c = '.' ∨ c = 'e') :
    parseInt (String.ofList (plain q ++ rest)) = .fin ⌊q⌋.toNat := by
  have hdig := isDigits_toDigits ⌊q⌋.toNat
  by_cases hden : q.den = 1
  · rw [plain, if_pos hden, parseInt_digits hdig hr, Nat.ofDigitChars_ten_toDigits]
  · rw [plain, if_neg hden, append_assoc, parseInt_digits hdig, Nat.ofDigitChars_ten_toDigits]
    rintro c ⟨⟩
    exact .inl rfl

variable {q : ℚ}

theorem parseInt_numeral_of_lt (h : q < 10 ^ 21) : parseInt (numeral q) = .fin ⌊q⌋.toNat := by
  have hpl := parseInt_plain q [] (by rintro c ⟨⟩)
  rw [numeral, if_pos h]
  rwa [append_nil] at hpl

theorem parseInt_numeral_of_le (h : 10 ^ 21 ≤ q) :
    parseInt (numeral q) = .fin ⌊q / 10 ^ exponentOf q⌋.toNat := by
  rw [numeral, if_neg (not_lt.mpr h)]
  refine parseInt_plain _ _ ?_
  rintro c ⟨⟩
  exact .inr rfl

theorem lt_pow_exponentOf : q < 10 ^ (exponentOf q + 1) := by
  have hlen : (Nat.toDigits 10 ⌊q⌋.toNat).length ≤ exponentOf q + 1 := by
    unfold exponentOf
    omega
  have hnat := (Nat.length_toDigits_le_iff (by decide) (Nat.succ_pos _)).mp hlen
  have hint : ⌊q⌋ < (10 ^ (exponentOf q + 1) : ℤ) :=
    lt_of_le_of_lt (Int.self_le_toNat _) (by exact_mod_cast hnat)
  have hrat := Int.floor_lt.mp hint
  exact_mod_cast hrat

theorem floor_toNat_of_den (hq : 0 ≤ q) (hden : q.den = 1) : (⌊q⌋.toNat : ℚ) = q := by
  have hc : ((q.num : ℤ) : ℚ) = q := Rat.coe_int_num_of_den_eq_one hden
  have hnum : 0 ≤ q.num := Rat.num_nonneg.mpr hq
  rw [← hc, Int.floor_intCast]
  exact_mod_cast Int.toNat_of_nonneg hnum

theorem parseInt_numeral_iff (hq : 0 ≤ q) :
    parseInt (numeral q) = .fin q ↔ q.den = 1 ∧ q < 10 ^ 21 := by
  rcases lt_or_ge q (10 ^ 21) with hlt | hle
  · rw [parseInt_numeral_of_lt hlt, Number.fin.injEq]
    constructor
    · intro h
      rw [← h]
      exact ⟨Rat.den_natCast _, by rwa [h]⟩
    · intro h
      exact floor_toNat_of_den hq h.1
  · rw [parseInt_numeral_of_le hle, Number.fin.injEq]
    constructor
    · intro h
      have hpos : (0 : ℚ) < 10 ^ exponentOf q := by positivity
      have hd : q / 10 ^ exponentOf q < 10 := by
        rw [div_lt_iff₀ hpos, mul_comm, ← pow_succ]
        exact lt_pow_exponentOf
      have hlead : (⌊q / 10 ^ exponentOf q⌋.toNat : ℚ) ≤ q / 10 ^ exponentOf q :=
        by exact_mod_cast Nat.floor_le (div_nonneg hq hpos.le)
      linarith
    · intro h
      exact absurd h.2 (not_lt.mpr hle)

theorem hundredths_natCast (n : Nat) : hundredths n = n * 100 := by
  have hhalf : ⌊((n * 100 : ℤ) : ℚ) + 1 / 2⌋ = n * 100 := by
    rw [Int.floor_intCast_add]
    norm_num
  rw [hundredths, if_neg (not_lt.mpr (Nat.cast_nonneg n))]
  exact_mod_cast hhalf

theorem numberOfString_toFixed (hq : 0 ≤ q) (hden : q.den = 1) (hlt : q < 10 ^ 21) :
    numberOfString (toFixed q) = .fin q := by
  have hn := floor_toNat_of_den hq hden
  generalize ⌊q⌋.toNat = n at hn
  have hneg : ¬ (n : ℚ) < 0 := not_lt.mpr (Nat.cast_nonneg n)
  have hcen : (hundredths (n : ℚ)).natAbs = n * 100 := by
    rw [hundredths_natCast]
    omega
  have htext : toFixed2 n = String.ofList (Nat.toDigits 10 n ++ '.' :: ['0', '0']) := by
    rw [← String.toList_inj, toFixed2, hcen, Nat.mul_mod_left,
      Nat.mul_div_cancel n (by decide : 0 < 100), if_neg hneg]
    simp
  have hzer : IsDigits ['0', '0'] := ⟨cons_ne_nil _ _, by simp⟩
  subst hn
  rw [toFixed, if_pos hlt, htext, numberOfString_point (isDigits_toDigits n) hzer,
    Nat.ofDigitChars_ten_toDigits]
  norm_num [Nat.ofDigitChars]

end Js
