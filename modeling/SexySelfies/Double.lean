import Mathlib.Algebra.Order.Round
import Mathlib.Data.Int.Log
import Mathlib.Data.Rat.Floor
import Mathlib.Tactic.Linarith
import Mathlib.Tactic.Positivity

/-!
# Double-precision numbers

A finite double is the rational number it stands for, and rounding is a computable function on `ℚ`:
to the nearest double, and to the even one of two that are as near. The steps between doubles grow
with the power of two below the number (`ulp`), and have a least value.
-/

namespace Double

/-! ## To the nearest integer -/

/-- The nearest integer, and the even one of two. -/
def roundEven (q : ℚ) : ℤ := if ⌊q⌋ % 2 = 0 then ⌈q - 1 / 2⌉ else ⌊q + 1 / 2⌋

variable {q r : ℚ}

theorem floor_le_roundEven (q : ℚ) : ⌊q⌋ ≤ roundEven q := by
  have hlow := Int.floor_le q
  unfold roundEven
  split
  · rw [← Int.sub_one_lt_iff, Int.lt_ceil]
    push_cast
    linarith
  · exact Int.floor_mono (by linarith)

theorem roundEven_le_floor_add_one (q : ℚ) : roundEven q ≤ ⌊q⌋ + 1 := by
  have hup := Int.lt_floor_add_one q
  unfold roundEven
  split
  · rw [Int.ceil_le]
    push_cast
    linarith
  · rw [← Int.lt_add_one_iff, Int.floor_lt]
    push_cast
    linarith

theorem roundEven_mono {q r : ℚ} (h : q ≤ r) : roundEven q ≤ roundEven r := by
  rcases (Int.floor_mono h).eq_or_lt with heq | hlt
  · unfold roundEven
    rw [heq]
    split
    · exact Int.ceil_mono (by linarith)
    · exact Int.floor_mono (by linarith)
  · have hq := roundEven_le_floor_add_one q
    have hr := floor_le_roundEven r
    omega

theorem roundEven_intCast (n : ℤ) : roundEven n = n := by
  have hlow := floor_le_roundEven (n : ℚ)
  have hhalf : ⌊(n : ℚ) + 1 / 2⌋ = n := by
    rw [Int.floor_intCast_add]
    norm_num
  have hceil : ⌈(n : ℚ) - 1 / 2⌉ = n := by
    rw [Int.ceil_eq_iff]
    constructor <;> linarith
  unfold roundEven
  rw [hhalf, hceil, ite_self]

/-- An odd number is reached from the middle below it on, which itself goes to the even one. -/
theorem le_roundEven_iff {n : ℤ} (hodd : n % 2 = 1) : n ≤ roundEven q ↔ (n : ℚ) - 1 / 2 < q := by
  have hlow := Int.floor_le q
  have hup := Int.lt_floor_add_one q
  rcases lt_trichotomy ⌊q⌋ (n - 1) with hlt | heq | hgt
  · have hle := roundEven_le_floor_add_one q
    have hcast : (⌊q⌋ : ℚ) + 1 ≤ n - 1 := by exact_mod_cast (by omega : ⌊q⌋ + 1 ≤ n - 1)
    refine iff_of_false (by omega) ?_
    linarith
  · have heven : ⌊q⌋ % 2 = 0 := by omega
    rw [roundEven, if_pos heven, ← Int.sub_one_lt_iff, Int.lt_ceil]
    push_cast
    constructor <;> intro h <;> linarith
  · have hge := floor_le_roundEven q
    have hcast : (n : ℚ) ≤ ⌊q⌋ := by exact_mod_cast (by omega : n ≤ ⌊q⌋)
    refine iff_of_true (by omega) ?_
    linarith

theorem abs_roundEven_sub_le (q : ℚ) : |(roundEven q : ℚ) - q| ≤ 1 / 2 := by
  rw [abs_le]
  unfold roundEven
  split
  · have hlow := Int.le_ceil (q - 1 / 2)
    have hup := Int.ceil_lt_add_one (q - 1 / 2)
    constructor <;> linarith
  · have hlow := Int.floor_le (q + 1 / 2)
    have hup := Int.lt_floor_add_one (q + 1 / 2)
    constructor <;> linarith

/-! ## To the nearest double -/

def exponent (q : ℚ) : ℤ := max (Int.log 2 q - 52) (-1074)

/-- The step between the doubles around a number that is not negative. -/
def ulp (q : ℚ) : ℚ := 2 ^ exponent q

def nearest (q : ℚ) : ℚ := roundEven (q / ulp q) * ulp q

/-- The nearest double, and the even one of two. -/
def toDouble (q : ℚ) : ℚ := if q < 0 then -nearest (-q) else nearest q

/-- Where the infinite numbers begin. -/
def overflow : ℚ := 2 ^ 1024

/-- What is stored without rounding. -/
def IsDouble (q : ℚ) : Prop := toDouble q = q ∧ |q| < overflow

instance : DecidablePred IsDouble := fun q =>
  inferInstanceAs (Decidable (toDouble q = q ∧ |q| < overflow))

theorem overflow_pos : 0 < overflow := pow_pos two_pos 1024

theorem ulp_pos (q : ℚ) : 0 < ulp q := zpow_pos two_pos _

theorem nearest_zero : nearest 0 = 0 := by
  rw [nearest, zero_div, ← Int.cast_zero, roundEven_intCast, Int.cast_zero, zero_mul]

theorem nearest_nonneg (h : 0 ≤ q) : 0 ≤ nearest q := by
  have hdiv : 0 ≤ q / ulp q := div_nonneg h (ulp_pos q).le
  have hround : 0 ≤ roundEven (q / ulp q) :=
    (Int.floor_nonneg.mpr hdiv).trans (floor_le_roundEven _)
  exact mul_nonneg (by exact_mod_cast hround) (ulp_pos q).le

/-- A power of two above the step is a whole number of steps. -/
theorem exists_two_zpow_eq {k : ℤ} (h : exponent q ≤ k) : ∃ n : ℤ, (2 : ℚ) ^ k / ulp q = n := by
  obtain ⟨n, hn⟩ := Int.eq_ofNat_of_zero_le (sub_nonneg.mpr h)
  refine ⟨2 ^ n, ?_⟩
  rw [ulp, ← zpow_sub₀ two_ne_zero, hn, zpow_natCast]
  norm_cast

theorem nearest_le_two_zpow {k : ℤ} (hk : exponent q ≤ k) (h : q ≤ 2 ^ k) : nearest q ≤ 2 ^ k := by
  obtain ⟨n, hn⟩ := exists_two_zpow_eq hk
  have hdiv : q / ulp q ≤ n := hn ▸ div_le_div_of_nonneg_right h (ulp_pos q).le
  have hround : roundEven (q / ulp q) ≤ n := (roundEven_mono hdiv).trans_eq (roundEven_intCast n)
  rw [nearest, ← le_div_iff₀ (ulp_pos q), hn]
  exact_mod_cast hround

theorem two_zpow_le_nearest {k : ℤ} (hk : exponent q ≤ k) (h : 2 ^ k ≤ q) : 2 ^ k ≤ nearest q := by
  obtain ⟨n, hn⟩ := exists_two_zpow_eq hk
  have hdiv : (n : ℚ) ≤ q / ulp q := hn ▸ div_le_div_of_nonneg_right h (ulp_pos q).le
  have hround : n ≤ roundEven (q / ulp q) :=
    (roundEven_intCast n).symm.trans_le (roundEven_mono hdiv)
  rw [nearest, ← div_le_iff₀ (ulp_pos q), hn]
  exact_mod_cast hround

theorem nearest_mono (hq : 0 ≤ q) (h : q ≤ r) : nearest q ≤ nearest r := by
  rcases hq.eq_or_lt with rfl | hq
  · rw [nearest_zero]
    exact nearest_nonneg h
  have hr := hq.trans_le h
  have hlog : Int.log 2 q ≤ Int.log 2 r := Int.log_mono_right hq h
  have hexp : exponent q ≤ exponent r := max_le_max_right (-1074) (sub_le_sub_right hlog 52)
  rcases hexp.eq_or_lt with heq | hlt
  · have hulp : ulp q = ulp r := by rw [ulp, heq, ulp]
    have hround := roundEven_mono (div_le_div_of_nonneg_right h (ulp_pos r).le)
    rw [nearest, nearest, hulp]
    exact mul_le_mul_of_nonneg_right (by exact_mod_cast hround) (ulp_pos r).le
  · -- the power of two below `r` lies between the two
    have hexp' : exponent r = Int.log 2 r - 52 := by
      unfold exponent at hlt ⊢
      omega
    have hlt' : Int.log 2 q < Int.log 2 r := by
      unfold exponent at hlt
      omega
    have hlow : (2 : ℚ) ^ Int.log 2 r ≤ r := by
      exact_mod_cast Int.zpow_log_le_self (b := 2) one_lt_two hr
    have hup : q ≤ (2 : ℚ) ^ Int.log 2 r := by
      have hpow : q < (2 : ℚ) ^ (Int.log 2 q + 1) := by
        exact_mod_cast Int.lt_zpow_succ_log_self (b := 2) one_lt_two q
      exact hpow.le.trans (zpow_le_zpow_right₀ one_le_two (by omega))
    exact (nearest_le_two_zpow (by omega) hup).trans (two_zpow_le_nearest (by omega) hlow)

theorem toDouble_mono : Monotone toDouble := by
  intro q r h
  unfold toDouble
  split_ifs with hq hr hr
  · exact neg_le_neg (nearest_mono (by linarith) (by linarith))
  · have hneg := nearest_nonneg (q := -q) (by linarith)
    have hpos := nearest_nonneg (not_lt.mp hr)
    linarith
  · linarith
  · exact nearest_mono (not_lt.mp hq) h

theorem toDouble_zero : toDouble 0 = 0 := by
  rw [toDouble, if_neg (lt_irrefl 0), nearest_zero]

theorem toDouble_nonneg (h : 0 ≤ q) : 0 ≤ toDouble q :=
  toDouble_zero.symm.trans_le (toDouble_mono h)

/-! ## Between one and two, and relative errors -/

theorem ulp_of_one_le (h : 1 ≤ q) (h2 : q < 2) : ulp q = 2 ^ (-52 : ℤ) := by
  have hlog : Int.log 2 q = 0 := by
    have hlow : 0 ≤ Int.log 2 q := by
      rw [← Int.log_one_right (R := ℚ) 2]
      exact Int.log_mono_right one_pos h
    have hup : Int.log 2 q < 1 := by
      rw [← Int.lt_zpow_iff_log_lt one_lt_two (one_pos.trans_le h)]
      simpa using h2
    omega
  rw [ulp, exponent, hlog]
  norm_num

/-- The double `n * 2 ^ (-52)` between one and two, with `n` odd, is reached from the middle below
it on. -/
theorem le_toDouble_iff {n : ℤ} (hodd : n % 2 = 1) (h1 : 2 ^ 52 < n) (h2 : n < 2 ^ 53) :
    (n : ℚ) * 2 ^ (-52 : ℤ) ≤ toDouble q ↔ (n - 1 / 2 : ℚ) * 2 ^ (-52 : ℤ) < q := by
  have hn1 : (2 ^ 52 + 1 : ℚ) ≤ n := by exact_mod_cast h1
  have hn2 : (n : ℚ) < 2 ^ 53 := by exact_mod_cast h2
  have hu : (2 : ℚ) ^ (-52 : ℤ) = 1 / 2 ^ 52 := by norm_num
  rcases lt_or_ge q 1 with hlt | hge
  · have hone : toDouble 1 = 1 := by decide +kernel
    have hle : toDouble q ≤ 1 := hone ▸ toDouble_mono hlt.le
    rw [hu]
    constructor <;> intro h <;> linarith
  rcases lt_or_ge q 2 with hlt | hbig
  · rw [toDouble, if_neg (by linarith), nearest, ulp_of_one_le hge hlt,
      mul_le_mul_iff_of_pos_right (zpow_pos two_pos _), Int.cast_le, le_roundEven_iff hodd,
      lt_div_iff₀ (zpow_pos two_pos _)]
  · have htwo : toDouble 2 = 2 := by decide +kernel
    have hle : 2 ≤ toDouble q := htwo ▸ toDouble_mono hbig
    rw [hu]
    constructor <;> intro h <;> linarith

/-- The relative error is at most half of the relative step. -/
theorem abs_toDouble_sub_le (h : 2 ^ (-1022 : ℤ) ≤ q) : |toDouble q - q| ≤ q * 2 ^ (-53 : ℤ) := by
  have hq : 0 < q := (zpow_pos two_pos _).trans_le h
  have hlog : -1022 ≤ Int.log 2 q := (Int.zpow_le_iff_le_log one_lt_two hq).mp (by exact_mod_cast h)
  have hexp : exponent q = Int.log 2 q - 52 := by
    unfold exponent
    omega
  have hulp : ulp q * (1 / 2) ≤ q * 2 ^ (-53 : ℤ) := by
    have hlow : (2 : ℚ) ^ Int.log 2 q ≤ q := by
      exact_mod_cast Int.zpow_log_le_self (b := 2) one_lt_two hq
    have heq : ulp q * (1 / 2) = 2 ^ Int.log 2 q * 2 ^ (-53 : ℤ) := by
      rw [ulp, hexp, ← zpow_add₀ two_ne_zero, one_div, ← zpow_neg_one, ← zpow_add₀ two_ne_zero]
      congr 1
      omega
    rw [heq]
    exact mul_le_mul_of_nonneg_right hlow (zpow_pos two_pos _).le
  have herr : |toDouble q - q| = ulp q * |(roundEven (q / ulp q) : ℚ) - q / ulp q| := by
    rw [← abs_of_pos (ulp_pos q), ← abs_mul, abs_of_pos (ulp_pos q), mul_sub,
      mul_div_cancel₀ _ (ulp_pos q).ne', mul_comm]
    rw [toDouble, if_neg hq.not_gt, nearest]
  calc |toDouble q - q| = ulp q * |(roundEven (q / ulp q) : ℚ) - q / ulp q| := herr
    _ ≤ ulp q * (1 / 2) := mul_le_mul_of_nonneg_left (abs_roundEven_sub_le _) (ulp_pos q).le
    _ ≤ q * 2 ^ (-53 : ℤ) := hulp

end Double
