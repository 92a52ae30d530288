import Mathlib.Data.Nat.Init
import Mathlib.Data.Int.Init

/-!
# Calendar dates with overflow

Dates as a date object of the language sees them: setting a month or a year keeps the day of the
month, and a day the new month does not have runs over into the month after. Months count from 0.
Times of day and time zones are left out.
-/

namespace CivilDate

variable (year : Int)

def isLeap : Bool := year % 4 = 0 && (year % 100 ≠ 0 || year % 400 = 0)

variable (month : Nat)

def daysIn : Nat :=
  if month = 1 then (if isLeap year then 29 else 28)
  else if month = 3 ∨ month = 5 ∨ month = 8 ∨ month = 10 then 30
  else 31

theorem daysIn_bounds :
    28 ≤ daysIn year month ∧ daysIn year month ≤ 31 := by
  unfold daysIn
  split
  · split <;> omega
  · split <;> omega

structure Date where
  year : Int
  month : Nat
  day : Nat
  month_lt : month < 12
  one_le_day : 1 ≤ day
  day_le : day ≤ daysIn year month
deriving DecidableEq

def ofOverflow (month day : Nat) (hpos : 1 ≤ day) (hle : day ≤ 31) : Date :=
  let y := year + (month / 12 : Nat)
  let m := month % 12
  if h : day ≤ daysIn y m then
    { year := y, month := m, day, month_lt := Nat.mod_lt _ (by omega), one_le_day := hpos,
      day_le := h }
  else
    { year := y + ((m + 1) / 12 : Nat), month := (m + 1) % 12, day := day - daysIn y m,
      month_lt := Nat.mod_lt _ (by omega), one_le_day := by omega,
      day_le := by
        have hbounds := daysIn_bounds y m
        have hbounds' := daysIn_bounds (y + ((m + 1) / 12 : Nat)) ((m + 1) % 12)
        omega }

def firstOf (h : month < 12) : Date :=
  { year, month, day := 1, month_lt := h, one_le_day := Nat.one_pos,
    day_le := Nat.le_trans (Nat.le_add_left 1 27) (daysIn_bounds year month).1 }

theorem Date.day_le_31 (d : Date) : d.day ≤ 31 :=
  Nat.le_trans d.day_le (daysIn_bounds d.year d.month).2

/-- `d.setMonth(d.getMonth() + k)`. -/
def Date.addMonths (d : Date) (k : Nat) : Date :=
  ofOverflow d.year (d.month + k) d.day d.one_le_day d.day_le_31

/-- `d.setFullYear(d.getFullYear() + k)`. -/
def Date.addYears (d : Date) (k : Nat) : Date :=
  ofOverflow (d.year + k) d.month d.day d.one_le_day d.day_le_31

def Date.nextDay (d : Date) : Date :=
  if h : d.day + 1 ≤ 31 then ofOverflow d.year d.month (d.day + 1) (by omega) h
  else ofOverflow d.year (d.month + 1) 1 (by omega) (by omega)

/-- `new Date(d.getTime() + n * 24 * 60 * 60 * 1000)`. -/
def Date.addDays (d : Date) : Nat → Date
  | 0 => d
  | n + 1 => d.nextDay.addDays n

example : ((⟨2023, 0, 31, by decide, by decide, by decide⟩ : Date).addMonths 1).day = 3 := by
  decide

/-! ## Months numbered through the years -/

def Date.monthNumber (d : Date) : Int := d.year * 12 + d.month

def lengthOf (n : Int) : Nat := daysIn (n / 12) (n % 12).toNat

theorem lengthOf_eq {year : Int} {month : Nat} (h : month < 12) :
    lengthOf (year * 12 + month) = daysIn year month := by
  have hye : (year * 12 + month) / 12 = year := by omega
  have hm : ((year * 12 + month) % 12).toNat = month := by omega
  rw [lengthOf, hye, hm]

theorem Date.day_le_lengthOf (d : Date) : d.day ≤ lengthOf d.monthNumber := by
  rw [Date.monthNumber, lengthOf_eq d.month_lt]
  exact d.day_le

theorem addMonths_one_cases (d : Date) :
    (d.day ≤ lengthOf (d.monthNumber + 1) ∧ (d.addMonths 1).monthNumber = d.monthNumber + 1
        ∧ (d.addMonths 1).day = d.day) ∨ (lengthOf (d.monthNumber + 1) < d.day
        ∧ (d.addMonths 1).monthNumber = d.monthNumber + 2) := by
  have hlt : (d.month + 1) % 12 < 12 := Nat.mod_lt _ (by omega)
  have hnum : d.monthNumber + 1
      = (d.year + ((d.month + 1) / 12 : Nat)) * 12 + ((d.month + 1) % 12 : Nat) := by
    rw [Date.monthNumber]
    omega
  rw [hnum, lengthOf_eq hlt]
  by_cases h : d.day ≤ daysIn (d.year + ((d.month + 1) / 12 : Nat)) ((d.month + 1) % 12)
  · refine .inl ⟨h, ?_, ?_⟩
    · rw [Date.addMonths, ofOverflow, dif_pos h]
      rfl
    · rw [Date.addMonths, ofOverflow, dif_pos h]
  · refine .inr ⟨Nat.lt_of_not_le h, ?_⟩
    rw [Date.addMonths, ofOverflow, dif_neg h, Date.monthNumber, Date.monthNumber]
    dsimp only
    omega

end CivilDate
