import Mathlib.Data.ZMod.Basic
import SexySelfies.AlternatingSum
import SexySelfies.CardModel
import SexySelfies.JsNumeral

/-!
# What the card check notices

`validateCardNumber` of `ccbill.service.js` sums the digits of a card number from its end, every
second one doubled and reduced. Read modulo ten, the sum is one with alternating weights
(`luhnSum_cast`).
-/

namespace SexySelfies.Cards

open Js List

/-! ## Digits and their weights -/

def digitWeight (isEven : Bool) (c : Char) : ZMod 10 :=
  let digit := c.toNat - '0'.toNat
  let doubled := if digit * 2 > 9 then digit * 2 - 9 else digit * 2
  ((if isEven then doubled else digit : Nat) : ZMod 10)

theorem digits_of_all {p : Char → Char → Bool}
    (h : (digitChars.all fun c => digitChars.all (p c))) :
    ∀ c ∈ digitChars, ∀ d ∈ digitChars, p c d :=
  fun c hc d hd => all_eq_true.mp (all_eq_true.mp h c hc) d hd

variable {isEven : Bool}

theorem digitWeight_injOn :
    ∀ c ∈ digitChars, ∀ d ∈ digitChars, digitWeight isEven c = digitWeight isEven d → c = d := by
  intro c hc d hd
  refine of_decide_eq_true (digits_of_all
    (p := fun c d => digitWeight isEven c = digitWeight isEven d → c = d) ?_ c hc d hd)
  revert isEven
  decide +kernel

theorem digitWeight_surjOn (z : ZMod 10) : ∃ c ∈ digitChars, digitWeight false c = z := by
  have hall : ∀ z : ZMod 10, (digitChars.any fun c => digitWeight false c = z) = true := by
    decide +kernel
  obtain ⟨c, hc, hwe⟩ := any_eq_true.mp (hall z)
  exact ⟨c, hc, of_decide_eq_true hwe⟩

def IsZeroNine (c d : Char) : Prop := (c = '0' ∧ d = '9') ∨ (c = '9' ∧ d = '0')

instance (c d : Char) : Decidable (IsZeroNine c d) := inferInstanceAs (Decidable (_ ∨ _))

theorem digitWeight_swap : ∀ c ∈ digitChars, ∀ d ∈ digitChars,
      digitWeight isEven c + digitWeight (!isEven) d
        = digitWeight isEven d + digitWeight (!isEven) c → c = d ∨ IsZeroNine c d := by
  intro c hc d hd
  refine of_decide_eq_true (digits_of_all
    (p := fun c d => digitWeight isEven c + digitWeight (!isEven) d
      = digitWeight isEven d + digitWeight (!isEven) c → c = d ∨ IsZeroNine c d) ?_ c hc d hd)
  revert isEven
  decide +kernel

theorem luhnSum_cast (cs : List Char) :
    (luhnSum cs isEven : ZMod 10) = AlternatingSum.sum digitWeight isEven cs := by
  induction cs generalizing isEven with
  | nil => rfl
  | cons c cs ih => rw [luhnSum, Nat.cast_add, ih, AlternatingSum.sum, digitWeight]

theorem validateCardNumber_iff (s : String) :
    validateCardNumber s ↔ stripSpaces s ≠ [] ∧ (∀ c ∈ stripSpaces s, c.isDigit)
      ∧ AlternatingSum.sum digitWeight false (stripSpaces s).reverse = 0 := by
  rw [← luhnSum_cast, ZMod.natCast_eq_zero_iff, Nat.dvd_iff_mod_eq_zero]
  simp only [validateCardNumber, Bool.and_eq_true, Bool.not_eq_true', isEmpty_eq_false_iff,
    all_eq_true, decide_eq_true_eq, and_assoc]

variable {s t : String}

theorem sum_eq_of_valid (hs : validateCardNumber s) (ht : validateCardNumber t) :
    AlternatingSum.sum digitWeight false (stripSpaces s).reverse
    = AlternatingSum.sum digitWeight false (stripSpaces t).reverse :=
  ((validateCardNumber_iff s).mp hs).2.2.trans ((validateCardNumber_iff t).mp ht).2.2.symm

/-- One digit of `s` is another in `t`. -/
def DigitChanged (s t : String) : Prop :=
  ∃ l r c d, s.toList = l ++ c :: r ∧ t.toList = l ++ d :: r
    ∧ c.isDigit = true ∧ d.isDigit = true ∧ c ≠ d

/-- Two neighbouring digits, other than 0 and 9, are swapped. -/
def NeighboursSwapped (s t : String) : Prop :=
  ∃ l gap r c d, s.toList = l ++ c :: (gap ++ d :: r) ∧ t.toList = l ++ d :: (gap ++ c :: r)
    ∧ gap.all isSpace = true ∧ c.isDigit = true ∧ d.isDigit = true
    ∧ c ≠ d ∧ ¬ IsZeroNine c d

def strip (cs : List Char) : List Char := cs.filter fun c => !isSpace c

variable {c : Char} {r : List Char}

theorem strip_append_digit (h : c.isDigit) (l : List Char) :
    strip (l ++ c :: r) = strip l ++ c :: strip r := by
  have hk : (!isSpace c) := by rw [not_isSpace_of_isDigit h]; rfl
  rw [strip, filter_append, filter_cons_of_pos (p := fun c => !isSpace c) hk]
  rfl

theorem strip_gap {gap : List Char} (h : gap.all isSpace) : strip (gap ++ r) = strip r := by
  have hn : gap.filter (fun c => !isSpace c) = [] := by
    refine filter_eq_nil_iff.mpr fun c hc => ?_
    rw [all_eq_true.mp h c hc]
    decide
  rw [strip, filter_append, hn, nil_append]
  rfl

theorem reverse_append_cons (l : List Char) :
    (l ++ c :: r).reverse = r.reverse ++ c :: l.reverse := by
  rw [reverse_append, reverse_cons, append_assoc, singleton_append]

theorem rejected_of_digitChanged (hs : validateCardNumber s) (h : DigitChanged s t) :
    validateCardNumber t = false := by
  obtain ⟨l, r, c, d, hsl, htl, hc, hd, hne⟩ := h
  rw [← Bool.not_eq_true]
  intro ht
  have hsum := sum_eq_of_valid hs ht
  have hstrip_s : stripSpaces s = strip l ++ c :: strip r := by
    rw [stripSpaces, hsl]
    exact strip_append_digit hc l
  have hstrip_t : stripSpaces t = strip l ++ d :: strip r := by
    rw [stripSpaces, htl]
    exact strip_append_digit hd l
  rw [hstrip_s, hstrip_t, reverse_append_cons, reverse_append_cons,
    AlternatingSum.sum_replace_iff] at hsum
  exact hne (digitWeight_injOn c (mem_digitChars.mpr hc) d (mem_digitChars.mpr hd) hsum)

theorem rejected_of_neighboursSwapped (hs : validateCardNumber s)
    (h : NeighboursSwapped s t) : validateCardNumber t = false := by
  obtain ⟨l, gap, r, c, d, hsl, htl, hgap, hc, hd, hne, hp⟩ := h
  rw [← Bool.not_eq_true]
  intro ht
  have hsum := sum_eq_of_valid hs ht
  have hstr : ∀ a b : Char, a.isDigit → b.isDigit →
      strip (l ++ a :: (gap ++ b :: r)) = strip l ++ a :: b :: strip r := by
    intro a b ha hb
    have hta : strip (b :: r) = b :: strip r := strip_append_digit hb []
    rw [strip_append_digit ha, strip_gap hgap, hta]
  have hstrip_s : stripSpaces s = strip l ++ c :: d :: strip r := by
    rw [stripSpaces, hsl]
    exact hstr c d hc hd
  have hstrip_t : stripSpaces t = strip l ++ d :: c :: strip r := by
    rw [stripSpaces, htl]
    exact hstr d c hd hc
  have hre : ∀ a b : Char, (strip l ++ a :: b :: strip r).reverse
      = (strip r).reverse ++ b :: a :: (strip l).reverse := by
    intro a b
    rw [reverse_append_cons, reverse_cons, append_assoc, singleton_append]
  rw [hstrip_s, hstrip_t, hre, hre, AlternatingSum.sum_swap_iff] at hsum
  rcases digitWeight_swap d (mem_digitChars.mpr hd) c (mem_digitChars.mpr hc) hsum with
    heq | ⟨hd0, hc9⟩ | ⟨hd9, hc0⟩
  · exact hne heq.symm
  · exact hp (.inr ⟨hc9, hd0⟩)
  · exact hp (.inl ⟨hc0, hd9⟩)

/-! ## The check digit -/

def IsDigitString (s : String) : Prop := ∀ c ∈ stripSpaces s, c.isDigit = true

theorem stripSpaces_push (h : c.isDigit) :
    stripSpaces (s.push c) = stripSpaces s ++ [c] := by
  rw [stripSpaces, String.toList_push]
  exact strip_append_digit h s.toList

theorem push_valid_iff (hs : IsDigitString s) (hc : c.isDigit) :
    validateCardNumber (s.push c) ↔
      digitWeight false c = -AlternatingSum.sum digitWeight true (stripSpaces s).reverse := by
  have hdig : ∀ d ∈ stripSpaces s ++ [c], d.isDigit := by
    intro d hd
    rcases mem_append.mp hd with hd | hd
    · exact hs d hd
    · rwa [mem_singleton.mp hd]
  have hne : stripSpaces s ++ [c] ≠ [] := append_ne_nil_of_right_ne_nil _ (by simp)
  rw [validateCardNumber_iff, stripSpaces_push hc, reverse_append, reverse_singleton,
    singleton_append, AlternatingSum.sum_cons_eq_zero_iff]
  exact ⟨fun h => h.2.2, fun h => ⟨hne, hdig, h⟩⟩

theorem existsUnique_checkDigit (hs : IsDigitString s) :
    ∃! c : Char, c.isDigit ∧ validateCardNumber (s.push c) := by
  obtain ⟨c, hmem, hwe⟩ :=
    digitWeight_surjOn (-AlternatingSum.sum digitWeight true (stripSpaces s).reverse)
  have hc := mem_digitChars.mp hmem
  refine ⟨c, ⟨hc, (push_valid_iff hs hc).mpr hwe⟩, ?_⟩
  rintro d ⟨hd, hv⟩
  have hsm := (push_valid_iff hs hd).mp hv
  exact digitWeight_injOn d (mem_digitChars.mpr hd) c hmem (hsm.trans hwe.symm)

/-- No string with one digit changed, or two neighbours swapped other than 0 and 9, is accepted
along with the given one; and every string of digits has one check digit. -/
theorem errors_noticed (s : String) :
    (validateCardNumber s = true →
        ∀ t, DigitChanged s t ∨ NeighboursSwapped s t → validateCardNumber t = false)
      ∧ (IsDigitString s →
        ∃! c : Char, c.isDigit = true ∧ validateCardNumber (s.push c) = true) := by
  refine ⟨fun hs t h => ?_, existsUnique_checkDigit⟩
  rcases h with hcha | hswa
  · exact rejected_of_digitChanged hs hcha
  · exact rejected_of_neighboursSwapped hs hswa

theorem errors_noticed_visa :
    validateCardNumber "4111 1111 1111 1111" = true
      ∧ validateCardNumber "4111 1111 1111 1112" = false
      ∧ validateCardNumber "1411 1111 1111 1111" = false := by
  have hv : validateCardNumber "4111 1111 1111 1111" = true := by decide
  refine ⟨hv, (errors_noticed _).1 hv _ (.inl ?_), (errors_noticed _).1 hv _ (.inr ?_)⟩
  · exact ⟨"4111 1111 1111 111".toList, [], '1', '2', by decide⟩
  · exact ⟨[], [], "11 1111 1111 1111".toList, '4', '1', by decide⟩

end SexySelfies.Cards
