import Mathlib.Algebra.Group.Basic
import Mathlib.Data.List.Basic

/-!
# Sums with alternating weights

A check digit scheme in its general form: the symbols of a word are weighted by two functions in
turn and the weights are added up in a commutative group. Which errors such a sum notices is decided
by the weights of the symbols that differ (`sum_replace_iff`, `sum_swap_iff`).
-/

namespace AlternatingSum

variable {α G : Type*} [AddCommGroup G] (weight : Bool → α → G)

def sum : Bool → List α → G
  | _, [] => 0
  | b, a :: l => weight b a + sum (!b) l

def turn : Bool → List α → Bool
  | b, [] => b
  | b, _ :: l => turn (!b) l

theorem sum_append (b : Bool) (l r : List α) :
    sum weight b (l ++ r) = sum weight b l + sum weight (turn b l) r := by
  induction l generalizing b with
  | nil => rw [List.nil_append, sum, turn, zero_add]
  | cons a l ih => rw [List.cons_append, sum, sum, turn, ih, add_assoc]

variable {weight} {a : α} {b : Bool} {l : List α}

theorem sum_replace_iff {r : List α} {a' : α} :
    sum weight b (l ++ a :: r) = sum weight b (l ++ a' :: r) ↔
      weight (turn b l) a = weight (turn b l) a' := by
  rw [sum_append, sum_append, add_right_inj, sum, sum, add_left_inj]

theorem sum_swap_iff {r : List α} {a' : α} :
    sum weight b (l ++ a :: a' :: r) = sum weight b (l ++ a' :: a :: r) ↔
      weight (turn b l) a + weight (!turn b l) a'
        = weight (turn b l) a' + weight (!turn b l) a := by
  rw [sum_append, sum_append, add_right_inj, sum, sum, sum, sum, ← add_assoc, ← add_assoc,
    add_left_inj]

theorem sum_cons_eq_zero_iff : sum weight b (a :: l) = 0 ↔ weight b a = -sum weight (!b) l := by
  rw [sum, add_eq_zero_iff_eq_neg]

end AlternatingSum
