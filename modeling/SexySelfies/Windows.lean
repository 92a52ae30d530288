import Mathlib.Algebra.Order.Monoid.Defs
import Mathlib.Data.List.Count

/-!
# Events in sliding windows

A list of event times is `Sparse w n` when no half-open window of length `w` holds more than `n` of
the events, wherever it starts; `SparseAfter` is the same for windows that are open at the left.
-/

namespace Windows

open List

variable {α : Type*} [LinearOrder α] [AddCommMonoid α]

def inWindow (w s : α) (events : List α) : Nat := events.countP fun t => s ≤ t ∧ t < s + w

/-- No window of length `w` holds more than `n` events. -/
def Sparse (w : α) (n : Nat) (events : List α) : Prop := ∀ s, inWindow w s events ≤ n

/-- Every event of `new` is at least `w` after every event of `old`. -/
def Apart (w : α) (old new : List α) : Prop := ∀ x ∈ old, ∀ y ∈ new, x + w ≤ y

variable {w s : α}

theorem inWindow_append (old new : List α) :
    inWindow w s (old ++ new) = inWindow w s old + inWindow w s new := countP_append

variable {n : Nat}

theorem sparse_nil : Sparse w n [] := fun _ => Nat.zero_le n

variable {old new : List α}

theorem Apart.append {w y : α} (h : Apart w old new) (hy : ∀ x ∈ old, x + w ≤ y) :
    Apart w old (new ++ [y]) := by
  intro x hx z hz
  rcases mem_append.mp hz with hz | hz
  · exact h x hx z hz
  · rw [mem_singleton.mp hz]
    exact hy x hx

variable [IsOrderedCancelAddMonoid α]

theorem inWindow_eq_zero {w s y : α} (hapa : Apart w old new) (hy : y ∈ new) (hlt : y < s + w) :
    inWindow w s old = 0 := by
  refine countP_eq_zero.mpr fun x hx => ?_
  have hbef : x + w < s + w := (hapa x hx y hy).trans_lt hlt
  have hnot : ¬ s ≤ x := not_le.mpr (lt_of_add_lt_add_right hbef)
  simp [hnot]

/-- **The batch rule.** After a break of length `w`, a batch of at most `n`
more events leaves the list sparse. -/
theorem Sparse.append {w : α} {n : Nat} (hold : Sparse w n old) (hapa : Apart w old new)
    (hnew : new.length ≤ n) : Sparse w n (old ++ new) := by
  intro s
  rw [inWindow_append]
  by_cases hme : ∃ y ∈ new, s ≤ y ∧ y < s + w
  · obtain ⟨y, hy, -, hlt⟩ := hme
    rw [inWindow_eq_zero hapa hy hlt, Nat.zero_add]
    exact countP_le_length.trans hnew
  · have hn : inWindow w s new = 0 := by
      refine countP_eq_zero.mpr fun y hy => ?_
      have hout : ¬ (s ≤ y ∧ y < s + w) := fun h => hme ⟨y, hy, h⟩
      simpa using hout
    rw [hn]
    exact hold s

def recent (w y : α) (events : List α) : Nat := events.countP fun t => y < t + w

def inWindowAfter (w s : α) (events : List α) : Nat := events.countP fun t => s < t ∧ t ≤ s + w

/-- No window has more than `n` of the events in it. -/
def SparseAfter (w : α) (n : Nat) (events : List α) : Prop := ∀ s, inWindowAfter w s events ≤ n

omit [IsOrderedCancelAddMonoid α] in
theorem sparseAfter_nil : SparseAfter w n [] := fun _ => Nat.zero_le n

variable {w y : α} {n : Nat}

/-- A window that holds `y` holds only recent events before it. -/
theorem Sparse.concat (hold : Sparse w n old) (hre : recent w y old < n) :
    Sparse w n (old ++ [y]) := by
  intro s
  rw [inWindow, countP_append, countP_singleton]
  by_cases hin : s ≤ y ∧ y < s + w
  · have hle : old.countP (fun t => s ≤ t ∧ t < s + w) ≤ recent w y old := by
      refine countP_mono_left fun t _ ht => ?_
      simp only [decide_eq_true_eq] at ht ⊢
      exact hin.2.trans_le (add_le_add_left ht.1 w)
    simp only [hin]
    exact Nat.succ_le_of_lt (hle.trans_lt hre)
  · simp only [hin]
    exact hold s

theorem SparseAfter.concat (hold : SparseAfter w n old) (hre : recent w y old < n) :
    SparseAfter w n (old ++ [y]) := by
  intro s
  rw [inWindowAfter, countP_append, countP_singleton]
  by_cases hin : s < y ∧ y ≤ s + w
  · have hle : old.countP (fun t => s < t ∧ t ≤ s + w) ≤ recent w y old := by
      refine countP_mono_left fun t _ ht => ?_
      simp only [decide_eq_true_eq] at ht ⊢
      exact hin.2.trans_lt (add_lt_add_left ht.1 w)
    simp only [hin]
    exact Nat.succ_le_of_lt (hle.trans_lt hre)
  · simp only [hin]
    exact hold s

end Windows
