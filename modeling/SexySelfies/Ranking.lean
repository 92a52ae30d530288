import Mathlib.Data.List.Nodup
import Mathlib.Order.Lattice

/-!
# Lists in the order of a key

A stable sort by a key, smallest first: what has the same key stays in order
(`pairwise_sortBy_of_pairwise`), so that the first two entries are those that come before all others
(`mem_take_two_iff`).
-/

namespace SexySelfies.Ranking

open List

variable {α β γ : Type*} {r : α → α → Prop} {s : List α}

variable [LinearOrder β] (key : α → β)

section

variable {key} (h : s.Pairwise fun a b => key a ≤ key b) {k : ℕ} {a : α} {x : β}
include h

theorem lt_countP_le (ha : s[k]? = some a) (hx : key a ≤ x) : k < s.countP (key · ≤ x) := by
  induction s generalizing k with
  | nil => cases ha
  | cons b s ih =>
    rw [pairwise_cons] at h
    cases k with
    | zero =>
      obtain rfl : b = a := Option.some.inj ha
      rw [countP_cons, if_pos (decide_eq_true hx)]
      exact Nat.succ_pos _
    | succ =>
      have hb : key b ≤ x := (h.1 a (mem_of_getElem? ha)).trans hx
      rw [countP_cons, if_pos (decide_eq_true hb)]
      exact Nat.succ_lt_succ (ih h.2 ha)

theorem length_le_countP_ge (ha : s[k]? = some a) (hx : x ≤ key a) :
    s.length ≤ k + s.countP (x ≤ key ·) := by
  induction s generalizing k with
  | nil => cases ha
  | cons b s ih =>
    rw [pairwise_cons] at h
    cases k with
    | zero =>
      obtain rfl : b = a := Option.some.inj ha
      have hall : ∀ c ∈ b :: s, decide (x ≤ key c) = true :=
        forall_mem_cons.mpr ⟨decide_eq_true hx, fun c hc => decide_eq_true (hx.trans (h.1 c hc))⟩
      rw [countP_eq_length.mpr hall]
      exact Nat.le_add_left _ _
    | succ =>
      have hta := ih h.2 ha
      rw [countP_cons, length_cons]
      omega

end

/-! ## Sorting -/

variable (l : List α)

def sortBy : List α := l.mergeSort fun a b => key a ≤ key b

theorem perm_sortBy : (sortBy key l).Perm l := mergeSort_perm _ _

theorem le_trans_decide (a b c : α) (hab : decide (key a ≤ key b) = true)
    (hbc : decide (key b ≤ key c) = true) : decide (key a ≤ key c) = true :=
  decide_eq_true ((of_decide_eq_true hab).trans (of_decide_eq_true hbc))

theorem le_total_decide (a b : α) : (decide (key a ≤ key b) || decide (key b ≤ key a)) = true := by
  rw [Bool.or_eq_true, decide_eq_true_eq, decide_eq_true_eq]
  exact le_total _ _

theorem pairwise_sortBy : (sortBy key l).Pairwise fun a b => key a ≤ key b :=
  (pairwise_mergeSort (le_trans_decide key) (le_total_decide key) l).imp of_decide_eq_true

theorem head?_sortBy {l : List α} (h : l ≠ []) :
    ∃ a ∈ l, (sortBy key l).head? = some a ∧ ∀ b ∈ l, key a ≤ key b := by
  have hpe := perm_sortBy key l
  have hso := pairwise_sortBy key l
  generalize sortBy key l = s at hpe hso
  cases s with
  | nil => exact absurd hpe.nil_eq.symm h
  | cons a s =>
    refine ⟨a, hpe.mem_iff.mp mem_cons_self, rfl, fun b hb => ?_⟩
    rcases mem_cons.mp (hpe.mem_iff.mpr hb) with rfl | hb
    · exact le_rfl
    · exact rel_of_pairwise_cons hso hb

/-! ## What comes first -/

theorem lt_or_eq_of_zipIdxLE {x y : α × ℕ}
    (h : List.zipIdxLE (fun a b => decide (key a ≤ key b)) x y = true) (hne : x.2 ≠ y.2) :
    key x.1 < key y.1 ∨ key x.1 = key y.1 ∧ x.2 < y.2 := by
  unfold List.zipIdxLE at h
  split_ifs at h with hxy hyx
  · exact .inr ⟨le_antisymm (of_decide_eq_true hxy) (of_decide_eq_true hyx),
      lt_of_le_of_ne (of_decide_eq_true h) hne⟩
  · exact .inl (not_le.mp fun hle => hyx (decide_eq_true hle))

/-- The sort is stable: entries with the same key stay in the order they were in. -/
theorem pairwise_sortBy_of_pairwise {before : α → α → Prop} {l : List α} (h : l.Pairwise before) :
    (sortBy key l).Pairwise fun a b => key a < key b ∨ key a = key b ∧ before a b := by
  obtain ⟨s, hs⟩ : ∃ s, s = l.zipIdx.mergeSort (List.zipIdxLE fun a b => decide (key a ≤ key b)) :=
    ⟨_, rfl⟩
  have hpe : s.Perm l.zipIdx := hs ▸ mergeSort_perm _ _
  have hso : sortBy key l = s.map Prod.fst := hs ▸ mergeSort_zipIdx.symm
  have hpl : (s.map Prod.snd).Nodup := by
    rw [(hpe.map Prod.snd).nodup_iff, zipIdx_map_snd]
    exact nodup_range'
  have hle := pairwise_mergeSort (zipIdxLE_trans (le_trans_decide key))
    (zipIdxLE_total (le_total_decide key)) l.zipIdx
  rw [← hs] at hle
  rw [hso, pairwise_map]
  refine (hle.and (pairwise_map.mp hpl)).imp_of_mem fun {x y} hx hy hxy => ?_
  refine (lt_or_eq_of_zipIdxLE key hxy.1 hxy.2).imp_right (And.imp_right fun hlt => ?_)
  have hx' := mem_zipIdx_iff_getElem?.mp (hpe.mem_iff.mp hx)
  have hy' := mem_zipIdx_iff_getElem?.mp (hpe.mem_iff.mp hy)
  obtain ⟨hi, hxe⟩ := List.getElem?_eq_some_iff.mp hx'
  obtain ⟨hj, hye⟩ := List.getElem?_eq_some_iff.mp hy'
  exact hxe ▸ hye ▸ pairwise_iff_getElem.mp h x.2 y.2 hi hj hlt

theorem mem_take_two (hr : ∀ a b, r a b → ¬ r b a) (h : s.Pairwise r) {a b : α} (ha : a ∈ s)
    (hall : ∀ c ∈ s, c ≠ a → c ≠ b → r a c) : a ∈ s.take 2 := by
  match s, h with
  | [_], _ => exact ha
  | x :: y :: t, h =>
    obtain ⟨hx, hy⟩ := pairwise_cons.mp h
    by_contra hno
    simp only [take_succ_cons, take_zero, mem_cons, not_mem_nil, or_false, not_or] at hno
    have hat : a ∈ t := by simpa [hno.1, hno.2] using ha
    have hxa : r x a := hx a (mem_cons_of_mem y hat)
    have hya : r y a := (pairwise_cons.mp hy).1 a hat
    -- what comes before `a` can only be `b`, and there are two of them
    have hxb : x = b := by
      by_contra hne
      exact hr x a hxa (hall x mem_cons_self (Ne.symm hno.1) hne)
    have hyb : y = b := by
      by_contra hne
      exact hr y a hya (hall y (mem_cons_of_mem x mem_cons_self) (Ne.symm hno.2) hne)
    have hxy : r x y := hx y mem_cons_self
    rw [hxb, hyb] at hxy
    exact hr b b hxy hxy

/-- Two entries are the first two exactly if both come before all others. -/
theorem mem_take_two_iff (hr : ∀ a b, r a b → ¬ r b a) (h : s.Pairwise r) {a b : α}
    (ha : a ∈ s) (hb : b ∈ s) (hab : a ≠ b) :
    (a ∈ s.take 2 ∧ b ∈ s.take 2) ↔ ∀ c ∈ s, c ≠ a → c ≠ b → r a c ∧ r b c := by
  constructor
  · match s, h with
    | [x], _ => simp_all
    | x :: y :: t, h =>
      obtain ⟨hx, hy⟩ := pairwise_cons.mp h
      intro ⟨ha', hb'⟩ c hc hca hcb
      simp only [take_succ_cons, take_zero, mem_cons, not_mem_nil, or_false] at ha' hb'
      have hct : c ∈ t := by
        rcases ha' with rfl | rfl <;> rcases hb' with rfl | rfl <;> simp_all
      have hall : ∀ z, z = x ∨ z = y → r z c := by
        rintro z (rfl | rfl)
        · exact hx c (mem_cons_of_mem y hct)
        · exact (pairwise_cons.mp hy).1 c hct
      exact ⟨hall a ha', hall b hb'⟩
  · intro hall
    refine ⟨mem_take_two hr h ha fun c hc hca hcb => (hall c hc hca hcb).1,
      mem_take_two hr h hb fun c hc hcb hca => (hall c hc hca hcb).2⟩

/-- The place of an entry among the first `n` that satisfy `p`. -/
theorem mem_take_filter_iff [DecidableEq α] (hl : s.Nodup) {p : α → Bool} {n : ℕ} {x : α} :
    x ∈ (s.filter p).take n ↔ x ∈ s ∧ p x ∧ (s.takeWhile (· ≠ x)).countP p < n := by
  induction s generalizing n with
  | nil => simp
  | cons a l ih =>
    obtain ⟨ha, hl⟩ := nodup_cons.mp hl
    by_cases hxa : x = a
    · subst hxa
      cases hp : p x with
      | true => cases n <;> simp [hp]
      | false =>
        have hnot : x ∉ (l.filter p).take n := fun h => ha (mem_of_mem_filter (mem_of_mem_take h))
        simp [hp, hnot]
    · have htw : (a :: l).takeWhile (· ≠ x) = a :: l.takeWhile (· ≠ x) :=
        takeWhile_cons_of_pos (decide_eq_true fun h => hxa h.symm)
      rw [htw]
      cases hp : p a with
      | true =>
        cases n with
        | zero => simp
        | succ n =>
          rw [filter_cons_of_pos hp, take_succ_cons, mem_cons, ih hl, countP_cons_of_pos hp,
            mem_cons, Nat.add_lt_add_iff_right]
          simp [hxa]
      | false =>
        rw [filter_cons_of_neg (by simp [hp]), ih hl, countP_cons_of_neg (by simp [hp]), mem_cons]
        simp [hxa]

end SexySelfies.Ranking
