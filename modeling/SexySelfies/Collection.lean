import Mathlib.Algebra.Order.BigOperators.Group.Finset
import Mathlib.Algebra.BigOperators.Group.List.Basic
import Mathlib.Algebra.Order.Ring.Rat
import Mathlib.Data.Finset.Sort
import Mathlib.Tactic.Abel
import Mathlib.Tactic.Linarith

/-!
# Document collections

A collection from which nothing is deleted is the list of its documents in insertion order, and a
document's id is its position. Inserting appends, `l[i]?` finds by id, and `List.modify` rewrites
one document.
-/

namespace Collection

open List

variable {α M : Type}

/-! ## Finding and rewriting -/

def findOne (p : α → Bool) : List α → Option (Nat × α)
  | [] => none
  | a :: l => if p a then some (0, a) else (findOne p l).map fun x => (x.1 + 1, x.2)

variable {a : α} {i : Nat} {p : α → Bool} {l : List α}

theorem findOne_some (h : findOne p l = some (i, a)) : l[i]? = some a ∧ p a := by
  induction l generalizing i with
  | nil => cases h
  | cons b l ih =>
    rw [findOne] at h
    split at h
    · rename_i hb
      obtain ⟨rfl, rfl⟩ := Prod.mk.injEq .. |>.mp (Option.some.inj h)
      exact ⟨rfl, hb⟩
    · rw [Option.map_eq_some_iff] at h
      obtain ⟨⟨j, c⟩, hj, heq⟩ := h
      obtain ⟨rfl, rfl⟩ := Prod.mk.injEq .. |>.mp heq
      simpa using ih hj

theorem findOne_eq_none : findOne p l = none ↔ ∀ a ∈ l, p a = false := by
  induction l with
  | nil => simp [findOne]
  | cons b l ih =>
    rw [findOne]
    split
    · rename_i hb
      simp [hb]
    · rename_i hb
      simp [ih, hb]

theorem findOne_modify {f : α → α} (hf : ∀ a, p (f a) = p a) : findOne p (l.modify i f)
      = (findOne p l).map fun x => (x.1, if x.1 = i then f x.2 else x.2) := by
  induction l generalizing i with
  | nil => cases i <;> rfl
  | cons a l ih =>
    cases i with
    | zero =>
      rw [modify_zero_cons, findOne, findOne, hf]
      split
      · rfl
      · cases findOne p l <;> simp
    | succ =>
      rw [modify_succ_cons, findOne, findOne, ih]
      split
      · rfl
      · cases findOne p l <;> simp

theorem findOne_set (h : findOne p l = some (i, a)) (b c : α) :
    findOne p (l.set i b) = some (i, c) ↔ p b ∧ b = c := by
  induction l generalizing i with
  | nil => cases h
  | cons x l ih =>
    rw [findOne] at h
    split at h
    · obtain ⟨rfl, rfl⟩ := Prod.mk.injEq .. |>.mp (Option.some.inj h)
      rw [set_cons_zero, findOne]
      cases hb : p b with
      | true | false => simp
    · rename_i hx
      obtain ⟨⟨j, y⟩, hj, heq⟩ := Option.map_eq_some_iff.mp h
      obtain ⟨rfl, rfl⟩ := Prod.mk.injEq .. |>.mp heq
      rw [set_cons_succ, findOne, if_neg hx, ← ih hj, Option.map_eq_some_iff]
      constructor
      · rintro ⟨⟨k, z⟩, hk, hkz⟩
        obtain ⟨hkj, rfl⟩ := Prod.mk.injEq .. |>.mp hkz
        obtain rfl : k = j := Nat.succ.inj hkj
        exact hk
      · intro hk
        exact ⟨(j, c), hk, rfl⟩

theorem findOne_concat :
    findOne p (l ++ [a]) = (findOne p l).or (if p a then some (l.length, a) else none) := by
  induction l with
  | nil => simp [findOne]
  | cons b l ih =>
    rw [cons_append, findOne, findOne, ih]
    split
    · rfl
    · cases findOne p l with
      | some => rfl
      | none => cases p a <;> rfl

def updateMany (ids : List Nat) (f : α → α) (l : List α) : List α :=
  l.mapIdx fun i a => if i ∈ ids then f a else a

variable {ids : List Nat} {f : α → α}

@[simp] theorem length_updateMany : (updateMany ids f l).length = l.length := by simp [updateMany]

theorem getElem?_updateMany :
    (updateMany ids f l)[i]? = l[i]?.map fun a => if i ∈ ids then f a else a := by
  simp [updateMany, getElem?_mapIdx]

@[simp] theorem updateMany_nil : updateMany [] f l = l := by
  refine ext_getElem? fun i => ?_
  simp [getElem?_updateMany]

theorem getElem?_concat_of_some {b : α} (h : l[i]? = some a) : (l ++ [b])[i]? = some a := by
  rwa [List.getElem?_append_left (List.getElem?_eq_some_iff.mp h).1]

theorem getElem?_concat_cases {b : α} (h : (l ++ [b])[i]? = some a) :
    l[i]? = some a ∨ (i = l.length ∧ a = b) := by
  rcases Nat.lt_trichotomy i l.length with hlt | rfl | hgt
  · rw [List.getElem?_append_left hlt] at h
    exact .inl h
  · rw [getElem?_append_right le_rfl] at h
    simp only [Nat.sub_self, getElem?_cons_zero, Option.some.injEq] at h
    exact .inr ⟨rfl, h.symm⟩
  · rw [getElem?_eq_none (by simp; omega)] at h
    cases h

theorem rel_mono {r s : α → α → Prop} {o₀ o : Option α} (h : Option.Rel r o₀ o)
    (himp : ∀ a₀ a, r a₀ a → s a₀ a) : Option.Rel s o₀ o := by
  cases h with
  | none => exact .none
  | some hr => exact .some (himp _ _ hr)

variable {R R' : Nat → α → α → Prop} {l₀ : List α}

theorem rel_set {b : α} (h : ∀ k, Option.Rel (R k) l₀[k]? l[k]?) (ha : l[i]? = some a)
    (hset : ∀ a₀, R i a₀ a → R' i a₀ b) (hre : ∀ k, k ≠ i → ∀ a₀ a, R k a₀ a → R' k a₀ a)
    (k : Nat) : Option.Rel (R' k) l₀[k]? (l.set i b)[k]? := by
  have hk := h k
  by_cases hik : i = k
  · subst hik
    rw [List.getElem?_set_self (List.getElem?_eq_some_iff.mp ha).1]
    rw [ha] at hk
    generalize l₀[i]? = o₀ at hk
    cases hk with
    | some hr => exact .some (hset _ hr)
  · rw [getElem?_set_ne hik]
    exact rel_mono hk (hre k (Ne.symm hik))

theorem rel_modify {f : α → α} (h : ∀ k, Option.Rel (R k) l₀[k]? l[k]?)
    (hf : ∀ k a₀ a, R k a₀ a → R k a₀ (f a)) (k : Nat) :
    Option.Rel (R k) l₀[k]? (l.modify i f)[k]? := by
  have hk := h k
  rw [getElem?_modify]
  generalize l₀[k]? = o₀ at hk
  generalize l[k]? = o at hk
  cases hk with
  | none => exact .none
  | some hr =>
    refine .some ?_
    split
    · exact hf k _ _ hr
    · exact hr

/-! ## One marked document per key -/

variable {κ : Type} {key : α → κ} {marked : α → Prop}

/-- Of the marked elements no two have the same key. -/
def Unique (key : α → κ) (marked : α → Prop) (l : List α) : Prop :=
  ∀ (i j : Nat) (a b : α), l[i]? = some a → l[j]? = some b →
    marked a → marked b → key a = key b → i = j

theorem unique_concat_iff (h : Unique key marked l) :
    Unique key marked (l ++ [a]) ↔ (marked a → ∀ b ∈ l, marked b → key b ≠ key a) := by
  have hla : (l ++ [a])[l.length]? = some a := by simp
  constructor
  · intro hl ha b hb hmb hkey
    obtain ⟨j, hj⟩ := mem_iff_getElem?.mp hb
    have hlt : j < l.length := (List.getElem?_eq_some_iff.mp hj).1
    have heq := hl _ _ _ _ (getElem?_concat_of_some hj) hla hmb ha hkey
    omega
  · intro hl i j b c hb hc hmb hmc hkey
    rcases getElem?_concat_cases hb with hb' | ⟨rfl, rfl⟩
    · rcases getElem?_concat_cases hc with hc' | ⟨rfl, rfl⟩
      · exact h i j b c hb' hc' hmb hmc hkey
      · exact absurd hkey (hl hmc b (mem_of_getElem? hb') hmb)
    · rcases getElem?_concat_cases hc with hc' | ⟨rfl, rfl⟩
      · exact absurd hkey.symm (hl hmb c (mem_of_getElem? hc') hmc)
      · rfl

theorem getElem?_modify_self (hi : l[i]? = some a) (f : α → α) :
    (l.modify i f)[i]? = some (f a) := by
  rw [getElem?_modify_eq, hi]
  rfl

variable {f : α → α}

theorem filter_modify (hi : l[i]? = some a) (ha : p a = false) (hfa : p (f a) = false) :
    (l.modify i f).filter p = l.filter p := by
  induction l generalizing i with
  | nil => cases hi
  | cons b l ih =>
    cases i with
    | zero =>
      cases hi
      rw [modify_zero_cons, filter_cons_of_neg (by simp [hfa]), filter_cons_of_neg (by simp [ha])]
    | succ => rw [modify_succ_cons, filter_cons, filter_cons, ih hi]

theorem countP_modify (hi : l[i]? = some a) (ha : p a = false) (hfa : p (f a)) :
    (l.modify i f).countP p = l.countP p + 1 := by
  induction l generalizing i with
  | nil => cases hi
  | cons b l ih =>
    cases i with
    | zero =>
      cases hi
      rw [modify_zero_cons, countP_cons_of_pos hfa, countP_cons_of_neg (by simp [ha])]
    | succ =>
      rw [modify_succ_cons, countP_cons, countP_cons, ih hi]
      omega

theorem map_modify {β : Type} {g : α → β} (h : ∀ a, g (f a) = g a) (l : List α) (i : Nat) :
    (l.modify i f).map g = l.map g := by
  induction l generalizing i with
  | nil => cases i <;> rfl
  | cons b l ih =>
    cases i with
    | zero => rw [modify_zero_cons, map_cons, map_cons, h]
    | succ => rw [modify_succ_cons, map_cons, map_cons, ih]

theorem modify_concat_length : (l ++ [a]).modify l.length f = l ++ [f a] := by
  induction l with
  | nil => rfl
  | cons b l ih => exact congrArg (b :: ·) ih

theorem getElem?_modify_cases {j : Nat} {b : α} (hi : l[i]? = some a)
    (hj : (l.modify i f)[j]? = some b) : (j = i ∧ b = f a) ∨ (j ≠ i ∧ l[j]? = some b) := by
  by_cases hij : i = j
  · subst hij
    rw [getElem?_modify_eq, hi] at hj
    exact .inl ⟨rfl, (Option.some.inj hj).symm⟩
  · rw [getElem?_modify_ne _ _ hij] at hj
    exact .inr ⟨Ne.symm hij, hj⟩

theorem unique_modify_iff (h : Unique key marked l) (hi : l[i]? = some a)
    (hkey : key (f a) = key a) : Unique key marked (l.modify i f) ↔
      (marked (f a) → ∀ b ∈ l.eraseIdx i, marked b → key b ≠ key a) := by
  have hse : (l.modify i f)[i]? = some (f a) := getElem?_modify_self hi f
  constructor
  · intro hl ha b hb hmb hkb
    obtain ⟨j, hji, hj⟩ := mem_eraseIdx_iff_getElem?.mp hb
    have ho : (l.modify i f)[j]? = some b := by
      rwa [getElem?_modify_ne _ _ hji.symm]
    exact hji (hl j i b (f a) ho hse hmb ha (hkb.trans hkey.symm))
  · intro hl j k b c hb hc hmb hmc hbc
    rcases getElem?_modify_cases hi hb with ⟨rfl, rfl⟩ | ⟨hj, hb'⟩
    · rcases getElem?_modify_cases hi hc with ⟨rfl, rfl⟩ | ⟨hk, hc'⟩
      · rfl
      · have hc'' := mem_eraseIdx_iff_getElem?.mpr ⟨k, hk, hc'⟩
        exact absurd (hbc.symm.trans hkey) (hl hmb c hc'' hmc)
    · rcases getElem?_modify_cases hi hc with ⟨rfl, rfl⟩ | ⟨hk, hc'⟩
      · have hb'' := mem_eraseIdx_iff_getElem?.mpr ⟨j, hj, hb'⟩
        exact absurd (hbc.trans hkey) (hl hmc b hb'' hmb)
      · exact h j k b c hb' hc' hmb hmc hbc

theorem unique_modify_of_imp (h : Unique key marked l) (hkey : ∀ a, key (f a) = key a)
    (hma : ∀ a, marked (f a) → marked a) : Unique key marked (l.modify i f) := by
  cases hi : l[i]? with
  | none =>
    rwa [modify_eq_self (getElem?_eq_none_iff.mp hi)]
  | some a =>
    refine (unique_modify_iff h hi (hkey a)).mpr fun ha b hb hmb hkb => ?_
    obtain ⟨j, hji, hj⟩ := mem_eraseIdx_iff_getElem?.mp hb
    exact hji (h j i b a hj hi hmb (hma a ha) hkb)

/-! ## Totals -/

variable [AddCommGroup M]

def total (f : α → M) (l : List α) : M := (l.map f).sum

@[simp] theorem total_nil (f : α → M) : total f [] = 0 := rfl

@[simp] theorem total_cons (f : α → M) : total f (a :: l) = f a + total f l := by simp [total]

@[simp] theorem total_concat (f : α → M) : total f (l ++ [a]) = total f l + f a := by simp [total]

theorem total_congr {f g : α → M} (h : ∀ a ∈ l, f a = g a) : total f l = total g l := by
  rw [total, total, map_congr_left h]

theorem total_map {β : Type} (f : β → M) (g : α → β) :
    total f (l.map g) = total (fun a => f (g a)) l := by simp [total, Function.comp_def]

theorem total_filter (f : α → M) :
    total f (l.filter p) = total (fun a => if p a then f a else 0) l := by
  induction l with
  | nil => rfl
  | cons a l ih =>
    by_cases ha : p a = true
    · simp [ha, ih]
    · simp [ha, ih]

variable {g : α → α}

theorem total_modify (f : α → M) (h : l[i]? = some a) :
    total f (l.modify i g) = total f l + (f (g a) - f a) := by
  induction l generalizing i with
  | nil => cases h
  | cons b l ih =>
    cases i with
    | zero =>
      obtain rfl : b = a := by simpa using h
      simp only [modify_zero_cons, total_cons]
      abel
    | succ i =>
      have hi : l[i]? = some a := by simpa using h
      simp only [modify_succ_cons, total_cons, ih hi]
      abel

theorem total_eq_sum_range (f : α → M) :
    total f l = ∑ i ∈ Finset.range l.length, (l[i]?).elim 0 f := by
  induction l with
  | nil => simp
  | cons a l ih =>
    rw [total_cons, length_cons, Finset.sum_range_succ', ih]
    simp [add_comm]

theorem total_updateMany (f : α → M) : total f (updateMany ids g l) = total f l
      + ∑ i ∈ Finset.range l.length,
          if i ∈ ids then (l[i]?).elim 0 fun a => f (g a) - f a else 0 := by
  rw [total_eq_sum_range, total_eq_sum_range, length_updateMany, ← Finset.sum_add_distrib]
  refine Finset.sum_congr rfl fun i hi => ?_
  rw [getElem?_updateMany]
  obtain ⟨a, ha⟩ : ∃ a, l[i]? = some a := ⟨_, getElem?_eq_getElem (Finset.mem_range.mp hi)⟩
  by_cases hids : i ∈ ids
  · simp [ha, hids]
  · simp [ha, hids]

theorem sum_map_ids {e : Nat → ℚ} {ids : List Nat} {n : Nat} (hnd : ids.Nodup)
    (hlt : ∀ i ∈ ids, i < n) :
    (ids.map e).sum = ∑ i ∈ Finset.range n, if i ∈ ids then e i else 0 := by
  rw [← sum_toFinset e hnd, ← Finset.sum_filter]
  refine Finset.sum_congr ?_ fun _ _ => rfl
  ext i
  rw [mem_toFinset, Finset.mem_filter, Finset.mem_range]
  exact ⟨fun hi => ⟨hlt i hi, hi⟩, fun hi => hi.2⟩

/-- If no id is held twice, each claim is worth at most what it holds, and only documents of `S`
are held, then the claims together are worth at most `S`. -/
theorem total_le_of_disjoint {e : Nat → ℚ} {cs : List (ℚ × List Nat)} {S : Finset Nat}
    (hnd : ∀ c ∈ cs, c.2.Nodup) (hdis : cs.Pairwise fun c d => ∀ i ∈ c.2, i ∉ d.2)
    (hle : ∀ c ∈ cs, c.1 ≤ (c.2.map e).sum) (hsub : ∀ c ∈ cs, ∀ i ∈ c.2, i ∈ S)
    (hpos : ∀ i ∈ S, 0 ≤ e i) : total Prod.fst cs ≤ ∑ i ∈ S, e i := by
  induction cs generalizing S with
  | nil =>
    rw [total_nil]
    exact Finset.sum_nonneg hpos
  | cons c cs ih =>
    obtain ⟨hdisc, hdi⟩ := pairwise_cons.mp hdis
    obtain ⟨hndc, hndcs⟩ := forall_mem_cons.mp hnd
    obtain ⟨hlec, hlecs⟩ := forall_mem_cons.mp hle
    obtain ⟨hsubc, hsu⟩ := forall_mem_cons.mp hsub
    have hc : c.2.toFinset ⊆ S := fun i hi => hsubc i (mem_toFinset.mp hi)
    have hhe : (c.2.map e).sum = ∑ i ∈ c.2.toFinset, e i := (sum_toFinset e hndc).symm
    have hta : total Prod.fst cs ≤ ∑ i ∈ S \ c.2.toFinset, e i := by
      refine ih hndcs hdi hlecs ?_ ?_
      · intro d hd i hi
        refine Finset.mem_sdiff.mpr ⟨hsu d hd i hi, fun hic => ?_⟩
        exact hdisc d hd i (mem_toFinset.mp hic) hi
      · intro i hi
        exact hpos i (Finset.mem_sdiff.mp hi).1
    have hsp : ∑ i ∈ S \ c.2.toFinset, e i + ∑ i ∈ c.2.toFinset, e i = ∑ i ∈ S, e i :=
      Finset.sum_sdiff hc
    rw [total_cons]
    linarith

end Collection
