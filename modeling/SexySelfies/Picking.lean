import Mathlib.Data.List.InsertIdx
import Mathlib.Data.List.Perm.Subperm
import Mathlib.Data.List.Range

/-!
# Picking from the front of a list

A list is emptied by taking out one element after another, each from one of the first places: at
most `b` elements are passed over. The order in which the elements come out is some permutation
(`Picked.perm`), and no element comes out more than `b` places before its own (`exists_ranks`).
-/

namespace Picking

open List

variable {α β : Type*} {b : Nat}

/-- `out` are the elements of `l` in an order in which they can be taken out. -/
inductive Picked (b : Nat) : List α → List α → Prop where
  | nil : Picked b [] []
  | cons {l out : List α} {i : Nat} (hi : i ≤ b) (hlt : i < l.length)
      (hrest : Picked b (l.eraseIdx i) out) : Picked b l (l.get ⟨i, hlt⟩ :: out)

variable {l out : List α}

theorem Picked.perm (h : Picked b l out) : out.Perm l := by
  induction h with
  | nil => exact .nil
  | cons hi hlt hr ih => exact (ih.cons _).trans (getElem_cons_eraseIdx_perm hlt)

theorem Picked.map (f : α → β) (h : Picked b l out) : Picked b (l.map f) (out.map f) := by
  induction h with
  | nil => exact .nil
  | @cons l out i hi hlt hr ih =>
    have hlt' : i < (l.map f).length := by rwa [length_map]
    have hget : f (l.get ⟨i, hlt⟩) = (l.map f).get ⟨i, hlt'⟩ := by
      simp
    rw [map_cons, hget]
    exact .cons hi hlt' (eraseIdx_map f l i ▸ ih)

theorem Picked.of_map {f : α → β} {out : List β} (h : Picked b (l.map f) out) :
    ∃ ranks, Picked b l ranks ∧ out = ranks.map f := by
  generalize hm : l.map f = m at h
  induction h generalizing l with
  | nil =>
    obtain rfl := map_eq_nil_iff.mp hm
    exact ⟨[], .nil, rfl⟩
  | @cons m out i hi hlt hr ih =>
    subst hm
    obtain ⟨ranks, hran, rfl⟩ := ih (eraseIdx_map f l i).symm
    have hlt' : i < l.length := by rwa [length_map] at hlt
    refine ⟨l.get ⟨i, hlt'⟩ :: ranks, .cons hi hlt' hran, ?_⟩
    simp

theorem rank_le {n i : Nat} {done rest : List Nat} (hall : (done ++ rest).Perm (List.range n))
    (hso : rest.Pairwise (· < ·)) (hlt : i < rest.length) :
    rest.get ⟨i, hlt⟩ ≤ done.length + i := by
  have hmem : rest.get ⟨i, hlt⟩ < n :=
    mem_range.mp (hall.subset (mem_append_right done (get_mem rest ⟨i, hlt⟩)))
  have hsub : List.range (rest.get ⟨i, hlt⟩) ⊆ done ++ rest.take i := by
    intro x hx
    have hx := mem_range.mp hx
    have hin := hall.symm.subset (mem_range.mpr (hx.trans hmem))
    rcases mem_append.mp hin with hdo | hr
    · exact mem_append_left _ hdo
    · obtain ⟨j, hj, rfl⟩ := mem_iff_getElem.mp hr
      refine mem_append_right _ (mem_take_iff_getElem.mpr ⟨j, ?_, rfl⟩)
      refine Nat.lt_min.mpr ⟨?_, hj⟩
      by_contra hle
      rcases Nat.lt_or_eq_of_le (Nat.le_of_not_lt hle) with hij | rfl
      · exact absurd (pairwise_iff_getElem.mp hso i j hlt hj hij) (Nat.lt_asymm hx)
      · exact Nat.lt_irrefl _ hx
  have hlen := (subperm_of_subset nodup_range hsub).length_le
  rw [length_range, length_append, length_take] at hlen
  omega

theorem Picked.rank_le {n : Nat} {done rest ranks : List Nat} (h : Picked b rest ranks)
    (hall : (done ++ rest).Perm (List.range n)) (hso : rest.Pairwise (· < ·))
    {p rank : Nat} (hp : ranks[p]? = some rank) : rank ≤ done.length + p + b := by
  induction h generalizing done p with
  | nil => cases hp
  | @cons rest out i hi hlt hr ih =>
    cases p with
    | zero =>
      cases hp
      exact (Picking.rank_le hall hso hlt).trans (Nat.add_le_add_left hi _)
    | succ =>
      have hn : (done ++ [rest.get ⟨i, hlt⟩] ++ rest.eraseIdx i).Perm (List.range n) := by
        refine List.Perm.trans ?_ hall
        rw [append_assoc]
        exact (getElem_cons_eraseIdx_perm hlt).append_left done
      have hle := ih hn (hso.sublist (eraseIdx_sublist rest i)) hp
      rw [length_append, length_singleton] at hle
      omega

/-- **No one is moved forward by more than `b` places.** Each element of the result has a rank in
the list, each rank once, at most `b` above its position. -/
theorem Picked.exists_ranks (h : Picked b l out) :
    ∃ ranks : List Nat, ranks.Perm (List.range l.length)
      ∧ out.map some = ranks.map (fun rank => l[rank]?)
      ∧ ∀ p rank, ranks[p]? = some rank → rank ≤ p + b := by
  have hse : l.map some = (List.range l.length).map fun rank => l[rank]? := by
    refine ext_getElem (by simp) fun i hi hi' => ?_
    rw [length_map] at hi
    simp
  obtain ⟨ranks, hran, hout⟩ := (hse ▸ h.map some).of_map
  refine ⟨ranks, hran.perm, hout, fun p rank hp => ?_⟩
  have hall : ([] ++ List.range l.length).Perm (List.range l.length) := .refl _
  have hle := hran.rank_le hall pairwise_lt_range hp
  rwa [length_nil, Nat.zero_add] at hle

end Picking
