import Mathlib.Algebra.BigOperators.Group.List.Lemmas
import Mathlib.Algebra.Field.Rat
import Mathlib.Data.List.Dedup
import Mathlib.Logic.Function.Basic
import Mathlib.Tactic.FieldSimp

/-!
# Members in several segments

`analyzeCrossSegments` of `memberSegmentation.js` turns segments, which are lists of members, into a
map from members to the names of their segments.
-/

namespace SexySelfies.Segments

open List

structure SegmentMap where
  keys : List Nat
  get : Nat → Option (List String)

def SegmentMap.entries (map : SegmentMap) : List (Nat × List String) :=
  map.keys.map fun memberId => (memberId, (map.get memberId).getD [])

def SegmentMap.push (map : SegmentMap) (occurrence : String × Nat) : SegmentMap :=
  let (segmentName, memberId) := occurrence
  match map.get memberId with
  | none => ⟨map.keys ++ [memberId], Function.update map.get memberId (some [segmentName])⟩
  | some names =>
      { map with get := Function.update map.get memberId (some (names ++ [segmentName])) }

def memberSegmentMap (segments : List (String × List Nat)) : SegmentMap :=
  segments.foldl
    (fun map segment => segment.2.foldl (fun map memberId => map.push (segment.1, memberId)) map)
    ⟨[], fun _ => none⟩

structure MultiSegmentMember where
  memberId : Nat
  segments : List String
  segmentCount : Nat

/-- The average is `none` when it is not a number. -/
structure CrossAnalysis where
  multiSegmentMembers : List MultiSegmentMember
  avgSegmentsPerMember : Option ℚ

def analyzeCrossSegments (segments : List (String × List Nat)) : CrossAnalysis :=
  let entries := (memberSegmentMap segments).entries
  ⟨(entries.filter fun e => 1 < e.2.length).map fun e => ⟨e.1, e.2, e.2.length⟩,
    if entries.isEmpty then none
    else some ((entries.map fun e => e.2.length).sum / entries.length)⟩

/-! ## What the map holds -/

def namesOf (occurrences : List (String × Nat)) (memberId : Nat) : List String :=
  (occurrences.filter (·.2 = memberId)).map Prod.fst

/-- The map has, for each member, the names of the segments. -/
structure Indexes (occurrences : List (String × Nat)) (map : SegmentMap) : Prop where
  nodup : map.keys.Nodup
  mem : ∀ memberId, memberId ∈ map.keys ↔ memberId ∈ occurrences.map Prod.snd
  get : ∀ memberId, map.get memberId
    = if memberId ∈ map.keys then some (namesOf occurrences memberId) else none

theorem namesOf_concat (occurrences : List (String × Nat)) (s : String)
    (m k : Nat) : namesOf (occurrences ++ [(s, m)]) k
      = namesOf occurrences k ++ if k = m then [s] else [] := by
  unfold namesOf
  rw [filter_append, map_append]
  by_cases h : k = m
  · simp [h]
  · simp [h, Ne.symm h]

theorem Indexes.push {occurrences : List (String × Nat)} {map : SegmentMap}
    (h : Indexes occurrences map) (s : String) (m : Nat) :
    Indexes (occurrences ++ [(s, m)]) (map.push (s, m)) := by
  unfold SegmentMap.push
  have hget := h.get m
  by_cases hmem : m ∈ map.keys
  · rw [if_pos hmem] at hget
    simp only [hget]
    refine ⟨h.nodup, fun k => ?_, fun k => ?_⟩
    · rw [map_append, mem_append, ← h.mem, map_singleton, mem_singleton]
      exact ⟨.inl, fun hk => hk.elim id fun heq => heq ▸ hmem⟩
    · dsimp only
      by_cases hk : k = m
      · subst hk
        rw [Function.update_self, if_pos hmem, namesOf_concat, if_pos rfl]
      · rw [Function.update_of_ne hk, h.get, namesOf_concat, if_neg hk, append_nil]
  · rw [if_neg hmem] at hget
    have hn : namesOf occurrences m = [] := by
      rw [namesOf, map_eq_nil_iff, filter_eq_nil_iff]
      intro o ho heq
      exact hmem ((h.mem m).mpr (mem_map.mpr ⟨o, ho, of_decide_eq_true heq⟩))
    simp only [hget]
    refine ⟨?_, fun k => ?_, fun k => ?_⟩
    · exact nodup_append.mpr ⟨h.nodup, nodup_singleton _, fun a ha b hb heq =>
        hmem (mem_singleton.mp hb ▸ heq ▸ ha)⟩
    · rw [mem_append, h.mem, map_append, mem_append, map_singleton]
    · dsimp only
      by_cases hk : k = m
      · subst hk
        rw [Function.update_self, if_pos (by simp), namesOf_concat, if_pos rfl, hn]
        rfl
      · rw [Function.update_of_ne hk, h.get, namesOf_concat, if_neg hk, append_nil]
        simp [hk]

def occurrences (segments : List (String × List Nat)) : List (String × Nat) :=
  segments.flatMap fun segment => segment.2.map fun memberId => (segment.1, memberId)

theorem memberSegmentMap_indexes (segments : List (String × List Nat)) :
    Indexes (occurrences segments) (memberSegmentMap segments) := by
  have hfl : memberSegmentMap segments
      = (occurrences segments).foldl SegmentMap.push ⟨[], fun _ => none⟩ := by
    rw [occurrences, foldl_flatMap]
    simp only [foldl_map]
    rfl
  rw [hfl]
  generalize occurrences segments = all
  induction all using List.reverseRecOn with
  | nil => exact ⟨nodup_nil, fun _ => .rfl, fun _ => rfl⟩
  | append_singleton all o ih =>
    rw [foldl_append]
    exact ih.push o.1 o.2

def segmentsOf (segments : List (String × List Nat)) (memberId : Nat) : List String :=
  (segments.filter (memberId ∈ ·.2)).map Prod.fst

theorem namesOf_occurrences {segments : List (String × List Nat)}
    (h : ∀ segment ∈ segments, segment.2.Nodup) (memberId : Nat) :
    namesOf (occurrences segments) memberId = segmentsOf segments memberId := by
  induction segments with
  | nil => rfl
  | cons segment segments ih =>
    rw [forall_mem_cons] at h
    have hf : namesOf (segment.2.map fun k => (segment.1, k)) memberId
        = if memberId ∈ segment.2 then [segment.1] else [] := by
      rw [namesOf, filter_map, map_map]
      have hfi : segment.2.filter (fun k => decide (k = memberId))
          = if memberId ∈ segment.2 then [memberId] else [] := by
        rw [filter_eq, h.1.count]
        split <;> rfl
      refine (congrArg (List.map fun _ => segment.1) hfi).trans ?_
      split <;> rfl
    have hsp : namesOf (occurrences (segment :: segments)) memberId
        = namesOf (segment.2.map fun k => (segment.1, k)) memberId
          ++ namesOf (occurrences segments) memberId := by
      rw [occurrences, flatMap_cons, namesOf, filter_append, map_append]
      rfl
    rw [hsp, hf, ih h.2, segmentsOf, segmentsOf, filter_cons]
    by_cases hmem : memberId ∈ segment.2
    · simp [hmem]
    · simp [hmem]

theorem map_snd_occurrences (segments : List (String × List Nat)) :
    (occurrences segments).map Prod.snd = segments.flatMap Prod.snd := by
  simp [occurrences, map_flatMap, Function.comp_def]

/-- Exactly the members of two or more segments are listed, once and with the names of these, and
the average times the number of members is the sum of the sizes. -/
theorem crossSegments_sound (segments : List (String × List Nat))
    (h : ∀ segment ∈ segments, segment.2.Nodup) (hne : ∃ segment ∈ segments, segment.2 ≠ []) :
    let analysis := analyzeCrossSegments segments
    (analysis.multiSegmentMembers.map (·.memberId)).Nodup ∧ (∀ e, e ∈ analysis.multiSegmentMembers
        ↔ 2 ≤ (segmentsOf segments e.memberId).length
          ∧ e.segments = segmentsOf segments e.memberId ∧ e.segmentCount = e.segments.length)
      ∧ ∃ average, analysis.avgSegmentsPerMember = some average
        ∧ average * (segments.flatMap Prod.snd).dedup.length
          = (segments.map fun segment => segment.2.length).sum := by
  have hind := memberSegmentMap_indexes segments
  obtain ⟨keys, hkeys⟩ : ∃ keys, keys = (memberSegmentMap segments).keys := ⟨_, rfl⟩
  have hnod : keys.Nodup := hkeys ▸ hind.nodup
  have hmem : ∀ k, k ∈ keys ↔ k ∈ segments.flatMap Prod.snd := by
    intro k
    rw [hkeys, hind.mem, map_snd_occurrences]
  have hent : (memberSegmentMap segments).entries
      = keys.map fun k => (k, segmentsOf segments k) := by
    rw [SegmentMap.entries, ← hkeys]
    refine map_congr_left fun k hk => ?_
    rw [hind.get, if_pos (hkeys ▸ hk), Option.getD_some, namesOf_occurrences h]
  have hc : ∀ k, (segmentsOf segments k).length = (segments.flatMap Prod.snd).count k := by
    intro k
    rw [← namesOf_occurrences h, ← map_snd_occurrences, namesOf, length_map,
      ← countP_eq_length_filter, List.count, countP_map]
    rfl
  have hperm : keys.Perm (segments.flatMap Prod.snd).dedup :=
    (perm_ext_iff_of_nodup hnod (nodup_dedup _)).mpr fun k => (hmem k).trans mem_dedup.symm
  unfold analyzeCrossSegments
  simp only [hent]
  refine ⟨?_, fun e => ?_, ?_⟩
  · rw [map_map, filter_map, map_map]
    exact (hnod.filter _).map fun _ _ heq => heq
  · simp only [mem_map, mem_filter, decide_eq_true_eq]
    constructor
    · rintro ⟨_, ⟨⟨k, -, rfl⟩, hlt⟩, rfl⟩
      exact ⟨hlt, rfl, rfl⟩
    · rintro ⟨hlt, hsegm, hsize⟩
      have hk : e.memberId ∈ keys := by
        rw [hmem, ← count_pos_iff, ← hc]
        omega
      refine ⟨_, ⟨⟨e.memberId, hk, rfl⟩, hlt⟩, ?_⟩
      cases e
      simp_all
  · obtain ⟨segment, hseg, hmemb⟩ := hne
    obtain ⟨k, hk⟩ := exists_mem_of_ne_nil _ hmemb
    have hpos : keys ≠ [] := ne_nil_of_mem ((hmem k).mpr (mem_flatMap.mpr ⟨segment, hseg, hk⟩))
    have hlen : ((keys.length : ℕ) : ℚ) ≠ 0 :=
      Nat.cast_ne_zero.mpr fun h0 => hpos (length_eq_zero_iff.mp h0)
    have hsum : (keys.map fun k => (segmentsOf segments k).length).sum
        = (segments.map fun segment => segment.2.length).sum := by
      simp only [hc]
      rw [(hperm.map _).sum_eq, sum_map_count_dedup_eq_length, length_flatMap]
    refine ⟨_, if_neg (by simpa using hpos), ?_⟩
    rw [map_map, length_map, ← hperm.length_eq, div_mul_cancel₀ _ hlen]
    exact congrArg Nat.cast hsum

def sampleSegments : List (String × List Nat) := [("whales", [1, 2]), ("rising", [2, 3])]

theorem crossSegments_whales :
    ∃ average, (analyzeCrossSegments sampleSegments).avgSegmentsPerMember = some average
      ∧ average * 3 = 4 := by
  have h : ∀ segment ∈ sampleSegments, segment.2.Nodup := by decide
  have hne : ∃ segment ∈ sampleSegments, segment.2 ≠ [] := by decide
  obtain ⟨-, -, average, haver, hsum⟩ := crossSegments_sound sampleSegments h hne
  exact ⟨average, haver, hsum⟩

end SexySelfies.Segments
