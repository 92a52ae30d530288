import SexySelfies.AnalyticsModel
import SexySelfies.Ranking

/-!
# Segments of members by spending

`segmentBySpending` of `memberSegmentation.js`: the members that a query selects are put into
segments by one of four classifications, each segment gets its statistics, and a summary is made of
all.
-/

namespace SexySelfies.Segments

open Analytics Ranking List

variable {α : Type} (classify : α → String)

def push (segments : List (String × List α)) (name : String) (a : α) : List (String × List α) :=
  segments.map fun s => if s.1 = name then (s.1, s.2 ++ [a]) else s

def segment (names : List String) (members : List α) : List (String × List α) :=
  members.foldl (fun segments a => push segments (classify a) a) (names.map fun name => (name, []))

theorem segment_eq (names : List String) (members : List α) : segment classify names members
      = names.map fun name => (name, members.filter (classify · = name)) := by
  unfold segment
  induction members using List.reverseRecOn with
  | nil => rfl
  | append_singleton members a ih =>
    rw [foldl_append, ih, foldl_cons, foldl_nil, push, map_map]
    refine map_congr_left fun name _ => ?_
    by_cases h : name = classify a
    · simp [h]
    · simp [h, Ne.symm h]

theorem sum_segments {M : Type} [AddCommMonoid M] {names : List String} (hnam : names.Nodup)
    {members : List α} (h : ∀ a ∈ members, classify a ∈ names) (f : α → M) :
    (names.map fun name => ((members.filter (classify · = name)).map f).sum).sum
      = (members.map f).sum := by
  induction members with
  | nil => simp
  | cons a members ih =>
    rw [forall_mem_cons] at h
    have hsp : ∀ name, (((a :: members).filter (classify · = name)).map f).sum
        = (if classify a = name then f a else 0)
          + ((members.filter (classify · = name)).map f).sum := by
      intro name
      by_cases hn : classify a = name
      · simp [hn]
      · simp [hn]
    have hone := sum_map_eq_nsmul_single (l := names) (classify a)
      (fun name => if classify a = name then f a else 0) fun name hne _ => if_neg (Ne.symm hne)
    rw [count_eq_one_of_mem hnam h.1, one_nsmul, if_pos rfl] at hone
    simp only [hsp]
    rw [sum_map_add, hone, ih h.2, map_cons, sum_cons]

/-! ## Statistics and summary -/

structure Statistics where
  avgSpending : ℚ
  totalSpending : ℚ
  avgLifetimeValue : ℚ
  avgPurchases : ℚ
  medianSpending : Option (Option ℚ)

def calculateMedian (values : List (Option ℚ)) : Option ℚ :=
  let sorted := sortBy value values
  let middle := sorted.length / 2
  if values.isEmpty then some 0
  else if sorted.length % 2 = 0 then
    some ((value sorted[middle - 1]?.join + value sorted[middle]?.join) / 2)
  else sorted[middle]?.join

variable (period : String)

def spendingField (r : Record) : Option ℚ :=
  if period = "lifetime" then r.lifetime else r.last30Days

variable (members : List Record)

def calculateSegmentStatistics (period : String) : Statistics :=
  if members.isEmpty then ⟨0, 0, 0, 0, none⟩
  else
    let totalSpending := (members.map fun r => value (spendingField period r)).sum
    let totalLifetime := (members.map fun r => value r.lifetime).sum
    let totalPurchases := (members.map fun r => value r.totalPurchases).sum
    ⟨totalSpending / members.length, totalSpending, totalLifetime / members.length,
      totalPurchases / members.length, some (calculateMedian (members.map (spendingField period)))⟩

/-- What the summary reads of a segment. The total is `none` for a segment without
statistics, and `some none` for statistics without it. -/
structure Tally where
  name : String
  count : ℕ
  totalSpending : Option (Option ℚ)

structure Summary where
  totalMembers : ℕ
  totalSegments : ℕ
  totalValue : Option ℚ
  largestSegment : Option String
  highestValueSegment : Option String

/-- `none` when it throws. Totals that are all undefined compare as equal. -/
def generateSpendingSummary (segments : List Tally) : Option Summary :=
  if segments.all (·.totalSpending.isSome) then
    some {
      totalMembers := (segments.map (·.count)).sum
      totalSegments := segments.length
      totalValue :=
        if segments.all (·.totalSpending.join.isSome) then
          some (segments.map fun s => value s.totalSpending.join).sum
        else none
      largestSegment := (sortBy (fun s => -(s.count : ℤ)) segments).head?.map (·.name)
      highestValueSegment :=
        (sortBy (fun s => -value s.totalSpending.join) segments).head?.map (·.name) }
  else none

/-! ## Segments by spending -/

def segmentByTier : List Record → List (String × List Record) :=
  segment (fun r =>
    match r.tier with
    | some .whale => "whales"
    | some .vip => "vips"
    | some .regular => "regulars"
    | _ => "new") ["whales", "vips", "regulars", "casuals", "new"]

def segmentBySpendingRange : List Record → List (String × List Record) :=
  segment (fun r =>
    let amount := value (spendingField period r)
    if 500 ≤ amount then "premium_spenders"
    else if 200 ≤ amount then "high_spenders"
    else if 50 ≤ amount then "medium_spenders"
    else if 10 ≤ amount then "low_spenders"
    else if 0 < amount then "minimal_spenders"
    else "non_spenders")
    ["premium_spenders", "high_spenders", "medium_spenders", "low_spenders", "minimal_spenders",
      "non_spenders"]

def segmentByVelocity : List Record → List (String × List Record) :=
  segment (fun r =>
    let change := value r.percentageChange
    if 50 < change then "rapid_growth"
    else if 10 < change then "steady_growth"
    else if -10 ≤ change then "stable"
    else if -50 ≤ change then "declining"
    else "rapid_decline")
    ["rapid_growth", "steady_growth", "stable", "declining", "rapid_decline"]

def segmentByLifetimeValue : List Record → List (String × List Record) :=
  segment (fun r =>
    let ltv := value r.lifetime
    if 5000 ≤ ltv then "platinum"
    else if 1000 ≤ ltv then "gold"
    else if 250 ≤ ltv then "silver"
    else if 50 ≤ ltv then "bronze"
    else "entry") ["platinum", "gold", "silver", "bronze", "entry"]

structure SpendingOptions where
  creatorId : Option Nat := none
  period : String := "last30Days"
  includeInactive : Bool := false
  groupBy : String := "tier"

def discoverableBy (creatorId : Option Nat) (r : Record) : Bool :=
  r.discoverable = some true && creatorId.all fun creator => !r.blockedCreators.contains creator

variable (now : ℚ)

def SpendingOptions.selects (o : SpendingOptions) (r : Record) : Bool :=
  discoverableBy o.creatorId r
    && (o.includeInactive || r.lastActive.any fun lastActive => now - 30 * day ≤ lastActive)

def SpendingOptions.segments (o : SpendingOptions) : List Record → List (String × List Record) :=
  match o.groupBy with
  | "tier" => segmentByTier
  | "range" => segmentBySpendingRange o.period
  | "velocity" => segmentByVelocity
  | "lifetime" => segmentByLifetimeValue
  | _ => segmentByTier

structure SpendingSegment where
  name : String
  members : List Record
  count : ℕ
  statistics : Statistics

structure SpendingResult where
  segments : List SpendingSegment
  summary : Summary

def enhance (s : String × List Record) : SpendingSegment :=
  ⟨s.1, s.2, s.2.length, calculateSegmentStatistics s.2 period⟩

def SpendingSegment.tally (s : SpendingSegment) : Tally :=
  ⟨s.name, s.count, some (some s.statistics.totalSpending)⟩

def segmentBySpending (o : SpendingOptions) (population : List Record) :
    Option SpendingResult :=
  let enhancedSegments :=
    (o.segments (population.filter (o.selects now))).map (enhance o.period)
  (generateSpendingSummary (enhancedSegments.map (·.tally))).map (⟨enhancedSegments, ·⟩)

/-! ## What is answered -/

theorem segments_eq (o : SpendingOptions) :
    ∃ (names : List String) (classify : Record → String), names ≠ [] ∧ names.Nodup
      ∧ (∀ r, classify r ∈ names) ∧ o.segments = segment classify names := by
  have hti : ∃ (names : List String) (classify : Record → String), names ≠ [] ∧ names.Nodup
      ∧ (∀ r, classify r ∈ names) ∧ segmentByTier = segment classify names := by
    refine ⟨_, _, by decide, by decide, fun r => ?_, rfl⟩
    split <;> decide
  unfold SpendingOptions.segments
  split
  · exact hti
  · refine ⟨_, _, by decide, by decide, fun r => ?_, rfl⟩
    dsimp only
    split_ifs <;> decide
  · refine ⟨_, _, by decide, by decide, fun r => ?_, rfl⟩
    dsimp only
    split_ifs <;> decide
  · refine ⟨_, _, by decide, by decide, fun r => ?_, rfl⟩
    dsimp only
    split_ifs <;> decide
  · exact hti

theorem calculateMedian_halves {v : List (Option ℚ)} (h : v ≠ []) :
    v.length ≤ 2 * v.countP (value · ≤ value (calculateMedian v))
      ∧ v.length ≤ 2 * v.countP (value (calculateMedian v) ≤ value ·) := by
  have hpe := perm_sortBy value v
  have hso := pairwise_sortBy value v
  unfold calculateMedian
  rw [if_neg (by simpa using h)]
  rw [← hpe.length_eq, ← hpe.countP_eq, ← hpe.countP_eq]
  have hne : (sortBy value v).length ≠ 0 := by
    rw [hpe.length_eq]
    exact fun h0 => h (length_eq_zero_iff.mp h0)
  generalize sortBy value v = s at hso hne ⊢
  have hget : ∀ k, k < s.length → ∃ a, s[k]? = some a := fun k hk => ⟨_, getElem?_eq_getElem hk⟩
  obtain ⟨upper, hupp⟩ := hget (s.length / 2) (by omega)
  split_ifs with hev
  · obtain ⟨lower, hlow⟩ := hget (s.length / 2 - 1) (by omega)
    have hle : value lower ≤ value upper := by
      have hpl := pairwise_iff_getElem.mp hso (s.length / 2 - 1) (s.length / 2)
        (by omega) (by omega) (by omega)
      rwa [(List.getElem?_eq_some_iff.mp hlow).2, (List.getElem?_eq_some_iff.mp hupp).2] at hpl
    obtain ⟨m, hm⟩ : ∃ m, m = (value lower + value upper) / 2 := ⟨_, rfl⟩
    have hbel : s.length / 2 - 1 < s.countP (value · ≤ m) := lt_countP_le hso hlow (by linarith)
    have habo : s.length ≤ s.length / 2 + s.countP (m ≤ value ·) :=
      length_le_countP_ge hso hupp (by linarith)
    have hme : value (some m) = m := rfl
    simp only [hupp, hlow, Option.join_some, ← hm, hme]
    omega
  · rw [hupp]
    have hbel := lt_countP_le hso hupp le_rfl
    have habo := length_le_countP_ge hso hupp le_rfl
    simp only [Option.join_some]
    omega

/-- The segments share out the selected members, and the figures are theirs. -/
structure Segmented (period : String) (selected : List Record) (result : SpendingResult) :
    Prop where
  names : (result.segments.map (·.name)).Nodup
  members : ∃ classify : Record → String,
    (∀ r ∈ selected, classify r ∈ result.segments.map (·.name))
      ∧ ∀ s ∈ result.segments, s.members = selected.filter (classify · = s.name)
  count : ∀ s ∈ result.segments, s.count = s.members.length
  counts : (result.segments.map (·.count)).sum = selected.length
  totalMembers : result.summary.totalMembers = selected.length
  totalValue : result.summary.totalValue
    = some (selected.map fun r => value (spendingField period r)).sum
  largestSegment : ∃ s ∈ result.segments, result.summary.largestSegment = some s.name
    ∧ ∀ t ∈ result.segments, t.count ≤ s.count
  highestValueSegment : ∃ s ∈ result.segments, result.summary.highestValueSegment = some s.name
    ∧ ∀ t ∈ result.segments, t.statistics.totalSpending ≤ s.statistics.totalSpending
  median : ∀ s ∈ result.segments, s.members ≠ [] →
    ∃ median, s.statistics.medianSpending = some median
      ∧ s.members.length
        ≤ 2 * s.members.countP (fun r => value (spendingField period r) ≤ value median)
      ∧ s.members.length
        ≤ 2 * s.members.countP (fun r => value median ≤ value (spendingField period r))

theorem totalSpending_eq (p : String) :
    (calculateSegmentStatistics members p).totalSpending
      = (members.map fun r => value (spendingField p r)).sum := by
  unfold calculateSegmentStatistics
  split_ifs with h
  · rw [isEmpty_iff.mp h]
    rfl
  · rfl

theorem head?_tallies {segments : List SpendingSegment} (h : segments ≠ []) {β : Type}
    [LinearOrder β] (key : Tally → β) :
    ∃ s ∈ segments, (sortBy key (segments.map (·.tally))).head?.map (·.name) = some s.name
      ∧ ∀ t ∈ segments, key s.tally ≤ key t.tally := by
  have hne : segments.map (·.tally) ≠ [] := fun h0 => h (map_eq_nil_iff.mp h0)
  obtain ⟨_, hmem, hhe, hlea⟩ := head?_sortBy key hne
  obtain ⟨s, hs, rfl⟩ := mem_map.mp hmem
  exact ⟨s, hs, by rw [hhe]; rfl, fun t ht => hlea _ (mem_map.mpr ⟨t, ht, rfl⟩)⟩

/-- For every population, time and options. -/
theorem segmentBySpending_segmented (now : ℚ) (o : SpendingOptions) (population : List Record) :
    ∃ result, segmentBySpending now o population = some result
      ∧ Segmented o.period (population.filter (o.selects now)) result := by
  obtain ⟨names, classify, hne, hnod, hmem, hsegm⟩ := segments_eq o
  unfold segmentBySpending
  generalize population.filter (o.selects now) = selected
  obtain ⟨segments, hs⟩ : ∃ segments, segments = (o.segments selected).map (enhance o.period) :=
    ⟨_, rfl⟩
  have hall : segments = names.map fun name =>
      enhance o.period (name, selected.filter (classify · = name)) := by
    rw [hs, hsegm, segment_eq, map_map]
    rfl
  have hnam : segments.map (·.name) = names := by
    rw [hall, map_map]
    exact map_id names
  have hcou : (segments.map (·.count)).sum = selected.length := by
    have hsum := sum_segments classify hnod (fun r (_ : r ∈ selected) => hmem r) (fun _ => 1)
    rw [hall, map_map]
    simpa [Function.comp_def, enhance] using hsum
  have hv : (segments.map (·.statistics.totalSpending)).sum
      = (selected.map fun r => value (spendingField o.period r)).sum := by
    rw [← sum_segments classify hnod (fun r _ => hmem r), hall, map_map]
    simp [Function.comp_def, enhance, totalSpending_eq]
  have hseg : ∀ s ∈ segments, ∃ name ∈ names,
      s = enhance o.period (name, selected.filter (classify · = name)) := by
    intro s hmem
    rw [hall] at hmem
    obtain ⟨name, hn, rfl⟩ := mem_map.mp hmem
    exact ⟨name, hn, rfl⟩
  have hnon : segments ≠ [] := by
    rw [hall]
    exact fun h0 => hne (map_eq_nil_iff.mp h0)
  dsimp only
  rw [← hs, generateSpendingSummary, if_pos (by simp [SpendingSegment.tally]), Option.map_some]
  refine ⟨_, rfl, hnam ▸ hnod, ⟨classify, fun r _ => hnam ▸ hmem r, fun s hs => ?_⟩,
    fun s hs => ?_, hcou, ?_, ?_, ?_, ?_, fun s hs hmemb => ?_⟩
  · obtain ⟨name, -, rfl⟩ := hseg s hs
    rfl
  · obtain ⟨name, -, rfl⟩ := hseg s hs
    rfl
  · rw [← hcou]
    simp [SpendingSegment.tally, Function.comp_def]
  · rw [← hv]
    simp [SpendingSegment.tally, Function.comp_def, value]
  · obtain ⟨s, hs, hn, hlea⟩ := head?_tallies hnon fun t => -(t.count : ℤ)
    exact ⟨s, hs, hn, fun t ht => by exact_mod_cast neg_le_neg_iff.mp (hlea t ht)⟩
  · obtain ⟨s, hs, hn, hlea⟩ := head?_tallies hnon fun t => -value t.totalSpending.join
    exact ⟨s, hs, hn, fun t ht => neg_le_neg_iff.mp (hlea t ht)⟩
  · obtain ⟨name, -, rfl⟩ := hseg s hs
    have hval := calculateMedian_halves (fun h0 => hmemb (map_eq_nil_iff.mp h0) :
        ((enhance o.period (name, selected.filter (classify · = name))).members.map
          (spendingField o.period)) ≠ [])
    rw [length_map, countP_map, countP_map] at hval
    refine ⟨_, ?_, hval⟩
    exact congrArg Statistics.medianSpending (if_neg fun h0 => hmemb (isEmpty_iff.mp h0))

end SexySelfies.Segments
