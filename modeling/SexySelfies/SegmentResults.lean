import SexySelfies.MemberSegments

/-!
# Segments by activity and by preferences

`segmentByActivity` and `segmentByPreferences` of `memberSegmentation.js`. Both make their summary
with the function written for segments by spending, which reads a total that their segments do not
have. For activity the sum is not a number; for preferences there are no statistics, and reading
them throws as soon as there is a segment.
-/

namespace SexySelfies.Segments

open Analytics Ranking

/-! ## By activity -/

def segmentByEngagementLevel : List Record → List (String × List Record) :=
  segment (fun r =>
    let engagementScore := value r.messageResponseRate * (6 / 10) + 0 * 4
    if 80 ≤ engagementScore then "highly_engaged"
    else if 50 ≤ engagementScore then "engaged"
    else if 25 ≤ engagementScore then "moderate"
    else if 0 < engagementScore then "low_engagement"
    else "not_engaged") ["highly_engaged", "engaged", "moderate", "low_engagement", "not_engaged"]

variable (now : ℚ)

def daysSinceActive (r : Record) : ℚ := (now - value r.lastActive) / day

def segmentByActivityFrequency : List Record → List (String × List Record) :=
  segment (fun r =>
    if daysSinceActive now r ≤ 1 then "daily_active"
    else if daysSinceActive now r ≤ 7 then "weekly_active"
    else if daysSinceActive now r ≤ 30 then "monthly_active"
    else if daysSinceActive now r ≤ 90 then "occasionally_active"
    else "inactive")
    ["daily_active", "weekly_active", "monthly_active", "occasionally_active", "inactive"]

def segmentByLastActiveTime : List Record → List (String × List Record) :=
  segment (fun r =>
    let hoursSinceActive := (now - value r.lastActive) / (1000 * 60 * 60)
    if hoursSinceActive ≤ 1 / 4 then "online_now"
    else if hoursSinceActive ≤ 24 then "today"
    else if hoursSinceActive ≤ 168 then "this_week"
    else if hoursSinceActive ≤ 720 then "this_month"
    else "dormant") ["online_now", "today", "this_week", "this_month", "dormant"]

/-- Without hours every pattern is irregular. -/
def segmentByActivityPattern : List Record → List (String × List Record) :=
  segment (fun _ => "irregular")
    ["morning_users", "afternoon_users", "evening_users", "night_users", "irregular"]

structure ActivityOptions where
  creatorId : Option Nat := none
  activityType : String := "engagement"
  timeframe : ℚ := 30

def ActivityOptions.segments (o : ActivityOptions) :
    List Record → List (String × List Record) :=
  match o.activityType with
  | "engagement" => segmentByEngagementLevel
  | "frequency" => segmentByActivityFrequency now
  | "recency" => segmentByLastActiveTime now
  | "pattern" => segmentByActivityPattern
  | _ => segmentByEngagementLevel

structure ActivityStatistics where
  avgDaysSinceActive : ℚ
  activeRate : ℚ
  avgSessionsPerMonth : ℚ

def calculateActivityStatistics (now timeframe : ℚ) (members : List Record) : ActivityStatistics :=
  if members.isEmpty then ⟨0, 0, 0⟩
  else
    ⟨(members.map (daysSinceActive now)).sum / members.length,
      (members.filter (daysSinceActive now · ≤ timeframe)).length / members.length * 100,
      0 / members.length⟩

variable (members : List Record)

/-- A quotient by the number of members is not a number for none. -/
def average (field : Record → Option ℚ) : Option ℚ :=
  if members.isEmpty then none else some ((members.map (value <| field ·)).sum / members.length)

/-- The average conversion rate is a sum of undefined values, or `0 / 0`. -/
structure Behavior where
  avgResponseRate : Option ℚ
  avgConversionRate : Option ℚ

def analyzeSegmentBehavior : Behavior :=
  ⟨average members (·.messageResponseRate), none⟩

structure ActivitySegment where
  name : String
  members : List Record
  count : ℕ
  statistics : ActivityStatistics
  behavior : Behavior

def ActivitySegment.tally (s : ActivitySegment) : Tally := ⟨s.name, s.count, some none⟩

structure ActivityResult where
  segments : List ActivitySegment
  summary : Summary

def segmentByActivity (o : ActivityOptions) (population : List Record) :
    Option ActivityResult :=
  let enhancedSegments :=
    (o.segments now (population.filter (discoverableBy o.creatorId))).map fun (name, members) =>
      (⟨name, members, members.length, calculateActivityStatistics now o.timeframe members,
        analyzeSegmentBehavior members⟩ : ActivitySegment)
  (generateSpendingSummary (enhancedSegments.map (·.tally))).map (⟨enhancedSegments, ·⟩)

/-! ## By preferences -/

def contentTypes (_ : Record) : Option (List String) := none

/-- The category `__proto__` sets the prototype and makes no segment. -/
def segmentByCategories : List (String × List Record) :=
  let allCategories := (members.flatMap (·.topCategories)).eraseDups
  (allCategories.filter (· ≠ "__proto__")).map fun category =>
    (category, members.flatMap fun r => (r.topCategories.filter (· = category)).map fun _ => r)

def segmentByContentTypes : Option (List (String × List Record)) := do
  let typed ← members.mapM fun r => (contentTypes r).map fun types => (r, types)
  return typed.foldl (fun segments (r, types) =>
      if 2 < types.length then push segments "mixed_content" r
      else types.foldl (fun segments type => push segments type r) segments)
    (["photos", "videos", "live_streams", "messages", "audio", "mixed_content"].map (·, []))

def segmentByPricePreference : List Record → List (String × List Record) :=
  segment (fun r =>
    let avgPurchase := value r.averagePurchase
    if 50 ≤ avgPurchase then "premium_buyers"
    else if 20 ≤ avgPurchase then "standard_buyers"
    else if 10 ≤ avgPurchase then "value_buyers"
    else if 0 < avgPurchase then "budget_buyers"
    else "free_only")
    ["premium_buyers", "standard_buyers", "value_buyers", "budget_buyers", "free_only"]

/-- Without categories of a creator, two placeholders match for everyone. -/
def segmentByCombinedPreferences : List Record → List (String × List Record) :=
  segment (fun _ => "good_match") ["perfect_match", "good_match", "partial_match", "no_match"]

structure PreferenceOptions where
  creatorId : Option Nat := none
  preferenceType : String := "categories"

variable (o : PreferenceOptions)

def PreferenceOptions.segments (members : List Record) :
    Option (List (String × List Record)) :=
  match o.preferenceType with
  | "categories" => some (segmentByCategories members)
  | "contentTypes" => segmentByContentTypes members
  | "priceRange" => some (segmentByPricePreference members)
  | "combined" => some (segmentByCombinedPreferences members)
  | _ => some (segmentByCategories members)

def top (n : ℕ) (texts : List String) : List (String × ℕ) :=
  (sortBy (fun e => -(e.2 : ℤ)) (texts.eraseDups.map fun t => (t, texts.count t))).take n

def analyzeSegmentPreferences :
    Option (List (String × ℕ) × List (String × ℕ)) := do
  let types ← members.mapM contentTypes
  return (top 5 (members.flatMap (·.topCategories)), top 3 types.flatten)

structure PreferenceSegment where
  name : String
  members : List Record
  count : ℕ
  preferences : List (String × ℕ) × List (String × ℕ)
  avgPurchaseFrequency : Option ℚ
  avgPurchaseValue : Option ℚ

def PreferenceSegment.tally (s : PreferenceSegment) : Tally := ⟨s.name, s.count, none⟩

structure PreferenceResult where
  segments : List PreferenceSegment
  summary : Summary

def enhancePreferences (s : String × List Record) : Option PreferenceSegment := do
  let preferences ← analyzeSegmentPreferences s.2
  return ⟨s.1, s.2, s.2.length, preferences, average s.2 (·.totalPurchases),
    average s.2 (·.averagePurchase)⟩

def segmentByPreferences (population : List Record) :
    Option PreferenceResult := do
  let segments ← o.segments (population.filter (discoverableBy o.creatorId))
  let enhancedSegments ← segments.mapM enhancePreferences
  let summary ← generateSpendingSummary (enhancedSegments.map (·.tally))
  return ⟨enhancedSegments, summary⟩

/-! ## Sound results -/

structure PreferenceResult.Sound (selected : List Record) (result : PreferenceResult) : Prop where
  covers : ∀ r ∈ selected, ∃ s ∈ result.segments, r ∈ s.members
  totalValue : result.summary.totalValue.isSome
  purchasing : ∀ s ∈ result.segments, s.avgPurchaseFrequency.isSome ∧ s.avgPurchaseValue.isSome

structure ActivityResult.Sound (selected : List Record) (result : ActivityResult) : Prop where
  covers : ∀ r ∈ selected, ∃ s ∈ result.segments, r ∈ s.members
  totalValue : result.summary.totalValue.isSome

theorem mapM_eq_none_or {α β : Type} (f : α → Option β) {l : List α} (h : l ≠ []) :
    l.mapM f = none ∨ ∃ b bs, l.mapM f = some (b :: bs) := by
  cases l with
  | nil => exact absurd rfl h
  | cons a l =>
    rw [List.mapM_cons]
    cases f a with
    | none => exact .inl rfl
    | some b =>
      cases hl : l.mapM f with
      | none => exact .inl rfl
      | some bs => exact .inr ⟨b, bs, rfl⟩

theorem generateSpendingSummary_eq_none {t : Tally} {ts : List Tally}
    (h : t.totalSpending = none) : generateSpendingSummary (t :: ts) = none :=
  if_neg (by simp [List.all_cons, h])

theorem generateSpendingSummary_nil :
    ∃ s, generateSpendingSummary [] = some s ∧ s.totalValue = some 0 := ⟨_, rfl, rfl⟩

theorem segmentByPreferences_eq_none {o : PreferenceOptions} {p : List Record}
    (h : o.segments (p.filter (discoverableBy o.creatorId)) ≠ some []) :
    segmentByPreferences o p = none := by
  unfold segmentByPreferences
  cases hse : o.segments (p.filter (discoverableBy o.creatorId)) with
  | none => rfl
  | some segments =>
    have hne : segments ≠ [] := fun h0 => h (h0 ▸ hse)
    rcases mapM_eq_none_or enhancePreferences hne with hn | ⟨b, bs, hs⟩
    · simp [hn]
    · simp [hs, generateSpendingSummary_eq_none (t := b.tally) rfl]

theorem segment_ne_nil {c : Record → String} {names : List String} (h : names ≠ [])
    (members : List Record) : segment c names members ≠ [] := by
  rw [segment_eq]
  exact fun h0 => h (List.map_eq_nil_iff.mp h0)

variable {members : List Record}

theorem segments_ne_nil {o : PreferenceOptions}
    (h : o.preferenceType ∈ ["contentTypes", "priceRange", "combined"]) :
    o.segments members ≠ some [] := by
  unfold PreferenceOptions.segments
  intro hnil
  split at hnil
  · simp_all
  · cases members with
    | nil => simp [segmentByContentTypes] at hnil
    | cons => simp [segmentByContentTypes, contentTypes] at hnil
  · exact segment_ne_nil (by decide) members (Option.some.inj hnil)
  · exact segment_ne_nil (by decide) members (Option.some.inj hnil)
  · simp_all

theorem segments_categories {o : PreferenceOptions}
    (h : o.preferenceType ∉ ["contentTypes", "priceRange", "combined"]) :
    o.segments members = some (segmentByCategories members) := by
  unfold PreferenceOptions.segments
  split
  · rfl
  · simp_all
  · simp_all
  · simp_all
  · rfl

theorem activity_segments_eq (o : ActivityOptions) :
    ∃ (names : List String) (c : Record → String), names ≠ []
      ∧ o.segments now = segment c names := by
  unfold ActivityOptions.segments
  split <;> exact ⟨_, _, by decide, rfl⟩

/-- For every population and all options: segments by preferences are sound exactly if
they are made of categories and the query selects nobody, and those by activity never. -/
theorem results_sound_iff (now : ℚ) (o : PreferenceOptions) (a : ActivityOptions)
    (population : List Record) :
    ((∃ result, segmentByPreferences o population = some result
        ∧ result.Sound (population.filter (discoverableBy o.creatorId)))
      ↔ o.preferenceType ∉ ["contentTypes", "priceRange", "combined"]
        ∧ ∀ r ∈ population, discoverableBy o.creatorId r = false)
      ∧ ¬ ∃ result, segmentByActivity now a population = some result
        ∧ result.Sound (population.filter (discoverableBy a.creatorId)) := by
  refine ⟨⟨?_, ?_⟩, ?_⟩
  · rintro ⟨result, hres, hsd⟩
    have hnil : o.segments (population.filter (discoverableBy o.creatorId)) = some [] := by
      by_contra hne
      cases (segmentByPreferences_eq_none hne).symm.trans hres
    refine ⟨fun hmem => segments_ne_nil hmem hnil, fun r hr => ?_⟩
    simp only [segmentByPreferences, hnil, Option.bind_eq_bind, Option.bind_some, List.mapM_nil,
      Option.pure_def] at hres
    obtain ⟨summary, -, heq⟩ := Option.bind_eq_some_iff.mp hres
    cases heq
    by_contra hdis
    obtain ⟨s, hs, -⟩ := hsd.covers r (List.mem_filter.mpr ⟨hr, Bool.not_eq_false _ ▸ hdis⟩)
    cases hs
  · rintro ⟨hty, hn⟩
    have hsel : population.filter (discoverableBy o.creatorId) = [] :=
      List.filter_eq_nil_iff.mpr fun r hr => by rw [hn r hr]; exact Bool.false_ne_true
    have hnil : segmentByCategories [] = [] := rfl
    obtain ⟨summary, hsum, ht⟩ := generateSpendingSummary_nil
    rw [segmentByPreferences, hsel, segments_categories hty, hnil]
    refine ⟨⟨[], summary⟩, ?_, fun r hr => absurd hr List.not_mem_nil, ?_,
      fun s hs => absurd hs List.not_mem_nil⟩
    · simp [hsum]
    · rw [ht]
      rfl
  · rintro ⟨result, hres, hsd⟩
    obtain ⟨names, classify, hnam, hseg⟩ := activity_segments_eq now a
    have hne := @segment_ne_nil classify names hnam (population.filter (discoverableBy a.creatorId))
    rw [segmentByActivity, hseg] at hres
    generalize segment classify names (population.filter (discoverableBy a.creatorId)) = segments
      at hne hres
    cases segments with
    | nil => exact hne rfl
    | cons =>
      obtain ⟨summary, hsum, rfl⟩ := Option.map_eq_some_iff.mp hres
      rw [generateSpendingSummary, if_pos (by simp [ActivitySegment.tally])] at hsum
      cases hsum
      have ht := hsd.totalValue
      simp [ActivitySegment.tally] at ht

theorem newcomer_unsound :
    (segmentByPreferences { preferenceType := "priceRange" } [Record.new 1 0]).isNone
      ∧ (segmentByActivity 0 {} [Record.new 1 0]).any (·.summary.totalValue.isNone) := by
  decide +kernel

end SexySelfies.Segments
