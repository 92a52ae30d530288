import SexySelfies.AnalyticsModel

/-!
# The activity-level job

The job of `memberAnalytics.job.js` that runs every six hours: one bulk update for each entry of
`activityThresholds`, in their order. Bulk updates run no validators, so a level is any text here.

Whoever was active within 30 days matches the entry of `low`, which comes after the narrower ones,
and ends there; and the schema allows neither `low` nor `inactive`.
-/

namespace SexySelfies.ActivityLevels

open List

open Analytics (day)

structure Document where
  lastActive : Option ℚ
  level : Option String
  sessionsThisMonth : Option ℚ
  sessionsLastMonth : Option ℚ
  monthlyActivityUpdated : Option ℚ
deriving DecidableEq

def activityThresholds : List (String × ℚ) :=
  [("very-active", 1), ("active", 3), ("moderate", 7), ("low", 30), ("inactive", 30)]

def levels : List String := ["very-active", "active", "regular", "occasional", "dormant"]

def cutoffDate (now days : ℚ) : ℚ := now - days * day

variable (now : ℚ)

/-- The condition on `activity.lastActive`; no date is neither before nor
after the cutoff. -/
def applies (entry : String × ℚ) (lastActive : Option ℚ) : Bool :=
  lastActive.any fun t =>
    if entry.1 = "inactive" then t < cutoffDate now entry.2 else cutoffDate now entry.2 ≤ t

def setLevel (entry : String × ℚ) (d : Document) : Document :=
  if applies now entry d.lastActive ∧ d.level ≠ some entry.1 then { d with level := some entry.1 }
  else d

/-- The pipeline update; a missing source leaves the target missing. -/
def updateSessionCounts (d : Document) : Document :=
  { d with
    sessionsLastMonth := d.sessionsThisMonth
    sessionsThisMonth := some 0
    monthlyActivityUpdated := some now }

structure Run where
  documents : List Document
  modifiedCount : Nat

def Run.updateMany (run : Run) (f : Document → Document) : Run :=
  ⟨run.documents.map f, run.modifiedCount + run.documents.countP fun d => f d ≠ d⟩

def updates : List (Document → Document) :=
  activityThresholds.map (setLevel now) ++ [updateSessionCounts now]

variable (documents : List Document)

def updateActivityLevels : Run :=
  (updates now).foldl Run.updateMany ⟨documents, 0⟩

def narrowest (lastActive : Option ℚ) : String :=
  match lastActive with
  | none => "inactive"
  | some t =>
    if cutoffDate now 1 ≤ t then "very-active"
    else if cutoffDate now 3 ≤ t then "active"
    else if cutoffDate now 7 ≤ t then "moderate"
    else if cutoffDate now 30 ≤ t then "low"
    else "inactive"

/-- Everyone has the level of the narrowest period. -/
def Right : Prop :=
  ∀ d ∈ documents, d.level = some (narrowest now d.lastActive)

/-- Every level is one of the schema's. -/
def Allowed : Prop :=
  ∀ d ∈ documents, ∀ level ∈ d.level, level ∈ levels

/-- Nobody was active within seven days. -/
def Quiet : Prop :=
  ∀ d ∈ documents, ∀ t ∈ d.lastActive, t < cutoffDate now 7

/-! ## Bulk updates in sequence -/

variable {now : ℚ} {d : Document} {entry : String × ℚ} {fs : List (Document → Document)} {run : Run}

theorem documents_foldl : (fs.foldl Run.updateMany run).documents = run.documents.map fun d =>
      fs.foldl (fun d f => f d) d := by
  induction fs generalizing run with
  | nil => simp
  | cons f fs ih => rw [foldl_cons, ih, Run.updateMany, map_map]; rfl

theorem modifiedCount_le (fs : List (Document → Document)) (run : Run) :
    run.modifiedCount ≤ (fs.foldl Run.updateMany run).modifiedCount := by
  induction fs generalizing run with
  | nil => exact le_rfl
  | cons f fs ih => exact (Nat.le_add_right _ _).trans (ih (run.updateMany f))

theorem updateMany_fixed {run : Run} {f : Document → Document}
    (h : ∀ d ∈ run.documents, f d = d) : run.updateMany f = run := by
  have hc : run.documents.countP (fun d => f d ≠ d) = 0 :=
    countP_eq_zero.mpr fun d hd => by simp [h d hd]
  rw [Run.updateMany, map_congr_left h, map_id', hc]
  rfl

theorem modifiedCount_foldl : (fs.foldl Run.updateMany run).modifiedCount = run.modifiedCount ↔
      ∀ f ∈ fs, ∀ d ∈ run.documents, f d = d := by
  induction fs with
  | nil => simp
  | cons f fs ih =>
    rw [foldl_cons, forall_mem_cons, ← ih]
    constructor
    · intro h
      have hc : run.modifiedCount + run.documents.countP (fun d => f d ≠ d) ≤ _ :=
        modifiedCount_le fs (run.updateMany f)
      have hf : ∀ d ∈ run.documents, f d = d := by
        have hz : run.documents.countP (fun d => f d ≠ d) = 0 := by omega
        simpa using countP_eq_zero.mp hz
      rw [updateMany_fixed hf] at h
      exact ⟨hf, h⟩
    · rintro ⟨hf, hfs⟩
      rw [updateMany_fixed hf, hfs]

/-! ## One document -/

def levelAfter (now : ℚ) (d : Document) : Option String :=
  activityThresholds.foldl
    (fun level entry => if applies now entry d.lastActive then some entry.1 else level) d.level

def after (now : ℚ) (d : Document) : Document := (updates now).foldl (fun d f => f d) d

theorem setLevel_eq : setLevel now entry d =
    { d with level := if applies now entry d.lastActive then some entry.1 else d.level } := by
  unfold setLevel
  by_cases h : applies now entry d.lastActive
  · by_cases hl : d.level = some entry.1
    · simp [h, ← hl]
    · simp [h, hl]
  · simp [h]

theorem after_eq : after now d = ⟨d.lastActive, levelAfter now d, some 0, d.sessionsThisMonth,
    some now⟩ := by
  simp [after, updates, activityThresholds, setLevel_eq, updateSessionCounts, levelAfter]

theorem levelAfter_none (h : d.lastActive = none) : levelAfter now d = d.level := by
  simp [levelAfter, activityThresholds, applies, h]

theorem levelAfter_some {t : ℚ} (h : d.lastActive = some t) : levelAfter now d =
    some (if cutoffDate now 30 ≤ t then "low" else "inactive") := by
  by_cases hle : cutoffDate now 30 ≤ t
  · simp [levelAfter, activityThresholds, applies, h, hle, not_lt.mpr hle]
  · simp [levelAfter, activityThresholds, applies, h, hle, not_le.mp hle]

theorem cutoffDate_anti {a b : ℚ} (h : a ≤ b) : cutoffDate now b ≤ cutoffDate now a := by
  have hday : 0 ≤ day := by norm_num [day]
  exact sub_le_sub_left (mul_le_mul_of_nonneg_right h hday) now

theorem not_recent {t : ℚ} (h : ¬ cutoffDate now 7 ≤ t) :
    ¬ cutoffDate now 1 ≤ t ∧ ¬ cutoffDate now 3 ≤ t :=
  ⟨fun h1 => h ((cutoffDate_anti (by norm_num)).trans h1),
    fun h3 => h ((cutoffDate_anti (by norm_num)).trans h3)⟩

theorem levelAfter_right : levelAfter now d = some (narrowest now d.lastActive) ↔
    (∀ t ∈ d.lastActive, t < cutoffDate now 7) ∧
      (d.lastActive = none → d.level = some "inactive") := by
  rcases h : d.lastActive with - | t
  · simp [levelAfter_none h, narrowest]
  · rw [levelAfter_some h, narrowest]
    simp only [Option.mem_some_iff, forall_eq', reduceCtorEq, false_implies, and_true,
      Option.some.injEq]
    by_cases h7 : cutoffDate now 7 ≤ t
    · rw [if_pos ((cutoffDate_anti (by norm_num)).trans h7)]
      refine iff_of_false ?_ (not_lt.mpr h7)
      split_ifs <;> decide
    · obtain ⟨h1, h3⟩ := not_recent h7
      rw [if_neg h1, if_neg h3, if_neg h7]
      exact iff_of_true rfl (not_le.mp h7)

theorem levelAfter_allowed : (∀ level ∈ levelAfter now d, level ∈ levels) ↔
    d.lastActive = none ∧ ∀ level ∈ d.level, level ∈ levels := by
  rcases h : d.lastActive with - | t
  · simp [levelAfter_none h]
  · rw [levelAfter_some h]
    refine iff_of_false (fun hall => ?_) (fun hn => by cases hn.1)
    have hmem := hall _ rfl
    split at hmem <;> simp [levels] at hmem

theorem setLevel_fixed : setLevel now entry d = d ↔
    (applies now entry d.lastActive → d.level = some entry.1) := by
  rcases d with ⟨l, level, a, b, c⟩
  rw [setLevel_eq, Document.mk.injEq]
  by_cases h : applies now entry l
  · simp [h, eq_comm]
  · simp [h]

/-- Only an entry narrower than `low` would still rewrite the level. -/
theorem setLevel_after : (∀ e ∈ activityThresholds, setLevel now e (after now d) = after now d) ↔
    ∀ t ∈ d.lastActive, t < cutoffDate now 7 := by
  simp only [setLevel_fixed, after_eq]
  rcases h : d.lastActive with - | t
  · simp [applies]
  rw [levelAfter_some h]
  constructor
  · intro hall t' ht'
    cases ht'
    by_contra h7
    have hmod := hall ("moderate", 7) (by simp [activityThresholds]) (by simpa [applies] using h7)
    split at hmod <;> simp at hmod
  · intro hlt entry he happ
    have h7 := not_le.mpr (hlt t rfl)
    obtain ⟨h1, h3⟩ := not_recent h7
    simp only [activityThresholds, mem_cons, not_mem_nil, or_false] at he
    rcases he with rfl | rfl | rfl | rfl | rfl
    · exact absurd (by simpa [applies] using happ) h1
    · exact absurd (by simpa [applies] using happ) h3
    · exact absurd (by simpa [applies] using happ) h7
    · rw [if_pos (by simpa [applies] using happ)]
    · rw [if_neg (by simpa [applies] using happ)]

theorem updateSessionCounts_after :
    updateSessionCounts now (after now d) = after now d ↔ d.sessionsThisMonth = some 0 := by
  simp only [updateSessionCounts, after_eq, Document.mk.injEq, true_and, and_true]
  exact eq_comm

variable (now) (documents : List Document)

theorem documents_update : (updateActivityLevels now documents).documents
    = documents.map (after now) := documents_foldl

theorem unmodified_again :
    (updateActivityLevels now (updateActivityLevels now documents).documents).modifiedCount = 0 ↔
      Quiet now documents ∧ ∀ d ∈ documents, d.sessionsThisMonth = some 0 := by
  rw [documents_update, updateActivityLevels, modifiedCount_foldl]
  simp only [updates, mem_append, mem_map, mem_singleton]
  constructor
  · intro h
    have hmem : ∀ d ∈ documents, ∃ e ∈ documents, after now e = after now d :=
      fun d hd => ⟨d, hd, rfl⟩
    refine ⟨fun d hd => setLevel_after.mp fun e he => ?_, fun d hd => ?_⟩
    · exact h _ (.inl ⟨e, he, rfl⟩) _ (hmem d hd)
    · exact updateSessionCounts_after.mp (h _ (.inr rfl) _ (hmem d hd))
  · rintro ⟨hq, hse⟩ f hf _ ⟨d, hd, rfl⟩
    rcases hf with ⟨e, he, rfl⟩ | rfl
    · exact setLevel_after.mpr (hq d hd) e he
    · exact updateSessionCounts_after.mpr (hse d hd)

theorem right_update_iff : Right now (updateActivityLevels now documents).documents ↔
    Quiet now documents ∧ ∀ d ∈ documents, d.lastActive = none → d.level = some "inactive" := by
  simp only [documents_update, Right, forall_mem_map, after_eq, levelAfter_right, Quiet,
    ← forall₂_and]

theorem allowed_update_iff : Allowed (updateActivityLevels now documents).documents ↔
    Allowed documents ∧ ∀ d ∈ documents, d.lastActive = none := by
  simp only [documents_update, Allowed, forall_mem_map, after_eq, levelAfter_allowed, forall₂_and]
  exact and_comm

/-- The three promises of the job: that the levels are right, that a second run has
nothing to do, and that the schema allows what it writes. -/
theorem activity_levels_iff :
    (Right now (updateActivityLevels now documents).documents ↔
      Quiet now documents ∧
        ∀ d ∈ documents, d.lastActive = none → d.level = some "inactive") ∧
    ((updateActivityLevels now (updateActivityLevels now documents).documents).modifiedCount = 0 ↔
      Quiet now documents ∧ ∀ d ∈ documents, d.sessionsThisMonth = some 0) ∧
    (Allowed (updateActivityLevels now documents).documents ↔
      Allowed documents ∧ ∀ d ∈ documents, d.lastActive = none) :=
  ⟨right_update_iff now documents, unmodified_again now documents,
    allowed_update_iff now documents⟩

/-- Only of nobody are the levels both right and allowed. -/
theorem right_and_allowed_iff : Right now (updateActivityLevels now documents).documents ∧
    Allowed (updateActivityLevels now documents).documents ↔ documents = [] := by
  rw [right_update_iff, allowed_update_iff]
  constructor
  · rintro ⟨⟨-, hlevel⟩, hall, hnone⟩
    refine eq_nil_iff_forall_not_mem.mpr fun d hd => ?_
    have hin := hall d hd
    rw [hlevel d hd (hnone d hd)] at hin
    exact absurd hin (by decide)
  · rintro rfl
    simp [Quiet, Allowed]

/-- A member who is active now gets the level of the last month, which the
schema does not allow. -/
theorem active_now_low : ¬ ∀ (now : ℚ) (documents : List Document),
    Right now (updateActivityLevels now documents).documents ∧
      Allowed (updateActivityLevels now documents).documents := by
  intro h
  have hr := (h 0 [⟨some 0, some "regular", none, none, none⟩]).1
  exact absurd (hr _ mem_cons_self) (by decide +kernel)

end SexySelfies.ActivityLevels
