import SexySelfies.Runs
import SexySelfies.SalesTracking

/-!
# Daily streaks of a creator

The hook of `CreatorSalesActivity` adds one to `streaks.currentDaily` on every save of a record
whose last activity is of the current day. So it counts saves, not days, and nothing sets it back.
-/

namespace SexySelfies.SalesActivity.Streaks

open Js Runs List

/-! ## Saves -/

inductive Event where
  | save (today : Nat)
  | recordInteraction (today : Nat) (type : InteractionType) (memberSegment : Option String)

def Event.today : Event → Nat
  | .save today => today
  | .recordInteraction today _ _ => today

def Event.isInteraction : Event → Bool
  | .save _ => false
  | .recordInteraction .. => true

def Event.prepare (a : Activity) : Event → Activity
  | .save _ => a
  | .recordInteraction today type memberSegment => a.recordInteraction type memberSegment today

/-- The stored record, and as the specification the days of all saves, those on which a
`recordInteraction` was saved, and the largest value the streak has had. -/
structure History where
  activity : Activity
  days : List Nat
  saved : List Nat
  peak : Nat

def History.start (created : Nat) : History := ⟨.new created, [], [], 0⟩

def History.step (takes : Bool) (s : History) (e : Event) : History :=
  let days := e.today :: s.days
  match (e.prepare s.activity).save takes e.today with
  | none => { s with days }
  | some activity =>
    { activity
      days
      saved := if e.isInteraction then e.today :: s.saved else s.saved
      peak := max s.peak activity.currentDaily }

/-- The number of consecutive days up to `today` that are listed. -/
def streak (days : List Nat) : Nat → Nat
  | 0 => if 0 ∈ days then 1 else 0
  | day + 1 => if day + 1 ∈ days then streak days day + 1 else 0

/-- The streak, its peak and the achievement are as they should be. -/
def History.Right (s : History) (today : Nat) : Prop :=
  s.activity.currentDaily = streak s.saved today ∧ s.activity.longestDaily = s.peak
    ∧ ("Week Warrior" ∈ s.activity.achievements ↔ 7 ≤ s.activity.longestDaily)

theorem streak_of_notMem {days : List Nat} {today : Nat} (h : today ∉ days) :
    streak days today = 0 := by
  cases today with
  | zero | succ day => rw [streak, if_neg h]

theorem streak_of_first {days : List Nat} {created : Nat} (h : ∀ day ∈ days, day = created) :
    streak days created = if created ∈ days then 1 else 0 := by
  cases created with
  | zero => rfl
  | succ day =>
    have hbef : day ∉ days := fun hmem => absurd (h day hmem) (by omega)
    rw [streak, streak_of_notMem hbef]

/-! ## Runs -/

structure Kept (takes : Bool) (created : Nat) (s : History) : Prop where
  early : ∃ whales ≤ (s.activity.currentDaily : ℚ), Early takes created whales s.activity
  saved : ∀ day ∈ s.saved, day = created
  started : created ∈ s.days → 1 ≤ s.activity.currentDaily
  fresh : created ∉ s.days → s.activity.currentDaily = 0 ∧ s.activity.longestDaily = 0
    ∧ s.activity.achievements = [] ∧ s.saved = [] ∧ s.peak = 0

variable {takes : Bool} {created : Nat} {s : History}

theorem kept_start (takes : Bool) (created : Nat) : Kept takes created (.start created) where
  early := ⟨0, le_rfl, early_new⟩
  saved _ h := absurd h not_mem_nil
  started h := absurd h not_mem_nil
  fresh _ := ⟨rfl, rfl, rfl, rfl, rfl⟩

theorem Kept.prepared (h : Kept takes created s) (e : Event)
    (hday : e.isInteraction → created = e.today) :
    ∃ whales ≤ (s.activity.currentDaily : ℚ) + (if created = e.today then 1 else 0),
      Early takes created whales (e.prepare s.activity)
        ∧ (e.prepare s.activity).currentDaily = s.activity.currentDaily
        ∧ (e.prepare s.activity).longestDaily = s.activity.longestDaily
        ∧ (e.prepare s.activity).achievements = s.activity.achievements := by
  obtain ⟨whales, hwh, he⟩ := h.early
  cases e with
  | save =>
    refine ⟨whales, hwh.trans ?_, he, rfl, rfl, rfl⟩
    split <;> linarith
  | recordInteraction today type segment =>
    obtain rfl : created = today := hday rfl
    obtain ⟨w', hle, he', hs⟩ := he.interact type segment
    refine ⟨w', hle.trans ?_, he', hs⟩
    rw [if_pos (hday rfl)]
    linarith

theorem Kept.save_cases (h : Kept takes created s) (e : Event)
    (hday : e.isInteraction → created = e.today) :
    (∃ a, (e.prepare s.activity).save takes e.today = some a
        ∧ (∃ whales ≤ (a.currentDaily : ℚ), Early takes created whales a)
        ∧ a.currentDaily = s.activity.currentDaily + (if created = e.today then 1 else 0)
        ∧ (created ∉ s.days → a.longestDaily = a.currentDaily ∧ a.achievements = []))
      ∨ ((e.prepare s.activity).save takes e.today = none ∧ 4 ≤ s.activity.currentDaily) := by
  obtain ⟨whales, hwh, he, hd, hlo, hach⟩ := h.prepared e hday
  have hwh' : whales ≤ (s.activity.currentDaily : ℚ) + 1 := by
    refine hwh.trans ?_
    split <;> linarith
  cases hs : (e.prepare s.activity).save takes e.today with
  | none =>
    refine .inr ⟨rfl, ?_⟩
    rcases he.rejected hs with hm | hm
    · exact_mod_cast (show (4 : ℚ) ≤ s.activity.currentDaily by linarith)
    · omega
  | some a =>
    obtain ⟨he', hd', hlo', hk⟩ := he.saved hs
    rw [hd] at hd'
    refine .inl ⟨a, rfl, ⟨whales, ?_, he'⟩, hd', fun hf => ?_⟩
    · rw [hd']
      push_cast
      exact hwh
    · obtain ⟨hz, hz', hnil, -, -⟩ := h.fresh hf
      rw [hd, hlo, hz, hz'] at hlo'
      rw [hz] at hd' hwh'
      have hno : (e.prepare s.activity).earned = [] := by
        rcases he.earned_cases with hea | hm | hm
        · exact hea
        · norm_num at hwh'
          linarith
        · omega
      refine ⟨?_, eq_nil_iff_forall_not_mem.mpr fun n hn => ?_⟩
      · rw [hlo', hd']
        split <;> rfl
      · rw [hk hno, hach, hnil] at hn
        exact not_mem_nil hn

variable {e : Event}

theorem Kept.rejected_of_ne (h : Kept takes created s) (hi : e.isInteraction)
    (hday : created ≠ e.today) : (e.prepare s.activity).save takes e.today = none := by
  obtain ⟨whales, -, he⟩ := h.early
  cases e with
  | save => cases hi
  | recordInteraction today type segment => exact he.rejected_of_ne hday type segment

theorem step_of_none (h : (e.prepare s.activity).save takes e.today = none) :
    s.step takes e = { s with days := e.today :: s.days } := by simp only [History.step, h]

theorem step_of_some {a : Activity} (h : (e.prepare s.activity).save takes e.today = some a) :
    s.step takes e = ⟨a, e.today :: s.days, if e.isInteraction then e.today :: s.saved else s.saved,
      max s.peak a.currentDaily⟩ := by
  simp only [History.step, h]

theorem kept_of_rejected (h : Kept takes created s) {today : Nat}
    (hst : created = today → 1 ≤ s.activity.currentDaily) :
    Kept takes created { s with days := today :: s.days } where
  early := h.early
  saved := h.saved
  started hmem := by
    rcases mem_cons.mp hmem with heq | hmem
    · exact hst heq
    · exact h.started hmem
  fresh hnot := h.fresh fun hmem => hnot (mem_cons_of_mem today hmem)

theorem kept_step (h : Kept takes created s) (e : Event) : Kept takes created (s.step takes e) := by
  by_cases hday : e.isInteraction = true → created = e.today
  · rcases h.save_cases e hday with ⟨a, hs, he, hd, hf⟩ | ⟨hs, hm⟩
    · rw [step_of_some hs]
      refine ⟨he, fun day hmem => ?_, fun hmem => ?_, fun hnot => ?_⟩
      · dsimp only at hmem
        split at hmem
        · next hi =>
          rcases mem_cons.mp hmem with rfl | hmem
          · exact (hday hi).symm
          · exact h.saved day hmem
        · exact h.saved day hmem
      · dsimp only
        rcases mem_cons.mp hmem with heq | hmem
        · rw [hd, if_pos heq]
          omega
        · have hst := h.started hmem
          omega
      · have hne : created ≠ e.today := fun heq => hnot (mem_cons.mpr (Or.inl heq))
        have hold : created ∉ s.days := fun hmem => hnot (mem_cons_of_mem _ hmem)
        obtain ⟨hz, -, -, hsv, hpe⟩ := h.fresh hold
        obtain ⟨hlo, hnil⟩ := hf hold
        rw [hz, if_neg hne] at hd
        have hpl : e.isInteraction = false := Bool.eq_false_iff.mpr fun hi => hne (hday hi)
        refine ⟨hd, hlo.trans hd, hnil, ?_, ?_⟩
        · simp [hpl, hsv]
        · simp [hpe, hd]
    · rw [step_of_none hs]
      exact kept_of_rejected h fun _ => by omega
  · obtain ⟨hi, hne⟩ := Classical.not_imp.mp hday
    rw [step_of_none (h.rejected_of_ne hi hne)]
    exact kept_of_rejected h fun heq => absurd heq hne

theorem right_iff_of_saved (h : Kept takes created s) (hi : e.isInteraction)
    (hday : created = e.today) {a : Activity}
    (hsv : (e.prepare s.activity).save takes e.today = some a)
    (hd : a.currentDaily = s.activity.currentDaily + 1)
    (hf : created ∉ s.days → a.longestDaily = a.currentDaily ∧ a.achievements = []) :
    (s.step takes e).Right e.today ↔ created ∉ s.days := by
  have hs : ∀ day ∈ e.today :: s.saved, day = e.today := by
    intro day hmem
    rcases mem_cons.mp hmem with heq | hmem
    · exact heq
    · exact (h.saved day hmem).trans hday
  have hone : streak (e.today :: s.saved) e.today = 1 := by
    rw [streak_of_first hs, if_pos mem_cons_self]
  rw [step_of_some hsv, History.Right]
  simp only [hi, if_true, hone, hd]
  constructor
  · rintro ⟨hc, -⟩ hmem
    have hst := h.started hmem
    omega
  · intro hnot
    obtain ⟨hz, -, -, -, hpe⟩ := h.fresh hnot
    obtain ⟨hlo, hnil⟩ := hf hnot
    rw [hd, hz] at hlo
    rw [hlo, hnil, hz, hpe]
    exact ⟨rfl, rfl, fun hmem => absurd hmem not_mem_nil, fun hm => by omega⟩

theorem right_iff_of_rejected (h : Kept takes created s) (hday : created = e.today)
    (hs : (e.prepare s.activity).save takes e.today = none)
    (hm : 4 ≤ s.activity.currentDaily) : (s.step takes e).Right e.today ↔ created ∉ s.days := by
  have hle : streak s.saved e.today ≤ 1 := by
    rw [streak_of_first fun day hmem => (h.saved day hmem).trans hday]
    split <;> omega
  rw [step_of_none hs]
  constructor
  · rintro ⟨hc, -⟩
    dsimp only at hc
    omega
  · intro hnot
    obtain ⟨hz, -⟩ := h.fresh hnot
    omega

theorem right_iff_of_ne (h : Kept takes created s) (hi : e.isInteraction)
    (hday : created ≠ e.today) : (s.step takes e).Right e.today ↔ created ∉ s.days := by
  have hz : streak s.saved e.today = 0 := streak_of_notMem fun hmem => hday (h.saved _ hmem).symm
  rw [step_of_none (h.rejected_of_ne hi hday), History.Right]
  dsimp only
  rw [hz]
  constructor
  · rintro ⟨hc, -⟩ hmem
    have hst := h.started hmem
    omega
  · intro hnot
    obtain ⟨hc, hlo, hnil, -, hpe⟩ := h.fresh hnot
    rw [hlo, hnil, hpe]
    exact ⟨hc, rfl, fun hmem => absurd hmem not_mem_nil, fun hm => by omega⟩

theorem right_iff (h : Kept takes created s) (hi : e.isInteraction) :
    (s.step takes e).Right e.today ↔ created ∉ s.days := by
  by_cases hday : created = e.today
  · rcases h.save_cases e fun _ => hday with ⟨a, hs, -, hd, hf⟩ | ⟨hs, hm⟩
    · rw [if_pos hday] at hd
      exact right_iff_of_saved h hi hday hs hd hf
    · exact right_iff_of_rejected h hday hs hm
  · exact right_iff_of_ne h hi hday

/-- **Streaks.** For every record and every sequence of saves. -/
theorem streak_right_iff (takes : Bool) (created : Nat) (events : List Event) :
    Every (History.step takes)
        (fun s e => e.isInteraction = true → (s.step takes e).Right e.today)
        (.start created) events
      ↔ Every (History.step takes) (fun s e => e.isInteraction = true → created ∉ s.days)
        (.start created) events :=
  every_iff_within (I := Kept takes created) (fun _ e h _ => kept_step h e)
    (fun _ _ h => forall_congr' fun hint => right_iff h hint)
    (kept_start takes created)

def twoPokes : List Event :=
  [.recordInteraction 0 (.counted .pokes) none, .recordInteraction 0 (.counted .pokes) none]

theorem two_pokes_two_days :
    ¬ Every (History.step false)
        (fun s e => e.isInteraction = true → (s.step false e).Right e.today) (.start 0) twoPokes
      ∧ ¬ Every (History.step true)
        (fun s e => e.isInteraction = true → (s.step true e).Right e.today) (.start 0)
        twoPokes := by
  constructor
  · rintro ⟨-, h, -⟩
    exact absurd (h rfl).1 (by decide +kernel)
  · rintro ⟨-, h, -⟩
    exact absurd (h rfl).1 (by decide +kernel)

end SexySelfies.SalesActivity.Streaks
