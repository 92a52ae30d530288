import SexySelfies.JsNumeral
import SexySelfies.SalesActivityModel

/-!
# Conversions, achievements and streaks of a creator

The rest of `CreatorSalesActivity`: `recordInteraction` for every type it can be called with,
`recordConversion`, and what `save` does with a record.

`rankings.achievements` is declared as `[{ type: String, name: String, … }]`, which the mapper reads
as a list of strings, so that the object `unlockAchievement` pushes cannot be cast: the hook throws,
and the save is rejected. `takes` says whether it takes the object after all.
-/

namespace SexySelfies.SalesActivity

open Js Platform List

def quotient : Number → Number → Number
  | .fin a, .fin b =>
    if b ≠ 0 then .fin (a / b) else if a = 0 then .nan else if 0 < a then .posInf else .negInf
  | .posInf, .fin b => if 0 ≤ b then .posInf else .negInf
  | .negInf, .fin b => if 0 ≤ b then .negInf else .posInf
  | .fin _, .posInf => .fin 0
  | .fin _, .negInf => .fin 0
  | _, _ => .nan

def scale (k : ℚ) : Number → Number
  | .fin q => .fin (q * k)
  | n => n

def atMost (k : ℚ) : Number → Number
  | .fin q => .fin (min k q)
  | .posInf => .fin k
  | n => n

def round : Number → Number
  | .fin q => .fin ⌊q + 1 / 2⌋
  | n => n

def number (n : Option Number) : Number := n.getD .nan

/-- `n + v`, where `text` is the text of a number. -/
def plus (text : Number → String) (n : Number) : Value → Value
  | .str s => .str (text n ++ s)
  | .arr xs => .str (text n ++ (Value.arr xs).text)
  | .obj fields => .str (text n ++ (Value.obj fields).text)
  | v => .num (n.add v.toNumber)

def setNumber (v : Value) : Option Number := (castNumber v).getD (some .nan)

/-! ## The record -/

structure Goal where
  target : ℚ
  achieved : Option Number
  percentage : Option Number

/-- `conversionsGoal` and `revenueGoal` are under `goals.daily`, the next three
are the `achieved` paths under `goals.weekly` and `goals.monthly`, and
`purchase` counts a stage of the funnel. -/
structure Activity where
  record : Record
  profileViews : Option Number
  sales : Option Number
  revenue : Option Number
  conversionRate : Option Number
  responseRate : Option Number
  conversionsGoal : Goal
  revenueGoal : Goal
  weeklyConversions : Option Number
  weeklyRevenue : Option Number
  monthlyRevenue : Option Number
  purchase : Option Number
  performanceScore : Option Number
  achievements : List String
  currentDaily : Nat
  longestDaily : Nat
  lastActivity : Nat

namespace Activity

def new (today : Nat) : Activity where
  record := Record.new today (.fin 50) (.fin 100) (.fin 10)
  profileViews := some (.fin 0)
  sales := some (.fin 0)
  revenue := some (.fin 0)
  conversionRate := some (.fin 0)
  responseRate := some (.fin 0)
  conversionsGoal := ⟨5, some (.fin 0), some (.fin 0)⟩
  revenueGoal := ⟨200, some (.fin 0), some (.fin 0)⟩
  weeklyConversions := some (.fin 0)
  weeklyRevenue := some (.fin 0)
  monthlyRevenue := some (.fin 0)
  purchase := some (.fin 0)
  performanceScore := some (.fin 50)
  achievements := []
  currentDaily := 0
  longestDaily := 0
  lastActivity := today

end Activity

/-- The types `recordInteraction` is called with. The total, which is a path but
no type, is left out. -/
inductive InteractionType where
  | profileViews
  | counted (kind : Kind)
  | other (name : String)

namespace Activity

variable (a : Activity)

def resetDay (today : Nat) : Activity :=
  if a.record.date = today then a
  else
    { a with
      record := a.record.resetDay today
      profileViews := none
      sales := none
      revenue := none
      conversionRate := none
      responseRate := none }

def setInteractions (interactions : Interactions) : Activity :=
  { a with record := { a.record with interactions } }

/-- `interactions[type] = (interactions[type] || 0) + 1`. A name without a
counter is set on an object that is not stored. -/
def countType : InteractionType → Activity
  | .profileViews => { a with profileViews := some ((orZero a.profileViews).add (.fin 1)) }
  | .counted kind =>
    let i := a.record.interactions
    a.setInteractions (i.set ((orZero (i.get kind)).add (.fin 1)) kind)
  | .other _ => a

def countTotal : Activity :=
  let i := a.record.interactions
  a.setInteractions { i with totalInteractions := some (increment i.totalInteractions) }

def useLimit : InteractionType → Activity
  | .counted kind => { a with record := a.record.useLimit kind }
  | _ => a

def recordInteraction (type : InteractionType) (memberSegment : Option String)
    (today : Nat) : Activity :=
  let a := ((a.resetDay today).countType type).countTotal
  let a := { a with record := a.record.engage memberSegment }.useLimit type
  { a with
    record := { a.record with awareness := increment (some a.record.awareness) }
    lastActivity := today }

def recordConversion (text : Number → String) (a : Activity) (revenue : Value) : Activity :=
  let sales := some (increment a.sales)
  let conversions := some (increment a.conversionsGoal.achieved)
  let achieved := setNumber (plus text (number a.revenueGoal.achieved) revenue)
  { a with
    sales
    revenue := setNumber (plus text (number a.revenue) revenue)
    conversionRate :=
      some (scale 100 (quotient (number sales) (number a.record.interactions.totalInteractions)))
    conversionsGoal :=
      { a.conversionsGoal with
        achieved := conversions
        percentage := some (scale 100 (quotient (number conversions)
          (.fin a.conversionsGoal.target))) }
    revenueGoal :=
      { a.revenueGoal with
        achieved
        percentage := some (scale 100 (quotient (number achieved) (.fin a.revenueGoal.target))) }
    weeklyConversions := some (increment a.weeklyConversions)
    weeklyRevenue := setNumber (plus text (number a.weeklyRevenue) revenue)
    monthlyRevenue := setNumber (plus text (number a.monthlyRevenue) revenue)
    purchase := some (increment a.purchase) }

/-! ## Saving -/

/-- The paths with `min: 0`: those of conversions and goals, -/
def figures : List (Option Number) :=
  [a.sales, a.revenue, a.conversionsGoal.achieved, a.revenueGoal.achieved, a.weeklyConversions,
    a.weeklyRevenue, a.monthlyRevenue, a.purchase]

/-- those of interactions, -/
def interactionCounts : List (Option Number) :=
  let i := a.record.interactions
  [a.profileViews, i.pokes, i.likes, i.messages, i.specialOffers, i.totalInteractions]

/-- and those of limits and the funnel, with `messagesPerHour`, which has no
minimum but is only counted up. -/
def usage : List (Option Number) :=
  [some a.record.pokes.used, some a.record.messages.used, some a.record.offers.used,
    some a.record.messagesPerHour, some a.record.awareness]

def counters : List (Option Number) :=
  a.figures ++ a.interactionCounts ++ a.usage ++ declaredSegments.map a.record.segmentsEngaged

/-- The paths that have `max: 100` as well. -/
def percentages : List (Option Number) :=
  [a.conversionRate, a.responseRate, a.conversionsGoal.percentage, a.revenueGoal.percentage,
    a.performanceScore]

end Activity

def isCounter : Number → Bool
  | .fin q => 0 ≤ q
  | _ => false

def isPercentage : Number → Bool
  | .fin q => 0 ≤ q && q ≤ 100
  | _ => false

namespace Activity

variable (a : Activity)

def validates : Bool :=
  a.counters.all (fun n => n.all isCounter) && a.percentages.all (fun n => n.all isPercentage)

def score : Number :=
  let goalScore := (scale (1 / 5) (number a.revenueGoal.percentage)).add
    (scale (1 / 5) (number a.conversionsGoal.percentage))
  let activity := scale 10 (quotient (number a.record.interactions.totalInteractions) (.fin 50))
  round ((((atMost 40 goalScore).add (atMost 30 (scale 3 (number a.conversionRate)))).add
    (atMost 20 (scale (1 / 5) (number a.responseRate)))).add (atMost 10 activity))

def calculatePerformanceScore : Activity :=
  { a with performanceScore := some a.score }

/-- The achievements with their conditions, in the order they are checked. -/
def conditions : List (String × Bool) :=
  [("First Sale", a.sales = some (.fin 1)),
    ("Daily Champion", Number.le (.fin 100) (number a.revenueGoal.percentage)),
    ("Whale Hunter", Number.le (.fin 5) (number (a.record.segmentsEngaged "whales"))),
    ("Conversion Master", Number.le (.fin 20) (number a.conversionRate)),
    ("Week Warrior", 7 ≤ a.currentDaily)]

def earned : List String := (a.conditions.filter (·.2)).map (·.1)

variable (takes : Bool)

def unlockAchievement (achievements : List String) (name : String) :
    Option (List String) :=
  if name ∈ achievements then some achievements
  else if takes then some (achievements ++ [name])
  else none

/-- `none` when pushing an achievement throws. -/
def checkAchievements (a : Activity) : Option Activity :=
  (a.earned.foldlM (unlockAchievement takes) a.achievements).map fun achievements =>
    { a with achievements }

def updateStreaks (today : Nat) : Activity :=
  if a.lastActivity = today then
    { a with
      currentDaily := a.currentDaily + 1
      longestDaily := max a.longestDaily (a.currentDaily + 1) }
  else a

/-- `none` when the save is rejected. -/
def save (a : Activity) (today : Nat) : Option Activity :=
  if a.validates then
    (a.calculatePerformanceScore.checkAchievements takes).map fun a => a.updateStreaks today
  else none

end Activity

inductive Body where
  | interaction (interactionType : InteractionType) (memberId : Value) (memberTier : Option String)
  | conversion (memberId : Value) (amount : Number) (interactionType : Option String)
  | milestone
  | other

variable (takes : Bool) (text : Number → String)

/-- The record after the first save. The member's id is passed where
`recordConversion` expects the revenue, and there is no
`checkAndUnlockAchievements`. -/
def Activity.recorded (a : Activity) (today : Nat) : Body → Option Activity
  | .interaction interactionType _ memberTier =>
    (a.recordInteraction interactionType memberTier today).save takes today
  | .conversion memberId _ _ => (a.recordConversion text memberId).save takes today
  | .milestone => none
  | .other => some a

/-- The record is saved again. Then the answer is made from `gamification`,
which is not a path, and this throws. -/
def trackSalesActivity (a : Activity) (today : Nat) (body : Body) : Activity × Response Activity :=
  let failed := .failure 500 "Error tracking sales activity"
  match a.recorded takes text today body with
  | none => (a, failed)
  | some a => ((a.save takes today).getD a, failed)

/-! ## Sound records -/

/-- A record that passes validation, with the numbers the score is made of. -/
structure Activity.Sound (a : Activity) : Prop where
  figures : ∀ n ∈ a.figures, n.all isCounter = true
  interactionCounts : ∀ n ∈ a.interactionCounts, n.all isCounter = true
  usage : ∀ n ∈ a.usage, n.all isCounter = true
  segments : ∀ name ∈ declaredSegments, (a.record.segmentsEngaged name).all isCounter = true
  percentages : ∀ n ∈ a.percentages, ∃ q, n = some (.fin q) ∧ 0 ≤ q ∧ q ≤ 100
  total : a.record.interactions.totalInteractions.isSome = true

variable {a : Activity}

theorem isCounter_fin {q : ℚ} (h : 0 ≤ q) : isCounter (.fin q) := decide_eq_true h

theorem isCounter_some {n : Number} (h : isCounter n) : ∃ q, n = .fin q ∧ 0 ≤ q := by
  cases n with
  | fin q => exact ⟨q, rfl, of_decide_eq_true h⟩
  | nan | posInf | negInf => cases h

theorem isCounter_increment {n : Number} (h : isCounter n) :
    isCounter (increment (some n)) := by
  obtain ⟨q, rfl, hq⟩ := isCounter_some h
  exact isCounter_fin (by linarith)

theorem isCounter_orZero {n : Option Number} (h : n.all isCounter) :
    isCounter ((orZero n).add (.fin 1)) := by
  cases n with
  | none => exact isCounter_fin (by norm_num)
  | some =>
    obtain ⟨q, rfl, hq⟩ := isCounter_some h
    rw [orZero_fin]
    exact isCounter_fin (by linarith)

theorem Activity.Sound.validates (h : a.Sound) : a.validates := by
  rw [Activity.validates, Bool.and_eq_true, all_eq_true, all_eq_true]
  constructor
  · intro n hn
    simp only [Activity.counters, mem_append, mem_map] at hn
    rcases hn with ((hn | hn) | hn) | ⟨name, hnm, rfl⟩
    · exact h.figures n hn
    · exact h.interactionCounts n hn
    · exact h.usage n hn
    · exact h.segments name hnm
  · intro n hn
    obtain ⟨q, rfl, hlow, hhi⟩ := h.percentages n hn
    exact (Bool.and_eq_true _ _).mpr ⟨decide_eq_true hlow, decide_eq_true hhi⟩

theorem sound_new (today : Nat) : (Activity.new today).Sound where
  figures n hn := by
    simp only [Activity.figures, Activity.new, mem_cons, not_mem_nil, or_false, or_self] at hn
    rw [hn]
    rfl
  interactionCounts n hn := by
    simp only [Activity.interactionCounts, Activity.new, Record.new, mem_cons,
      not_mem_nil, or_false, or_self] at hn
    rw [hn]
    rfl
  usage n hn := by
    simp only [Activity.usage, Activity.new, Record.new, mem_cons, not_mem_nil, or_false,
      or_self] at hn
    rw [hn]
    rfl
  segments name _ := rfl
  percentages n hn := by
    simp only [Activity.percentages, Activity.new, mem_cons, not_mem_nil, or_false] at hn
    rcases hn with rfl | rfl | rfl | rfl | rfl
    · exact ⟨0, rfl, le_rfl, by norm_num⟩
    · exact ⟨0, rfl, le_rfl, by norm_num⟩
    · exact ⟨0, rfl, le_rfl, by norm_num⟩
    · exact ⟨0, rfl, le_rfl, by norm_num⟩
    · exact ⟨50, rfl, by norm_num, by norm_num⟩
  total := rfl

/-! ### Interactions -/

theorem forall_interactionCounts {p : Option Number → Prop} : (∀ n ∈ a.interactionCounts, p n)
      ↔ p a.profileViews ∧ (∀ kind, p (a.record.interactions.get kind))
        ∧ p a.record.interactions.totalInteractions := by
  simp only [Activity.interactionCounts, forall_mem_cons]
  constructor
  · rintro ⟨hvie, hpok, hlik, hms, hoff, ht, -⟩
    refine ⟨hvie, fun kind => ?_, ht⟩
    cases kind with
    | pokes => exact hpok
    | likes => exact hlik
    | messages => exact hms
    | specialOffers => exact hoff
  · rintro ⟨hvie, hk, ht⟩
    exact ⟨hvie, hk .pokes, hk .likes, hk .messages, hk .specialOffers, ht, nofun⟩

variable {i : Interactions} {n : Number} {kind : Kind}

theorem get_set (kind' : Kind) :
    (i.set n kind).get kind' = if kind' = kind then some n else i.get kind' := by
  cases kind <;> cases kind' <;> rfl

theorem total_set : (i.set n kind).totalInteractions = i.totalInteractions := by
  cases kind <;> rfl

theorem sound_countType (h : a.Sound) (type : InteractionType) : (a.countType type).Sound := by
  obtain ⟨hvie, hk, ht⟩ := forall_interactionCounts.mp h.interactionCounts
  cases type with
  | profileViews =>
    refine ⟨h.figures, forall_interactionCounts.mpr ⟨?_, hk, ht⟩, h.usage, h.segments,
      h.percentages, h.total⟩
    exact isCounter_orZero hvie
  | counted kind =>
    refine ⟨h.figures, forall_interactionCounts.mpr ⟨hvie, fun kind' => ?_, ?_⟩, h.usage,
      h.segments, h.percentages, ?_⟩
    · simp only [Activity.countType, Activity.setInteractions, get_set]
      split
      · exact isCounter_orZero (hk kind)
      · exact hk kind'
    · simp only [Activity.countType, Activity.setInteractions, total_set]
      exact ht
    · simp only [Activity.countType, Activity.setInteractions, total_set]
      exact h.total
  | other => exact h

theorem sound_countTotal (h : a.Sound) : a.countTotal.Sound := by
  obtain ⟨hvie, hk, ht⟩ := forall_interactionCounts.mp h.interactionCounts
  obtain ⟨n, hn⟩ := Option.isSome_iff_exists.mp h.total
  refine ⟨h.figures, forall_interactionCounts.mpr ⟨hvie, fun kind => ?_, ?_⟩, h.usage,
    h.segments, h.percentages, rfl⟩
  · cases kind with
    | pokes => exact hk .pokes
    | likes => exact hk .likes
    | messages => exact hk .messages
    | specialOffers => exact hk .specialOffers
  · simp only [Activity.countTotal, Activity.setInteractions, hn]
    rw [hn] at ht
    exact isCounter_increment ht

theorem sound_engage (h : a.Sound) (segment : Option String) :
    { a with record := a.record.engage segment }.Sound := by
  cases segment with
  | none => exact h
  | some name =>
    simp only [Record.engage]
    split
    · next hn =>
      refine ⟨h.figures, h.interactionCounts, h.usage, fun name' hn' => ?_, h.percentages, h.total⟩
      dsimp only
      rw [Function.update_apply]
      split
      · exact isCounter_orZero (h.segments name hn)
      · exact h.segments name' hn'
    · exact h

theorem sound_useLimit (h : a.Sound) (type : InteractionType) : (a.useLimit type).Sound := by
  have husa := h.usage
  simp only [Activity.usage, forall_mem_cons] at husa
  obtain ⟨hpok, hms, hoff, hho, hawa, hnil⟩ := husa
  cases type with
  | profileViews | other name => exact h
  | counted kind =>
    cases kind with
    | likes => exact h
    | pokes =>
      refine ⟨h.figures, h.interactionCounts, ?_, h.segments, h.percentages, h.total⟩
      simp only [Activity.usage, forall_mem_cons]
      exact ⟨isCounter_increment hpok, hms, hoff, hho, hawa, hnil⟩
    | messages =>
      refine ⟨h.figures, h.interactionCounts, ?_, h.segments, h.percentages, h.total⟩
      simp only [Activity.usage, forall_mem_cons]
      exact ⟨hpok, isCounter_increment hms, hoff, isCounter_increment hho, hawa, hnil⟩
    | specialOffers =>
      refine ⟨h.figures, h.interactionCounts, ?_, h.segments, h.percentages, h.total⟩
      simp only [Activity.usage, forall_mem_cons]
      exact ⟨hpok, hms, isCounter_increment hoff, hho, hawa, hnil⟩

variable {today : Nat}

theorem sound_recordInteraction (h : a.Sound) (hd : a.record.date = today)
    (type : InteractionType) (segment : Option String) :
    (a.recordInteraction type segment today).Sound := by
  unfold Activity.recordInteraction
  rw [Activity.resetDay, if_pos hd]
  have hcnt := sound_useLimit (sound_engage (sound_countTotal (sound_countType h type))
    segment) type
  have husa := hcnt.usage
  simp only [Activity.usage, forall_mem_cons] at husa
  obtain ⟨hpok, hms, hoff, hho, hawa, hnil⟩ := husa
  refine ⟨hcnt.figures, hcnt.interactionCounts, ?_, hcnt.segments, hcnt.percentages, hcnt.total⟩
  simp only [Activity.usage, forall_mem_cons]
  exact ⟨hpok, hms, hoff, hho, isCounter_increment hawa, hnil⟩

variable {segment : Option String}

theorem engage_cases (record : Record) :
    ∃ segmentsEngaged, record.engage segment = { record with segmentsEngaged }
      ∧ ∀ name, segmentsEngaged name = record.segmentsEngaged name
        ∨ segmentsEngaged name = some ((orZero (record.segmentsEngaged name)).add (.fin 1)) := by
  cases segment with
  | none => exact ⟨record.segmentsEngaged, rfl, fun _ => .inl rfl⟩
  | some =>
    rw [Record.engage]
    split
    · refine ⟨_, rfl, fun name' => ?_⟩
      rw [Function.update_apply]
      split
      · next heq =>
        rw [heq]
        exact .inr rfl
      · exact .inl rfl
    · exact ⟨record.segmentsEngaged, rfl, fun _ => .inl rfl⟩

variable {type : InteractionType}

theorem recordInteraction_cases (hd : a.record.date = today) : ∃ record profileViews,
    a.recordInteraction type segment today = { a with record, profileViews, lastActivity := today }
        ∧ record.date = today
        ∧ record.interactions.totalInteractions
          = some (increment a.record.interactions.totalInteractions)
        ∧ ∀ name, record.segmentsEngaged name = a.record.segmentsEngaged name
          ∨ record.segmentsEngaged name
            = some ((orZero (a.record.segmentsEngaged name)).add (.fin 1)) := by
  unfold Activity.recordInteraction
  rw [Activity.resetDay, if_pos hd]
  obtain ⟨segments, hen, hse⟩ := engage_cases (a.countType type).countTotal.record
  dsimp only
  rw [hen]
  cases type with
  | profileViews | other name => exact ⟨_, _, rfl, hd, rfl, hse⟩
  | counted kind => cases kind <;> exact ⟨_, _, rfl, hd, rfl, hse⟩

theorem not_validates_of_ne (hd : a.record.date ≠ today) :
    (a.recordInteraction type segment today).validates = false := by
  have ht : (a.recordInteraction type segment today).record.interactions.totalInteractions
      = some .nan := by
    unfold Activity.recordInteraction
    rw [Activity.resetDay, if_neg hd, Record.resetDay, if_neg hd]
    dsimp only
    obtain ⟨segments, hen, -⟩ := engage_cases _
    rw [hen]
    cases type with
    | profileViews | other name => rfl
    | counted kind => cases kind <;> rfl
  simp [Activity.validates, Activity.counters, Activity.interactionCounts, ht, isCounter]

/-! ### Saving -/

theorem forall_percentages {p : Option Number → Prop} : (∀ n ∈ a.percentages, p n)
      ↔ p a.conversionRate ∧ p a.responseRate ∧ p a.conversionsGoal.percentage
        ∧ p a.revenueGoal.percentage ∧ p a.performanceScore := by
  simp [Activity.percentages]

theorem Activity.Sound.score (h : a.Sound) : ∃ q, a.score = .fin q ∧ 0 ≤ q ∧ q ≤ 100 := by
  obtain ⟨⟨rate, hra, hrate0, -⟩, ⟨response, hre, hresponse0, -⟩,
    ⟨conversions, hco, hconversions0, -⟩, ⟨revenue, hrev, hrevenue0, -⟩, -⟩ :=
    forall_percentages.mp h.percentages
  obtain ⟨n, hn⟩ := Option.isSome_iff_exists.mp h.total
  have hctr := (forall_interactionCounts.mp h.interactionCounts).2.2
  rw [hn] at hctr
  obtain ⟨total, rfl, htotal0⟩ := isCounter_some hctr
  simp only [Activity.score, hra, hre, hco, hrev, hn, number, Option.getD_some,
    quotient, scale, atMost, Number.add_fin, round]
  rw [if_pos (by norm_num)]
  dsimp only [scale, atMost, Number.add_fin, round]
  have hgoa : 0 ≤ min 40 (revenue * (1 / 5) + conversions * (1 / 5)) :=
    le_min (by norm_num) (by linarith)
  have hcon : 0 ≤ min 30 (rate * 3) := le_min (by norm_num) (by linarith)
  have hres : 0 ≤ min 20 (response * (1 / 5)) := le_min (by norm_num) (by linarith)
  have hac : 0 ≤ min 10 (total / 50 * 10) := le_min (by norm_num) (by linarith)
  refine ⟨_, rfl, Int.cast_nonneg (Int.floor_nonneg.mpr ?_), ?_⟩
  · linarith
  · have hgoa' := min_le_left 40 (revenue * (1 / 5) + conversions * (1 / 5))
    have hcon' := min_le_left 30 (rate * 3)
    have hres' := min_le_left 20 (response * (1 / 5))
    have hac' := min_le_left 10 (total / 50 * 10)
    have hlt : ⌊min 40 (revenue * (1 / 5) + conversions * (1 / 5)) + min 30 (rate * 3)
        + min 20 (response * (1 / 5)) + min 10 (total / 50 * 10) + 1 / 2⌋ < 101 :=
      Int.floor_lt.mpr (by push_cast; linarith)
    exact_mod_cast Int.lt_add_one_iff.mp hlt

theorem sound_score (h : a.Sound) : a.calculatePerformanceScore.Sound := by
  obtain ⟨hra, hre, hco, hrev, -⟩ := forall_percentages.mp h.percentages
  obtain ⟨q, hq, hlow, hhi⟩ := h.score
  refine ⟨h.figures, h.interactionCounts, h.usage, h.segments, forall_percentages.mpr ?_, h.total⟩
  exact ⟨hra, hre, hco, hrev, q, congrArg some hq, hlow, hhi⟩

theorem foldlM_unlock (names ac : List String) :
    ∃ l, names.foldlM (Activity.unlockAchievement true) ac = some l
      ∧ ∀ n, n ∈ l ↔ n ∈ ac ∨ n ∈ names := by
  induction names generalizing ac with
  | nil => exact ⟨ac, rfl, fun n => by simp⟩
  | cons name names ih =>
    by_cases hn : name ∈ ac
    · obtain ⟨l, hl, hmem⟩ := ih ac
      refine ⟨l, ?_, fun n => ?_⟩
      · rwa [foldlM_cons, Activity.unlockAchievement, if_pos hn]
      · rw [hmem, mem_cons]
        constructor
        · rintro (h | h)
          · exact .inl h
          · exact .inr (.inr h)
        · rintro (h | rfl | h)
          · exact .inl h
          · exact .inl hn
          · exact .inr h
    · obtain ⟨l, hl, hmem⟩ := ih (ac ++ [name])
      refine ⟨l, ?_, fun n => ?_⟩
      · rwa [foldlM_cons, Activity.unlockAchievement, if_neg hn]
      · rw [hmem, mem_append, mem_singleton, mem_cons, or_assoc]

/-- A save adds a score, achievements and the streak. -/
def Activity.SavedAs (takes : Bool) (a : Activity) (today : Nat) (a' : Activity) : Prop :=
  ∃ performanceScore achievements,
    a' = { a with performanceScore, achievements }.updateStreaks today
      ∧ ∀ n, n ∈ achievements ↔ n ∈ a.achievements ∨ (takes = true ∧ n ∈ a.earned)

theorem sound_updateStreaks (h : a.Sound) : (a.updateStreaks today).Sound := by
  unfold Activity.updateStreaks
  split
  · exact ⟨h.figures, h.interactionCounts, h.usage, h.segments, h.percentages, h.total⟩
  · exact h

variable {takes : Bool}

theorem sound_save (h : a.Sound) {a' : Activity} (hs : a.save takes today = some a') :
    a'.Sound := by
  rw [Activity.save, if_pos h.validates] at hs
  obtain ⟨b, hb, rfl⟩ := Option.map_eq_some_iff.mp hs
  obtain ⟨ac, -, rfl⟩ := Option.map_eq_some_iff.mp hb
  obtain ⟨hfi, hcn, husa, hse, hpe, ht⟩ := sound_score h
  apply sound_updateStreaks
  exact ⟨hfi, hcn, husa, hse, hpe, ht⟩

theorem save_cases (h : a.Sound) (hn : takes = false → a.achievements = []) (today : Nat) :
    (∃ a', a.save takes today = some a' ∧ a.SavedAs takes today a')
      ∨ (a.save takes today = none ∧ takes = false ∧ a.earned ≠ []) := by
  have hea : a.calculatePerformanceScore.earned = a.earned := rfl
  rw [Activity.save, if_pos h.validates, Activity.checkAchievements, hea]
  cases takes with
  | true =>
    obtain ⟨l, hl, hmem⟩ := foldlM_unlock a.earned a.achievements
    have hl : a.earned.foldlM (Activity.unlockAchievement true)
      a.calculatePerformanceScore.achievements = some l := hl
    rw [hl]
    refine .inl ⟨_, rfl, some a.score, l, rfl, fun n => ?_⟩
    rw [hmem]
    simp
  | false =>
    have hach : a.calculatePerformanceScore.achievements = [] := hn rfl
    rw [hach]
    cases hcas : a.earned with
    | nil =>
      refine .inl ⟨_, rfl, some a.score, [], rfl, fun n => ?_⟩
      simp [hn rfl]
    | cons => exact .inr ⟨rfl, rfl, cons_ne_nil _ _⟩

theorem save_frame {a' : Activity} (h : a.save takes today = some a') :
    a.validates ∧ ∃ performanceScore achievements currentDaily longestDaily,
      a' = { a with performanceScore, achievements, currentDaily, longestDaily } := by
  unfold Activity.save at h
  split at h
  · next hv =>
    obtain ⟨b, hb, rfl⟩ := Option.map_eq_some_iff.mp h
    obtain ⟨achievements, -, rfl⟩ := Option.map_eq_some_iff.mp hb
    refine ⟨hv, ?_⟩
    unfold Activity.updateStreaks
    split
    · exact ⟨_, _, _, _, rfl⟩
    · exact ⟨_, _, _, _, rfl⟩
  · cases h

theorem save_of_earned (hn : a.achievements = []) (hea : a.earned ≠ []) (today : Nat) :
    a.save false today = none := by
  have hs : a.calculatePerformanceScore.earned = a.earned := rfl
  have hn : a.calculatePerformanceScore.achievements = [] := hn
  unfold Activity.save
  split
  · rw [Activity.checkAchievements, hs, hn]
    cases hcas : a.earned with
    | nil => exact absurd hcas hea
    | cons => rfl
  · rfl

/-! ## Records without conversions -/

/-- A record without conversions that was created on the day, with `whales`
whales engaged. -/
structure Early (takes : Bool) (created : Nat) (whales : ℚ) (a : Activity) : Prop where
  sound : a.Sound
  date : a.record.date = created
  lastActivity : a.lastActivity = created
  sales : a.sales = some (.fin 0)
  percentage : a.revenueGoal.percentage = some (.fin 0)
  conversionRate : a.conversionRate = some (.fin 0)
  whales : a.record.segmentsEngaged "whales" = some (.fin whales)
  achievements : takes = false → a.achievements = []

variable {created : Nat} {whales : ℚ} {a' : Activity}

theorem early_new : Early takes created 0 (.new created) :=
  ⟨sound_new created, rfl, rfl, rfl, rfl, rfl, rfl, fun _ => rfl⟩

theorem Early.mem_earned (h : Early takes created whales a) (name : String) : name ∈ a.earned
      ↔ (name = "Whale Hunter" ∧ 5 ≤ whales) ∨ (name = "Week Warrior" ∧ 7 ≤ a.currentDaily) := by
  have hco : a.conditions = [("First Sale", false), ("Daily Champion", false),
      ("Whale Hunter", decide (5 ≤ whales)), ("Conversion Master", false),
      ("Week Warrior", decide (7 ≤ a.currentDaily))] := by
    rw [Activity.conditions, h.sales, h.percentage, h.conversionRate, h.whales]
    rfl
  by_cases hwh : 5 ≤ whales <;> by_cases hd : 7 ≤ a.currentDaily <;>
    simp [Activity.earned, hco, hwh, hd]

theorem Early.earned_cases (h : Early takes created whales a) :
    a.earned = [] ∨ 5 ≤ whales ∨ 7 ≤ a.currentDaily := by
  by_cases hwh : 5 ≤ whales
  · exact .inr (.inl hwh)
  · by_cases hd : 7 ≤ a.currentDaily
    · exact .inr (.inr hd)
    · refine .inl (eq_nil_iff_forall_not_mem.mpr fun name hn => ?_)
      rcases (h.mem_earned name).mp hn with ⟨-, h⟩ | ⟨-, h⟩
      · exact hwh h
      · exact hd h

theorem Early.saved (h : Early takes created whales a) (hs : a.save takes today = some a') :
    Early takes created whales a'
      ∧ a'.currentDaily = a.currentDaily + (if created = today then 1 else 0)
      ∧ a'.longestDaily = (if created = today then max a.longestDaily (a.currentDaily + 1)
          else a.longestDaily)
      ∧ (a.earned = [] → ∀ n, n ∈ a'.achievements ↔ n ∈ a.achievements) := by
  have hsd := sound_save h.sound hs
  rcases save_cases h.sound h.achievements today with ⟨b, hb, score, ac, hbe, hmem⟩ | ⟨hno, -⟩
  · obtain rfl := Option.mem_unique hs hb
    have hach : takes = false → ac = [] := by
      intro ht
      refine eq_nil_iff_forall_not_mem.mpr fun n hn => ?_
      rcases (hmem n).mp hn with hn | ⟨ht', -⟩
      · rw [h.achievements ht] at hn
        exact not_mem_nil hn
      · exact absurd (ht.symm.trans ht') Bool.false_ne_true
    have hk : a.earned = [] → ∀ n, n ∈ ac ↔ n ∈ a.achievements := by
      intro hea n
      rw [hmem, hea]
      simp
    rw [Activity.updateStreaks] at hbe
    by_cases hday : created = today
    · rw [if_pos (h.lastActivity.trans hday)] at hbe
      subst hbe
      rw [if_pos hday, if_pos hday]
      exact ⟨⟨hsd, h.date, h.lastActivity, h.sales, h.percentage, h.conversionRate, h.whales,
        hach⟩, rfl, rfl, hk⟩
    · rw [if_neg fun heq => hday (h.lastActivity.symm.trans heq)] at hbe
      subst hbe
      rw [if_neg hday, if_neg hday]
      exact ⟨⟨hsd, h.date, h.lastActivity, h.sales, h.percentage, h.conversionRate, h.whales,
        hach⟩, rfl, rfl, hk⟩
  · cases hno.symm.trans hs

theorem Early.rejected (h : Early takes created whales a) (hs : a.save takes today = none) :
    5 ≤ whales ∨ 7 ≤ a.currentDaily := by
  rcases save_cases h.sound h.achievements today with ⟨b, hb, -⟩ | ⟨-, -, hea⟩
  · cases hs.symm.trans hb
  · rcases h.earned_cases with hnil | hm
    · exact absurd hnil hea
    · exact hm

theorem Early.interact (h : Early takes created whales a) (type : InteractionType)
    (segment : Option String) :
    ∃ w' ≤ whales + 1, Early takes created w' (a.recordInteraction type segment created)
      ∧ (a.recordInteraction type segment created).currentDaily = a.currentDaily
      ∧ (a.recordInteraction type segment created).longestDaily = a.longestDaily
      ∧ (a.recordInteraction type segment created).achievements = a.achievements := by
  have hs := sound_recordInteraction h.sound h.date type segment
  obtain ⟨record, views, heq, hd, -, hse⟩ := recordInteraction_cases h.date
  rw [heq] at hs ⊢
  rcases hse "whales" with hwh | hwh
  · exact ⟨whales, by linarith, ⟨hs, hd, rfl, h.sales, h.percentage, h.conversionRate,
      hwh.trans h.whales, h.achievements⟩, rfl, rfl, rfl⟩
  · rw [h.whales, orZero_fin] at hwh
    exact ⟨whales + 1, le_rfl, ⟨hs, hd, rfl, h.sales, h.percentage, h.conversionRate,
      hwh, h.achievements⟩, rfl, rfl, rfl⟩

theorem Early.rejected_of_ne (h : Early takes created whales a) (hday : created ≠ today)
    (type : InteractionType) (segment : Option String) :
    (a.recordInteraction type segment today).save takes today = none := by
  have hd : a.record.date ≠ today := fun heq => hday (h.date.symm.trans heq)
  rw [Activity.save, not_validates_of_ne hd]
  rfl

end SexySelfies.SalesActivity
