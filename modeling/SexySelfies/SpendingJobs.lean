import SexySelfies.PurchaseAnalytics
import SexySelfies.TransactionModel

/-!
# The spending and the segment job

Two nightly jobs of `memberAnalytics.job.js`. Neither stores anything: a transaction names its
member at `memberId` and is looked up at `member`; the tier that both assign is a promise, and
`save` rejects it; the score is computed by a method called without its class. A record whose member
is gone ends the spending job.
-/

namespace SexySelfies.SpendingJobs

open Analytics

structure Stored extends Transaction where
  createdAt : ℚ

def Stored.reference (t : Stored) : String → Option Nat
  | "memberId" => some t.memberId
  | "creatorId" => some t.creatorId
  | "creator" => some t.creator
  | _ => none

def selected (path : String) (member : Nat) (since : Option ℚ) (transactions : List Stored) :
    List Stored :=
  transactions.filter fun t =>
    t.reference path = some member && t.status = .completed && since.all (· ≤ t.createdAt)

structure Group where
  total : ℚ
  count : ℚ
  avg : ℚ

def sumOf (ts : List Stored) : ℚ := (ts.map (·.amount)).sum

/-- `$match` and `$group`: without a match there is no group. -/
def aggregate (path : String) (member : Nat) (since : Option ℚ) (transactions : List Stored) :
    Option Group :=
  match selected path member since transactions with
  | [] => none
  | t :: ts => some
      ⟨sumOf (t :: ts), (t :: ts).length, sumOf (t :: ts) / (t :: ts).length⟩

/-! ## One record -/

/-- What an asynchronous function answers. -/
structure Promise (α : Type) where
  resolved : α

structure Loaded where
  record : Record
  castError : Bool := false

/-- A promise is no `String`. -/
def Loaded.setTier (d : Loaded) (_tier : Promise String) : Loaded := { d with castError := true }

def Loaded.save (now : ℚ) (d : Loaded) : Option Record :=
  if d.castError then none else d.record.save now

/-- `determineSpendingTier(analytics.spending)`: the figures are no id of a
member, and the error of the lookup is answered with `new`. -/
def tierOfSpending (_record : Record) : Promise String := ⟨"new"⟩

def since (now days : ℚ) : Option ℚ := some (now - days * day)

def updateMemberSpending (now : ℚ) (transactions : List Stored) (r : Record) : Option Record :=
  let window := fun days => aggregate "member" r.member (since now days) transactions
  let total := fun group : Option Group => some ((group.map Group.total).getD 0)
  let lifetime := aggregate "member" r.member none transactions
  let updated := { r with
    last24Hours := total (window 1)
    last7Days := total (window 7)
    last30Days := total (window 30)
    last90Days := total (window 90)
    averagePurchase := ((window 30).map Group.avg).or r.averagePurchase
    lifetime := (lifetime.map Group.total).or r.lifetime
    totalPurchases := ((lifetime.or (window 30)).map Group.count).or r.totalPurchases }
  ((Loaded.mk updated false).setTier (tierOfSpending updated)).save now

/-! ## The spending job -/

structure Run where
  population : List Record
  processed : Nat
  errors : Nat

structure Env where
  now : ℚ
  transactions : List Stored
  populated : Nat → Bool

variable (env : Env)

/-- The records of a batch with their positions; `error` ends the job. -/
def processBatch : List (Record × Nat) → Run → Except Run Run
  | [], run => .ok run
  | (r, i) :: batch, run =>
    if env.populated r.member then
      processBatch batch (match updateMemberSpending env.now env.transactions r with
        | some r' =>
          { run with population := run.population.set i r', processed := run.processed + 1 }
        | none => { run with errors := run.errors + 1 })
    else .error run

def batchSize : Nat := 100

def batchAt (skip : Nat) (run : Run) : List (Record × Nat) :=
  ((run.population.drop skip).take batchSize).zipIdx skip

variable {env} {now : ℚ}

theorem updateMemberSpending_none (t : List Stored) (r : Record) :
    updateMemberSpending now t r = none := rfl

def left : Except Run Run → Run
  | .ok run => run
  | .error run => run

theorem processBatch_population (env : Env) (batch : List (Record × Nat)) (run : Run) :
    (left (processBatch env batch run)).population = run.population := by
  induction batch generalizing run with
  | nil => rfl
  | cons x batch ih =>
    rw [processBatch]
    split
    · rw [ih, updateMemberSpending_none]
    · rfl

theorem batchAt_ne_nil {skip : Nat} {run : Run} (h : batchAt skip run ≠ []) :
    skip < run.population.length := by
  by_contra hle
  refine h ?_
  rw [batchAt, List.drop_eq_nil_of_le (not_lt.mp hle)]
  rfl

variable (env)

def spendingLoop (skip : Nat) (run : Run) : Run :=
  if h : batchAt skip run = [] then run
  else
    match hrun : processBatch env (batchAt skip run) run with
    | .error run' => run'
    | .ok run' => spendingLoop (skip + batchSize) run'
termination_by run.population.length - skip
decreasing_by
  have hpop := processBatch_population env (batchAt skip run) run
  rw [hrun] at hpop
  have hlt := batchAt_ne_nil h
  simp only [left] at hpop
  rw [hpop, batchSize]
  omega

variable (population : List Record)

def spendingJob : Run := spendingLoop env 0 ⟨population, 0, 0⟩

theorem spendingLoop_population (skip : Nat) (run : Run) :
    (spendingLoop env skip run).population = run.population := by
  fun_induction spendingLoop env skip run with
  | case1 => rfl
  | case2 skip run h run' hrun =>
    have hpop := processBatch_population env (batchAt skip run) run
    rwa [hrun] at hpop
  | case3 skip run h run' hrun ih =>
    have hpop := processBatch_population env (batchAt skip run) run
    rw [hrun] at hpop
    exact ih.trans hpop

/-- A static method destructured from its class: without `this` the first
helper it calls is missing, and it throws. -/
def calculateMemberScore (this : Option (Record → ℤ)) (r : Record) : Option ℤ :=
  this.map fun service => service r

/-- The promise never equals the old tier, and is assigned. -/
def recalculateSegment (now : ℚ) (r : Record) : Option Record :=
  let d := (Loaded.mk r false).setTier (tierOfSpending r)
  (calculateMemberScore none r).bind fun newScore =>
    { d with record := { d.record with valueScore := some (newScore : ℚ) } }.save now

def segmentJob (now : ℚ) (population : List Record) : List Record :=
  population.map fun r => (recalculateSegment now r).getD r

theorem segmentJob_population : segmentJob now population = population :=
  List.map_id' population

/-! ## What the jobs are for -/

def spent (ts : List Stored) (member : Nat) (since : Option ℚ) : ℚ :=
  sumOf (selected "memberId" member since ts)

/-- The windows hold what the member has spent in them. -/
structure Right (now : ℚ) (ts : List Stored) (r : Record) : Prop where
  last24Hours : r.last24Hours = some (spent ts r.member (since now 1))
  last7Days : r.last7Days = some (spent ts r.member (since now 7))
  last30Days : r.last30Days = some (spent ts r.member (since now 30))
  last90Days : r.last90Days = some (spent ts r.member (since now 90))
  lifetime : r.lifetime = some (spent ts r.member none)
  totalPurchases : r.totalPurchases = some (selected "memberId" r.member none ts).length

def Ordered (r : Record) : Prop :=
  value r.last24Hours ≤ value r.last7Days ∧ value r.last7Days ≤ value r.last30Days ∧
    value r.last30Days ≤ value r.last90Days ∧ value r.last90Days ≤ value r.lifetime

/-- The tier is the one of the last thirty days. -/
def TierRight (r : Record) : Prop :=
  ∃ t, r.tier = some t ∧ tierTexts.lookup (determineSpendingTier (value r.last30Days)) = some t

theorem spent_mono {ts : List Stored} {member : Nat} {a b : Option ℚ}
    (h : ∀ t : Stored, a.all (· ≤ t.createdAt) → b.all (· ≤ t.createdAt)) :
    spent ts member a ≤ spent ts member b := by
  have hsub : (selected "memberId" member a ts).Sublist (selected "memberId" member b ts) := by
    refine List.monotone_filter_right ts fun t ht => ?_
    simp only [Bool.and_eq_true] at ht ⊢
    exact ⟨ht.1, h t ht.2⟩
  refine (hsub.map _).sum_le_sum fun x hx => ?_
  obtain ⟨t, -, rfl⟩ := List.mem_map.mp hx
  exact t.amount_nonneg

theorem spent_window {ts : List Stored} {member : Nat} {now a b : ℚ} (h : a ≤ b) :
    spent ts member (since now a) ≤ spent ts member (since now b) := by
  refine spent_mono fun t ht => ?_
  have hday : 0 ≤ day := by norm_num [day]
  have hle : now - b * day ≤ now - a * day :=
    sub_le_sub_left (mul_le_mul_of_nonneg_right h hday) now
  simp only [since, Option.all_some, decide_eq_true_eq] at ht ⊢
  exact hle.trans ht

theorem Right.ordered {now : ℚ} {ts : List Stored} {r : Record} (h : Right now ts r) :
    Ordered r := by
  simp only [Ordered, h.last24Hours, h.last7Days, h.last30Days, h.last90Days, h.lifetime]
  refine ⟨?_, ?_, ?_, spent_mono fun _ _ => rfl⟩ <;> exact spent_window (by norm_num)

/-- **The jobs change nothing**: what they leave is right exactly if it was right before. -/
theorem jobs_right_iff (env : Env) (now : ℚ) (population : List Record) :
    ((∀ r ∈ (spendingJob env population).population,
        Right env.now env.transactions r ∧ Ordered r) ↔
      ∀ r ∈ population, Right env.now env.transactions r) ∧
    ((∀ r ∈ segmentJob now population, TierRight r) ↔ ∀ r ∈ population, TierRight r) := by
  rw [spendingJob, spendingLoop_population, segmentJob_population]
  exact ⟨⟨fun h r hr => (h r hr).1, fun h r hr => ⟨h r hr, (h r hr).ordered⟩⟩, .rfl⟩

theorem not_right_after_purchase : ¬ ∀ (env : Env) (population : List Record),
    ∀ r ∈ (spendingJob env population).population, Right env.now env.transactions r := by
  intro h
  have hr := h ⟨0, [⟨⟨"t", 0, 1, 1, .tip, 5, .completed, .ccbill, 4, false, by norm_num,
    by norm_num⟩, 0⟩], fun _ => true⟩ [Record.new 0 0] (Record.new 0 0)
  rw [spendingJob, spendingLoop_population] at hr
  have hlife := (hr List.mem_cons_self).lifetime
  simp [Record.new, spent, selected, Stored.reference, sumOf] at hlife

end SexySelfies.SpendingJobs
