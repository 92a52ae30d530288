import SexySelfies.DataLinkWebhook

/-!
# Completing a sale once

A tip, a message or a content item is paid for by an approved `confirmPayment` or by a
`NewSaleSuccess` delivery, and both may come any number of times. What a call does is said once, in
`ran_run`: the transaction becomes completed, contents and messages stay as they are, and the
balance record is added to only when a tip is confirmed, every time anew.
-/

namespace SexySelfies.Sales

open Js Platform CivilDate Payments Earnings

/-! ## Adding a tip -/

/-- A goal with a positive target has an achieved amount to add to. -/
def Goal.addable (g : Goal) : Bool := !(g.target.any (0 < ·)) || g.achieved.isSome

def Earnings.addable (e : Earnings) : Bool :=
  e.pending.amount.isSome && e.daily.addable && e.monthly.addable

theorem goal_add_cases (g : Goal) (x : ℚ) :
    (g.addable ∧ ∃ g', g.add x = some g' ∧ g'.addable)
      ∨ (g.addable = false ∧ g.add x = none) := by
  obtain ⟨target, a, percentage⟩ := g
  cases target with
  | none => exact .inl ⟨rfl, _, rfl, rfl⟩
  | some t =>
    by_cases ht : 0 < t
    · cases a with
      | none => exact .inr ⟨by simp [Goal.addable, ht], by simp [Goal.add, ht]⟩
      | some =>
        refine .inl ⟨by simp [Goal.addable], _, by simp [Goal.add, ht]; rfl, ?_⟩
        simp [Goal.addable]
    · refine .inl ⟨by simp [Goal.addable, ht], _, by simp [Goal.add, ht]; rfl, ?_⟩
      simp [Goal.addable, ht]

structure Tipped (x : ℚ) (e e' : Earnings) : Prop where
  lifetime : e'.lifetimeEarnings = e.lifetimeEarnings + x
  pending : e'.pending.amount = e.pending.amount.map (· + x)
  addable : e'.addable = true

theorem addTip_cases (e : Earnings) (x : ℚ) (today : Date) :
    (e.addable ∧ ∃ e', e.addTip x today = some e' ∧ Tipped x e e')
      ∨ (e.addable = false ∧ e.addTip x today = none) := by
  cases hp : e.pending.amount with
  | none =>
    refine .inr ⟨by simp [addable, hp], ?_⟩
    simp [addTip, credit, PendingPayout.add, hp]
  | some =>
    rcases goal_add_cases e.daily x with ⟨hd, daily, hday, hd'⟩ | ⟨hd, hday⟩
    · rcases goal_add_cases e.monthly x with ⟨hm, monthly, hmo, hm'⟩ | ⟨hm, hmo⟩
      · refine .inl ⟨by simp [addable, hp, hd, hm], _,
          by simp [addTip, credit, PendingPayout.add, addGoals, hp, hday, hmo]; rfl, ?_⟩
        exact ⟨rfl, by simp [hp], by simp [addable, hd', hm']⟩
      · refine .inr ⟨by simp [addable, hm], ?_⟩
        simp [addTip, credit, PendingPayout.add, addGoals, hp, hday, hmo]
    · refine .inr ⟨by simp [addable, hd], ?_⟩
      simp [addTip, credit, PendingPayout.add, addGoals, hp, hday]

theorem addTip_new (x : ℚ) (today : Date) : (new today).addTip x today = none := rfl

/-! ## Calls -/

variable {env : Env} {id : Nat}

/-- A call that names transaction `id`: an approved `confirmPayment`, or a
delivery of a `NewSaleSuccess` event. -/
inductive Call (env : Env) (id : Nat) where
  | confirm (r : ConfirmRequest) (names : r.transactionId = .id id)
      (approved : r.status = .str "approved")
  | deliver (c : Context) (r : Request) (names : env.saleRef r.body = .id id)
      (isSale : eventKind r.body = some .newSaleSuccess)

def Call.run : Call env id → Db → Db
  | .confirm r _ _, db => (confirmPayment r db).1
  | .deliver c r _ _, db => (handleCCBillWebhook env c r db).1

def Call.runs : Call env id → Bool
  | .confirm _ _ _ => true
  | .deliver _ r _ _ => verifyCCBillWebhook env r.headers

def Call.pays : Call env id → Bool
  | .confirm r _ _ => r.context.saves.earnings
  | .deliver _ _ _ _ => false

def Completable (t : TransactionType) : Prop :=
  t = .tip ∨ t = .messageUnlock ∨ t = .contentUnlock

/-- A tip for a creator whose record can be added to. -/
def Payable (sale : Sale) (earnings : Nat → Option Earnings) : Prop :=
  sale.transaction.type = .tip
    ∧ ∃ e ∈ earnings sale.transaction.creator, e.addable = true

/-- The balance records before and after a call: a payable tip is added, and
otherwise nothing changes. -/
structure Paid (sale : Sale) (pays : Bool) (before after : Nat → Option Earnings) : Prop where
  credited : pays = true → Payable sale before →
    ∃ e ∈ before sale.transaction.creator, ∃ e' ∈ after sale.transaction.creator,
      Tipped sale.creatorEarnings e e'
  kept : ¬ (pays = true ∧ Payable sale before) → after = before

variable {pays : Bool} {sale : Sale}

theorem Paid.refl {earnings : Nat → Option Earnings} (h : ¬ (pays ∧ Payable sale earnings)) :
    Paid sale pays earnings earnings := ⟨fun hpa hpab => absurd ⟨hpa, hpab⟩ h, fun _ => rfl⟩

structure Ran (id : Nat) (sale : Sale) (pays : Bool) (db db' : Db) : Prop where
  sales : ∃ sale', db'.sales = db.sales.set id sale'
    ∧ sale'.transaction = { sale.transaction with status := .completed }
  contents : db'.contents = db.contents
  messages : db'.messages = db.messages
  earnings : Paid sale pays db.earnings db'.earnings

variable {db : Db}

theorem run_of_refused {c : Call env id} (h : c.runs = false) : c.run db = db := by
  cases c with
  | confirm => cases h
  | deliver =>
    rw [Call.runs] at h
    rw [Call.run, handleCCBillWebhook]
    split
    · rfl
    · rw [if_neg (by simp [h])]

variable {c : Context}

theorem completeContentUnlock_throws : completeContentUnlock c id sale db = .error db := by
  rw [completeContentUnlock, path_of_undeclared sale (by decide)]

theorem completeMessageUnlock_throws : completeMessageUnlock c id sale db = .error db := by
  rw [completeMessageUnlock, path_of_undeclared sale (by decide)]

theorem settled_completeTip (htip : sale.transaction.type = .tip) :
    ∃ earnings, settled (completeTip c sale db) = { db with earnings }
      ∧ Paid sale c.saves.earnings db.earnings earnings := by
  unfold completeTip creditEarnings
  cases hrec : db.earnings sale.transaction.creator with
  | none =>
    have hnot : ¬ Payable sale db.earnings := by
      rintro ⟨-, e, he, -⟩
      rw [hrec] at he
      cases he
    simp only [Option.getD_none, addTip_new]
    exact ⟨db.earnings, rfl, Paid.refl fun h => hnot h.2⟩
  | some e =>
    simp only [Option.getD_some]
    rcases addTip_cases e sale.creatorEarnings c.today with ⟨hadd, e', he', hti⟩ | ⟨hadd, he'⟩
    · simp only [he']
      cases hs : c.saves.earnings with
      | false => exact ⟨db.earnings, rfl, Paid.refl fun h => by cases h.1⟩
      | true =>
        have hpab : Payable sale db.earnings := ⟨htip, e, hrec, hadd⟩
        refine ⟨_, rfl, fun _ _ => ⟨e, hrec, e', ?_, hti⟩, fun h => ?_⟩
        · rw [Function.update_self]
          rfl
        · exact absurd ⟨rfl, hpab⟩ h
    · have hnot : ¬ Payable sale db.earnings := by
        rintro ⟨-, e₁, he₁, hadd₁⟩
        rw [hrec] at he₁
        cases he₁
        rw [hadd] at hadd₁
        cases hadd₁
      simp only [he']
      exact ⟨db.earnings, rfl, Paid.refl fun h => hnot h.2⟩

variable {db : Db}

theorem confirmPayment_fst {r : ConfirmRequest} (names : r.transactionId = .id id)
    (hsa : db.sales[id]? = some sale) :
    (confirmPayment r db).1 = settled (confirmSale r id sale db) := by
  rw [confirmPayment, names]
  simp only [hsa]
  cases confirmSale r id sale db with
  | error => rfl
  | ok =>
    simp only [settled]
    split <;> rfl

theorem settled_confirmSale {r : ConfirmRequest} (a : r.status = .str "approved")
    (ht : Completable sale.transaction.type) :
    ∃ sale', sale'.transaction = { sale.transaction with status := .completed }
      ∧ settled (confirmSale r id sale db) =
        if sale.transaction.type = .tip then
          settled (completeTip r.context sale { db with sales := db.sales.set id sale' })
        else { db with sales := db.sales.set id sale' } := by
  obtain ⟨sale', hasg, hsa'⟩ := assign_completed sale
    [("completedAt", .details), ("processorTransactionId", .value r.ccbillTransactionId)]
  refine ⟨sale', hsa', ?_⟩
  rw [confirmSale, a]
  simp only [Db.saveSale, hasg]
  rcases ht with h | h | h
  · rw [h]
    rfl
  · rw [h]
    simp only [bind, Except.bind, completeMessageUnlock_throws]
    rfl
  · rw [h]
    simp only [bind, Except.bind, completeContentUnlock_throws]
    rfl

theorem settled_handleNewSale (env : Env) (c : Context) (body : Value) (id : Nat)
    (ht : Completable sale.transaction.type) (db : Db) :
    ∃ sale', sale'.transaction = { sale.transaction with status := .completed }
      ∧ settled (handleNewSale env c body id sale db)
        = { db with sales := db.sales.set id sale' } := by
  obtain ⟨sale', hasg, hsa'⟩ := assign_completed sale
    [("completedAt", .details), ("processorTransactionId", .value (body.get "transactionId")),
     ("processorResponse", .details)]
  refine ⟨sale', hsa', ?_⟩
  rw [handleNewSale]
  simp only [Db.saveSale, hasg]
  rcases ht with h | h | h
  · rw [h]
    rfl
  · rw [h]
    rfl
  · rw [h]
    rfl

theorem ran_run (c : Call env id) (hsa : db.sales[id]? = some sale)
    (ht : Completable sale.transaction.type) (hru : c.runs) :
    Ran id sale c.pays db (c.run db) := by
  cases c with
  | confirm r names approved =>
    obtain ⟨sale', hsa', hse⟩ := settled_confirmSale approved ht
    rw [Call.run, confirmPayment_fst names hsa, hse, Call.pays]
    by_cases htip : sale.transaction.type = .tip
    · rw [if_pos htip]
      obtain ⟨earnings, heq, hp⟩ := settled_completeTip htip
      rw [heq]
      exact ⟨⟨sale', rfl, hsa'⟩, rfl, rfl, hp⟩
    · rw [if_neg htip]
      exact ⟨⟨sale', rfl, hsa'⟩, rfl, rfl, Paid.refl fun h => htip h.2.1⟩
  | deliver c r names isSale =>
    obtain ⟨sale', hsa', hse⟩ := settled_handleNewSale env c r.body id ht db
    have hbo : r.body.isNullish = false := by
      cases hb : r.body with
      | undefined | null => rw [hb] at isSale; cases isSale
      | _ => rfl
    rw [Call.runs] at hru
    have hrun : (handleCCBillWebhook env c r db).1
        = { db with sales := db.sales.set id sale' } := by
      rw [handleCCBillWebhook, if_neg (by simp [hbo]), if_pos hru, handleEvent, isSale]
      simp only [forSale, names, hsa, hse]
    rw [Call.run, hrun, Call.pays]
    exact ⟨⟨sale', rfl, hsa'⟩, rfl, rfl, Paid.refl fun h => by cases h.1⟩

/-! ## Exactly once -/

def Db.lifetimeEarnings (db : Db) (creator : Nat) : ℚ :=
  ((db.earnings creator).map Earnings.lifetimeEarnings).getD 0

def Db.pendingAmount (db : Db) (creator : Nat) : ℚ :=
  ((db.earnings creator).bind (·.pending.amount)).getD 0

/-- The bought item is unlocked; a tip buys none. -/
def Db.Unlocked (db : Db) (sale : Sale) : Prop :=
  match sale.transaction.type with
  | .contentUnlock => ∃ contentId content, sale.path "contentId" = some (.ref contentId)
      ∧ db.contents[contentId]? = some content
      ∧ content.hydrate.unlockedBy sale.transaction.memberId = true
  | .messageUnlock => ∃ messageId message, sale.path "messageId" = some (.ref messageId)
      ∧ db.messages[messageId]? = some message ∧ message.status = .unlocked
  | _ => True

structure Watched where
  db : Db
  ran : Bool

def watch (w : Watched) (c : Call env id) : Watched := ⟨c.run w.db, w.ran || c.runs⟩

/-- Completed, and paid to the creator once. -/
structure CompletedOnce (id : Nat) (sale : Sale) (db₀ db : Db) : Prop where
  completed : (db.sales[id]?).map (·.transaction.status) = some .completed
  lifetime : db.lifetimeEarnings sale.transaction.creator
    = db₀.lifetimeEarnings sale.transaction.creator + sale.creatorEarnings
  pending : db.pendingAmount sale.transaction.creator
    = db₀.pendingAmount sale.transaction.creator + sale.creatorEarnings
  unlocked : db.Unlocked sale

/-- The first call that runs confirms a tip that can be paid, or there is nothing to pay and the
item is unlocked; and no later call is a confirmation that pays. -/
def Once (sale : Sale) (db₀ : Db) (w : Watched) (c : Call env id) : Prop :=
  c.runs = true →
    if w.ran then sale.creatorEarnings = 0 ∨ c.pays = false
    else (sale.creatorEarnings = 0 ∧ db₀.Unlocked sale)
      ∨ (c.pays = true ∧ Payable sale db₀.earnings)

/-- What is known of the sale while calls come in. -/
structure Tracked (id : Nat) (sale : Sale) (db₀ : Db) (w : Watched) : Prop where
  stored : ∃ sale' status, w.db.sales[id]? = some sale'
    ∧ sale'.transaction = { sale.transaction with status } ∧ (w.ran = true → status = .completed)
  contents : w.db.contents = db₀.contents
  messages : w.db.messages = db₀.messages
  waiting : w.ran = false → w.db.earnings = db₀.earnings
  paying : w.db.lifetimeEarnings sale.transaction.creator
      = db₀.lifetimeEarnings sale.transaction.creator ∨ Payable sale w.db.earnings

theorem Ran.of_status {sale' : Sale} {status : TransactionStatus} {db' : Db}
    (hs : sale'.transaction = { sale.transaction with status }) (h : Ran id sale' pays db db') :
    Ran id sale pays db db' := by
  obtain ⟨t, other, d⟩ := sale'
  subst hs
  exact ⟨h.sales, h.contents, h.messages, h.earnings.credited, h.earnings.kept⟩

theorem Paid.grows {db' : Db} (h : Paid sale pays db.earnings db'.earnings) (hpa : pays)
    (hpab : Payable sale db.earnings) : db'.lifetimeEarnings sale.transaction.creator
        = db.lifetimeEarnings sale.transaction.creator + sale.creatorEarnings
      ∧ db'.pendingAmount sale.transaction.creator
        = db.pendingAmount sale.transaction.creator + sale.creatorEarnings
      ∧ Payable sale db'.earnings := by
  obtain ⟨e, he, e', he', hti⟩ := h.credited hpa hpab
  rw [Option.mem_def] at he he'
  have hs : e'.pending.amount.isSome := by
    have hadd := hti.addable
    rw [addable, Bool.and_eq_true, Bool.and_eq_true] at hadd
    exact hadd.1.1
  refine ⟨?_, ?_, hpab.1, e', he', hti.addable⟩
  · rw [Db.lifetimeEarnings, Db.lifetimeEarnings, he, he']
    exact hti.lifetime
  · rw [Db.pendingAmount, Db.pendingAmount, he, he', Option.bind_some, Option.bind_some]
    rw [hti.pending] at hs ⊢
    cases hamt : e.pending.amount with
    | none =>
      rw [hamt] at hs
      cases hs
    | some => rfl

variable {db₀ : Db} {w : Watched}

theorem Tracked.ran (h : Tracked id sale db₀ w) (ht : Completable sale.transaction.type)
    (c : Call env id) (hru : c.runs) : Ran id sale c.pays w.db (c.run w.db) := by
  obtain ⟨sale', status, hsa', hs, -⟩ := h.stored
  have ht' : Completable sale'.transaction.type := by
    rwa [hs]
  exact (ran_run c hsa' ht' hru).of_status hs

variable {c : Call env id}

theorem watch_of_refused (h : c.runs = false) : watch w c = w := by
  rw [watch, run_of_refused h, h, Bool.or_false]

theorem ran_watch (h : c.runs) : (watch w c).ran := by rw [watch, h, Bool.or_true]

theorem tracked_watch (ht : Completable sale.transaction.type) (h : Tracked id sale db₀ w) :
    Tracked id sale db₀ (watch w c) := by
  cases hru : c.runs with
  | false =>
    rwa [watch_of_refused hru]
  | true =>
    have hran := h.ran ht c hru
    obtain ⟨old, -, hold, -, -⟩ := h.stored
    obtain ⟨sale', hset, hsa'⟩ := hran.sales
    have hlt : id < w.db.sales.length := (List.getElem?_eq_some_iff.mp hold).1
    have hst : (c.run w.db).sales[id]? = some sale' := by rw [hset, List.getElem?_set_self hlt]
    refine ⟨⟨sale', .completed, hst, hsa', fun _ => rfl⟩, hran.contents.trans h.contents,
      hran.messages.trans h.messages, fun hnot => ?_, ?_⟩
    · rw [ran_watch hru] at hnot
      cases hnot
    · by_cases hpa : c.pays ∧ Payable sale w.db.earnings
      · exact .inr (hran.earnings.grows hpa.1 hpa.2).2.2
      · have hk := hran.earnings.kept hpa
        rw [Db.lifetimeEarnings, watch, hk]
        exact h.paying

theorem completedOnce_iff (h : Tracked id sale db₀ w) (hran : w.ran) :
    CompletedOnce id sale db₀ w.db ↔ w.db.lifetimeEarnings sale.transaction.creator
          = db₀.lifetimeEarnings sale.transaction.creator + sale.creatorEarnings
        ∧ w.db.pendingAmount sale.transaction.creator
          = db₀.pendingAmount sale.transaction.creator + sale.creatorEarnings
        ∧ db₀.Unlocked sale := by
  have hunl : w.db.Unlocked sale ↔ db₀.Unlocked sale := by
    rw [Db.Unlocked, Db.Unlocked, h.contents, h.messages]
  constructor
  · intro hc
    exact ⟨hc.lifetime, hc.pending, hunl.mp hc.unlocked⟩
  · rintro ⟨hli, hp, hun⟩
    obtain ⟨sale', status, hsa', hs, hst⟩ := h.stored
    refine ⟨?_, hli, hp, hunl.mpr hun⟩
    rw [hsa', Option.map_some, hs, hst hran]

theorem Payable.unlocked {e : Nat → Option Earnings} (h : Payable sale e) (db : Db) :
    db.Unlocked sale := by
  rw [Db.Unlocked, h.1]
  trivial

theorem observed_of_earnings {db' : Db} (h : db'.earnings = db.earnings) (creator : Nat) :
    db'.lifetimeEarnings creator = db.lifetimeEarnings creator
      ∧ db'.pendingAmount creator = db.pendingAmount creator := by
  rw [Db.lifetimeEarnings, Db.pendingAmount, h]
  exact ⟨rfl, rfl⟩

theorem completedOnce_of_waiting (ht : Completable sale.transaction.type)
    (h : Tracked id sale db₀ w) (hwa : w.ran = false) (hru : c.runs) :
    CompletedOnce id sale db₀ (watch w c).db ↔ (sale.creatorEarnings = 0 ∧ db₀.Unlocked sale)
        ∨ (c.pays ∧ Payable sale db₀.earnings) := by
  have hpd := (h.ran ht c hru).earnings
  have hs := h.waiting hwa
  obtain ⟨hli₀, hp₀⟩ := observed_of_earnings hs sale.transaction.creator
  rw [completedOnce_iff (tracked_watch ht h) (ran_watch hru)]
  by_cases hpa : c.pays = true ∧ Payable sale w.db.earnings
  · obtain ⟨hli, hp, -⟩ := hpd.grows hpa.1 hpa.2
    rw [hli₀] at hli
    rw [hp₀] at hp
    rw [hs] at hpa
    exact iff_of_true ⟨hli, hp, hpa.2.unlocked db₀⟩ (.inr hpa)
  · obtain ⟨hli, hp⟩ := observed_of_earnings (hpd.kept hpa) sale.transaction.creator
    rw [hs] at hpa
    rw [watch, hli, hli₀, hp, hp₀]
    constructor
    · rintro ⟨hz, -, hun⟩
      exact .inl ⟨by linarith, hun⟩
    · rintro (⟨hz, hun⟩ | hyes)
      · rw [hz, add_zero, add_zero]
        exact ⟨rfl, rfl, hun⟩
      · exact absurd hyes hpa

theorem completedOnce_of_ran (ht : Completable sale.transaction.type) (h : Tracked id sale db₀ w)
    (hran : w.ran) (hdo : CompletedOnce id sale db₀ w.db) (hru : c.runs) :
    CompletedOnce id sale db₀ (watch w c).db ↔ sale.creatorEarnings = 0 ∨ c.pays = false := by
  have hpd := (h.ran ht c hru).earnings
  have hli₀ := hdo.lifetime
  have hp₀ := hdo.pending
  obtain ⟨-, -, hun⟩ := (completedOnce_iff h hran).mp hdo
  rw [completedOnce_iff (tracked_watch ht h) (ran_watch hru)]
  by_cases hpa : c.pays = true ∧ Payable sale w.db.earnings
  · obtain ⟨hli, hp, -⟩ := hpd.grows hpa.1 hpa.2
    rw [watch, hli, hp, hli₀, hp₀, hpa.1]
    constructor
    · rintro ⟨htwi, -, -⟩
      exact .inl (by linarith)
    · rintro (hz | hno)
      · rw [hz]
        exact ⟨by linarith, by linarith, hun⟩
      · cases hno
  · obtain ⟨hli, hp⟩ := observed_of_earnings (hpd.kept hpa) sale.transaction.creator
    rw [watch, hli, hp, hli₀, hp₀]
    refine iff_of_true ⟨rfl, rfl, hun⟩ ?_
    rcases h.paying with hn | hpab
    · exact .inl (by linarith)
    · exact .inr (Bool.eq_false_iff.mpr fun hyes => hpa ⟨hyes, hpab⟩)

theorem watch_once_iff (ht : Completable sale.transaction.type) (h : Tracked id sale db₀ w)
    (hdo : w.ran → CompletedOnce id sale db₀ w.db) :
    ((watch w c).ran → CompletedOnce id sale db₀ (watch w c).db) ↔ Once sale db₀ w c := by
  unfold Once
  cases hru : c.runs with
  | false =>
    rw [watch_of_refused hru]
    exact iff_of_true hdo fun hno => by cases hno
  | true =>
    have hnow : (watch w c).ran := ran_watch hru
    cases hran : w.ran with
    | false =>
      rw [completedOnce_of_waiting ht h hran hru]
      simp [hnow]
    | true =>
      rw [completedOnce_of_ran ht h hran (hdo hran) hru]
      simp [hnow]

/-- From the first call that runs on, the sale is completed and paid once and its item unlocked,
exactly when every call meets `Once`. -/
theorem exactly_once_iff (env : Env) (id : Nat) (db : Db) (sale : Sale)
    (hsale : db.sales[id]? = some sale) (htype : Completable sale.transaction.type)
    (cs : List (Call env id)) :
    Runs.Always watch (fun w => w.ran = true → CompletedOnce id sale db w.db) ⟨db, false⟩ cs ↔
      Runs.Every watch (Once sale db) ⟨db, false⟩ cs := by
  have hs : Tracked id sale db ⟨db, false⟩ :=
    ⟨⟨sale, sale.transaction.status, hsale, rfl, fun h => by cases h⟩, rfl, rfl, fun _ => rfl,
      .inl rfl⟩
  have hdone : (⟨db, false⟩ : Watched).ran = true → CompletedOnce id sale db db := by
    intro h
    cases h
  exact Runs.always_iff_every_within (J := Tracked id sale db)
    (fun w c h => tracked_watch htype h) (fun w c h hw => watch_once_iff htype h hw)
    hs hdone

def payableTipDb : Db :=
  { sales := [soldTip .pending]
    earnings := fun _ => some { Earnings.new newYear with pending := ⟨some 0, none, none⟩ }
    contents := []
    messages := [] }

def approvedCall : Call sampleEnv 0 :=
  .confirm ⟨.id 0, .str "T1", .str "approved", acceptingContext⟩ rfl rfl

def saleCall : Call sampleEnv 0 :=
  .deliver acceptingContext
    ⟨⟨none, none⟩, .obj [("eventType", .str "NewSaleSuccess"),
      ("customFields", .obj [("transactionId", .str "T1")])]⟩ rfl rfl

theorem exactly_once_confirmed_then_delivered :
    Runs.Always watch
      (fun w => w.ran = true → CompletedOnce 0 (soldTip .pending) payableTipDb w.db)
      ⟨payableTipDb, false⟩ [approvedCall, saleCall] :=
  (exactly_once_iff sampleEnv 0 payableTipDb (soldTip .pending) rfl (.inl rfl) _).mpr
    ⟨fun _ => .inr ⟨rfl, rfl, _, rfl, rfl⟩, fun _ => .inr rfl, trivial⟩

theorem exactly_once_fails_on_repetition :
    (Runs.states watch ⟨payableTipDb, false⟩ [approvedCall, approvedCall]).map
        (·.db.lifetimeEarnings 0) = [0, 8, 16]
      ∧ ¬ Runs.Always watch
        (fun w => w.ran = true → CompletedOnce 0 (soldTip .pending) payableTipDb w.db)
        ⟨payableTipDb, false⟩ [approvedCall, approvedCall] := by
  refine ⟨by decide +kernel, fun h => ?_⟩
  have hlif := (h.last rfl).lifetime
  revert hlif
  decide +kernel

end SexySelfies.Sales
