import SexySelfies.SubscriptionAccess

/-!
# Billing records of a subscription

`recordBilling` and `recordFailedBilling` keep three records of what the gateway reported: the
billing history, the count of failures and the date of the next billing. Neither looks at the
transaction id: an event that is delivered twice is billed twice.
-/

namespace SexySelfies.Payments

open Js Platform Interleave SubscriptionChange Subscription

/-! ## The count of failures -/

def trailingFailures (history : List Billing) : Nat :=
  (history.reverse.takeWhile fun b => !b.success).length

/-- The failures since the last success, and fewer than three while active. -/
structure Subscription.Counted (s : Subscription) : Prop where
  count_eq : s.failedPaymentCount = trailingFailures s.billingHistory
  lt_of_active : s.status = .active → s.failedPaymentCount < 3

/-- No sale is stopped between its two saves of the subscription: when it has
been activated, the save of `recordBilling` is accepted too. -/
def SaleSaved (db : Db) (d : Bool × Event) : Prop :=
  d.1 = true → d.2.kind = some .newSaleSuccess → d.2.activates db →
    (db.subscriptionOf d.2.subscriptionId).isSome = true → castNumber d.2.amount ≠ none

instance (db : Db) (d : Bool × Event) : Decidable (SaleSaved db d) := by
  unfold SaleSaved
  infer_instance

variable {amount : Option Number} {history : List Billing}

theorem trailingFailures_failed :
    trailingFailures (history ++ [⟨false, amount, none, none⟩]) = trailingFailures history + 1 := by
  simp [trailingFailures]

variable {transactionId : Option String}

theorem trailingFailures_success (p : Option Nat) :
    trailingFailures (history ++ [⟨true, amount, transactionId, p⟩]) = 0 := by
  simp [trailingFailures]

theorem counted_recordBilling (old s : Subscription) (p : Nat)
    (h : s.failedPaymentCount = old.failedPaymentCount) :
    ((recordBilling amount transactionId p).apply old s).Counted := by
  have hc : assign old.failedPaymentCount 0 s.failedPaymentCount = 0 := by rw [h, assign_self]
  constructor
  · rwa [apply, trailingFailures_success]
  · intro _
    exact lt_of_eq_of_lt hc (by decide)

variable {s : Subscription}

theorem counted_recordFailedBilling (h : s.Counted) : (recordFailedBilling.apply s s).Counted := by
  constructor
  · rw [apply, trailingFailures_failed, ← h.count_eq]
  · intro hact
    simp only [apply] at hact ⊢
    split at hact
    · rw [assign_self] at hact
      cases hact
    · omega

variable {db : Db}

theorem counted_after {cfg : Config} {ccbillId : String} {d : Bool × Event} (h : s.Counted)
    (hs : d.1 → d.2.kind = some .newSaleSuccess → d.2.activates db →
      d.2.subscriptionId = some ccbillId → castNumber d.2.amount ≠ none) :
    (s.after (changesFor cfg ccbillId db d)).Counted := by
  unfold changesFor
  split
  · rename_i hco
    unfold Event.changes
    cases hk : d.2.kind with
    | none => exact h
    | some k =>
      cases k with
      | newSaleSuccess =>
        have hsm : d.2.subscriptionId.isSome := by rw [hco.2]; rfl
        dsimp only
        rcases saleChanges_cases hsm db with
          ⟨-, hn⟩ | ⟨hyes, hc, -⟩ | ⟨-, amount, paymentId, -, htwo⟩
        · rwa [hn]
        · exact absurd hc (hs hco.1 hk hyes hco.2)
        · rw [htwo]
          exact counted_recordBilling s _ paymentId rfl
      | renewalSuccess =>
        dsimp only
        split
        · exact counted_recordBilling s s _ rfl
        · exact h
      | renewalFailure => exact counted_recordFailedBilling h
      | cancellation =>
        refine ⟨h.count_eq, fun hact => ?_⟩
        exact absurd ((assign_self _ _).symm.trans hact) (by decide)
      | expiration =>
        dsimp only
        split
        · refine ⟨h.count_eq, fun hact => ?_⟩
          exact absurd ((assign_self _ _).symm.trans hact) (by decide)
        · exact h
      | newSaleFailure | refund | chargeback => exact h
  · exact h

def Db.Subscribed (P : Subscription → Prop) (ccbillId : String) (db : Db) : Prop :=
  ∀ np ∈ db.subscriptionOf (some ccbillId), P np.2

theorem counted_deliver {cfg : Config} {ccbillId : String} {d : Bool × Event}
    (h : db.Subscribed Counted ccbillId) (hs : SaleSaved db d) :
    (deliver cfg db d).Subscribed Counted ccbillId := by
  intro np' hnp'
  rw [subscriptionOf_deliver] at hnp'
  obtain ⟨np, hnp, rfl⟩ := Option.mem_map.mp hnp'
  refine counted_after (h np hnp) fun hv hk hyes hid => hs hv hk hyes ?_
  rw [hid, hnp]
  rfl

/-! ### A new subscription -/

def Subscription.Unbilled (s : Subscription) : Prop :=
  s.billingHistory = [] ∧ s.failedPaymentCount = 0

theorem counted_of_unbilled (h : s.Unbilled) : s.Counted := by
  refine ⟨?_, fun _ => ?_⟩
  · rw [h.1, h.2]
    rfl
  · rw [h.2]
    exact Nat.zero_lt_succ 2

/-- The operation inserts only an unbilled subscription, and only activates. -/
def Op.subscribes : Op → Prop
  | .insertSubscription s => s.Unbilled
  | .saveSubscription _ _ c => c = .activate
  | _ => True

variable {cfg : Config} {ccbillId : String}

theorem unbilled_exec {o : Op} (h : db.Subscribed Unbilled ccbillId) (ho : o.subscribes) :
    (exec cfg o db).1.Subscribed Unbilled ccbillId := by
  cases o with
  | insertSubscription =>
    simp only [exec]
    split
    · exact h
    · intro np hnp
      rw [Option.mem_def, Db.subscriptionOf, Collection.findOne_concat] at hnp
      rcases Option.or_eq_some_iff.mp hnp with hold | ⟨-, hnew⟩
      · exact h np hold
      · split at hnew
        · cases hnew
          exact ho
        · cases hnew
  | saveSubscription id old c =>
    obtain rfl : c = .activate := ho
    intro np hnp
    simp only [exec, Db.subscriptionOf] at hnp
    rw [Option.mem_def, Collection.findOne_modify (f := activate.apply old) fun _ => rfl] at hnp
    obtain ⟨np', hnp', rfl⟩ := Option.map_eq_some_iff.mp hnp
    have hun := h np' hnp'
    dsimp only
    split
    · exact hun
    · exact hun
  | _ =>
    intro np hnp
    rw [Db.subscriptionOf, (frame_exec cfg _ db).subscriptions_eq (by simp [Op.writes])] at hnp
    exact h np hnp

theorem unbilled_of_validated {r : SubscribeRequest} {member creator : Nat}
    {result : SubscriptionResult} (h : r.validated member creator result = some s) :
    s.Unbilled := by
  unfold SubscribeRequest.validated at h
  dsimp only at h
  split at h
  · split at h
    · split at h
      · cases h
        exact ⟨rfl, rfl⟩
      · cases h
    · cases h
  · cases h

variable {r : SubscribeRequest}

theorem subscribes_recordSubscription (m creator : Nat) (result : SubscriptionResult) :
    Keeps (exec cfg) Eq (fun _ _ => True) (fun _ o => o.subscribes) db
      (recordSubscription cfg r m creator result) := by
  unfold recordSubscription
  split
  · rename_i s hs
    refine keeps_perform_of (unbilled_of_validated hs) fun _ id => ?_
    split
    · refine keeps_perform_of rfl fun _ _ => ?_
      split
      · trivial
      · exact keeps_perform_of trivial fun _ _ => keeps_perform_of trivial fun _ _ => trivial
    · trivial
  · trivial

def subscribed (cfg : Config) (r : SubscribeRequest) (db : Db) : Db :=
  ((createSubscription cfg r).run (exec cfg) db).1

theorem unbilled_subscribed (hnew : db.subscriptionOf (some ccbillId) = none) :
    (subscribed cfg r db).Subscribed Unbilled ccbillId := by
  have hbef : ∀ creator, (r.charged creator db).Subscribed Unbilled ccbillId := by
    intro creator np hnp
    have hn : np ∈ db.subscriptionOf (some ccbillId) := hnp
    rw [hnew] at hn
    cases hn
  rw [subscribed, run_createSubscription]
  split
  · intro np hnp
    rw [hnew] at hnp
    cases hnp
  · rename_i m creator _
    split
    · exact hbef creator
    · refine run_of_keeps (I := fun s : Db => s.Subscribed Unbilled ccbillId) ?_
        (hbef creator) (subscribes_recordSubscription m creator _)
      exact fun s o hs ho => unbilled_exec hs ho

/-- Deliveries leave every subscription alone that no accepted one of them names. -/
theorem others_untouched (cfg : Config) (db : Db) (ccbillId : String) (ds : List (Bool × Event))
    (h : ∀ d ∈ ds, d.1 = true → d.2.subscriptionId ≠ some ccbillId) :
    (Runs.final (deliver cfg) db ds).subscriptionOf (some ccbillId)
      = db.subscriptionOf (some ccbillId) := by
  induction ds generalizing db with
  | nil => rfl
  | cons d ds ih =>
    obtain ⟨hd, hds⟩ := List.forall_mem_cons.mp h
    have hno : changesFor cfg ccbillId db d = [] := if_neg fun hna => hd hna.1 hna.2
    rw [Runs.final_cons, ih _ hds, subscriptionOf_deliver, hno]
    exact Option.map_id'

def secondSubscription : Subscription :=
  { monthlySubscription with ccbillSubscriptionId := "S2", creator := 1 }

def twoSubscriptionsDb : Db :=
  { subscribedDb with subscriptions := [monthlySubscription, secondSubscription] }

/-- Three failures suspend S1, and a cancellation of S2 has no valid signature. -/
def suspendedAndForged : List (Bool × Event) :=
  suspendedThenPaid ++
    [(false, { (subscriptionEvent "Cancellation" "T5").2 with subscriptionId := some "S2" })]

theorem others_untouched_by_suspension :
    (∀ d ∈ suspendedAndForged, d.1 = true → d.2.subscriptionId ≠ some "S2")
    ∧ ((Runs.final (deliver ⟨.validateFirst, false⟩) twoSubscriptionsDb
        suspendedAndForged).subscriptions.map Subscription.status = [.suspended, .active])
    ∧ twoSubscriptionsDb.subscriptionOf (some "S2") = some (1, secondSubscription)
    ∧ (Runs.final (deliver ⟨.validateFirst, false⟩) twoSubscriptionsDb
        suspendedAndForged).subscriptionOf (some "S2")
      = twoSubscriptionsDb.subscriptionOf (some "S2") :=
  have h : ∀ d ∈ suspendedAndForged, d.1 = true → d.2.subscriptionId ≠ some "S2" := by
    decide +kernel
  ⟨h, by decide +kernel, rfl, others_untouched _ twoSubscriptionsDb "S2" suspendedAndForged h⟩

/-- After each delivery of a sequence whose saves are accepted, the count of failures is that of
the billing history, and an active subscription has fewer than three. -/
theorem failures_counted (cfg : Config) (r : SubscribeRequest) (db : Db) (ccbillId : String)
    (hnew : db.subscriptionOf (some ccbillId) = none) (ds : List (Bool × Event))
    (hsaved : Runs.Every (deliver cfg) SaleSaved (subscribed cfg r db) ds) :
    Runs.Always (deliver cfg) (fun db' => db'.Subscribed Subscription.Counted ccbillId)
      (subscribed cfg r db) ds := by
  refine Runs.always_of_every (fun _ _ h hd => counted_deliver h hd) (fun np hnp => ?_) hsaved
  exact counted_of_unbilled (unbilled_subscribed hnew np hnp)

theorem failures_counted_until_paid :
    tipDb.subscriptionOf (some "S1") = none
      ∧ ((subscribed ⟨.hooksFirst, true⟩ approvedSubscription tipDb).subscriptionOf
          (some "S1")).isSome = true
      ∧ Runs.Always (deliver ⟨.hooksFirst, true⟩)
          (fun db' => db'.Subscribed Subscription.Counted "S1")
          (subscribed ⟨.hooksFirst, true⟩ approvedSubscription tipDb) suspendedThenPaid := by
  refine ⟨rfl, by decide +kernel, ?_⟩
  exact failures_counted ⟨.hooksFirst, true⟩ approvedSubscription tipDb "S1" rfl _
    (by decide +kernel)

/-! ## Charges delivered more than once -/

structure BillingEvent (ccbillId : String) where
  event : Event
  renewal : Bool
  kind_eq : event.kind = some (if renewal then .renewalSuccess else .newSaleSuccess)
  subscriptionId_eq : event.subscriptionId = some ccbillId

structure Tracked (ccbillId : String) where
  db : Db
  delivered : List (BillingEvent ccbillId)

variable {ccbillId : String}

def track (cfg : Config) (w : Tracked ccbillId) (b : BillingEvent ccbillId) : Tracked ccbillId :=
  { db := deliver cfg w.db (true, b.event), delivered := w.delivered ++ [b] }

def transactionIds (renewal : Bool) (bs : List (BillingEvent ccbillId)) : List String :=
  (bs.filter fun b => b.renewal = renewal).filterMap fun b => b.event.transactionId

def distinctIds (renewal : Bool) (bs : List (BillingEvent ccbillId)) : Nat :=
  (transactionIds renewal bs).toFinset.card

def Subscription.successes (s : Subscription) : Nat := s.billingHistory.countP Billing.success

/-- From `s₀`, when `p₀` payments were stored, to `s`, when there are `p`: the
subscription was billed for `sales` sales and `renewals` renewals, and each
renewal is a payment. -/
structure BilledFor (s₀ : Subscription) (p₀ : Nat) (s : Subscription) (p sales renewals : Nat) :
    Prop where
  cycle_eq : s.billingCycle = s₀.billingCycle
  date_eq : s.nextBillingDate = s₀.billingCycle.next^[sales + renewals] s₀.nextBillingDate
  successes_eq : s.successes = s₀.successes + (sales + renewals)
  payments_eq : p = p₀ + renewals

def BillingEvent.fresh (b : BillingEvent ccbillId) (bs : List (BillingEvent ccbillId)) : Bool :=
  match b.event.transactionId with
  | some t => t ∉ transactionIds b.renewal bs
  | none => false

/-- The event is billed: a renewal whose payment passes validation, or a sale
about a stored payment for a subscription whose amount casts. -/
def BillingEvent.recorded (cfg : Config) (b : BillingEvent ccbillId) (db : Db) : Bool :=
  if b.renewal then savesPayment cfg.saveOrder b.event.amount
  else b.event.activates db ∧ castNumber b.event.amount ≠ none

/-! ### What one event adds -/

variable {b : BillingEvent ccbillId}

theorem distinctIds_concat (re : Bool) (bs : List (BillingEvent ccbillId)) :
    distinctIds re (bs ++ [b])
      = distinctIds re bs + (if b.renewal = re then (b.fresh bs).toNat else 0) := by
  by_cases hk : b.renewal = re
  · have hids : transactionIds re (bs ++ [b])
        = transactionIds re bs ++ b.event.transactionId.toList := by
      cases ht : b.event.transactionId <;> simp [transactionIds, hk, ht]
    rw [distinctIds, hids, if_pos hk, BillingEvent.fresh, hk]
    cases b.event.transactionId with
    | none => simp [distinctIds]
    | some t =>
      by_cases hmem : t ∈ transactionIds re bs
      · simp [distinctIds, hmem]
      · simp [distinctIds, hmem]
  · simp [distinctIds, transactionIds, hk]

theorem successes_concat (b : Billing) :
    (s.billingHistory ++ [b]).countP Billing.success = s.successes + b.success.toNat := by
  rw [List.countP_append, successes]
  cases h : b.success <;> simp [h]

theorem billed_after :
    (s.after (changesFor cfg ccbillId db (true, b.event))).billingCycle = s.billingCycle
      ∧ (s.after (changesFor cfg ccbillId db (true, b.event))).nextBillingDate
        = s.billingCycle.next^[(b.recorded cfg db).toNat] s.nextBillingDate
      ∧ (s.after (changesFor cfg ccbillId db (true, b.event))).successes
        = s.successes + (b.recorded cfg db).toNat := by
  have hrec : ∀ (t : Subscription) (amount : Option Number) (p : Nat),
      t.billingHistory = s.billingHistory →
      ((recordBilling amount b.event.transactionId p).apply s t).successes = s.successes + 1 := by
    intro t amount p ht
    rw [successes, apply, ht]
    exact successes_concat _
  rw [changesFor, if_pos ⟨rfl, b.subscriptionId_eq⟩, Event.changes, b.kind_eq,
    BillingEvent.recorded]
  cases b.renewal with
  | false =>
    have hs : b.event.subscriptionId.isSome := by rw [b.subscriptionId_eq]; rfl
    simp only [Bool.false_eq_true, if_false]
    rcases saleChanges_cases hs db with
      ⟨hno, hn⟩ | ⟨hyes, hc, hone⟩ | ⟨hyes, amount, p, hc, htwo⟩
    · simp only [hn, hno, false_and, decide_false]
      exact ⟨rfl, rfl, rfl⟩
    · simp only [hone, hc, ne_eq, not_true_eq_false, and_false, decide_false]
      exact ⟨rfl, rfl, rfl⟩
    · simp only [htwo, hyes, hc, ne_eq, reduceCtorEq, not_false_eq_true, and_self, decide_true]
      exact ⟨rfl, rfl, hrec _ amount p rfl⟩
  | true =>
    simp only [if_true]
    cases savesPayment cfg.saveOrder b.event.amount with
    | false => exact ⟨rfl, rfl, rfl⟩
    | true => exact ⟨rfl, rfl, hrec s _ _ rfl⟩

def Op.insertsNothing : Op → Bool
  | .insertPayment _ => false
  | _ => true

theorem length_payments_exec {o : Op} (ho : o.insertsNothing) :
    (exec cfg o db).1.payments.length = db.payments.length := by
  cases o with
  | insertPayment => cases ho
  | savePayment => exact List.length_modify _ _ _
  | _ => rw [(frame_exec cfg _ db).payments_eq (by simp [Op.writes])]

variable {e : Event}

theorem length_payments_sale :
    ((handleNewSaleSuccess e).run (exec cfg) db).1.payments.length = db.payments.length := by
  rw [handleNewSaleSuccess, run_forInvoice]
  split
  · rename_i np _
    refine run_of_keeps (Q := fun (_ : Db) (o : Op) => o.insertsNothing = true)
      (I := fun s : Db => s.payments.length = db.payments.length)
      (fun s o hs ho => (length_payments_exec ho).trans hs) rfl ?_
    refine keeps_perform_of rfl fun _ _ => ?_
    have hr : ∀ s : Db, Keeps (exec cfg) Eq (fun _ _ => True)
        (fun _ o => o.insertsNothing) s (activateOnSale e np.1 np.2) :=
      keeps_activateOnSale (P := fun o => o.insertsNothing = true) (fun _ => rfl)
        (fun _ _ _ => rfl) e np.1 np.2
    split
    · exact keeps_perform_of rfl fun _ _ => keeps_perform_of rfl fun s _ => hr s
    · exact keeps_perform_of rfl fun s _ => hr s
  · rfl

theorem length_payments_renewal (hf : (db.subscriptionOf e.subscriptionId).isSome) :
    ((handleRenewalSuccess cfg e).run (exec cfg) db).1.payments.length
      = db.payments.length + (savesPayment cfg.saveOrder e.amount).toNat := by
  obtain ⟨np, hnp⟩ := Option.isSome_iff_exists.mp hf
  rw [handleRenewalSuccess, run_findSubscription, hnp]
  dsimp only
  split
  · rename_i message hval
    have hs : savesPayment cfg.saveOrder e.amount = false :=
      (isApproved_validated _ _).symm.trans (congrArg isApproved hval)
    rw [hs]
    rfl
  · rename_i p hval
    have hs : savesPayment cfg.saveOrder e.amount :=
      (isApproved_validated _ _).symm.trans (congrArg isApproved hval)
    let db' := (exec cfg (.insertPayment p) db).1
    let billing := recordBilling ((castNumber e.amount).getD none)
      e.transactionId db.payments.length
    have hinc := (frame_exec cfg (.incEarnings np.2.creator (.sale p.creatorEarnings 1) true)
      (exec cfg (.saveSubscription np.1 np.2 billing) db').1).payments_eq (by simp [Op.writes])
    rw [hs]
    exact (congrArg List.length hinc).trans List.length_append

theorem length_payments_deliver (cfg : Config) (b : BillingEvent ccbillId)
    (hf : (db.subscriptionOf (some ccbillId)).isSome) :
    (deliver cfg db (true, b.event)).payments.length
      = db.payments.length + (if b.renewal then (b.recorded cfg db).toNat else 0) := by
  rw [deliver_accepted, handleEvent, b.kind_eq, BillingEvent.recorded]
  rw [← b.subscriptionId_eq] at hf
  cases b.renewal with
  | false => exact length_payments_sale
  | true => exact length_payments_renewal hf

/-- Some subscription with the id was billed as the ids delivered say. -/
def BilledOnce (s₀ : Subscription) (p₀ : Nat) (w : Tracked ccbillId) : Prop :=
  ∃ np ∈ w.db.subscriptionOf (some ccbillId),
    BilledFor s₀ p₀ np.2 w.db.payments.length (distinctIds false w.delivered)
      (distinctIds true w.delivered)

theorem billedFor_iff {s₀ s' : Subscription} {p₀ p p' a r a' r' : Nat}
    {recorded fresh re : Bool} (h : BilledFor s₀ p₀ s p a r)
    (hcyc : s'.billingCycle = s.billingCycle)
    (hd : s'.nextBillingDate = s.billingCycle.next^[recorded.toNat] s.nextBillingDate)
    (hsuc : s'.successes = s.successes + recorded.toNat)
    (hpa : p' = p + if re then recorded.toNat else 0)
    (ha : a' = a + if re = false then fresh.toNat else 0)
    (hr : r' = r + if re = true then fresh.toNat else 0) :
    BilledFor s₀ p₀ s' p' a' r' ↔ recorded = fresh := by
  have hsum : a' + r' = fresh.toNat + (a + r) := by
    cases re with
    | false => simp only [if_true, Bool.false_eq_true, if_false] at ha hr; omega
    | true => simp only [if_true, Bool.true_eq_false, if_false] at ha hr; omega
  constructor
  · intro h'
    have heq := h'.successes_eq
    rw [hsuc, h.successes_eq, hsum] at heq
    have hnat : recorded.toNat = fresh.toNat := by omega
    revert hnat
    cases recorded <;> cases fresh <;> decide
  · rintro rfl
    refine ⟨hcyc.trans h.cycle_eq, ?_, ?_, ?_⟩
    · rw [hd, hsum, Function.iterate_add_apply, h.cycle_eq, h.date_eq]
    · rw [hsuc, h.successes_eq, hsum]
      omega
    · rw [hpa, h.payments_eq, hr]
      omega

theorem billedOnce_track_iff (s₀ : Subscription) (p₀ : Nat)
    (w : Tracked ccbillId) (b : BillingEvent ccbillId) (h : BilledOnce s₀ p₀ w) :
    BilledOnce s₀ p₀ (track cfg w b) ↔ b.recorded cfg w.db = b.fresh w.delivered := by
  obtain ⟨np, hnp, hbi⟩ := h
  have hf : (w.db.subscriptionOf (some ccbillId)).isSome := by
    rw [hnp]
    rfl
  obtain ⟨hcyc, hd, hsuc⟩ := billed_after
  have hs := billedFor_iff hbi hcyc hd hsuc
    (length_payments_deliver cfg b hf) (distinctIds_concat false w.delivered)
    (distinctIds_concat true w.delivered)
  rw [← hs]
  have ha : (track cfg w b).db.subscriptionOf (some ccbillId)
      = some (np.1, np.2.after (changesFor cfg ccbillId w.db (true, b.event))) := by
    rw [track, subscriptionOf_deliver, hnp, Option.map_some]
  constructor
  · rintro ⟨np', hnp', hbi'⟩
    rw [ha] at hnp'
    cases hnp'
    exact hbi'
  · intro hbi'
    exact ⟨_, ha, hbi'⟩

theorem billedOnce_start {i : Nat} {s : Subscription}
    (hs : db.subscriptionOf (some ccbillId) = some (i, s)) :
    BilledOnce s db.payments.length (⟨db, []⟩ : Tracked ccbillId) :=
  ⟨(i, s), hs, rfl, rfl, rfl, rfl⟩

/-- The cycles, the successes and the payments recorded are those of the distinct transaction ids
exactly when an event is recorded just if its transaction id is new. -/
theorem billed_once_iff (cfg : Config) (db : Db) {i : Nat} {s : Subscription}
    (hs : db.subscriptionOf (some ccbillId) = some (i, s)) (bs : List (BillingEvent ccbillId)) :
    Runs.Always (track cfg) (BilledOnce s db.payments.length) ⟨db, []⟩ bs ↔
      Runs.Every (track cfg) (fun w b => b.recorded cfg w.db = b.fresh w.delivered)
        ⟨db, []⟩ bs :=
  Runs.always_iff_every (billedOnce_track_iff s db.payments.length) (billedOnce_start hs)

variable (transactionId : String)

def renewalS1 : BillingEvent "S1" :=
  { event := (subscriptionEvent "RenewalSuccess" transactionId).2, renewal := true,
    kind_eq := rfl, subscriptionId_eq := rfl }

def saleS1 : BillingEvent "S1" :=
  { event := { (subscriptionEvent "NewSaleSuccess" transactionId).2 with
      merchantInvoiceId := .id 0 }
    renewal := false, kind_eq := rfl, subscriptionId_eq := rfl }

/-- The store of a subscription whose first payment is still pending. -/
def awaitedDb : Db :=
  { subscribedDb with
    payments := [{ user := 0, member := 0, creator := 0, amount := 10, type := .subscription,
                   status := .pending, ccbillTransactionId := none,
                   ccbillSubscriptionId := none, platformFee := 2, creatorEarnings := 8,
                   chargedBack := false, amount_nonneg := ten_nonneg }] }

theorem billed_once_two_sales :
    awaitedDb.subscriptionOf (some "S1") = some (0, monthlySubscription)
      ∧ Runs.Always (track ⟨.validateFirst, true⟩) (BilledOnce monthlySubscription 1)
          ⟨awaitedDb, []⟩ [saleS1 "T1", saleS1 "T2"] :=
  ⟨rfl, (billed_once_iff ⟨.validateFirst, true⟩ awaitedDb rfl _).mpr (by decide +kernel)⟩

/-- What the records and the deliveries amount to: the month of the next billing, the successes,
the payments, and the distinct ids of sales and of renewals. -/
def Tracked.counts (w : Tracked ccbillId) : List (Nat × Nat) × Nat × Nat × Nat :=
  (w.db.subscriptions.map fun s => (s.nextBillingDate.month, s.successes), w.db.payments.length,
    distinctIds false w.delivered, distinctIds true w.delivered)

/-- A renewal leaves no record, as its payment is refused; a sale that is delivered twice is
billed twice. -/
theorem billed_once_fails :
    ((Runs.states (track ⟨.validateFirst, true⟩) ⟨subscribedDb, []⟩ [renewalS1 "T1"]).map
        Tracked.counts = [([(0, 0)], 0, 0, 0), ([(0, 0)], 0, 0, 1)]
      ∧ ¬ Runs.Always (track ⟨.validateFirst, true⟩) (BilledOnce monthlySubscription 0)
          ⟨subscribedDb, []⟩ [renewalS1 "T1"])
    ∧ (Runs.states (track ⟨.validateFirst, true⟩) ⟨awaitedDb, []⟩
        [saleS1 "T1", saleS1 "T1"]).map Tracked.counts
          = [([(0, 0)], 1, 0, 0), ([(1, 1)], 1, 1, 0), ([(2, 2)], 1, 1, 0)]
      ∧ ¬ Runs.Always (track ⟨.validateFirst, true⟩) (BilledOnce monthlySubscription 1)
          ⟨awaitedDb, []⟩ [saleS1 "T1", saleS1 "T1"] := by
  refine ⟨⟨by decide +kernel, fun h => ?_⟩, by decide +kernel, fun h => ?_⟩
  · have hs : subscribedDb.subscriptionOf (some "S1") = some (0, monthlySubscription) := rfl
    have hrec := (Runs.always_iff_every (billedOnce_track_iff _ _) (billedOnce_start hs)).mp h
    revert hrec
    decide +kernel
  · have hs : awaitedDb.subscriptionOf (some "S1") = some (0, monthlySubscription) := rfl
    have hrec := (Runs.always_iff_every (billedOnce_track_iff _ _) (billedOnce_start hs)).mp h
    revert hrec
    decide +kernel

end SexySelfies.Payments
