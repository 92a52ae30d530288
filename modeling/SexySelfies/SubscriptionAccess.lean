import SexySelfies.ChargeOutcome
import SexySelfies.SubscriptionEvents

/-!
# Access to a paid subscription

A subscription should give access when the latest word on it is that it was paid for.
`handleNewSaleSuccess` activates it, but `handleRenewalSuccess` only records the billing.
-/

namespace SexySelfies.Payments

open Js Platform Interleave

def isUserSubscribed (user creator : Nat) : Proc Op.Res Bool := do
  let subscription ← perform (Op.findActiveSubscription user creator)
  return subscription.isSome

def EventKind.paid : EventKind → Option Bool
  | .newSaleSuccess => some true
  | .renewalSuccess => some true
  | .newSaleFailure => some false
  | .renewalFailure => some false
  | .cancellation => some false
  | .expiration => some false
  | .refund => none
  | .chargeback => none

variable (ccbillId : String)

def paidBy (d : Bool × Event) : Option Bool :=
  if d.1 = true ∧ d.2.subscriptionId = some ccbillId then d.2.kind.bind EventKind.paid
  else none

/-- The store, and whether the latest event that says so said the subscription
was paid for. -/
structure Watched where
  db : Db
  paid : Bool

def watch (cfg : Config) (ccbillId : String) (w : Watched) (d : Bool × Event) : Watched :=
  { db := deliver cfg w.db d, paid := (paidBy ccbillId d).getD w.paid }

/-- The subscription is active, and its user counts as subscribed to its
creator. -/
def Access (cfg : Config) (ccbillId : String) (db : Db) : Prop :=
  ∀ np ∈ db.subscriptionOf (some ccbillId), np.2.status = .active
    ∧ ((isUserSubscribed np.2.user np.2.creator).run (exec cfg) db).2 = true

/-- A success finds the subscription active, or is a sale that activates it. -/
def Restores (db : Db) (d : Bool × Event) : Prop :=
  paidBy ccbillId d = some true → ∀ np ∈ db.subscriptionOf (some ccbillId),
    np.2.status = .active ∨ (d.2.kind = some .newSaleSuccess ∧ d.2.activates db)

instance (ccbillId : String) (db : Db) (d : Bool × Event) : Decidable (Restores ccbillId db d) := by
  unfold Restores
  infer_instance

variable {cfg : Config} {db : Db}

theorem access_iff_active :
    Access cfg ccbillId db ↔ ∀ np ∈ db.subscriptionOf (some ccbillId), np.2.status = .active := by
  refine forall₂_congr fun np hnp => and_iff_left_of_imp fun hact => ?_
  have hmem := List.mem_of_getElem? (Collection.findOne_some hnp).1
  have hf : (db.activeSubscription? np.2.user np.2.creator).isSome := by
    rw [Option.isSome_iff_ne_none]
    intro hn
    have hno := Collection.findOne_eq_none.mp hn np.2 hmem
    simp [hact] at hno
  exact hf

variable {s : Subscription}

theorem status_after_sale {e : Event} (hs : e.subscriptionId.isSome) :
    (s.after (e.saleChanges db)).status = .active ↔ s.status = .active ∨ e.activates db := by
  rcases saleChanges_cases hs db with ⟨hno, hn⟩ | ⟨hyes, -, hone⟩ | ⟨hyes, amount, n, -, htwo⟩
  · rw [hn]
    exact ⟨.inl, fun h => h.resolve_right hno⟩
  · rw [hone]
    exact iff_of_true (assign_self _ _) (.inr hyes)
  · rw [htwo]
    exact iff_of_true (assign_self _ _) (.inr hyes)

variable {ccbillId : String} {d : Bool × Event}

theorem paidBy_eq_some {b : Bool} (h : paidBy ccbillId d = some b) :
    (d.1 ∧ d.2.subscriptionId = some ccbillId)
      ∧ ∃ k, d.2.kind = some k ∧ k.paid = some b := by
  unfold paidBy at h
  split at h
  · rename_i hco
    exact ⟨hco, Option.bind_eq_some_iff.mp h⟩
  · cases h

theorem active_after_iff {cfg : Config} {db : Db} (hp : paidBy ccbillId d = some true) :
    (s.after (changesFor cfg ccbillId db d)).status = .active ↔
      s.status = .active ∨ (d.2.kind = some .newSaleSuccess ∧ d.2.activates db) := by
  obtain ⟨hco, k, hki, hk⟩ := paidBy_eq_some hp
  rw [changesFor, if_pos hco, Event.changes, hki]
  cases k with
  | newSaleSuccess =>
    have hs : d.2.subscriptionId.isSome := by rw [hco.2]; rfl
    simpa only [true_and] using status_after_sale hs
  | renewalSuccess =>
    have hkp : (s.after (if savesPayment cfg.saveOrder d.2.amount then
        [.recordBilling ((castNumber d.2.amount).getD none) d.2.transactionId
          db.payments.length] else [])).status = s.status := by
      split <;> rfl
    simp [hkp]
  | _ => cases hk

theorem status_after_of_unsaid {cfg : Config} {db : Db} (hp : paidBy ccbillId d = none) :
    (s.after (changesFor cfg ccbillId db d)).status = s.status := by
  unfold changesFor
  split
  · rename_i hco
    rw [paidBy, if_pos hco] at hp
    unfold Event.changes
    cases hk : d.2.kind with
    | none => rfl
    | some k =>
      rw [hk] at hp
      cases k with
      | refund | chargeback => rfl
      | _ => cases hp
  · rfl

theorem access_watch_iff (w : Watched) (d : Bool × Event)
    (h : w.paid → Access cfg ccbillId w.db) :
    ((watch cfg ccbillId w d).paid → Access cfg ccbillId (watch cfg ccbillId w d).db) ↔
      Restores ccbillId w.db d := by
  have ha : Access cfg ccbillId (watch cfg ccbillId w d).db ↔
      ∀ np ∈ w.db.subscriptionOf (some ccbillId),
        (np.2.after (changesFor cfg ccbillId w.db d)).status = .active := by
    rw [access_iff_active]
    simp only [watch, subscriptionOf_deliver]
    constructor
    · intro hall np hnp
      exact hall _ (Option.mem_map_of_mem _ hnp)
    · intro hall np' hnp'
      obtain ⟨np, hnp, rfl⟩ := Option.mem_map.mp hnp'
      exact hall np hnp
  rw [ha]
  unfold Restores
  cases hp : paidBy ccbillId d with
  | none =>
    have hke : (watch cfg ccbillId w d).paid = w.paid := by simp [watch, hp]
    refine iff_of_true (fun hw np hnp => ?_) fun hs => by cases hs
    rw [status_after_of_unsaid hp]
    exact ((access_iff_active ccbillId).mp (h (hke ▸ hw))) np hnp
  | some b =>
    have hset : (watch cfg ccbillId w d).paid = b := by simp [watch, hp]
    rw [hset]
    cases b with
    | false => exact iff_of_true (fun hb => by cases hb) fun hs => by cases hs
    | true => simp only [active_after_iff hp]

/-- In every sequence of deliveries, the subscription gives access whenever
the latest event that says so said it was paid for, exactly when every
success finds it active or activates it. -/
theorem access_iff (cfg : Config) (ccbillId : String) (db : Db) (ds : List (Bool × Event)) :
    Runs.Always (watch cfg ccbillId) (fun w => w.paid = true → Access cfg ccbillId w.db)
        ⟨db, false⟩ ds ↔ Runs.Every (deliver cfg) (Restores ccbillId) db ds := by
  have hs : (⟨db, false⟩ : Watched).paid = true → Access cfg ccbillId db := by
    intro hp
    cases hp
  rw [Runs.always_iff_every access_watch_iff hs]
  exact Runs.every_map (f := Watched.db) fun _ _ => rfl

def monthlySubscription : Subscription :=
  { user := 0, member := 0, creator := 0, amount := 10, billingCycle := .monthly,
    status := .active, ccbillSubscriptionId := "S1", nextBillingDate := newYear,
    cancelledBy := none, billingHistory := [], failedPaymentCount := 0,
    amount_nonneg := ten_nonneg }

def subscribedDb : Db := { tipDb with subscriptions := [monthlySubscription] }

def subscriptionEvent (eventType transactionId : String) : Bool × Event :=
  (true, { eventType := some eventType, event_type := none, transactionId := some transactionId,
           subscriptionId := some "S1", merchantInvoiceId := .absent, amount := .num (.fin 10),
           expirationDate := none })

def suspendedThenPaid : List (Bool × Event) :=
  [subscriptionEvent "RenewalFailure" "T1", subscriptionEvent "RenewalFailure" "T2",
   subscriptionEvent "RenewalFailure" "T3", subscriptionEvent "RenewalSuccess" "T4"]

/-- A renewal after the third failure does not lift the suspension: its payment is refused, and
`recordBilling`, which would follow, does not touch the status either. -/
theorem access_fails_after_suspension :
    (Runs.states (deliver ⟨.validateFirst, true⟩) subscribedDb suspendedThenPaid).map
        (fun db => db.subscriptions.map fun s => (s.status, s.failedPaymentCount))
        = [[(.active, 0)], [(.active, 1)], [(.active, 2)], [(.suspended, 3)], [(.suspended, 3)]]
      ∧ ¬ Runs.Always (watch ⟨.validateFirst, true⟩ "S1")
        (fun w => w.paid = true → Access ⟨.validateFirst, true⟩ "S1" w.db)
        ⟨subscribedDb, false⟩ suspendedThenPaid := by
  refine ⟨by decide +kernel, fun h => ?_⟩
  have hact := (access_iff_active _).mp (h.last (by decide +kernel))
  revert hact
  decide +kernel

end SexySelfies.Payments
