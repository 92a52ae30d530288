import SexySelfies.PaymentHandlers

/-!
# The status of a payment under webhook events

`markCompleted`, `markFailed` and `processRefund` of `Payment.js` set the status without looking at
it, and so do the event handlers that call them. So the intended lifecycle

    pending → completed → refunded,   pending → failed

is kept by exactly those event sequences in which every event finds its payment where the event
expects it, or already where it would put it.
-/

namespace SexySelfies.Payments

open Js Platform Interleave List

def PaymentStatus.leadsTo : PaymentStatus → PaymentStatus → Bool
  | .pending, .completed => true
  | .pending, .failed => true
  | .completed, .refunded => true
  | _, _ => false

variable (cfg : Config)

def deliver (db : Db) (d : Bool × Event) : Db :=
  ((handleWebhook cfg d.1 d.2).run (exec cfg) db).1

/-- No payment leaves its lifecycle. -/
def StatusMoves (db : Db) (d : Bool × Event) : Prop :=
  ∀ (j : Nat) (p : Payment), db.payments[j]? = some p →
    ∃ p', (deliver cfg db d).payments[j]? = some p'
      ∧ (p'.status = p.status ∨ p.status.leadsTo p'.status = true)

/-! ## What an event expects -/

def EventKind.move : EventKind → Option (PaymentStatus × PaymentStatus)
  | .newSaleSuccess => some (.pending, .completed)
  | .newSaleFailure => some (.pending, .failed)
  | .refund => some (.completed, .refunded)
  | .chargeback => some (.completed, .refunded)
  | _ => none

variable (e : Event)

def Event.invoice (db : Db) : Option (Nat × Payment) :=
  match e.merchantInvoiceId with
  | .id n => (db.payments[n]?).map fun p => (n, p)
  | _ => none

def Event.charge (db : Db) : Option (Nat × Payment) :=
  Collection.findOne (fun p => p.ccbillTransactionId = e.transactionId) db.payments

def Event.found (db : Db) : EventKind → Option (Nat × Payment)
  | .newSaleSuccess => e.invoice db
  | .newSaleFailure => e.invoice db
  | .refund => e.charge db
  | .chargeback => e.charge db
  | _ => none

/-- The delivery is rejected, or finds its payment where it expects it or
already where it would put it. -/
def Guarded (db : Db) (d : Bool × Event) : Prop :=
  d.1 = true → ∀ k ∈ d.2.kind, ∀ m ∈ k.move, ∀ np ∈ d.2.found db k,
    np.2.status = m.1 ∨ np.2.status = m.2

instance (db : Db) (d : Bool × Event) : Decidable (Guarded db d) := by
  unfold Guarded
  infer_instance

variable {k : EventKind} {np : Nat × Payment} {db : Db} {e : Event}

theorem guarded_iff {m : PaymentStatus × PaymentStatus} (hk : e.kind = some k)
    (hm : k.move = some m) (hf : e.found db k = some np) :
    Guarded db (true, e) ↔ np.2.status = m.1 ∨ np.2.status = m.2 := by
  constructor
  · intro h
    exact h rfl k hk m hm np hf
  · rintro h - k' hk' m' hm' np' hnp'
    obtain rfl := Option.mem_unique hk hk'
    obtain rfl := Option.mem_unique hm hm'
    obtain rfl := Option.mem_unique hf hnp'
    exact h

theorem guarded_of_unmoved (hk : e.kind = some k) (h : k.move = none ∨ e.found db k = none) :
    Guarded db (true, e) := by
  rintro - k' hk' m hm np hnp
  obtain rfl := Option.mem_unique hk hk'
  rcases h with hn | hn
  · cases hn.symm.trans hm
  · cases hn.symm.trans hnp

theorem leadsTo_iff_of_move {m : PaymentStatus × PaymentStatus} (hk : k.move = some m)
    (a : PaymentStatus) : (m.2 = a ∨ a.leadsTo m.2) ↔ a = m.1 ∨ a = m.2 := by
  cases k with
  | newSaleSuccess | newSaleFailure | refund | chargeback => cases hk; cases a <;> decide
  | _ => cases hk

theorem invoice_getElem? (h : e.invoice db = some np) : db.payments[np.1]? = some np.2 := by
  unfold Event.invoice at h
  split at h
  · obtain ⟨p, hp, rfl⟩ := Option.map_eq_some_iff.mp h
    exact hp
  · cases h

theorem found_getElem? (h : e.found db k = some np) : db.payments[np.1]? = some np.2 := by
  cases k with
  | newSaleSuccess | newSaleFailure => exact invoice_getElem? h
  | refund | chargeback => exact (Collection.findOne_some h).1
  | _ => cases h

/-! ## What an event writes -/

def Db.statuses (db : Db) : List PaymentStatus := db.payments.map Payment.status

def Op.setsStatus : Op → Bool
  | .savePayment _ _ (.setSubscriptionId _) => false
  | .savePayment _ _ _ => true
  | _ => false

variable {st : PaymentStatus}

theorem statuses_modify (n : Nat) (f : Payment → Payment)
    {p : Payment} (hp : db.payments[n]? = some p) (hf : (f p).status = st) :
    (db.payments.modify n f).map Payment.status = db.statuses.set n st := by
  refine ext_getElem? fun j => ?_
  by_cases hj : n = j
  · subst hj
    have hn : n < db.payments.length := (List.getElem?_eq_some_iff.mp hp).1
    rw [List.getElem?_map, List.getElem?_modify_eq, hp,
      List.getElem?_set_self (by simpa [Db.statuses] using hn)]
    exact congrArg some hf
  · rw [List.getElem?_map, getElem?_modify_ne _ _ hj, getElem?_set_ne hj,
      Db.statuses, List.getElem?_map]

theorem statuses_exec (o : Op) (ho : o.setsStatus = false) :
    ∃ new, (exec cfg o db).1.statuses = db.statuses ++ new := by
  cases o with
  | insertPayment p =>
    refine ⟨[p.status], ?_⟩
    simp [exec, Db.statuses]
  | savePayment id old c =>
    refine ⟨[], ?_⟩
    cases c with
    | setSubscriptionId =>
      rw [append_nil]
      refine ext_getElem? fun j => ?_
      simp only [exec, Db.statuses, List.getElem?_map, getElem?_modify]
      split <;> cases db.payments[j]? <;> rfl
    | _ => cases ho
  | _ =>
    refine ⟨[], ?_⟩
    rw [append_nil, Db.statuses, (frame_exec cfg _ db).payments_eq (by simp [Op.writes]),
      Db.statuses]

abbrev Quiet {ρ : Type} (db : Db) (p : Proc Op.Res ρ) : Prop :=
  Keeps (exec cfg) Eq (fun _ _ => True) (fun _ o => o.setsStatus = false) db p

variable {cfg : Config}

theorem statuses_run {ρ : Type} {p : Proc Op.Res ρ} (h : Quiet cfg db p) :
    ∃ new, (p.run (exec cfg) db).1.statuses = db.statuses ++ new := by
  refine run_of_keeps (I := fun s => ∃ new, s.statuses = db.statuses ++ new) ?_
    ⟨[], (append_nil _).symm⟩ h
  rintro s o ⟨new, hnew⟩ ho
  obtain ⟨more, hmo⟩ := statuses_exec cfg o ho
  exact ⟨new ++ more, by rw [hmo, hnew, append_assoc]⟩

/-! ### The handlers -/

variable (cfg : Config) (e : Event) (db : Db)

theorem quiet_activateOnSale (p : Nat) (pa : Payment) : Quiet cfg db (activateOnSale e p pa) :=
  keeps_activateOnSale (P := fun o => o.setsStatus = false) (fun _ => rfl) (fun _ _ _ => rfl)
    e p pa db

theorem quiet_renewalSuccess : Quiet cfg db (handleRenewalSuccess cfg e) := by
  refine keeps_perform_of rfl fun s x => ?_
  split
  · split
    · trivial
    · exact keeps_perform_of rfl fun _ _ => keeps_perform_of rfl fun _ _ =>
        keeps_perform_of rfl fun _ _ => trivial
  · trivial

theorem quiet_renewalFailure : Quiet cfg db (handleRenewalFailure e) := by
  refine keeps_perform_of rfl fun s x => ?_
  split
  · exact keeps_perform_of rfl fun _ _ => trivial
  · trivial

theorem quiet_cancellation : Quiet cfg db (handleCancellation e) := by
  refine keeps_perform_of rfl fun s x => ?_
  split
  · exact keeps_perform_of rfl fun _ _ => trivial
  · trivial

theorem quiet_expiration : Quiet cfg db (handleExpiration e) := by
  refine keeps_perform_of rfl fun s x => ?_
  split
  · exact keeps_guard fun _ => keeps_perform_of rfl fun _ _ => trivial
  · trivial

theorem statuses_save_bind {n : Nat} {p : Payment} (hp : db.payments[n]? = some p)
    (c : PaymentChange) {st : PaymentStatus} (hc : (c.apply p p).status = st)
    {f : Unit → EventHandler} (hf : ∀ s, Quiet cfg s (f ())) :
    ∃ new, ((perform (Op.savePayment n p c) >>= f).run (exec cfg) db).1.statuses
      = db.statuses.set n st ++ new := by
  rw [← statuses_modify n (c.apply p) hp hc]
  exact statuses_run (hf _)

theorem run_forInvoice (f : Nat → Payment → EventHandler) : ((forInvoice e f).run (exec cfg) db).1 =
      match e.invoice db with
      | some np => ((f np.1 np.2).run (exec cfg) db).1
      | none => db := by
  unfold forInvoice Event.invoice
  cases e.merchantInvoiceId with
  | id n =>
    simp only [reduceCtorEq, if_false, lookup, findPayment, perform_bind, call_bind, run_call,
      pure_eq_ret, ret_bind, exec]
    cases db.payments[n]? <;> rfl
  | absent | malformed => rfl

theorem run_reversePayment (c : PaymentChange) (inc : Payment → Inc) :
    ((reversePayment c inc e).run (exec cfg) db).1 =
      match e.charge db with
      | some np =>
        ((perform (Op.savePayment np.1 np.2 c) >>= fun _ =>
          perform (Op.incEarnings np.2.creator (inc np.2) false) >>= fun _ =>
            (pure true : EventHandler)).run (exec cfg) db).1
      | none => db := by
  unfold reversePayment Event.charge
  simp only [perform_bind, run_call, exec]
  cases Collection.findOne (fun p => p.ccbillTransactionId = e.transactionId) db.payments <;> rfl

def Event.assigned (k : EventKind) : List PaymentStatus :=
  match k.move, e.found db k with
  | some m, some np => db.statuses.set np.1 m.2
  | _, _ => db.statuses

theorem statuses_newSale {st₀ st : PaymentStatus} (hfd : e.found db k = e.invoice db)
    (hmo : k.move = some (st₀, st)) {f : Nat → Payment → EventHandler}
    (hf : ∀ n p, db.payments[n]? = some p →
      ∃ new, ((f n p).run (exec cfg) db).1.statuses = db.statuses.set n st ++ new) :
    ∃ new, ((forInvoice e f).run (exec cfg) db).1.statuses = e.assigned db k ++ new := by
  rw [run_forInvoice, Event.assigned, hfd, hmo]
  cases h : e.invoice db with
  | none => exact ⟨[], (append_nil _).symm⟩
  | some np => exact hf np.1 np.2 (invoice_getElem? h)

theorem statuses_reverse {st₀ : PaymentStatus} (hf : e.found db k = e.charge db)
    (hmo : k.move = some (st₀, .refunded)) (c : PaymentChange)
    (hc : ∀ p, (c.apply p p).status = .refunded) (inc : Payment → Inc) :
    ∃ new, ((reversePayment c inc e).run (exec cfg) db).1.statuses = e.assigned db k ++ new := by
  rw [run_reversePayment, Event.assigned, hf, hmo]
  cases h : e.charge db with
  | none => exact ⟨[], (append_nil _).symm⟩
  | some np =>
    exact statuses_save_bind cfg db (Collection.findOne_some h).1 c (hc np.2)
      fun _ => keeps_perform_of rfl fun _ _ => trivial

theorem statuses_handleEvent (hk : e.kind = some k) :
    ∃ new, ((handleEvent cfg e).run (exec cfg) db).1.statuses = e.assigned db k ++ new := by
  unfold handleEvent
  rw [hk]
  cases k with
  | newSaleSuccess =>
    refine statuses_newSale cfg e db rfl rfl fun n p hp => ?_
    refine statuses_save_bind cfg db hp (.markCompleted e.transactionId)
      (assign_self _ _) fun s => ?_
    split
    · exact keeps_perform_of rfl fun _ _ => keeps_perform_of rfl fun s _ =>
        quiet_activateOnSale cfg e s n p
    · exact keeps_perform_of rfl fun s _ => quiet_activateOnSale cfg e s n p
  | newSaleFailure =>
    refine statuses_newSale cfg e db rfl rfl fun n p hp => ?_
    exact statuses_save_bind cfg db hp .markFailed (assign_self _ _) fun _ => trivial
  | refund => exact statuses_reverse cfg e db rfl rfl .processRefund (fun _ => assign_self _ _) _
  | chargeback => exact statuses_reverse cfg e db rfl rfl .chargeback (fun _ => assign_self _ _) _
  | renewalSuccess => exact statuses_run (quiet_renewalSuccess cfg e db)
  | renewalFailure => exact statuses_run (quiet_renewalFailure cfg e db)
  | cancellation => exact statuses_run (quiet_cancellation cfg e db)
  | expiration => exact statuses_run (quiet_expiration cfg e db)

/-! ## Deliveries -/

variable (db : Db)

theorem deliver_accepted (e : Event) :
    deliver cfg db (true, e) = ((handleEvent cfg e).run (exec cfg) db).1 := by
  unfold deliver handleWebhook
  simp only [Bool.not_true, Bool.false_eq_true, if_false, run_bind]
  split <;> rfl

theorem getElem?_statuses (j : Nat) :
    db.statuses[j]? = (db.payments[j]?).map Payment.status := List.getElem?_map

theorem statusMoves_of_statuses {cfg : Config} {db : Db} {d : Bool × Event}
    {sts new : List PaymentStatus} (hlen : sts.length = db.payments.length)
    (h : (deliver cfg db d).statuses = sts ++ new) :
    StatusMoves cfg db d ↔ ∀ (j : Nat) (p : Payment), db.payments[j]? = some p →
      ∃ st, sts[j]? = some st ∧ (st = p.status ∨ p.status.leadsTo st) := by
  refine forall_congr' fun j => forall_congr' fun p => imp_congr_right fun hp => ?_
  have hj : j < sts.length := by
    rw [hlen]
    exact (List.getElem?_eq_some_iff.mp hp).1
  have hget : ((deliver cfg db d).payments[j]?).map Payment.status = sts[j]? := by
    rw [← getElem?_statuses, h, List.getElem?_append_left hj]
  constructor
  · rintro ⟨p', hp', hmo⟩
    refine ⟨p'.status, ?_, hmo⟩
    rw [← hget, hp', Option.map_some]
  · rintro ⟨st, hst, hmo⟩
    rw [hst] at hget
    obtain ⟨p', hp', rfl⟩ := Option.map_eq_some_iff.mp hget
    exact ⟨p', hp', hmo⟩

theorem statusMoves_unchanged {db : Db} (j : Nat) (p : Payment) (hp : db.payments[j]? = some p) :
    ∃ st, db.statuses[j]? = some st ∧ (st = p.status ∨ p.status.leadsTo st) :=
  ⟨p.status, by rw [getElem?_statuses, hp, Option.map_some], .inl rfl⟩

theorem length_statuses : db.statuses.length = db.payments.length := length_map _

theorem set_moves_iff {db : Db} (hnp : db.payments[np.1]? = some np.2) :
    (∀ (j : Nat) (p : Payment), db.payments[j]? = some p →
        ∃ st', (db.statuses.set np.1 st)[j]? = some st'
          ∧ (st' = p.status ∨ p.status.leadsTo st'))
      ↔ (st = np.2.status ∨ np.2.status.leadsTo st) := by
  have hn : np.1 < db.statuses.length := by
    rw [length_statuses]
    exact (List.getElem?_eq_some_iff.mp hnp).1
  constructor
  · intro h
    obtain ⟨st', hst', hmo⟩ := h np.1 np.2 hnp
    rw [List.getElem?_set_self hn] at hst'
    cases hst'
    exact hmo
  · intro h j p hp
    by_cases hj : np.1 = j
    · subst hj
      rw [hnp] at hp
      cases hp
      exact ⟨st, List.getElem?_set_self hn, h⟩
    · rw [getElem?_set_ne hj]
      exact statusMoves_unchanged j p hp

theorem statusMoves_of_unchanged {cfg : Config} {db : Db} {d : Bool × Event}
    {new : List PaymentStatus} (h : (deliver cfg db d).statuses = db.statuses ++ new) :
    StatusMoves cfg db d :=
  (statusMoves_of_statuses (length_statuses db) h).mpr statusMoves_unchanged

theorem statusMoves_iff (d : Bool × Event) :
    StatusMoves cfg db d ↔ Guarded db d := by
  obtain ⟨isValid, e⟩ := d
  cases isValid with
  | false =>
    refine ⟨fun _ => nofun, fun _ => ?_⟩
    exact statusMoves_of_unchanged (append_nil _).symm
  | true =>
    cases hk : e.kind with
    | none =>
      have hrun : (deliver cfg db (true, e)).statuses = db.statuses ++ [] := by
        rw [deliver_accepted, handleEvent, hk, append_nil]
        rfl
      have hgrd : Guarded db (true, e) := by
        rintro - k hk'
        cases hk.symm.trans hk'
      exact iff_of_true (statusMoves_of_unchanged hrun) hgrd
    | some k =>
      obtain ⟨new, hnew⟩ := statuses_handleEvent cfg e db hk
      rw [← deliver_accepted, Event.assigned] at hnew
      cases hm : k.move with
      | none =>
        rw [hm] at hnew
        exact iff_of_true (statusMoves_of_unchanged hnew) (guarded_of_unmoved hk (.inl hm))
      | some m =>
        cases hf : e.found db k with
        | none =>
          rw [hm, hf] at hnew
          exact iff_of_true (statusMoves_of_unchanged hnew) (guarded_of_unmoved hk (.inr hf))
        | some np =>
          rw [hm, hf] at hnew
          have hlen : (db.statuses.set np.1 m.2).length = db.payments.length := by
            rw [length_set, length_statuses]
          rw [statusMoves_of_statuses hlen hnew, set_moves_iff (found_getElem? hf),
            leadsTo_iff_of_move hm, guarded_iff hk hm hf]

/-- In every sequence of deliveries, handled one after another, every payment
keeps to the lifecycle exactly when every delivery is guarded. -/
theorem payment_lifecycle_iff (cfg : Config) (db : Db) (ds : List (Bool × Event)) :
    Runs.Every (deliver cfg) (StatusMoves cfg) db ds ↔ Runs.Every (deliver cfg) Guarded db ds :=
  Runs.every_congr (statusMoves_iff cfg)

def pendingTip : Payment :=
  { user := 0, member := 0, creator := 0, amount := 10, type := .tip, status := .pending,
    ccbillTransactionId := none, ccbillSubscriptionId := none, platformFee := 2,
    creatorEarnings := 8, chargedBack := false, amount_nonneg := ten_nonneg }

def pendingTipDb : Db :=
  { members := [⟨0, []⟩], creators := 1, contents := [], paymentMethods := [],
    payments := [pendingTip], subscriptions := [], earnings := fun _ => none, gateway := [] }

def signedEvent (eventType : String) : Bool × Event :=
  (true, { eventType := some eventType, event_type := none, transactionId := some "T1",
           subscriptionId := none, merchantInvoiceId := .id 0, amount := .num (.fin 10),
           expirationDate := none })

theorem payment_lifecycle_fails_on_redelivery :
    (Runs.states (deliver ⟨.hooksFirst, true⟩) pendingTipDb
        [signedEvent "NewSaleSuccess", signedEvent "Refund",
          signedEvent "NewSaleSuccess"]).map Db.statuses
        = [[.pending], [.completed], [.refunded], [.completed]]
      ∧ ¬ Runs.Every (deliver ⟨.hooksFirst, true⟩) (StatusMoves ⟨.hooksFirst, true⟩) pendingTipDb
        [signedEvent "NewSaleSuccess", signedEvent "Refund", signedEvent "NewSaleSuccess"] := by
  refine ⟨by decide +kernel, fun h => ?_⟩
  have hgua := (Runs.every_congr (statusMoves_iff _)).mp h
  revert hgua
  decide +kernel

end SexySelfies.Payments
