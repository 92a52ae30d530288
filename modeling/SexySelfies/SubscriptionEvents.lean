import SexySelfies.PaymentStatus

/-!
# What an event does to a subscription

Five of the eight webhook events reach a subscription, and each finds it by its
`ccbillSubscriptionId`. `Event.changes` lists the methods of the document that an event calls, and
`subscriptionOf_deliver` is the one fact about the handlers that the files on subscriptions use.
-/

namespace SexySelfies.Payments

open Js Platform Interleave

/-! ## What an event does to a subscription -/

def Db.subscriptionOf (db : Db) (ccbillId : Option String) : Option (Nat × Subscription) :=
  Collection.findOne (fun s => some s.ccbillSubscriptionId = ccbillId) db.subscriptions

def savesPayment (order : SaveOrder) (amount : Value) : Bool :=
  match order, castNumber amount with
  | .hooksFirst, some (some (.fin a)) => 0 ≤ a
  | _, _ => false

def Event.saleChanges (e : Event) (db : Db) : List SubscriptionChange :=
  match e.invoice db with
  | some (paymentId, payment) =>
    if payment.type = .subscription ∧ (e.subscriptionId.filter (· ≠ "")).isSome then
      match castNumber e.amount with
      | some amount => [.activate, .recordBilling amount e.transactionId paymentId]
      | none => [.activate]
    else []
  | none => []

def Event.activates (e : Event) (db : Db) : Prop :=
  e.subscriptionId ≠ some "" ∧ ∃ np ∈ e.invoice db, np.2.type = .subscription

instance (e : Event) (db : Db) : Decidable (e.activates db) := by
  unfold Event.activates
  infer_instance

def Event.changes (cfg : Config) (e : Event) (db : Db) : List SubscriptionChange :=
  match e.kind with
  | some .newSaleSuccess => e.saleChanges db
  | some .renewalSuccess =>
    if savesPayment cfg.saveOrder e.amount then
      [.recordBilling ((castNumber e.amount).getD none) e.transactionId db.payments.length]
    else []
  | some .renewalFailure => [.recordFailedBilling]
  | some .cancellation => [.cancel .system]
  | some .expiration => if e.expirationDate.isSome then [.expire] else []
  | _ => []

def Subscription.write (old : Subscription) (cs : List SubscriptionChange)
    (s : Subscription) : Subscription :=
  cs.foldl (fun t c => c.apply old t) s

def Db.writeSubscription (db : Db) (ccbillId : Option String) (cs : List SubscriptionChange) :
    List Subscription :=
  match db.subscriptionOf ccbillId with
  | some (id, s) => db.subscriptions.modify id (s.write cs)
  | none => db.subscriptions

theorem isApproved_validated (order : SaveOrder) (p : PaymentInput) :
    isApproved (p.validated order) = savesPayment order p.amount := by
  unfold savesPayment PaymentInput.validated
  cases order with
  | validateFirst =>
    split
    · split <;> rfl
    · rfl
  | hooksFirst =>
    split
    · rename_i a hc
      rw [hc]
      by_cases ha : 0 ≤ a
      · simp [ha, isApproved]
      · simp [ha, isApproved]
    · rename_i hc
      split
      · rename_i a _ hc'
        exact absurd hc' (hc a)
      · rfl

theorem saleChanges_cases {e : Event} (hs : e.subscriptionId.isSome) (db : Db) :
    (¬ e.activates db ∧ e.saleChanges db = []) ∨
      (e.activates db ∧ castNumber e.amount = none ∧ e.saleChanges db = [.activate]) ∨
      (e.activates db ∧ ∃ amount p, castNumber e.amount = some amount ∧
        e.saleChanges db = [.activate, .recordBilling amount e.transactionId p]) := by
  obtain ⟨ccbillId, hid⟩ := Option.isSome_iff_exists.mp hs
  unfold Event.saleChanges Event.activates
  cases hin : e.invoice db with
  | none => simp
  | some np =>
    obtain ⟨p, pa⟩ := np
    have hsa : (pa.type = .subscription ∧ (e.subscriptionId.filter (· ≠ "")).isSome = true) ↔
        e.subscriptionId ≠ some "" ∧ ∃ np ∈ some (p, pa), np.2.type = .subscription := by
      rw [hid]
      by_cases he : ccbillId = ""
      · simp [he]
      · simp [he]
    dsimp only
    rw [← hsa]
    split
    · rename_i h
      cases castNumber e.amount with
      | none => exact .inr (.inl ⟨h, rfl, rfl⟩)
      | some amount => exact .inr (.inr ⟨h, amount, p, rfl, rfl⟩)
    · rename_i h
      exact .inl ⟨h, rfl⟩

variable {cs : List SubscriptionChange}

theorem ccbillSubscriptionId_write (old s : Subscription) :
    (old.write cs s).ccbillSubscriptionId = s.ccbillSubscriptionId := by
  induction cs generalizing s with
  | nil => rfl
  | cons c cs ih =>
    rw [Subscription.write, List.foldl_cons, ← Subscription.write, ih]
    cases c <;> rfl

variable {ccbillId : Option String}

theorem writeSubscription_nil (db : Db) : db.writeSubscription ccbillId [] = db.subscriptions := by
  unfold Db.writeSubscription
  split
  · exact List.modify_id _ _
  · rfl

theorem writeSubscription_congr {db db' : Db} (h : db'.subscriptions = db.subscriptions) :
    db'.writeSubscription ccbillId cs = db.writeSubscription ccbillId cs := by
  unfold Db.writeSubscription Db.subscriptionOf
  rw [h]

variable (cfg : Config) (e : Event) (db : Db)

theorem run_findSubscription {ρ : Type} (f : Option (Nat × Subscription) → Proc Op.Res ρ) :
    (perform (Op.findSubscription ccbillId) >>= f).run (exec cfg) db
    = (f (db.subscriptionOf ccbillId)).run (exec cfg) db := rfl

theorem subscriptions_activateOnSale {p : Nat} {pa : Payment}
    (h : e.invoice db = some (p, pa)) {s : Db} (hs : s.subscriptions = db.subscriptions) :
    ((activateOnSale e p pa).run (exec cfg) s).1.subscriptions
      = db.writeSubscription e.subscriptionId (e.saleChanges db) := by
  simp only [activateOnSale, Event.saleChanges, h]
  split
  · rename_i hsa
    have hid : e.subscriptionId.filter (· ≠ "") = e.subscriptionId := by
      cases hsub : e.subscriptionId with
      | none => rfl
      | some id =>
        rw [hsub] at hsa
        by_cases hid : id = ""
        · simp [hid] at hsa
        · simp [hid]
    rw [run_findSubscription, hid, ← writeSubscription_congr hs, Db.writeSubscription]
    cases s.subscriptionOf e.subscriptionId with
    | none => rfl
    | some =>
      cases castNumber e.amount with
      | none => rfl
      | some => exact List.modify_modify_eq _ _ _ _
  · rwa [writeSubscription_nil]

theorem subscriptions_newSaleSuccess : ((handleNewSaleSuccess e).run (exec cfg) db).1.subscriptions
      = db.writeSubscription e.subscriptionId (e.saleChanges db) := by
  rw [handleNewSaleSuccess, run_forInvoice]
  cases h : e.invoice db with
  | none =>
    rw [Event.saleChanges, h]
    exact (writeSubscription_nil db).symm
  | some =>
    dsimp only
    rw [perform_bind, run_call]
    split
    · exact subscriptions_activateOnSale cfg e db h
        ((frame_exec cfg _ _).subscriptions_eq (by simp [Op.writes]))
    · exact subscriptions_activateOnSale cfg e db h
        ((frame_exec cfg _ _).subscriptions_eq (by simp [Op.writes]))

theorem subscriptions_renewalSuccess :
    ((handleRenewalSuccess cfg e).run (exec cfg) db).1.subscriptions =
      db.writeSubscription e.subscriptionId (if savesPayment cfg.saveOrder e.amount then
          [.recordBilling ((castNumber e.amount).getD none) e.transactionId db.payments.length]
        else []) := by
  unfold handleRenewalSuccess
  rw [run_findSubscription]
  cases hsub : db.subscriptionOf e.subscriptionId with
  | none => rw [Db.writeSubscription, hsub]; rfl
  | some =>
    dsimp only
    split
    · rename_i message hval
      have hs : savesPayment cfg.saveOrder e.amount = false :=
        (isApproved_validated _ _).symm.trans (congrArg isApproved hval)
      rw [hs, if_neg Bool.false_ne_true, writeSubscription_nil]
      rfl
    · rename_i p hval
      have hs : savesPayment cfg.saveOrder e.amount :=
        (isApproved_validated _ _).symm.trans (congrArg isApproved hval)
      rw [if_pos hs, Db.writeSubscription, hsub]
      exact (frame_exec cfg _ _).subscriptions_eq (by simp [Op.writes])

theorem subscriptions_handleEvent : ((handleEvent cfg e).run (exec cfg) db).1.subscriptions
      = db.writeSubscription e.subscriptionId (e.changes cfg db) := by
  unfold handleEvent Event.changes
  have hre : ∀ c inc, ((reversePayment c inc e).run (exec cfg) db).1.subscriptions
      = db.subscriptions := by
    intro c inc
    rw [run_reversePayment]
    split
    · exact (frame_exec cfg _ _).subscriptions_eq (by simp [Op.writes])
    · rfl
  cases e.kind with
  | none => exact (writeSubscription_nil db).symm
  | some k =>
    cases k with
    | newSaleSuccess => exact subscriptions_newSaleSuccess cfg e db
    | newSaleFailure =>
      dsimp only
      rw [handleNewSaleFailure, run_forInvoice, writeSubscription_nil]
      split <;> rfl
    | renewalSuccess => exact subscriptions_renewalSuccess cfg e db
    | renewalFailure =>
      dsimp only
      rw [handleRenewalFailure, run_findSubscription, Db.writeSubscription]
      cases db.subscriptionOf e.subscriptionId <;> rfl
    | cancellation =>
      dsimp only
      rw [handleCancellation, run_findSubscription, Db.writeSubscription]
      cases db.subscriptionOf e.subscriptionId <;> rfl
    | refund | chargeback => rw [writeSubscription_nil]; exact hre _ _
    | expiration =>
      dsimp only
      rw [handleExpiration, run_findSubscription, Db.writeSubscription]
      cases db.subscriptionOf e.subscriptionId with
      | none => rfl
      | some =>
        cases e.expirationDate with
        | none => exact (List.modify_id _ _).symm
        | some => rfl

def changesFor (cfg : Config) (ccbillId : String) (db : Db) (d : Bool × Event) :
    List SubscriptionChange :=
  if d.1 = true ∧ d.2.subscriptionId = some ccbillId then d.2.changes cfg db else []

def Subscription.after (s : Subscription) (cs : List SubscriptionChange) : Subscription :=
  s.write cs s

theorem subscriptionOf_write (db : Db) (e : Event) (ccbillId : String) :
    Collection.findOne (fun s => some s.ccbillSubscriptionId = some ccbillId)
        (db.writeSubscription e.subscriptionId cs)
      = (db.subscriptionOf (some ccbillId)).map fun np =>
          (np.1, np.2.after (if e.subscriptionId = some ccbillId then cs else [])) := by
  have hke : ∀ np : Nat × Subscription, (np.1, np.2.after []) = np := fun np => rfl
  unfold Db.writeSubscription
  cases hf : db.subscriptionOf e.subscriptionId with
  | none =>
    by_cases hid : e.subscriptionId = some ccbillId
    · rw [hid] at hf
      rwa [hf]
    · simp only [hid, if_false, hke, Option.map_id']
      rfl
  | some target =>
    obtain ⟨i, s⟩ := target
    obtain ⟨hi, hs⟩ := Collection.findOne_some hf
    have hs := of_decide_eq_true hs
    dsimp only
    rw [Collection.findOne_modify fun t => by rw [ccbillSubscriptionId_write]]
    rw [Db.subscriptionOf]
    refine Option.map_congr fun np hnp => ?_
    obtain ⟨j, t⟩ := np
    obtain ⟨hj, ht⟩ := Collection.findOne_some hnp
    have ht := of_decide_eq_true ht
    by_cases hid : e.subscriptionId = some ccbillId
    · rw [hid, Db.subscriptionOf, hnp] at hf
      obtain ⟨rfl, rfl⟩ := Prod.mk.injEq .. |>.mp (Option.some.inj hf)
      simp only [hid, if_true]
      rfl
    · have hij : j ≠ i := by
        rintro rfl
        rw [hi] at hj
        cases hj
        exact hid (hs.symm.trans ht)
      simp only [hid, hij, if_false]
      rfl

theorem subscriptionOf_deliver (cfg : Config) (ccbillId : String) (db : Db) (d : Bool × Event) :
    (deliver cfg db d).subscriptionOf (some ccbillId)
      = (db.subscriptionOf (some ccbillId)).map fun np =>
          (np.1, np.2.after (changesFor cfg ccbillId db d)) := by
  obtain ⟨isValid, e⟩ := d
  cases isValid with
  | false => exact Option.map_id'.symm
  | true =>
    rw [deliver_accepted, Db.subscriptionOf, subscriptions_handleEvent, subscriptionOf_write]
    simp [changesFor]

end SexySelfies.Payments
