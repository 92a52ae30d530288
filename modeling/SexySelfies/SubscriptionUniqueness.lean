import SexySelfies.PaymentLedger

/-!
# At most one active subscription

`createSubscription` looks for an active subscription of the user to the creator, and only later,
after the gateway has answered, stores and activates a new one; two overlapping calls both find
nothing and both activate. A late `NewSaleSuccess` activates whatever subscription it names.
-/

namespace SexySelfies.Payments

open Js Platform Interleave

/-- At most one active subscription of each user to each creator. -/
def OneActive (db : Db) : Prop :=
  Collection.Unique (fun s : Subscription => (s.user, s.creator)) (fun s => s.status = .active)
    db.subscriptions

/-- No other active subscription of this user and creator. -/
def NoRival (s : Subscription) (others : List Subscription) : Prop :=
  ∀ t ∈ others, t.status = .active → (t.user, t.creator) ≠ (s.user, s.creator)

instance (s : Subscription) (others : List Subscription) : Decidable (NoRival s others) := by
  unfold NoRival
  infer_instance

/-- The condition on writes: a subscription becomes active, or is inserted
active, only when no other one of its pair is active. -/
def Unrivalled (db : Db) : Op → Prop
  | .saveSubscription id old c => c = .activate → old.status ≠ .active →
      ∀ s ∈ db.subscriptions[id]?, NoRival s (db.subscriptions.eraseIdx id)
  | .insertSubscription s => s.status = .active →
      (db.subscriptions.any fun t => t.ccbillSubscriptionId = s.ccbillSubscriptionId) = false →
      NoRival s db.subscriptions
  | _ => True

theorem active_of_apply_active {old s : Subscription} {c : SubscriptionChange}
    (hc : ¬ (c = .activate ∧ old.status ≠ .active)) (h : (c.apply old s).status = .active) :
    s.status = .active := by
  have keep : ∀ new : SubscriptionStatus, new ≠ .active →
      assign old.status new s.status = .active → s.status = .active := by
    intro new hnew hasg
    unfold assign at hasg
    split at hasg
    · exact hasg
    · exact absurd hasg hnew
  cases c with
  | activate =>
    have hold : old.status = .active := by
      by_contra hne
      exact hc ⟨rfl, hne⟩
    unfold SubscriptionChange.apply assign at h
    simpa only [hold, if_true] using h
  | cancel => exact keep .cancelled nofun h
  | recordBilling => exact h
  | recordFailedBilling =>
    simp only [SubscriptionChange.apply] at h
    split at h
    · exact keep .suspended nofun h
    · exact h
  | expire => exact keep .expired nofun h

theorem apply_pair (old s : Subscription) (c : SubscriptionChange) :
    ((c.apply old s).user, (c.apply old s).creator) = (s.user, s.creator) := by
  cases c <;> rfl

theorem oneActive_exec_iff (cfg : Config) (db : Db) (o : Op) (h : OneActive db) :
    OneActive (exec cfg o db).1 ↔ Unrivalled db o := by
  have keep : ∀ db' : Db, db'.subscriptions = db.subscriptions → OneActive db' := by
    intro db' heq
    rwa [OneActive, heq]
  cases o with
  | insertSubscription s =>
    by_cases hdup : (db.subscriptions.any fun t =>
        t.ccbillSubscriptionId = s.ccbillSubscriptionId) = true
    · simp only [exec, Unrivalled, hdup, if_true]
      exact ⟨fun _ _ hne => absurd hne (by decide), fun _ => h⟩
    · have hf := Bool.eq_false_of_not_eq_true hdup
      simp only [exec, Unrivalled, hf, Bool.false_eq_true, if_false]
      exact (Collection.unique_concat_iff h).trans
        ⟨fun hs ha _ => hs ha, fun hs ha => hs ha trivial⟩
  | saveSubscription id old c =>
    by_cases hc : c = .activate ∧ old.status ≠ .active
    · obtain ⟨rfl, hold⟩ := hc
      have hact : ∀ s, (SubscriptionChange.activate.apply old s).status = .active :=
        fun s => assign_of_ne hold s.status
      cases hid : db.subscriptions[id]? with
      | none =>
        have heq : (exec cfg (.saveSubscription id old .activate) db).1.subscriptions
            = db.subscriptions := List.modify_eq_self (List.getElem?_eq_none_iff.mp hid)
        refine ⟨fun _ _ _ s hs => ?_, fun _ => keep _ heq⟩
        rw [hid] at hs
        cases hs
      | some s =>
        refine (Collection.unique_modify_iff h hid (apply_pair old s _)).trans ?_
        constructor
        · intro hs _ _ s' hs'
          obtain rfl := Option.mem_unique hid hs'
          exact hs (hact s)
        · intro hs _
          exact hs rfl hold s hid
    · refine ⟨fun _ ha hold => absurd ⟨ha, hold⟩ hc, fun _ => ?_⟩
      exact Collection.unique_modify_of_imp h (fun s => apply_pair old s c)
        fun s => active_of_apply_active hc
  | _ => exact ⟨fun _ => trivial, fun _ => keep _ ((frame_exec cfg _ db).subscriptions_eq
      (by simp [Op.writes]))⟩

/-- Starting with at most one active subscription of each user to each
creator, an interleaving never has two exactly when every activation is
unrivalled. -/
theorem one_active_iff (cfg : Config) (db : Db) (h : OneActive db) (ls : List (Label Request)) :
    Runs.Always (next cfg) (fun c => OneActive c.store) ⟨db, []⟩ ls ↔
      Runs.Every (next cfg) (Fires Unrivalled) ⟨db, []⟩ ls :=
  always_store_iff_fires (fun db o => oneActive_exec_iff cfg db o) h

instance (db : Db) : ∀ o, Decidable (Unrivalled db o)
  | .saveSubscription id old c => inferInstanceAs (Decidable (c = .activate →
      old.status ≠ .active → ∀ s ∈ db.subscriptions[id]?,
        NoRival s (db.subscriptions.eraseIdx id)))
  | .insertSubscription s => inferInstanceAs (Decidable (s.status = .active →
      (db.subscriptions.any fun t => t.ccbillSubscriptionId = s.ccbillSubscriptionId) = false →
        NoRival s db.subscriptions))
  | .findMember _ | .findCreator _ | .findContent _ | .findPaymentMethod _ _
  | .findActiveSubscription _ _ | .findOwnSubscription _ _ | .findSubscription _
  | .findPayment _ | .findPaymentOf _ | .callGateway _ _ | .insertPayment _ | .savePayment _ _ _
  | .markUsed _ _ _ | .saveContent _ _ _ _ | .saveMember _ _ _
  | .incEarnings _ _ _ => .isTrue trivial

def subscribeAs (ccbillId : String) : Request :=
  .subscribe
    { user := 0, creatorId := .id 0, tier := .str "basic", amount := .num (.fin 10),
      billingCycle := .str "monthly", paymentMethodId := .id 0,
      gateway := .ok ⟨some ccbillId, some "T1", none⟩, today := newYear }

theorem one_active_in_turn :
    Runs.Always (next ⟨.validateFirst, false⟩) (fun c => OneActive c.store) ⟨tipDb, []⟩
      (oneByOne [(subscribeAs "S1", 7), (.cancel ⟨0, some 0, .ok ()⟩, 3), (subscribeAs "S2", 7)]) :=
  (one_active_iff ⟨.validateFirst, false⟩ tipDb (fun _ _ _ _ => nofun) _).mpr (by decide +kernel)

def overlappingLabels : List (Label Request) :=
  [.start (subscribeAs "S1"), .start (subscribeAs "S2"),
   .step 0, .step 0, .step 0, .step 1, .step 1, .step 1,
   .step 0, .step 0, .step 0, .step 0, .step 1, .step 1, .step 1, .step 1]

theorem one_active_fails_on_overlap :
    ((Runs.final (next ⟨.validateFirst, false⟩) ⟨tipDb, []⟩
        overlappingLabels).store.subscriptions.map fun s => (s.user, s.creator, s.status))
        = [(0, 0, .active), (0, 0, .active)]
      ∧ ¬ Runs.Always (next ⟨.validateFirst, false⟩) (fun c => OneActive c.store) ⟨tipDb, []⟩
        overlappingLabels := by
  refine ⟨by decide +kernel, fun h => ?_⟩
  have hs : OneActive tipDb := fun _ _ _ _ => nofun
  have hfir := (always_store_iff_fires (fun db o => oneActive_exec_iff _ db o) hs).mp h
  revert hfir
  decide +kernel

end SexySelfies.Payments
