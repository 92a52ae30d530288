import SexySelfies.PaymentLedger

/-!
# A charge and its records

What the three charging endpoints leave behind when they run alone and the mapper validates before
the `pre('save')` hooks. `creatorEarnings` is required and only set by a hook, so `new
Payment(...).save()` is refused. `processTip` and `purchaseContent` then never charge;
`createSubscription` calls the gateway first, and its charge is never recorded.
-/

namespace SexySelfies.Payments

open Js Platform Interleave

inductive Charge where
  | tip (r : TipRequest)
  | purchase (r : PurchaseRequest)
  | subscribe (r : SubscribeRequest)

def Charge.request : Charge → Request
  | .tip r => .tip r
  | .purchase r => .purchase r
  | .subscribe r => .subscribe r

def Charge.after (cfg : Config) (c : Charge) (db : Db) : Db :=
  ((handle cfg c.request).run (exec cfg) db).1

def newPayments (db db' : Db) : List Payment := db'.payments.drop db.payments.length

/-- An approved charge is recorded in one payment, completed and split, and credited once; a
refused one changes no balance and leaves nothing pending. -/
def Recorded (db db' : Db) : Bool → Prop
  | true => ∃ p, newPayments db db' = [p] ∧ p.status = .completed
      ∧ p.platformFee + p.creatorEarnings = p.amount
      ∧ ∀ creator, balance db' creator
        = balance db creator + share creator p.creator p.creatorEarnings
  | false => (∀ creator, balance db' creator = balance db creator)
      ∧ ∀ p ∈ newPayments db db', p.status ≠ .pending

def ChargeRecorded (cfg : Config) (c : Charge) (db : Db) : Prop :=
  ∀ call approved, (c.after cfg db).gateway = db.gateway ++ [(call, approved)] →
    Recorded db (c.after cfg db) approved

/-! ## Running alone -/

variable {cfg : Config} {db : Db} {ρ : Type}

theorem exec_read {o : Op} (ho : o.writes = none) : (exec cfg o db).1 = db := by
  cases o <;> first | rfl | cases ho

theorem run_of_reads {p : Proc Op.Res ρ}
    (h : Keeps (exec cfg) Eq (fun _ _ => True) (fun _ o => o.writes = none) db p) :
    (p.run (exec cfg) db).1 = db := by
  refine run_of_keeps (I := fun s => s = db) (fun s o hs ho => ?_) rfl h
  rwa [exec_read ho]

def Db.creator? (db : Db) : Ref → Option Nat
  | .id n => if n < db.creators then some n else none
  | _ => none

def Db.content? (db : Db) : Ref → Option (Nat × Content)
  | .id n => ((db.contents[n]?).map Content.hydrate).map fun c => (n, c)
  | _ => none

def Db.paymentMethod? (db : Db) (user : Nat) : Ref → Option (Nat × PaymentMethod)
  | .id n => ((db.paymentMethods[n]?).filter fun m => m.user = user && m.isActive).map
      fun m => (n, m)
  | _ => none

def Db.member? (db : Db) (user : Nat) : Option (Nat × Member) :=
  Collection.findOne (fun m => m.user = user) db.members

def Db.activeSubscription? (db : Db) (user creator : Nat) : Option (Nat × Subscription) :=
  Collection.findOne (fun s => s.user = user && s.creator = creator && s.status = .active)
    db.subscriptions

variable {user : Nat} {creator : Nat}

@[simp] theorem run_findActiveSubscription (f : Option (Nat × Subscription) → Proc Op.Res ρ) :
    (perform (Op.findActiveSubscription user creator) >>= f).run (exec cfg) db
    = (f (db.activeSubscription? user creator)).run (exec cfg) db := rfl

@[simp] theorem run_findMember (f : Option (Nat × Member) → Proc Op.Res ρ) :
    (perform (Op.findMember user) >>= f).run (exec cfg) db
    = (f (db.member? user)).run (exec cfg) db := rfl

variable {ref : Ref}

@[simp] theorem run_lookup_creator (f : Option Nat → Proc Op.Res ρ) :
    (lookup ref findCreator >>= f).run (exec cfg) db = (f (db.creator? ref)).run (exec cfg) db := by
  cases ref with
  | id n =>
    change (f (if decide (n < db.creators) = true then some n else none)).run (exec cfg) db = _
    simp [Db.creator?]
  | absent | malformed => rfl

@[simp] theorem run_lookup_content (f : Option (Nat × Content) → Proc Op.Res ρ) :
    (lookup ref findContent >>= f).run (exec cfg) db = (f (db.content? ref)).run (exec cfg) db := by
  cases ref <;> rfl

@[simp] theorem run_lookup_paymentMethod (f : Option (Nat × PaymentMethod) → Proc Op.Res ρ) :
    (lookup ref (findPaymentMethod user) >>= f).run (exec cfg) db
      = (f (db.paymentMethod? user ref)).run (exec cfg) db := by
  cases ref <;> rfl

/-! ## Tips and purchases stop before the gateway -/

variable {incStored : Bool}

abbrev Reads (incStored : Bool) {ρ : Type} (db : Db) (p : Proc Op.Res ρ) : Prop :=
  Keeps (exec ⟨.validateFirst, incStored⟩) Eq (fun _ _ => True) (fun _ o => o.writes = none) db p

theorem reads_lookup {α : Type} {ref : Ref} {find : Nat → Proc Op.Res (Option α)}
    {f : Option α → Proc Op.Res ρ} (hn : Reads incStored db (f none))
    (hf : ∀ n, Reads incStored db (find n >>= f)) : Reads incStored db (lookup ref find >>= f) := by
  cases ref with
  | id n => exact hf n
  | absent | malformed => exact hn

theorem reads_validated {input : PaymentInput} {g : String → Proc Op.Res ρ}
    {f : Payment → Proc Op.Res ρ} (hg : ∀ message, Reads incStored db (g message)) :
    Reads incStored db (match input.validated .validateFirst with
        | .error message => g message
        | .ok p => f p) := by
  obtain ⟨message, hmsg⟩ := validated_validateFirst input
  rw [hmsg]
  exact hg message

theorem reads_processTip (r : TipRequest) :
    Reads incStored db (processTip ⟨.validateFirst, incStored⟩ r) := by
  refine keeps_guard fun _ => keeps_perform_of rfl fun _ member => ?_
  split
  · refine keeps_guard fun _ => reads_lookup trivial fun _ => ?_
    refine keeps_perform_of rfl fun _ found => ?_
    dsimp only
    split
    · refine keeps_guard fun _ => reads_lookup trivial fun _ => ?_
      refine keeps_perform_of rfl fun _ method => ?_
      dsimp only
      split
      · exact reads_validated fun _ => trivial
      · trivial
    · trivial
  · trivial

theorem reads_purchaseContent (r : PurchaseRequest) :
    Reads incStored db (purchaseContent ⟨.validateFirst, incStored⟩ r) := by
  refine keeps_perform_of rfl fun _ member => ?_
  split
  · refine keeps_guard fun _ => reads_lookup trivial fun _ => ?_
    refine keeps_perform_of rfl fun _ found => ?_
    dsimp only
    split
    · refine keeps_guard fun _ => keeps_guard fun _ => ?_
      refine reads_lookup trivial fun _ => keeps_perform_of rfl fun _ method => ?_
      dsimp only
      split
      · exact reads_validated fun _ => trivial
      · trivial
    · trivial
  · trivial

/-! ## Subscriptions charge first -/

/-- The checks of `createSubscription` before it calls the gateway: the member
and the creator it goes on with, or `none`. -/
def SubscribeRequest.reaches (r : SubscribeRequest) (db : Db) : Option (Nat × Nat) :=
  match db.member? r.user, db.creator? r.creatorId with
  | some (memberId, _), some creator =>
    if (db.activeSubscription? r.user creator).isSome then none
    else (db.paymentMethod? r.user r.paymentMethodId).map fun _ => (memberId, creator)
  | _, _ => none

def SubscribeRequest.charged (r : SubscribeRequest) (creator : Nat) (db : Db) : Db :=
  { db with gateway :=
      db.gateway ++ [(.createSubscription r.user creator, isApproved r.gateway)] }

theorem run_createSubscription (cfg : Config) (r : SubscribeRequest) (db : Db) :
    ((createSubscription cfg r).run (exec cfg) db).1 =
      match r.reaches db with
      | none => db
      | some (m, creator) =>
        match r.gateway with
        | .error _ => r.charged creator db
        | .ok result =>
          ((recordSubscription cfg r m creator result).run (exec cfg)
            (r.charged creator db)).1 := by
  unfold createSubscription SubscribeRequest.reaches
  rw [run_findMember]
  cases db.member? r.user with
  | none => rfl
  | some =>
    dsimp only
    split
    · rename_i hcr
      rw [hcr]
      rfl
    · rw [run_lookup_creator]
      cases db.creator? r.creatorId with
      | none => rfl
      | some creator =>
        dsimp only
        rw [run_findActiveSubscription]
        by_cases hact : (db.activeSubscription? r.user creator).isSome = true
        · rw [if_pos hact, if_pos hact]
          rfl
        · rw [if_neg hact, if_neg hact]
          split
          · rename_i hme
            rw [hme]
            rfl
          · rw [run_lookup_paymentMethod]
            cases db.paymentMethod? r.user r.paymentMethodId with
            | none => rfl
            | some =>
              dsimp only [Option.map_some]
              have hch : (exec cfg (.callGateway (.createSubscription r.user creator)
                  (isApproved r.gateway)) db).1 = r.charged creator db := rfl
              rw [perform_bind, run_call, hch]
              cases r.gateway <;> rfl

variable {r : SubscribeRequest}

theorem run_recordSubscription (m : Nat) (result : SubscriptionResult) :
    let db' := ((recordSubscription ⟨.validateFirst, incStored⟩ r m creator result).run
      (exec ⟨.validateFirst, incStored⟩) db).1
    db'.payments = db.payments ∧ db'.earnings = db.earnings ∧ db'.gateway = db.gateway := by
  refine run_of_keeps (Q := fun (_ : Db) (o : Op) => o.writes = some .subscriptions)
    (I := fun (s : Db) => s.payments = db.payments ∧ s.earnings = db.earnings
      ∧ s.gateway = db.gateway)
    ?_ ⟨rfl, rfl, rfl⟩ ?_
  · rintro s o ⟨hpa, hea, hgw⟩ ho
    have hfra := frame_exec ⟨.validateFirst, incStored⟩ o s
    exact ⟨(hfra.payments_eq (by simp [ho])).trans hpa, (hfra.earnings_eq (by simp [ho])).trans hea,
      (hfra.gateway_eq (by simp [ho])).trans hgw⟩
  · unfold recordSubscription
    split
    · refine keeps_perform_of rfl fun _ id => ?_
      split
      · refine keeps_perform_of rfl fun _ _ => ?_
        split
        · trivial
        · rename_i hval
          obtain ⟨message, hmsg⟩ := validated_validateFirst _
          rw [hmsg] at hval
          cases hval
      · trivial
    · trivial

theorem after_subscribe :
    let db' := (Charge.subscribe r).after ⟨.validateFirst, incStored⟩ db
    db'.payments = db.payments ∧ db'.earnings = db.earnings ∧ db'.gateway =
      match r.reaches db with
      | none => db.gateway
      | some (_, creator) =>
        db.gateway ++ [(.createSubscription r.user creator, isApproved r.gateway)] := by
  have hrun := run_createSubscription ⟨.validateFirst, incStored⟩ r db
  simp only [Charge.after, Charge.request, handle, hrun]
  cases hrea : r.reaches db with
  | none => exact ⟨rfl, rfl, rfl⟩
  | some mc =>
    cases hgw : r.gateway with
    | error =>
      refine ⟨rfl, rfl, ?_⟩
      simp only [SubscribeRequest.charged, hgw]
    | ok result =>
      obtain ⟨hpa, hea, hlog⟩ := run_recordSubscription mc.1 result
      refine ⟨hpa, hea, hlog.trans ?_⟩
      simp only [SubscribeRequest.charged, hgw]

theorem after_tip (r : TipRequest) : (Charge.tip r).after ⟨.validateFirst, incStored⟩ db = db :=
  run_of_reads (reads_processTip r)

theorem after_purchase (r : PurchaseRequest) :
    (Charge.purchase r).after ⟨.validateFirst, incStored⟩ db = db :=
  run_of_reads (reads_purchaseContent r)

theorem newPayments_of_eq {db' : Db} (h : db'.payments = db.payments) :
    newPayments db db' = [] := by
  rw [newPayments, h]
  exact List.drop_length

theorem recorded_iff_refused {db' : Db} (hpa : db'.payments = db.payments)
    (hea : db'.earnings = db.earnings) (a : Bool) : Recorded db db' a ↔ a = false := by
  have hn := newPayments_of_eq hpa
  cases a with
  | true =>
    refine iff_of_false ?_ Bool.noConfusion
    rintro ⟨p, hp, -⟩
    rw [hn] at hp
    cases hp
  | false =>
    refine iff_of_true ⟨fun creator => ?_, fun p hp => ?_⟩ rfl
    · rw [balance, balance, hea]
    · rw [hn] at hp
      cases hp

theorem chargeRecorded_iff_of_asked {c : Charge} {call : GatewayCall} {approved : Bool}
    (h : (c.after cfg db).gateway = db.gateway ++ [(call, approved)]) :
    ChargeRecorded cfg c db ↔ Recorded db (c.after cfg db) approved := by
  constructor
  · intro hre
    exact hre call approved h
  · intro hre call' approved' hlog
    rw [h] at hlog
    have heq := List.append_cancel_left hlog
    simp only [List.cons.injEq, Prod.mk.injEq, and_true] at heq
    obtain ⟨-, rfl⟩ := heq
    exact hre

theorem chargeRecorded_of_unasked {c : Charge} (h : (c.after cfg db).gateway = db.gateway) :
    ChargeRecorded cfg c db := by
  intro call a hlog
  rw [h] at hlog
  simp at hlog

/-- When validation comes first, the outcome of a charge is recorded exactly
when no subscription reaches the gateway and is approved. -/
theorem charge_recorded_iff (incStored : Bool) (c : Charge) (db : Db) :
    ChargeRecorded ⟨.validateFirst, incStored⟩ c db ↔
      ∀ r, c = .subscribe r → (r.reaches db).isSome = true → isApproved r.gateway = false := by
  cases c with
  | tip =>
    constructor
    · intro _ r' hr'
      cases hr'
    · intro _
      exact chargeRecorded_of_unasked (by rw [after_tip])
  | purchase =>
    constructor
    · intro _ r' hr'
      cases hr'
    · intro _
      exact chargeRecorded_of_unasked (by rw [after_purchase])
  | subscribe r =>
    obtain ⟨hpay, hear, hgat⟩ := after_subscribe
    cases hrea : r.reaches db with
    | none =>
      rw [hrea] at hgat
      refine ⟨fun _ r' hr' hs => ?_, fun _ => chargeRecorded_of_unasked hgat⟩
      obtain rfl := Charge.subscribe.inj hr'
      rw [hrea] at hs
      cases hs
    | some =>
      rw [hrea] at hgat
      rw [chargeRecorded_iff_of_asked hgat, recorded_iff_refused hpay hear]
      constructor
      · intro href r' hr' _
        obtain rfl := Charge.subscribe.inj hr'
        exact href
      · intro h
        exact h r rfl (by rw [hrea]; rfl)

def approvedSubscription : SubscribeRequest :=
  { user := 0, creatorId := .id 0, tier := .str "basic", amount := .num (.fin 10),
    billingCycle := .str "monthly", paymentMethodId := .id 0,
    gateway := .ok ⟨some "S1", some "T1", none⟩, today := newYear }

theorem charge_recorded_fails_on_approval :
    ((Charge.subscribe approvedSubscription).after ⟨.validateFirst, true⟩ tipDb).gateway
        = [(.createSubscription 0 0, true)]
      ∧ newPayments tipDb
          ((Charge.subscribe approvedSubscription).after ⟨.validateFirst, true⟩ tipDb) = []
      ∧ ¬ ChargeRecorded ⟨.validateFirst, true⟩ (.subscribe approvedSubscription) tipDb := by
  have hlog : ((Charge.subscribe approvedSubscription).after ⟨.validateFirst, true⟩ tipDb).gateway
      = [(.createSubscription 0 0, true)] := by decide +kernel
  have hn : newPayments tipDb
      ((Charge.subscribe approvedSubscription).after ⟨.validateFirst, true⟩ tipDb) = [] := by
    decide +kernel
  refine ⟨hlog, hn, fun h => ?_⟩
  obtain ⟨p, hp, -⟩ := h _ true hlog
  rw [hn] at hp
  cases hp

end SexySelfies.Payments
