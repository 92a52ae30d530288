import SexySelfies.ChargeOutcome

/-!
# Buying the same content twice

`purchaseContent` looks for the member among `content.monetization.unlocks` and notes a purchase
there. The content schema declares no such path, so the guard never fires (`answer_ne_unlocked`).
What keeps the gateway from charging twice is another defect: a new payment is saved before the
charge, and Mongoose refuses it (`reaches_validateFirst`).
-/

namespace SexySelfies.Payments

open Js Platform Interleave

structure Attempt where
  paymentMethodId : Ref
  gateway : ChargeResult
  today : CivilDate.Date
  contentAccepted : Bool
  memberAccepted : Bool

def Attempt.request (user : Nat) (content : Ref) (a : Attempt) : PurchaseRequest :=
  { user, contentId := content, paymentMethodId := a.paymentMethodId, gateway := a.gateway,
    today := a.today, contentAccepted := a.contentAccepted, memberAccepted := a.memberAccepted }

def alreadyUnlocked : Response Data := .failure 400 "Content already unlocked"

variable (cfg : Config) (user : Nat) (content : Ref) (db : Db)

def attempt (a : Attempt) : Db :=
  ((purchaseContent cfg (a.request user content)).run (exec cfg) db).1

def answer (a : Attempt) : Response Data :=
  ((purchaseContent cfg (a.request user content)).run (exec cfg) db).2

def Charged (a : Attempt) : Prop :=
  ∃ call, (attempt cfg user content db a).gateway = db.gateway ++ [(call, true)]

/-- After a successful charge every request is answered that the content is
already unlocked, and none is charged. -/
def SoldOnce (as : List Attempt) : Prop :=
  ∀ before a later, as = before ++ a :: later →
    Charged cfg user content (Runs.final (attempt cfg user content) db before) a →
    Runs.Every (attempt cfg user content)
      (fun s b => answer cfg user content s b = alreadyUnlocked ∧ ¬ Charged cfg user content s b)
      (Runs.final (attempt cfg user content) db (before ++ [a])) later

theorem unlockedBy_hydrate (c : Content) (member : Nat) : c.hydrate.unlockedBy member = false := by
  have hpa : c.hydrate.fields.lookup "monetization" = none := by
    rw [Content.hydrate, lookup_strict (by decide)]
  rw [Content.unlockedBy, hpa]

theorem unlockedBy_content? {db : Db} {ref : Ref} {found : Nat × Content}
    (h : db.content? ref = some found) (member : Nat) : found.2.unlockedBy member = false := by
  unfold Db.content? at h
  split at h
  · simp only [Option.map_map, Option.map_eq_some_iff] at h
    obtain ⟨c, -, rfl⟩ := h
    exact unlockedBy_hydrate c member
  · cases h

theorem failure_ne_unlocked {status : Nat} (h : status ≠ 400) (message : String) :
    (.failure status message : Response Data) ≠ alreadyUnlocked :=
  fun heq => h (Response.failure.inj heq).1

/-! ## What a request does -/

variable (cfg : Config)

/-- The checks of `purchaseContent` before it calls the gateway: the content
and the payment it goes on with, or `none`. The guard is left out, as it never
fires. -/
def PurchaseRequest.reaches (r : PurchaseRequest) (db : Db) :
    Option (Nat × Payment) :=
  match db.member? r.user, db.content? r.contentId,
      db.paymentMethod? r.user r.paymentMethodId with
  | some (memberId, _), some (contentId, content), some _ =>
    match PaymentInput.validated cfg.saveOrder
        { user := r.user, member := memberId, creator := content.creator,
          amount := .num (.fin content.price), type := .unlock, status := .pending,
          ccbillTransactionId := none, ccbillSubscriptionId := none } with
    | .ok payment => some (contentId, payment)
    | .error _ => none
  | _, _, _ => none

/-- The part of the handler after the gateway: it does not ask again, and does
not answer as the guard does. -/
def Proceeds (db : Db) (p : Handler) : Prop :=
  Keeps (exec cfg) Eq (fun _ _ => True) (fun _ o => o.writes ≠ some .gateway) db p
    ∧ p.Answers (· ≠ alreadyUnlocked)

variable {r : PurchaseRequest} {db : Db}

theorem purchaseContent_reaches :
    (r.reaches cfg db = none ∧ ∃ status message, status ≠ 400
        ∧ (purchaseContent cfg r).run (exec cfg) db = (db, .failure status message))
      ∨ ∃ c pa db' p, r.reaches cfg db = some (c, pa) ∧ db'.gateway
          = db.gateway ++ [(.chargePaymentToken r.user (some c), isApproved r.gateway)]
        ∧ (purchaseContent cfg r).run (exec cfg) db = p.run (exec cfg) db'
        ∧ Proceeds cfg db' p := by
  unfold purchaseContent PurchaseRequest.reaches
  rw [run_findMember]
  cases db.member? r.user with
  | none => exact .inl ⟨rfl, 404, _, by decide, rfl⟩
  | some =>
    dsimp only
    by_cases hc : r.contentId = .malformed
    · rw [if_pos hc, hc]
      exact .inl ⟨rfl, 500, _, by decide, rfl⟩
    · rw [if_neg hc, run_lookup_content]
      cases hf : db.content? r.contentId with
      | none => exact .inl ⟨rfl, 404, _, by decide, rfl⟩
      | some =>
        dsimp only
        rw [unlockedBy_content? hf, if_neg Bool.false_ne_true]
        by_cases hme : r.paymentMethodId = .malformed
        · rw [if_pos hme, hme]
          exact .inl ⟨rfl, 500, _, by decide, rfl⟩
        · rw [if_neg hme, run_lookup_paymentMethod]
          cases db.paymentMethod? r.user r.paymentMethodId with
          | none => exact .inl ⟨rfl, 404, _, by decide, rfl⟩
          | some =>
            dsimp only
            cases PaymentInput.validated cfg.saveOrder _ with
            | error => exact .inl ⟨rfl, 500, _, by decide, rfl⟩
            | ok =>
              dsimp only
              rw [perform_bind, run_call, perform_bind, run_call]
              refine .inr ⟨_, _, _, _, rfl, rfl, rfl, ?_, ?_⟩
              · split
                · trivial
                · refine keeps_perform_of (by simp [Op.writes]) fun _ _ => ?_
                  refine keeps_perform_of (by simp [Op.writes]) fun _ used => ?_
                  refine keeps_guard fun _ => ?_
                  refine keeps_perform_of (by simp [Op.writes]) fun _ stored => ?_
                  refine keeps_guard fun _ => ?_
                  refine keeps_perform_of (by simp [Op.writes]) fun _ noted => ?_
                  refine keeps_guard fun _ => ?_
                  exact keeps_perform_of (by simp [Op.writes]) fun _ _ => trivial
              · have h500 := failure_ne_unlocked (by decide : 500 ≠ 400)
                split
                · exact h500 _
                · refine answers_perform fun _ => answers_perform fun _ => ?_
                  refine answers_ite (fun _ => h500 _) fun _ => answers_perform fun _ => ?_
                  refine answers_ite (fun _ => h500 _) fun _ => answers_perform fun _ => ?_
                  refine answers_ite (fun _ => h500 _) fun _ => answers_perform fun _ => ?_
                  intro heq
                  cases heq

theorem answer_ne_unlocked :
    ((purchaseContent cfg r).run (exec cfg) db).2 ≠ alreadyUnlocked := by
  rcases purchaseContent_reaches cfg with
    ⟨-, status, message, hst, hrun⟩ | ⟨_, _, db', p, -, -, hrun, -, han⟩
  · rw [hrun]
    exact failure_ne_unlocked hst message
  · rw [hrun]
    exact run_answers han db'

/-! ## What is charged -/

theorem gateway_purchase : ((purchaseContent cfg r).run (exec cfg) db).1.gateway =
      match r.reaches cfg db with
      | none => db.gateway
      | some (c, _) =>
        db.gateway ++ [(.chargePaymentToken r.user (some c), isApproved r.gateway)] := by
  rcases purchaseContent_reaches cfg with
    ⟨hrea, _, _, -, hrun⟩ | ⟨_, _, db', p, hrea, hgw, hrun, hkee, -⟩
  · rw [hrun, hrea]
  · rw [hrun, hrea]
    refine run_of_keeps (I := fun (s : Db) => s.gateway = _) (fun s o hs ho => ?_) hgw hkee
    exact ((frame_exec cfg o s).gateway_eq ho).trans hs

variable (user : Nat)

/-- The request passes the checks before the gateway, and the gateway
approves. -/
def WillCharge (content : Ref) (db : Db) (a : Attempt) : Prop :=
  ((a.request user content).reaches cfg db).isSome = true ∧ isApproved a.gateway = true

instance (cfg : Config) (user : Nat) (content : Ref) (db : Db) (a : Attempt) :
    Decidable (WillCharge cfg user content db a) := by
  unfold WillCharge
  infer_instance

theorem charged_iff (content : Ref) (a : Attempt) :
    Charged cfg user content db a ↔ WillCharge cfg user content db a := by
  unfold Charged attempt WillCharge
  rw [gateway_purchase]
  cases (a.request user content).reaches cfg db with
  | none => simp
  | some => simp [Attempt.request]

/-- Requests of one member for one item charge at most once, and are then answered that it is
unlocked, exactly when no request but the last will charge. -/
theorem sold_once_iff (content : Ref) (db : Db)
    (as : List Attempt) :
    SoldOnce cfg user content db as ↔ ∀ before a later, as = before ++ a :: later →
      WillCharge cfg user content (Runs.final (attempt cfg user content) db before) a →
      later = [] := by
  constructor
  · intro h before a later heq hchar
    cases later with
    | nil => rfl
    | cons b later =>
      have hlat := h before a (b :: later) heq ((charged_iff ..).mpr hchar)
      exact absurd hlat.1.1 (answer_ne_unlocked cfg)
  · intro h before a later heq hcha
    rw [h before a later heq ((charged_iff ..).mp hcha)]
    trivial

theorem reaches_validateFirst (incStored : Bool) (r : PurchaseRequest) (db : Db) :
    r.reaches ⟨.validateFirst, incStored⟩ db = none := by
  unfold PurchaseRequest.reaches
  split
  · rename_i memberId _ _ content _ _ _ _
    obtain ⟨message, hmsg⟩ := validated_validateFirst
      { user := r.user, member := memberId, creator := content.creator,
        amount := .num (.fin content.price), type := .unlock, status := .pending,
        ccbillTransactionId := none, ccbillSubscriptionId := none }
    simp only [hmsg]
  · rfl

/-- In the order of Mongoose, where validation comes before the hooks, one
member is never charged twice for one item, however often they ask. -/
theorem sold_once (incStored : Bool) (user : Nat) (content : Ref) (db : Db) (as : List Attempt) :
    SoldOnce ⟨.validateFirst, incStored⟩ user content db as := by
  intro before a later _ hcha
  obtain ⟨hre, -⟩ := (charged_iff ..).mp hcha
  rw [reaches_validateFirst] at hre
  cases hre

def itemDb : Db := { tipDb with contents := [⟨0, []⟩] }

def approvedAttempt (transactionId : String) : Attempt :=
  { paymentMethodId := .id 0, gateway := .ok (some transactionId), today := newYear,
    contentAccepted := true, memberAccepted := true }

/-- Were the hooks to run first, two approved requests would charge twice. -/
theorem sold_twice :
    (Runs.final (attempt ⟨.hooksFirst, true⟩ 0 (.id 0)) itemDb
        [approvedAttempt "T1", approvedAttempt "T2"]).gateway
        = [(.chargePaymentToken 0 (some 0), true), (.chargePaymentToken 0 (some 0), true)]
      ∧ ¬ SoldOnce ⟨.hooksFirst, true⟩ 0 (.id 0) itemDb
        [approvedAttempt "T1", approvedAttempt "T2"] := by
  refine ⟨by decide +kernel, fun h => ?_⟩
  have hf : WillCharge ⟨.hooksFirst, true⟩ 0 (.id 0) itemDb (approvedAttempt "T1") := by
    decide +kernel
  have hlat := h [] _ _ rfl ((charged_iff ..).mpr hf)
  exact absurd hlat.1.1 (answer_ne_unlocked _)

end SexySelfies.Payments
