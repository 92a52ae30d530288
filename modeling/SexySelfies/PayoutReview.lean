import SexySelfies.PayoutModel

/-!
# What the review endpoints store

`approvePayoutRequest`, `rejectPayoutRequest` and `markPayoutProcessed` run alone on a store. Each
ends in an error, and what it has stored by then is `Review.after`.
-/

namespace SexySelfies.Payout

open Js Platform Interleave

/-! ## The endpoints -/

inductive Review where
  | approve (requestId : Option Nat) (notes : Value)
  | reject (requestId : Option Nat) (reason : Value)
  | process (requestId : Option Nat) (paymentReference : Value)

def Review.handler : Review → Handler
  | .approve requestId notes => approvePayoutRequest requestId notes
  | .reject requestId reason => rejectPayoutRequest requestId reason
  | .process requestId paymentReference => markPayoutProcessed requestId paymentReference

def Review.requestId : Review → Option Nat
  | .approve requestId _ => requestId
  | .reject requestId _ => requestId
  | .process requestId _ => requestId

variable (db : Db)

def Db.hasStatus (id : Nat) (status : PayoutStatus) : Bool :=
  (db.payoutRequests[id]?).any fun r => r.status = status

def isReason : Value → Bool
  | .str text => (trim text.toList).length ≠ 0
  | _ => false

def Db.saveStatus (id : Nat) (status : PayoutStatus) : Db :=
  (exec (.saveStatus id status) db).1

def Db.flagListed (id : Nat) : Db :=
  (exec (.flagTransactions ((db.payoutRequests[id]?).elim [] PayoutRequest.transactions)) db).1

def Review.after : Review → Db
  | .approve (some id) notes =>
    if db.hasStatus id .pending && castsToString notes then db.saveStatus id .approved else db
  | .reject (some id) reason =>
    if isReason reason && db.hasStatus id .pending then db.saveStatus id .rejected else db
  | .process (some id) paymentReference =>
    if db.hasStatus id .approved then
      if castsToString paymentReference then (db.flagListed id).saveStatus id .processed
      else db.flagListed id
    else db
  | _ => db

def Ends (p : Handler) (db after : Db) : Prop :=
  ∃ status error, p.run exec db = (after, .failure status error)

variable {db : Db}

theorem hasStatus_of_some {id : Nat} {r : PayoutRequest} (h : db.payoutRequests[id]? = some r)
    (status : PayoutStatus) : db.hasStatus id status = decide (r.status = status) := by
  rw [Db.hasStatus, h]
  rfl

theorem hasStatus_of_none {id : Nat} {status : PayoutStatus} (h : db.payoutRequests[id]? = none) :
    db.hasStatus id status = false := by
  rw [Db.hasStatus, h]
  rfl

theorem ends_findById (id : Nat) (status : PayoutStatus) {f : Option PayoutRequest → Handler}
    {after : Db} (ha : db.hasStatus id status = false → after = db)
    (hn : Ends (f none) db db) (ho : ∀ r, r.status ≠ status → Ends (f (some r)) db db)
    (hf : ∀ r, db.payoutRequests[id]? = some r → r.status = status →
      db.hasStatus id status → Ends (f (some r)) db after) :
    Ends (perform (Op.findById id) >>= f) db after := by
  unfold Ends
  rw [perform_bind, run_call]
  dsimp only [exec]
  cases hget : db.payoutRequests[id]? with
  | none =>
    rwa [ha (hasStatus_of_none hget)]
  | some r =>
    have hhas := hasStatus_of_some hget status
    by_cases hst : r.status = status
    · exact hf r hget hst (hhas.trans (decide_eq_true hst))
    · rw [ha (hhas.trans (decide_eq_false hst))]
      exact ho r hst

variable {requestId : Option Nat}

theorem ends_approve (notes : Value) :
    Ends (approvePayoutRequest requestId notes) db ((Review.approve requestId notes).after db) := by
  have hlog : logAction "PayoutRequest" = false := by decide
  unfold approvePayoutRequest
  cases requestId with
  | none => exact ⟨_, _, rfl⟩
  | some id =>
    refine ends_findById id .pending (fun hno => ?_) ⟨_, _, rfl⟩ (fun r ho => ?_)
      fun r _ hp hhas => ?_
    · rw [Review.after, hno, Bool.false_and, if_neg Bool.false_ne_true]
    · simp [Ends, ho]
    · rw [Review.after, hhas]
      cases hc : castsToString notes with
      | false => simp [Ends, hp]
      | true => simp [Ends, hp, hlog, Db.saveStatus]

theorem ends_reject_of_not {reason : Value} (h : isReason reason = false) :
    Ends (rejectPayoutRequest requestId reason) db db := by
  unfold rejectPayoutRequest
  cases htr : reason.truthy with
  | false => exact ⟨_, _, rfl⟩
  | true =>
    cases reason with
    | str text =>
      have he : (trim text.toList).length = 0 := by simpa [isReason] using h
      refine ⟨400, "Rejection reason is required", ?_⟩
      simp [he]
    | _ => exact ⟨_, _, rfl⟩

theorem ends_reject (reason : Value) :
    Ends (rejectPayoutRequest requestId reason) db ((Review.reject requestId reason).after db) := by
  have hlog : logAction "PayoutRequest" = false := by decide
  cases hre : isReason reason with
  | false =>
    have ha : (Review.reject requestId reason).after db = db := by
      cases requestId with
      | none => rfl
      | some => rw [Review.after, hre, Bool.false_and, if_neg Bool.false_ne_true]
    rw [ha]
    exact ends_reject_of_not hre
  | true =>
    cases reason with
    | str text =>
      have htr : (trim text.toList).length ≠ 0 := of_decide_eq_true hre
      have hte : text ≠ "" := by
        rintro rfl
        exact htr rfl
      cases requestId with
      | none =>
        refine ⟨500, "Failed to reject payout request", ?_⟩
        simp [rejectPayoutRequest, Review.after, Value.truthy, hte, htr]
      | some id =>
        simp only [rejectPayoutRequest, Value.truthy, hte, htr, ne_eq,
          not_false_eq_true, decide_true, Bool.not_true, Bool.false_eq_true, if_false]
        refine ends_findById id .pending (fun hno => ?_) ⟨_, _, rfl⟩ (fun r ho => ?_)
          fun r _ hp hhas => ?_
        · rw [Review.after, hno, Bool.and_false, if_neg Bool.false_ne_true]
        · simp [Ends, ho]
        · simp [Ends, Review.after, hre, hhas, hp, hlog, Db.saveStatus]
    | _ => cases hre

theorem ends_process (p : Value) : Ends (markPayoutProcessed requestId p) db
      ((Review.process requestId p).after db) := by
  have hlog : logAction "PayoutRequest" = false := by decide
  unfold markPayoutProcessed
  cases requestId with
  | none => exact ⟨_, _, rfl⟩
  | some id =>
    refine ends_findById id .approved (fun hno => ?_) ⟨_, _, rfl⟩ (fun r ho => ?_)
      fun r hget happ hhas => ?_
    · rw [Review.after, hno, if_neg Bool.false_ne_true]
    · simp [Ends, ho]
    · have hl : db.flagListed id = (exec (.flagTransactions r.transactions) db).1 := by
        rw [Db.flagListed, hget]
        rfl
      rw [Review.after, hhas, if_pos rfl, hl]
      cases hids : r.transactions with
      | nil | cons i ids =>
        cases hc : castsToString p with
        | false => simp [Ends, happ, hids, exec]
        | true => simp [Ends, happ, hids, exec, hlog, Db.saveStatus]

theorem ends_review (c : Review) : Ends c.handler db (c.after db) := by
  cases c with
  | approve requestId notes => exact ends_approve notes
  | reject requestId reason => exact ends_reject reason
  | process requestId p => exact ends_process p

end SexySelfies.Payout
