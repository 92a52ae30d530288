import SexySelfies.AdminModel
import SexySelfies.PayoutReview

/-!
# Errors and changes at the admin endpoints

The endpoints that decide about a payout request, and `createAdmin`, write first and log the action
second, and the log refuses the model names they give it. So every call is answered with an error,
which is right exactly when it is refused before its first write.
-/

namespace SexySelfies

namespace Payout

open Js Platform Interleave

/-! ## What is left unchanged -/

/-- The request and the flags of its transactions are as before. -/
structure Unchanged (id : Nat) (db db' : Db) : Prop where
  request : db'.payoutRequests[id]? = db.payoutRequests[id]?
  flags : ∀ r ∈ db.payoutRequests[id]?, ∀ i ∈ r.transactions, db'.flags[i]? = db.flags[i]?

/-- The call is refused before its first write: the request is not there or has another status, a
text is missing or does not cast; or it flags only what is flagged, with no such reference. -/
def Review.Stops (db : Db) : Review → Prop
  | .approve (some id) notes => (db.hasStatus id .pending && castsToString notes) = false
  | .reject (some id) reason => (isReason reason && db.hasStatus id .pending) = false
  | .process (some id) paymentReference =>
    db.hasStatus id .approved = true →
      castsToString paymentReference = false
        ∧ ∀ r ∈ db.payoutRequests[id]?, ∀ i ∈ r.transactions, db.flags[i]? ≠ some false
  | _ => True

theorem Unchanged.refl (id : Nat) (db : Db) : Unchanged id db db := ⟨rfl, fun _ _ _ _ => rfl⟩

variable {db : Db} {id : Nat}

theorem request_saveStatus (status : PayoutStatus) : (db.saveStatus id status).payoutRequests[id]?
      = (db.payoutRequests[id]?).map fun r => { r with status := status } := by
  simp [Db.saveStatus, exec]

theorem changed_saveStatus {db db' : Db} {id : Nat} {before after : PayoutStatus}
    (h : db.hasStatus id before) (hne : after ≠ before)
    (hs : db'.payoutRequests[id]? = db.payoutRequests[id]?) :
    (db'.saveStatus id after).payoutRequests[id]? ≠ db.payoutRequests[id]? := by
  rw [request_saveStatus, hs]
  cases hget : db.payoutRequests[id]? with
  | none =>
    rw [hasStatus_of_none hget] at h
    cases h
  | some r =>
    rw [hasStatus_of_some hget, decide_eq_true_eq] at h
    intro heq
    have hst : after = r.status := congrArg PayoutRequest.status (Option.some.inj heq)
    exact hne (hst.trans h)

theorem unchanged_flagListed_iff : Unchanged id db (db.flagListed id) ↔
      ∀ r ∈ db.payoutRequests[id]?, ∀ i ∈ r.transactions, db.flags[i]? ≠ some false := by
  have hreq : (db.flagListed id).payoutRequests = db.payoutRequests := rfl
  have hfl : ∀ r ∈ db.payoutRequests[id]?, ∀ i ∈ r.transactions,
      ((db.flagListed id).flags[i]? = db.flags[i]? ↔ db.flags[i]? ≠ some false) := by
    intro r hr i hi
    rw [Db.flagListed, Option.mem_def.mp hr, Option.elim_some]
    simp only [exec, Db.flags, List.getElem?_map, Collection.getElem?_updateMany, hi, if_true,
      Option.map_map]
    cases db.transactions[i]? with
    | none => simp
    | some t =>
      simp only [Option.map_some, Function.comp_apply, Transaction.flag]
      cases t.payoutProcessed <;> simp
  constructor
  · intro h r hr i hi
    exact (hfl r hr i hi).mp (h.flags r hr i hi)
  · intro h
    exact ⟨by rw [hreq], fun r hr i hi => (hfl r hr i hi).mpr (h r hr i hi)⟩

theorem unchanged_save_iff {db : Db} {id : Nat} {before after : PayoutStatus} {b : Bool}
    (hbef : b → db.hasStatus id before) (hne : after ≠ before) :
    Unchanged id db (if b then db.saveStatus id after else db) ↔ b = false := by
  cases b with
  | false => exact iff_of_true (.refl id db) rfl
  | true =>
    refine iff_of_false (fun h => ?_) (by decide)
    exact changed_saveStatus (hbef rfl) hne rfl h.request

theorem unchanged_process_iff (p : Value) :
    Unchanged id db ((Review.process (some id) p).after db) ↔
      (Review.process (some id) p).Stops db := by
  rw [Review.after, Review.Stops]
  cases happ : db.hasStatus id .approved with
  | false =>
    rw [if_neg Bool.false_ne_true]
    exact iff_of_true (.refl id db) fun h => by cases h
  | true =>
    rw [if_pos rfl]
    cases hc : castsToString p with
    | true =>
      rw [if_pos rfl]
      refine iff_of_false (fun h => ?_) fun h => by cases (h rfl).1
      exact changed_saveStatus happ (by decide) rfl h.request
    | false =>
      rw [if_neg Bool.false_ne_true, unchanged_flagListed_iff]
      exact ⟨fun h _ => ⟨rfl, h⟩, fun h => (h rfl).2⟩

variable (c : Review)

theorem unchanged_after_iff :
    (∀ id ∈ c.requestId, Unchanged id db (c.after db)) ↔ c.Stops db := by
  cases hid : c.requestId with
  | none =>
    have hst : c.Stops db := by
      cases c <;> cases hid <;> trivial
    exact iff_of_true (fun id h => by cases h) hst
  | some id =>
    simp only [Option.mem_some_iff, forall_eq']
    cases c with
    | approve requestId notes =>
      obtain rfl : requestId = some id := hid
      exact unchanged_save_iff (fun h => ((Bool.and_eq_true _ _).mp h).1) (by decide)
    | reject requestId reason =>
      obtain rfl : requestId = some id := hid
      exact unchanged_save_iff (fun h => ((Bool.and_eq_true _ _).mp h).2) (by decide)
    | process requestId p =>
      obtain rfl : requestId = some id := hid
      exact unchanged_process_iff p

/-- A failure is answered exactly when nothing was changed. -/
def Review.Honest (db : Db) : Prop :=
  (c.handler.run exec db).2.isSuccess = false ↔
    ∀ id ∈ c.requestId, Unchanged id db (c.handler.run exec db).1

theorem honest_iff_stops : c.Honest db ↔ c.Stops db := by
  obtain ⟨status, error, hrun⟩ := ends_review c
  rw [Review.Honest, hrun, unchanged_after_iff]
  exact ⟨fun h => h.mp rfl, fun h => ⟨fun _ => h, fun _ => rfl⟩⟩

end Payout

namespace Admins

open Payout

def CreateRequest.Honest (env : Env) (r : CreateRequest) (db : Db) : Prop :=
  (createAdmin env r db).2.isSuccess = false ↔
    (createAdmin env r db).1.admins.length = db.admins.length

/-- Every call of the four endpoints answers with an error; it is right to
exactly when the call stops before its first write. -/
theorem honest_iff (c : Review) (requests : Payout.Db) (env : Env) (r : CreateRequest) (db : Db) :
    (c.Honest requests ↔ c.Stops requests) ∧ (r.Honest env db ↔ r.creates env db = false) := by
  refine ⟨honest_iff_stops c, ?_⟩
  obtain ⟨hf, hunc⟩ := createAdmin_spec env r db
  rw [CreateRequest.Honest, hf, hunc]
  exact ⟨fun h => h.mp rfl, fun h => ⟨fun _ => h, fun _ => rfl⟩⟩

theorem one_le_ten : (1 : ℚ) ≤ 10 := by norm_num

theorem zero_le_ten : (0 : ℚ) ≤ 10 := zero_le_one.trans one_le_ten

theorem matchesEmail_sample : matchesEmail "a@b.co" := by decide

def pendingRequest : PayoutRequest :=
  { creator := 0, requestedAmount := 10, availableAmount := 10, paypalEmail := "a@b.co",
    status := .pending, adminNotificationSent := true, transactions := [],
    one_le_requestedAmount := one_le_ten, availableAmount_nonneg := zero_le_ten,
    matchesEmail_paypalEmail := matchesEmail_sample }

theorem honest_fails_on_approval :
    let db : Payout.Db := ⟨[⟨0⟩], [], [pendingRequest], []⟩
    let run := (approvePayoutRequest (some 0) (.str "ok")).run exec db
    run.2 = .failure 500 "Failed to approve payout request"
      ∧ run.1.payoutRequests.map PayoutRequest.status = [.approved]
      ∧ ¬ (Review.approve (some 0) (.str "ok")).Honest db := by
  refine ⟨rfl, rfl, fun h => ?_⟩
  have hst := (honest_iff_stops _).mp h
  cases hst

end Admins

end SexySelfies
