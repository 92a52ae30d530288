import SexySelfies.Collection
import SexySelfies.Interleave
import SexySelfies.TransactionModel

/-!
# Payout requests

`controllers/payout.controller.js` and `models/PayoutRequest.js`: a creator asks for money, an admin
approves or rejects, pays by hand, and marks the request processed, which flags the transactions it
lists. Nothing holds a lock across `findOne` and `save`.

- `createPayoutRequest` refuses a creator with a *pending* request; an approved one does not stop
  it, and its transactions are still unflagged.
- `markProcessed` flags the transactions first and saves the request second.
- `logAction` refuses the model name `PayoutRequest`, so approving, rejecting and processing answer
  500 after having written.
-/

namespace SexySelfies

open Js Platform Interleave

namespace Payout

/-! ## Documents -/

inductive PayoutStatus where
  | pending | approved | processed | rejected | cancelled
deriving DecidableEq

def isWordChar (c : Char) : Bool := c.isAlphanum || c = '_'

/-- `\w+([\.-]?\w+)*`: words joined by single dots or dashes. -/
def joinedWords (afterWord : Bool) : List Char → Bool
  | [] => afterWord
  | c :: cs =>
    if isWordChar c then joinedWords true cs
    else afterWord && (c = '.' || c = '-') && joinedWords false cs

/-- The pattern of `paypalEmail`: joined words, `@`, joined words, and a last
dot followed by two or three word characters. -/
def matchesEmail (s : String) : Bool :=
  match s.toList.span (· ≠ '@') with
  | (user, _ :: domain) =>
    let tail := (domain.reverse.takeWhile (· ≠ '.')).reverse
    let host := (domain.reverse.dropWhile (· ≠ '.')).tail.reverse
    joinedWords false user && joinedWords false host && tail.all isWordChar
      && (tail.length = 2 || tail.length = 3)
  | _ => false

structure PayoutRequest where
  creator : Nat
  requestedAmount : ℚ
  availableAmount : ℚ
  paypalEmail : String
  status : PayoutStatus
  adminNotificationSent : Bool
  transactions : List Nat
  one_le_requestedAmount : 1 ≤ requestedAmount
  availableAmount_nonneg : 0 ≤ availableAmount
  matchesEmail_paypalEmail : matchesEmail paypalEmail = true

/-- `new PayoutRequest({...})` as `save` validates it. -/
def PayoutRequest.validated (creator : Nat) (requestedAmount : Value) (availableAmount : ℚ)
    (paypalEmail : String) (message : Value) (transactions : List Nat) : Option PayoutRequest :=
  match castNumber requestedAmount with
  | some (some (.fin amount)) =>
    if h : 1 ≤ amount ∧ 0 ≤ availableAmount ∧ matchesEmail paypalEmail = true then
      if castsWithin 500 message then
        some
          { creator, requestedAmount := amount, availableAmount, paypalEmail,
            status := .pending, adminNotificationSent := false, transactions,
            one_le_requestedAmount := h.1, availableAmount_nonneg := h.2.1,
            matchesEmail_paypalEmail := h.2.2 }
      else none
    else none
  | _ => none

structure Creator where
  user : Nat

structure CreatorProfile where
  creator : Nat
  paypalEmail : Option String
  minimumPayout : Option ℚ

structure Db where
  creators : List Creator
  profiles : List CreatorProfile
  payoutRequests : List PayoutRequest
  transactions : List Transaction

def unpaid (creator : Nat) (t : Transaction) : Bool :=
  t.creator = creator && t.status = .completed && !t.payoutProcessed

def Db.unpaidIds (db : Db) (creator : Nat) : List Nat :=
  (List.range db.transactions.length).filter fun i =>
    (db.transactions[i]?).any (unpaid creator)

def Db.earningsOf (db : Db) (i : Nat) : ℚ :=
  (db.transactions[i]?).elim 0 Transaction.creatorEarnings

structure EarningsData where
  totalEarnings : ℚ
  transactionIds : List Nat

def Db.aggregateEarnings (db : Db) (creator : Nat) : Option EarningsData :=
  match db.unpaidIds creator with
  | [] => none
  | ids => some { totalEarnings := (ids.map db.earningsOf).sum, transactionIds := ids }

def Transaction.flag (t : Transaction) : Transaction := { t with payoutProcessed := true }

inductive Op where
  | findCreator (user : Nat)
  | findProfile (creator : Nat)
  | findPending (creator : Nat)
  | aggregateEarnings (creator : Nat)
  | insert (r : PayoutRequest)
  | saveNotified (id : Nat)
  | findById (id : Nat)
  | findOfCreator (id creator : Nat)
  | saveStatus (id : Nat) (status : PayoutStatus)
  | flagTransactions (ids : List Nat)

@[reducible] def Op.Res : Op → Type
  | .findCreator _ => Option (Nat × Creator)
  | .findProfile _ => Option (Nat × CreatorProfile)
  | .findPending _ => Option (Nat × PayoutRequest)
  | .aggregateEarnings _ => Option EarningsData
  | .insert _ => Nat
  | .saveNotified _ => Unit
  | .findById _ => Option PayoutRequest
  | .findOfCreator _ _ => Option PayoutRequest
  | .saveStatus _ _ => Unit
  | .flagTransactions _ => Unit

/-- The effect of an operation. `save` on a loaded document writes the paths
the handler assigned and no others. -/
def exec : (o : Op) → Db → Db × o.Res
  | .findCreator user, db =>
    (db, Collection.findOne (fun c => c.user = user) db.creators)
  | .findProfile creator, db =>
    (db, Collection.findOne (fun p => p.creator = creator) db.profiles)
  | .findPending creator, db =>
    (db, Collection.findOne (fun r => r.creator = creator && r.status = .pending)
      db.payoutRequests)
  | .aggregateEarnings creator, db => (db, db.aggregateEarnings creator)
  | .insert r, db =>
    ({ db with payoutRequests := db.payoutRequests ++ [r] }, db.payoutRequests.length)
  | .saveNotified id, db =>
    ({ db with payoutRequests :=
        db.payoutRequests.modify id fun r => { r with adminNotificationSent := true } }, ())
  | .findById id, db => (db, db.payoutRequests[id]?)
  | .findOfCreator id creator, db =>
    (db, (db.payoutRequests[id]?).filter fun r => r.creator = creator)
  | .saveStatus id status, db =>
    ({ db with payoutRequests :=
        db.payoutRequests.modify id fun r => { r with status := status } }, ())
  | .flagTransactions ids, db =>
    ({ db with transactions :=
        Collection.updateMany ids Transaction.flag db.transactions }, ())

/-! ## Handlers -/

abbrev Handler := Proc Op.Res (Response (Nat × PayoutRequest))

def logAction (targetUserModel : String) : Bool :=
  targetUserModel ∈ ["User", "Creator", "Member"]

/-- A `requestId` that is not an object id is `none`: looking it up is a
`CastError`. `notified` tells whether the notification mail goes out. -/
def createPayoutRequest (user : Nat) (requestedAmount message : Value) (notified : Bool) :
    Handler := do
  if !requestedAmount.truthy || requestedAmount.toNumber.le (.fin 0) then
    return .failure 400 "Valid payout amount is required"
  let some (creator, _) ← perform (Op.findCreator user)
    | return .failure 404 "Creator profile not found"
  let profile ← perform (Op.findProfile creator)
  let some paypalEmail := profile.bind fun p => p.2.paypalEmail.filter (· ≠ "")
    | return .failure 400 "Please set your PayPal email in settings before requesting a payout"
  let existingRequest ← perform (Op.findPending creator)
  if existingRequest.isSome then
    return .failure 400 "You already have a pending payout request"
  let earningsData ← perform (Op.aggregateEarnings creator)
  let availableAmount := (earningsData.map (·.totalEarnings)).getD 0
  let transactionIds := (earningsData.map (·.transactionIds)).getD []
  if (Number.fin availableAmount).lt requestedAmount.toNumber then
    -- only a number has `toFixed`; the message of any other value throws
    let .num n := requestedAmount | return .failure 500 "Failed to create payout request"
    return .failure 400 ("Insufficient funds. Available: $" ++ toFixed2 availableAmount
      ++ ", Requested: $" ++ n.toFixed2)
  let minimumPayout :=
    ((profile.bind (·.2.minimumPayout)).filter (· ≠ 0)).getD 50
  if requestedAmount.toNumber.lt (.fin minimumPayout) then
    return .failure 400 ("Minimum payout amount is $" ++ toFixed2 minimumPayout)
  let some payoutRequest := PayoutRequest.validated creator requestedAmount availableAmount
      paypalEmail message transactionIds
    | return .failure 500 "Failed to create payout request"
  let id ← perform (Op.insert payoutRequest)
  if notified then
    perform (Op.saveNotified id)
  return .success 201 "Payout request submitted successfully" (some (id, payoutRequest))

def cancelPayoutRequest (user : Nat) (requestId : Option Nat) : Handler := do
  let some (creator, _) ← perform (Op.findCreator user)
    | return .failure 404 "Creator profile not found"
  let some id := requestId | return .failure 500 "Failed to cancel payout request"
  let some payoutRequest ← perform (Op.findOfCreator id creator)
    | return .failure 404 "Payout request not found"
  if payoutRequest.status ≠ .pending then
    return .failure 400 "Only pending requests can be cancelled"
  perform (Op.saveStatus id .cancelled)
  return .success 200 "Payout request cancelled successfully" none

variable (requestId : Option Nat)

def approvePayoutRequest (notes : Value) : Handler := do
  let some id := requestId | return .failure 500 "Failed to approve payout request"
  let some payoutRequest ← perform (Op.findById id)
    | return .failure 404 "Payout request not found"
  if payoutRequest.status ≠ .pending then
    return .failure 400 "Only pending requests can be approved"
  if !castsToString notes then
    return .failure 500 "Failed to approve payout request"
  perform (Op.saveStatus id .approved)
  if !logAction "PayoutRequest" then
    return .failure 500 "Failed to approve payout request"
  return .success 200 "Payout request approved successfully"
    (some (id, { payoutRequest with status := .approved }))

def rejectPayoutRequest (reason : Value) : Handler := do
  if !reason.truthy then
    return .failure 400 "Rejection reason is required"
  -- only a string has `trim`
  let .str text := reason | return .failure 500 "Failed to reject payout request"
  if (trim text.toList).length = 0 then
    return .failure 400 "Rejection reason is required"
  let some id := requestId | return .failure 500 "Failed to reject payout request"
  let some payoutRequest ← perform (Op.findById id)
    | return .failure 404 "Payout request not found"
  if payoutRequest.status ≠ .pending then
    return .failure 400 "Only pending requests can be rejected"
  perform (Op.saveStatus id .rejected)
  if !logAction "PayoutRequest" then
    return .failure 500 "Failed to reject payout request"
  return .success 200 "Payout request rejected successfully" none

def markPayoutProcessed (paymentReference : Value) : Handler := do
  let some id := requestId | return .failure 500 "Failed to mark payout as processed"
  let some payoutRequest ← perform (Op.findById id)
    | return .failure 404 "Payout request not found"
  if payoutRequest.status ≠ .approved then
    return .failure 400 "Only approved requests can be marked as processed"
  if payoutRequest.transactions.length > 0 then
    perform (Op.flagTransactions payoutRequest.transactions)
  if !castsToString paymentReference then
    return .failure 500 "Failed to mark payout as processed"
  perform (Op.saveStatus id .processed)
  if !logAction "PayoutRequest" then
    return .failure 500 "Failed to mark payout as processed"
  return .success 200 "Payout marked as processed successfully"
    (some (id, { payoutRequest with status := .processed }))

inductive Call where
  | create (user : Nat) (requestedAmount message : Value) (notified : Bool)
  | cancel (user : Nat) (requestId : Option Nat)
  | approve (requestId : Option Nat) (notes : Value)
  | reject (requestId : Option Nat) (reason : Value)
  | process (requestId : Option Nat) (paymentReference : Value)

def handle : Call → Handler
  | .create user requestedAmount message notified =>
    createPayoutRequest user requestedAmount message notified
  | .cancel user requestId => cancelPayoutRequest user requestId
  | .approve requestId notes => approvePayoutRequest requestId notes
  | .reject requestId reason => rejectPayoutRequest requestId reason
  | .process requestId paymentReference => markPayoutProcessed requestId paymentReference

/-! ## What an operation does to requests and flags -/

def Db.flags (db : Db) : List Bool := db.transactions.map Transaction.payoutProcessed

/-- Only the status may differ. -/
structure SameRequest (r r' : PayoutRequest) : Prop where
  creator_eq : r'.creator = r.creator
  requestedAmount_eq : r'.requestedAmount = r.requestedAmount
  transactions_eq : r'.transactions = r.transactions

theorem SameRequest.refl (r : PayoutRequest) : SameRequest r r := ⟨rfl, rfl, rfl⟩

variable {db : Db} {id : Nat} {r : PayoutRequest}

theorem no_request (h : db.payoutRequests = []) : db.payoutRequests[id]? ≠ some r := by
  intro hr
  rw [h] at hr
  cases hr

/-- Where a request found after an operation comes from: it was there, with
the same status or the one being saved, or it has just been inserted. -/
theorem exec_request_some {o : Op} {r' : PayoutRequest}
    (h : (exec o db).1.payoutRequests[id]? = some r') :
    (∃ r, db.payoutRequests[id]? = some r ∧ SameRequest r r'
        ∧ (r'.status = r.status ∨ o = .saveStatus id r'.status))
      ∨ (id = db.payoutRequests.length ∧ o = .insert r') := by
  cases o with
  | insert =>
    rcases Collection.getElem?_concat_cases h with hold | ⟨hid, rfl⟩
    · exact .inl ⟨r', hold, .refl r', .inl rfl⟩
    · exact .inr ⟨hid, rfl⟩
  | saveNotified i =>
    simp only [exec, List.getElem?_modify, Option.map_eq_map, Option.map_eq_some_iff] at h
    obtain ⟨r, hr, rfl⟩ := h
    refine .inl ⟨r, hr, ?_, .inl ?_⟩
    · by_cases hi : i = id
      · simp only [hi, if_true]; exact ⟨rfl, rfl, rfl⟩
      · simp only [hi, if_false]; exact .refl r
    · by_cases hi : i = id <;> simp [hi]
  | saveStatus i status =>
    simp only [exec, List.getElem?_modify, Option.map_eq_map, Option.map_eq_some_iff] at h
    obtain ⟨r, hr, rfl⟩ := h
    by_cases hi : i = id
    · subst hi
      rw [if_pos rfl]
      exact .inl ⟨r, hr, ⟨rfl, rfl, rfl⟩, .inr rfl⟩
    · rw [if_neg hi]
      exact .inl ⟨r, hr, .refl r, .inl rfl⟩
  | _ => exact .inl ⟨r', h, .refl r', .inl rfl⟩

theorem exec_length_le (o : Op) :
    db.payoutRequests.length ≤ (exec o db).1.payoutRequests.length := by
  cases o <;> simp [exec]

variable {o : Op}

theorem exec_request_stays (h : db.payoutRequests[id]? = some r) :
    ∃ r', (exec o db).1.payoutRequests[id]? = some r' ∧ SameRequest r r'
      ∧ (r'.status = r.status ∨ o = .saveStatus id r'.status) := by
  have hlt : id < db.payoutRequests.length := (List.getElem?_eq_some_iff.mp h).1
  have hlt' := Nat.lt_of_lt_of_le hlt (exec_length_le o)
  have hget := List.getElem?_eq_getElem hlt'
  rcases exec_request_some hget with ⟨r₀, hr₀, hs, hst⟩ | ⟨hid, -⟩
  · rw [h] at hr₀
    cases hr₀
    exact ⟨_, hget, hs, hst⟩
  · omega

theorem exec_flags (i : Nat) : (exec o db).1.flags[i]? = db.flags[i]? ∨
      ∃ ids, o = .flagTransactions ids ∧ i ∈ ids
        ∧ (exec o db).1.flags[i]? = (db.flags[i]?).map fun _ => true := by
  cases o with
  | flagTransactions ids =>
    simp only [exec, Db.flags, List.getElem?_map, Collection.getElem?_updateMany, Option.map_map]
    by_cases hi : i ∈ ids
    · refine .inr ⟨ids, rfl, hi, ?_⟩
      simp only [hi, if_true]
      rfl
    · left
      simp only [hi, if_false]
      rfl
  | _ => exact .inl rfl

variable {i : Nat}

theorem exec_flags_true (h : db.flags[i]? = some true) : (exec o db).1.flags[i]? = some true := by
  rcases exec_flags i with hs | ⟨ids, -, -, hset⟩
  · rw [hs]; exact h
  · rw [hset, h]; rfl

variable {creator : Nat}

theorem mem_unpaidIds : i ∈ db.unpaidIds creator ↔
      ∃ t, db.transactions[i]? = some t ∧ t.creator = creator ∧ t.status = .completed
        ∧ t.payoutProcessed = false := by
  simp only [Db.unpaidIds, List.mem_filter, List.mem_range, Option.any_eq_true_iff_get]
  constructor
  · rintro ⟨hlt, hs, hp⟩
    simp only [unpaid, Bool.and_eq_true, decide_eq_true_eq, Bool.not_eq_true'] at hp
    exact ⟨_, (Option.some_get hs).symm, hp.1.1, hp.1.2, hp.2⟩
  · rintro ⟨t, ht, hcr, hst, hfl⟩
    refine ⟨(List.getElem?_eq_some_iff.mp ht).1, by simp [ht], ?_⟩
    simp [ht, unpaid, hcr, hst, hfl]

theorem nodup_unpaidIds : (db.unpaidIds creator).Nodup := List.nodup_range.filter _

theorem flags_of_mem_unpaidIds (h : i ∈ db.unpaidIds creator) : db.flags[i]? = some false := by
  obtain ⟨t, ht, -, -, hfl⟩ := mem_unpaidIds.mp h
  simp [Db.flags, ht, hfl]

/-! ## What each handler writes

One lemma per endpoint, for any rely `R` and any conditions `G` and `Q`
on operations: the endpoint keeps `Q` if its reads do and its writes do
in the situations in which it makes them. -/

def Op.reads : Op → Bool
  | .findCreator _ => true
  | .findProfile _ => true
  | .findPending _ => true
  | .aggregateEarnings _ => true
  | .findById _ => true
  | .findOfCreator _ _ => true
  | _ => false

def NoPending (db : Db) (creator : Nat) : Prop :=
  ∀ r ∈ db.payoutRequests, r.creator = creator → r.status ≠ .pending

/-- The request that `createPayoutRequest` makes of the store. -/
structure Quoted (db : Db) (r : PayoutRequest) : Prop where
  status_eq : r.status = .pending
  transactions_eq : r.transactions = db.unpaidIds r.creator
  requestedAmount_le : r.requestedAmount ≤ (r.transactions.map db.earningsOf).sum

theorem aggregateEarnings_ids :
    ((db.aggregateEarnings creator).map (·.transactionIds)).getD [] = db.unpaidIds creator := by
  unfold Db.aggregateEarnings
  cases hids : db.unpaidIds creator with
  | nil | cons i ids => rfl

theorem aggregateEarnings_total : ((db.aggregateEarnings creator).map (·.totalEarnings)).getD 0
      = ((db.unpaidIds creator).map db.earningsOf).sum := by
  unfold Db.aggregateEarnings
  cases hids : db.unpaidIds creator with
  | nil | cons i ids => rfl

theorem validated_some {requestedAmount : Value} {availableAmount : ℚ} {paypalEmail : String}
    {message : Value} {transactions : List Nat}
    (h : PayoutRequest.validated creator requestedAmount availableAmount paypalEmail message
      transactions = some r) :
    r.creator = creator ∧ requestedAmount.toNumber = .fin r.requestedAmount
      ∧ r.status = .pending ∧ r.transactions = transactions := by
  unfold PayoutRequest.validated at h
  split at h
  · rename_i amount hc
    split at h
    · split at h
      · cases h
        exact ⟨rfl, castNumber_toNumber hc, rfl, rfl⟩
      · cases h
    · cases h
  · cases h

variable {R : Db → Db → Prop} {G Q : Db → Op → Prop}

theorem createPayoutRequest_keeps (hrd : ∀ db o, o.reads → Q db o)
    (hnot : ∀ db id, Q db (.saveNotified id))
    (hins : ∀ s t u r, NoPending s r.creator → R s t → Quoted t r → R t u →
      G u (.insert r) → Q u (.insert r))
    (db : Db) (user : Nat) (requestedAmount message : Value) (notified : Bool) :
    Keeps exec R G Q db (createPayoutRequest user requestedAmount message notified) := by
  refine keeps_guard fun _ => ?_
  refine keeps_perform fun s₁ _ _ => ⟨hrd s₁ _ rfl, ?_⟩
  dsimp only [exec]
  split
  · rename_i creator c _
    refine keeps_perform fun s₂ _ _ => ⟨hrd s₂ _ rfl, ?_⟩
    dsimp only [exec]
    split
    · rename_i paypalEmail _
      refine keeps_perform fun s₃ _ _ => ⟨hrd s₃ _ rfl, ?_⟩
      refine keeps_guard fun hn => ?_
      refine keeps_perform fun s₄ h₃₄ _ => ⟨hrd s₄ _ rfl, ?_⟩
      refine keeps_ite (fun _ => ?_) fun hle => ?_
      · cases requestedAmount <;> trivial
      refine keeps_guard fun _ => ?_
      dsimp only [exec] at hn hle ⊢
      split
      · rename_i r hr
        obtain ⟨rfl, hamt, hst, hids⟩ := validated_some hr
        rw [aggregateEarnings_ids] at hids
        have hqu : Quoted s₄ r := by
          refine ⟨hst, hids, ?_⟩
          rw [hamt, aggregateEarnings_total, Number.lt_fin, ← hids] at hle
          simpa using hle
        have hno : NoPending s₃ r.creator := by
          rw [Option.not_isSome_iff_eq_none, Collection.findOne_eq_none] at hn
          intro r' hr' hcr hp
          simpa [hcr, hp] using hn r' hr'
        refine keeps_perform fun s₅ h₄₅ hG => ⟨hins s₃ s₄ s₅ r hno h₃₄ hqu h₄₅ hG, ?_⟩
        refine keeps_ite (fun _ => ?_) fun _ => trivial
        exact keeps_perform fun s₆ _ _ => ⟨hnot s₆ _, trivial⟩
      · trivial
    · trivial
  · trivial

theorem keeps_findById (hr : ∀ db o, o.reads → Q db o)
    {f : Option PayoutRequest → Handler} (hn : ∀ s, Keeps exec R G Q s (f none))
    (hs : ∀ s r, s.payoutRequests[id]? = some r → Keeps exec R G Q s (f (some r))) :
    Keeps exec R G Q db (perform (Op.findById id) >>= f) := by
  refine keeps_perform fun s _ _ => ⟨hr s _ rfl, ?_⟩
  dsimp only [exec]
  cases hget : s.payoutRequests[id]? with
  | none => exact hn s
  | some r => exact hs s r hget

/-- A guarded status change: the request is loaded, its status checked, and
the new status saved. -/
abbrev SavesFrom (R : Db → Db → Prop) (G Q : Db → Op → Prop) (before after : PayoutStatus) : Prop :=
  ∀ (s t : Db) (id : Nat) (r : PayoutRequest), s.payoutRequests[id]? = some r →
    r.status = before → R s t → G t (.saveStatus id after) → Q t (.saveStatus id after)

variable {requestId : Option Nat} {user : Nat}

theorem cancelPayoutRequest_keeps (hrd : ∀ db o, o.reads → Q db o)
    (hs : SavesFrom R G Q .pending .cancelled) :
    Keeps exec R G Q db (cancelPayoutRequest user requestId) := by
  refine keeps_perform fun s₁ _ _ => ⟨hrd s₁ _ rfl, ?_⟩
  dsimp only [exec]
  split
  · cases requestId with
    | none => trivial
    | some id =>
      refine keeps_perform fun s₂ _ _ => ⟨hrd s₂ _ rfl, ?_⟩
      dsimp only [exec]
      split
      · rename_i r hr
        obtain ⟨hget, -⟩ := Option.filter_eq_some_iff.mp hr
        refine keeps_guard fun hp => ?_
        exact keeps_perform fun s₃ hR hG => ⟨hs s₂ s₃ id r hget (not_not.mp hp) hR hG, trivial⟩
      · trivial
  · trivial

theorem approvePayoutRequest_keeps (hr : ∀ db o, o.reads → Q db o)
    (hs : SavesFrom R G Q .pending .approved) (notes : Value) :
    Keeps exec R G Q db (approvePayoutRequest requestId notes) := by
  cases requestId with
  | none => trivial
  | some id =>
    refine keeps_findById hr (fun _ => trivial) fun s₁ r hget => ?_
    refine keeps_guard fun hp => ?_
    refine keeps_guard fun _ => ?_
    refine keeps_perform fun s₂ hR hG => ⟨hs s₁ s₂ id r hget (not_not.mp hp) hR hG, ?_⟩
    exact keeps_guard fun _ => trivial

theorem rejectPayoutRequest_keeps (hr : ∀ db o, o.reads → Q db o)
    (hs : SavesFrom R G Q .pending .rejected) (reason : Value) :
    Keeps exec R G Q db (rejectPayoutRequest requestId reason) := by
  refine keeps_guard fun _ => ?_
  split
  · refine keeps_guard fun _ => ?_
    cases requestId with
    | none => trivial
    | some id =>
      refine keeps_findById hr (fun _ => trivial) fun s₁ r hget => ?_
      refine keeps_guard fun hp => ?_
      refine keeps_perform fun s₂ hR hG => ⟨hs s₁ s₂ id r hget (not_not.mp hp) hR hG, ?_⟩
      exact keeps_guard fun _ => trivial
  · trivial

theorem markPayoutProcessed_keeps (hr : ∀ db o, o.reads → Q db o)
    (hfl : ∀ (s t : Db) (id : Nat) (r : PayoutRequest), s.payoutRequests[id]? = some r →
      r.status = .approved → R s t →
      G t (.flagTransactions r.transactions) → Q t (.flagTransactions r.transactions))
    (hs : ∀ (s t u : Db) (id : Nat) (r : PayoutRequest), s.payoutRequests[id]? = some r →
      r.status = .approved → R s t → G t (.flagTransactions r.transactions) →
      R (exec (.flagTransactions r.transactions) t).1 u →
      G u (.saveStatus id .processed) → Q u (.saveStatus id .processed))
    (he : ∀ (s t : Db) (id : Nat) (r : PayoutRequest), s.payoutRequests[id]? = some r →
      r.status = .approved → r.transactions = [] → R s t →
      G t (.saveStatus id .processed) → Q t (.saveStatus id .processed))
    (db : Db) (requestId : Option Nat) (p : Value) :
    Keeps exec R G Q db (markPayoutProcessed requestId p) := by
  cases requestId with
  | none => trivial
  | some id =>
    refine keeps_findById hr (fun _ => trivial) fun s₁ r hget => ?_
    refine keeps_guard fun hp => ?_
    have happ : r.status = .approved := not_not.mp hp
    refine keeps_ite (fun _ => ?_) fun hz => ?_
    · refine keeps_perform fun s₂ hR hG => ⟨hfl s₁ s₂ id r hget happ hR hG, ?_⟩
      refine keeps_guard fun _ => ?_
      refine keeps_perform fun s₃ hR' hG' => ⟨hs s₁ s₂ s₃ id r hget happ hR hG hR' hG', ?_⟩
      exact keeps_guard fun _ => trivial
    · have hnil : r.transactions = [] := List.length_eq_zero_iff.mp (by omega)
      refine keeps_guard fun _ => ?_
      refine keeps_perform fun s₂ hR hG => ⟨he s₁ s₂ id r hget happ hnil hR hG, ?_⟩
      exact keeps_guard fun _ => trivial

def Db.paidOut (db : Db) (creator : Nat) : ℚ :=
  Collection.total (fun r : PayoutRequest =>
    if r.creator = creator ∧ r.status = .processed then r.requestedAmount else 0)
    db.payoutRequests

def Db.earned (db : Db) (creator : Nat) : ℚ :=
  Collection.total (fun t : Transaction =>
    if t.creator = creator ∧ t.status = .completed then t.creatorEarnings else 0)
    db.transactions

end Payout

end SexySelfies
