import SexySelfies.PayoutInterleaving
import SexySelfies.PayoutReview

/-!
# What is flagged and what is paid

Processing a request flags *all* transactions it lists, whatever part of their earnings was
requested. So flagged earnings equal paid amounts exactly as long as every request that is processed
asks for the earnings of the transactions it flags, to the cent. Here a call runs to completion
before the next event.
-/

namespace SexySelfies.Payout

open Js Platform Interleave Collection

inductive Event where
  | record (t : Transaction)
  | complete (id : Nat)
  | call (c : Call)

def Transaction.complete (t : Transaction) : Transaction := { t with status := .completed }

variable (db : Db)

/-- One event. A recorded transaction starts unflagged, the schema's default. -/
def settle : Event → Db
  | .record t =>
    { db with transactions := db.transactions ++ [{ t with payoutProcessed := false }] }
  | .complete id =>
    { db with transactions := db.transactions.modify id Transaction.complete }
  | .call c => ((handle c).run exec db).1

/-! ## Totals -/

/-- The earnings of the creator's completed, flagged transactions. -/
def Db.flaggedEarnings (creator : Nat) : ℚ :=
  Collection.total (fun t : Transaction =>
    if t.creator = creator ∧ t.status = .completed ∧ t.payoutProcessed = true
    then t.creatorEarnings else 0) db.transactions

def Db.availableEarnings (creator : Nat) : ℚ :=
  ((db.aggregateEarnings creator).map (·.totalEarnings)).getD 0

/-- No earnings are lost: what is flagged was paid, and what is left to
request plus what was paid is all that was earned. -/
def Conserved : Prop :=
  ∀ creator, db.flaggedEarnings creator = db.paidOut creator
    ∧ db.availableEarnings creator + db.paidOut creator = db.earned creator

variable {creator : Nat} {db : Db}

theorem available_add_flagged :
    db.availableEarnings creator + db.flaggedEarnings creator = db.earned creator := by
  have hlt : ∀ i ∈ db.unpaidIds creator, i < db.transactions.length := by
    intro i hi
    obtain ⟨t, ht, -⟩ := mem_unpaidIds.mp hi
    exact (List.getElem?_eq_some_iff.mp ht).1
  rw [Db.availableEarnings, aggregateEarnings_total,
    sum_map_ids nodup_unpaidIds hlt, Db.flaggedEarnings, Db.earned,
    total_eq_sum_range, total_eq_sum_range, ← Finset.sum_add_distrib]
  refine Finset.sum_congr rfl fun i hi => ?_
  obtain ⟨t, ht⟩ : ∃ t, db.transactions[i]? = some t :=
    ⟨_, List.getElem?_eq_getElem (Finset.mem_range.mp hi)⟩
  have hmem : i ∈ db.unpaidIds creator ↔
      t.creator = creator ∧ t.status = .completed ∧ t.payoutProcessed = false := by
    rw [mem_unpaidIds]
    constructor
    · rintro ⟨t', ht', h⟩
      obtain rfl := Option.mem_unique ht ht'
      exact h
    · intro h
      exact ⟨t, ht, h⟩
  simp only [hmem, ht, Option.elim_some, Db.earningsOf]
  by_cases hc : t.creator = creator ∧ t.status = .completed
  · cases hfl : t.payoutProcessed with
    | true | false => simp [hc]
  · rw [if_neg (fun h => hc ⟨h.1, h.2.1⟩), if_neg (fun h => hc ⟨h.1, h.2.1⟩), if_neg hc, add_zero]

theorem conserved_iff :
    Conserved db ↔ ∀ creator, db.flaggedEarnings creator = db.paidOut creator := by
  constructor
  · intro h creator
    exact (h creator).1
  · intro h creator
    refine ⟨h creator, ?_⟩
    rw [← h creator]
    exact available_add_flagged

/-! ## Consistent stores -/

/-- What holds between events whatever amounts are requested: requests are
backed, and only completed transactions are flagged. -/
structure Consistent (db : Db) : Prop where
  backed : ∀ (id : Nat) (r : PayoutRequest), db.payoutRequests[id]? = some r → Backed db r
  flagged : ∀ (i : Nat) (t : Transaction), db.transactions[i]? = some t →
    t.payoutProcessed = true → t.status = .completed

variable {db : Db} {t : Transaction}

theorem consistent_record (h : Consistent db) : Consistent (settle db (.record t)) := by
  have hk : EarningsKept db (settle db (.record t)) := by
    intro i t' ht'
    exact ⟨t', getElem?_concat_of_some ht', rfl, rfl, id⟩
  refine ⟨fun id r hr => (h.backed id r hr).mono hk, ?_⟩
  intro i t' ht' hfl
  rcases getElem?_concat_cases ht' with hold | ⟨-, rfl⟩
  · exact h.flagged i t' hold hfl
  · cases hfl

theorem consistent_complete (h : Consistent db) (id : Nat) :
    Consistent (settle db (.complete id)) := by
  have hget : ∀ (i : Nat) (t : Transaction), db.transactions[i]? = some t →
      (settle db (.complete id)).transactions[i]? =
        some (if id = i then Transaction.complete t else t) := by
    intro i t ht
    simp [settle, List.getElem?_modify, ht]
  have hk : EarningsKept db (settle db (.complete id)) := by
    intro i t ht
    refine ⟨_, hget i t ht, ?_⟩
    by_cases hid : id = i
    · rw [if_pos hid]; exact ⟨rfl, rfl, fun _ => rfl⟩
    · rw [if_neg hid]; exact ⟨rfl, rfl, fun h => h⟩
  refine ⟨fun id r hr => (h.backed id r hr).mono hk, ?_⟩
  intro i t' ht' hfl
  have hlt : i < db.transactions.length := by
    have hlt' := (List.getElem?_eq_some_iff.mp ht').1
    simpa [settle] using hlt'
  rw [hget i _ (List.getElem?_eq_getElem hlt)] at ht'
  cases ht'
  by_cases hid : id = i
  · rw [if_pos hid]; rfl
  · rw [if_neg hid] at hfl ⊢
    exact h.flagged i _ (List.getElem?_eq_getElem hlt) hfl

/-! ## Calls that pay nothing -/

/-- Writes that pay nothing out. -/
def Unpaying (db : Db) : Op → Prop
  | .insert r => Quoted db r
  | .saveStatus id status => status ≠ .processed
      ∧ ∃ r, db.payoutRequests[id]? = some r ∧ r.status = .pending
  | .flagTransactions _ => False
  | _ => True

theorem unpaying_reads (db : Db) (o : Op) (h : o.reads) : Unpaying db o := by
  cases o with
  | insert r | saveStatus id status | flagTransactions ids => cases h
  | _ => trivial

variable {o : Op}

theorem transactions_of_unpaying (h : Unpaying db o) :
    (exec o db).1.transactions = db.transactions := by
  cases o with
  | flagTransactions => exact h.elim
  | _ => rfl

theorem backs_of_unpaying (h : Unpaying db o) : Backs db o := by
  cases o with
  | insert => exact h.backed
  | _ => trivial

theorem consistent_of_unpaying (hc : Consistent db) (h : Unpaying db o) :
    Consistent (exec o db).1 := by
  refine ⟨fun id r' => backed_exec hc.backed (backs_of_unpaying h), ?_⟩
  rw [transactions_of_unpaying h]
  exact hc.flagged

theorem paidOut_of_unpaying (h : Unpaying db o) :
    (exec o db).1.paidOut creator = db.paidOut creator := by
  cases o with
  | insert r =>
    have hp : r.status ≠ .processed := by rw [h.status_eq]; decide
    simp [exec, Db.paidOut, hp]
  | saveNotified id =>
    cases hr : db.payoutRequests[id]? with
    | none => rw [exec, List.modify_eq_self (List.getElem?_eq_none_iff.mp hr)]
    | some =>
      rw [exec, Db.paidOut, total_modify _ hr, sub_self, add_zero]
      rfl
  | saveStatus =>
    obtain ⟨hne, r, hr, hp⟩ := h
    rw [exec, Db.paidOut, total_modify _ hr]
    simp [hne, hp, Db.paidOut]
  | _ => rfl

def Call.paysNothing : Call → Bool
  | .process _ _ => false
  | _ => true

theorem handle_unpaying {c : Call} (hc : c.paysNothing) :
    Keeps exec Eq (fun _ _ => True) Unpaying db (handle c) := by
  have hs : ∀ after, after ≠ .processed →
      SavesFrom Eq (fun _ _ => True) Unpaying .pending after := by
    rintro after hne s t id r hr hp rfl _
    exact ⟨hne, r, hr, hp⟩
  cases c with
  | create user ra message notified =>
    refine createPayoutRequest_keeps unpaying_reads (fun _ _ => trivial) ?_ db user
      ra message notified
    rintro s t u r _ _ hqu rfl _
    exact hqu
  | cancel => exact cancelPayoutRequest_keeps unpaying_reads (hs _ (by decide))
  | approve requestId notes =>
    exact approvePayoutRequest_keeps unpaying_reads (hs _ (by decide)) notes
  | reject requestId reason =>
    exact rejectPayoutRequest_keeps unpaying_reads (hs _ (by decide)) reason
  | process => cases hc

theorem settle_call_of_paysNothing {c : Call} (hc : c.paysNothing) (h : Consistent db) :
    Consistent (settle db (.call c)) ∧ (settle db (.call c)).transactions = db.transactions
      ∧ ∀ creator, (settle db (.call c)).paidOut creator = db.paidOut creator := by
  refine run_of_keeps (I := fun db' : Db => Consistent db' ∧ db'.transactions = db.transactions
      ∧ ∀ creator, db'.paidOut creator = db.paidOut creator) ?_ ⟨h, rfl, fun _ => rfl⟩
    (handle_unpaying hc)
  rintro db' o ⟨hco, htr, hp⟩ hQ
  exact ⟨consistent_of_unpaying hco hQ, (transactions_of_unpaying hQ).trans htr,
    fun creator => (paidOut_of_unpaying hQ).trans (hp creator)⟩

/-! ## Processing -/

def Db.newlyFlagged (db : Db) (r : PayoutRequest) : ℚ :=
  ((r.transactions.filter fun i => db.flags[i]? = some false).map db.earningsOf).sum

/-- What a processed request pays: nothing when its reference is not stored. -/
def paidBy (r : PayoutRequest) (paymentReference : Value) : ℚ :=
  if castsToString paymentReference then r.requestedAmount else 0

def Db.process (db : Db) (id : Nat) (r : PayoutRequest) (paymentReference : Value) : Db :=
  { db with
    transactions := Collection.updateMany r.transactions Transaction.flag db.transactions
    payoutRequests :=
      if castsToString paymentReference then
        db.payoutRequests.modify id fun r => { r with status := .processed }
      else db.payoutRequests }

theorem settle_process_eq (requestId : Option Nat) (paymentReference : Value) :
    settle db (.call (.process requestId paymentReference))
      = (Review.process requestId paymentReference).after db := by
  obtain ⟨status, error, hrun⟩ := ends_process paymentReference
  exact congrArg Prod.fst hrun

variable {id : Nat} {paymentReference : Value} {r : PayoutRequest}

theorem settle_process (hr : db.payoutRequests[id]? = some r) (hp : r.status = .approved) :
    settle db (.call (.process (some id) paymentReference)) = db.process id r paymentReference := by
  have hl : db.flagListed id = (exec (.flagTransactions r.transactions) db).1 := by
    rw [Db.flagListed, hr]
    rfl
  rw [settle_process_eq, Review.after, hasStatus_of_some hr, decide_eq_true hp, if_pos rfl, hl,
    Db.process]
  cases castsToString paymentReference with
  | false | true => rfl

theorem settle_process_of_not_approved {requestId : Option Nat}
    (h : ∀ id ∈ requestId, ∀ r ∈ db.payoutRequests[id]?, r.status ≠ .approved) :
    settle db (.call (.process requestId paymentReference)) = db := by
  rw [settle_process_eq]
  cases requestId with
  | none => rfl
  | some id =>
    have hst : db.hasStatus id .approved = false := by
      cases hr : db.payoutRequests[id]? with
      | none => exact hasStatus_of_none hr
      | some r =>
        rw [hasStatus_of_some hr]
        exact decide_eq_false (h id rfl r hr)
    rw [Review.after, hst, if_neg Bool.false_ne_true]

theorem flaggedEarnings_process (hba : Backed db r) :
    (db.process id r paymentReference).flaggedEarnings creator
      = db.flaggedEarnings creator + if creator = r.creator then db.newlyFlagged r else 0 := by
  rw [Db.flaggedEarnings, Db.process, total_updateMany, Db.flaggedEarnings, Db.newlyFlagged]
  congr 1
  have hlt : ∀ i ∈ r.transactions.filter (fun i => db.flags[i]? = some false),
      i < db.transactions.length := by
    intro i hi
    obtain ⟨t, ht, -⟩ := hba.completed i (List.mem_of_mem_filter hi)
    exact (List.getElem?_eq_some_iff.mp ht).1
  rw [sum_map_ids (hba.nodup.filter _) hlt]
  by_cases hc : creator = r.creator
  · rw [if_pos hc]
    refine Finset.sum_congr rfl fun i _ => ?_
    by_cases hi : i ∈ r.transactions
    · obtain ⟨t, ht, hcr, hst⟩ := hba.completed i hi
      cases hfl : t.payoutProcessed with
      | true => simp [hi, ht, hfl, Db.flags, Transaction.flag, hcr, hst]
      | false => simp [hi, ht, hfl, Db.flags, Transaction.flag, hcr, hst, hc, Db.earningsOf]
    · simp [hi]
  · rw [if_neg hc]
    refine Finset.sum_eq_zero fun i _ => ?_
    by_cases hi : i ∈ r.transactions
    · obtain ⟨t, ht, hcr, -⟩ := hba.completed i hi
      have hne : t.creator ≠ creator := by rw [hcr]; exact fun h => hc h.symm
      simp [hi, ht, Transaction.flag, hne]
    · simp [hi]

theorem paidOut_process (hr : db.payoutRequests[id]? = some r) (hp : r.status = .approved) :
    (db.process id r paymentReference).paidOut creator
      = db.paidOut creator + if creator = r.creator then paidBy r paymentReference else 0 := by
  by_cases hca : castsToString paymentReference = true
  · simp only [Db.process, Db.paidOut, hca, if_true, paidBy]
    rw [total_modify _ hr]
    by_cases hc : creator = r.creator
    · simp [hc, hp]
    · have hne : r.creator ≠ creator := fun h => hc h.symm
      simp [hc, hne]
  · simp [Db.process, Db.paidOut, hca, paidBy]

theorem consistent_process (h : Consistent db) (hr : db.payoutRequests[id]? = some r) :
    Consistent (db.process id r paymentReference) := by
  have hk : EarningsKept db (db.process id r paymentReference) :=
    earningsKept_exec (.flagTransactions r.transactions) db
  refine ⟨?_, ?_⟩
  · intro id' r' hr'
    have hbef : Backed db r' := by
      by_cases hc : castsToString paymentReference
      · have hex : (exec (.saveStatus id .processed) db).1.payoutRequests[id']? = some r' := by
          simpa [Db.process, hc, exec] using hr'
        rcases exec_request_some hex with ⟨r₀, hr₀, hs, -⟩ | ⟨-, hins⟩
        · exact (h.backed id' r₀ hr₀).of_same hs
        · cases hins
      · have hold : db.payoutRequests[id']? = some r' := by simpa [Db.process, hc] using hr'
        exact h.backed id' r' hold
    exact hbef.mono hk
  · intro i t' ht' hfl
    simp only [Db.process, getElem?_updateMany, Option.map_eq_some_iff] at ht'
    obtain ⟨t, ht, rfl⟩ := ht'
    by_cases hi : i ∈ r.transactions
    · obtain ⟨t₀, ht₀, -, hst⟩ := (h.backed id r hr).completed i hi
      obtain rfl := Option.mem_unique ht ht₀
      rwa [if_pos hi]
    · rw [if_neg hi] at hfl ⊢
      exact h.flagged i t ht hfl

/-! ## The exact condition -/

/-- An approved request is processed for exactly the earnings it newly flags. -/
def PaysExactly (db : Db) : Event → Prop
  | .call (.process (some id) paymentReference) =>
    ∀ r ∈ db.payoutRequests[id]?, r.status = .approved →
      paidBy r paymentReference = db.newlyFlagged r
  | _ => True

instance (db : Db) : ∀ e, Decidable (PaysExactly db e)
  | .record _ | .complete _ | .call (.create _ _ _ _) | .call (.cancel _ _)
  | .call (.approve _ _) | .call (.reject _ _) | .call (.process none _) => .isTrue trivial
  | .call (.process (some id) paymentReference) =>
    inferInstanceAs (Decidable (∀ r ∈ db.payoutRequests[id]?, r.status = .approved →
      paidBy r paymentReference = db.newlyFlagged r))

theorem flaggedEarnings_record (creator : Nat) :
    (settle db (.record t)).flaggedEarnings creator = db.flaggedEarnings creator := by
  simp [settle, Db.flaggedEarnings]

theorem flaggedEarnings_complete (h : Consistent db) (creator : Nat) :
    (settle db (.complete id)).flaggedEarnings creator = db.flaggedEarnings creator := by
  cases ht : db.transactions[id]? with
  | none => rw [settle, List.modify_eq_self (List.getElem?_eq_none_iff.mp ht)]
  | some t =>
    rw [settle, Db.flaggedEarnings, total_modify _ ht, Db.flaggedEarnings]
    -- completing a flagged transaction changes nothing: it was completed
    have hs : t.payoutProcessed → t.status = .completed := h.flagged id t ht
    by_cases hfl : t.payoutProcessed = true
    · simp [Transaction.complete, hs hfl]
    · simp [Transaction.complete, hfl]

theorem call_cases (c : Call) : c.paysNothing
      ∨ (settle db (.call c) = db ∧ PaysExactly db (.call c))
      ∨ ∃ id r paymentReference, c = .process (some id) paymentReference
        ∧ db.payoutRequests[id]? = some r ∧ r.status = .approved := by
  cases c with
  | process requestId paymentReference =>
    refine .inr ?_
    cases requestId with
    | none => exact .inl ⟨rfl, trivial⟩
    | some id =>
      by_cases happ : ∀ r ∈ db.payoutRequests[id]?, r.status ≠ .approved
      · refine .inl ⟨settle_process_of_not_approved (by simpa using happ), ?_⟩
        intro r hr hp
        exact absurd hp (happ r hr)
      · push Not at happ
        obtain ⟨r, hr, hp⟩ := happ
        exact .inr ⟨id, r, paymentReference, rfl, hr, hp⟩
  | _ => exact .inl rfl

variable {e : Event}

theorem consistent_settle (h : Consistent db) : Consistent (settle db e) := by
  cases e with
  | record => exact consistent_record h
  | complete id => exact consistent_complete h id
  | call c =>
    rcases call_cases c with hc | ⟨hs, -⟩ | ⟨id, r, paymentReference, rfl, hr, hp⟩
    · exact (settle_call_of_paysNothing hc h).1
    · rwa [hs]
    · rw [settle_process hr hp]
      exact consistent_process h hr

theorem conserved_process_iff (hco : Conserved db) (hba : Backed db r)
    (hr : db.payoutRequests[id]? = some r) (hp : r.status = .approved) :
    Conserved (db.process id r paymentReference) ↔
      paidBy r paymentReference = db.newlyFlagged r := by
  rw [conserved_iff] at hco ⊢
  constructor
  · intro h
    have hcr := h r.creator
    rw [flaggedEarnings_process hba, paidOut_process hr hp, hco r.creator, if_pos rfl,
      if_pos rfl] at hcr
    linarith
  · intro h creator
    rw [flaggedEarnings_process hba, paidOut_process hr hp, hco creator, h]

theorem conserved_settle_iff (h : Consistent db) (hco : Conserved db) :
    Conserved (settle db e) ↔ PaysExactly db e := by
  have hs : (∀ creator, (settle db e).flaggedEarnings creator = db.flaggedEarnings creator) →
      (∀ creator, (settle db e).paidOut creator = db.paidOut creator) →
      Conserved (settle db e) := by
    intro hfl hpd
    rw [conserved_iff] at hco ⊢
    intro creator
    rw [hfl, hpd, hco]
  cases e with
  | record => exact iff_of_true (hs flaggedEarnings_record fun _ => rfl) trivial
  | complete => exact iff_of_true (hs (flaggedEarnings_complete h) fun _ => rfl) trivial
  | call c =>
    rcases call_cases c with hc | ⟨hdb, htru⟩ | ⟨id, r, paymentReference, rfl, hr, hp⟩
    · obtain ⟨-, htr, hpd⟩ := settle_call_of_paysNothing hc h
      have htru : PaysExactly db (.call c) := by
        cases c with
        | process => cases hc
        | _ => trivial
      refine iff_of_true (hs (fun creator => ?_) hpd) htru
      rw [Db.flaggedEarnings, Db.flaggedEarnings, htr]
    · rw [hdb]
      exact iff_of_true hco htru
    · have hba : Backed db r := h.backed id r hr
      rw [settle_process hr hp, conserved_process_iff hco hba hr hp]
      simp [PaysExactly, hr, hp]

theorem conserved_start (hreq : db.payoutRequests = [])
    (hfla : ∀ t ∈ db.transactions, t.payoutProcessed = false) : Consistent db ∧ Conserved db := by
  refine ⟨⟨fun _ _ hr => absurd hr (no_request hreq), ?_⟩, ?_⟩
  · intro i t ht hfl
    rw [hfla t (List.mem_of_getElem? ht)] at hfl
    cases hfl
  · rw [conserved_iff]
    intro creator
    have hz : db.flaggedEarnings creator = total (fun _ : Transaction => (0 : ℚ)) db.transactions :=
      total_congr fun t ht => by simp [hfla t ht]
    rw [hz, Db.paidOut, hreq]
    simp [total]

/-- Starting with no requests and no flags, earnings are conserved throughout
a run exactly when every approved request is processed for exactly the
earnings it newly flags. -/
theorem conserved_iff_exact (db : Db) (hreq : db.payoutRequests = [])
    (hflags : ∀ t ∈ db.transactions, t.payoutProcessed = false) (events : List Event) :
    Runs.Always settle Conserved db events ↔ Runs.Every settle PaysExactly db events := by
  have hboth : Runs.Always settle (fun db => Consistent db ∧ Conserved db) db events ↔
      Runs.Every settle PaysExactly db events := by
    refine Runs.always_iff_every (fun db e h => ?_) (conserved_start hreq hflags)
    rw [conserved_settle_iff h.1 h.2 |>.symm]
    exact and_iff_right (consistent_settle h.1)
  rw [← hboth]
  have hcon : Runs.Always settle Consistent db events :=
    Runs.always_of_step (fun db e h => consistent_settle h) (conserved_start hreq hflags).1
  constructor
  · intro h
    exact hcon.and h
  · intro h
    exact Runs.always_mono (fun _ h => h.2) h

def payoutEvents (amount : ℚ) : List Event :=
  [.call (.create 7 (.num (.fin amount)) .undefined true),
   .call (.approve (some 0) .undefined),
   .call (.process (some 0) (.str "PAYPAL-1"))]

theorem conserved_full_amount : Runs.Always settle Conserved sampleDb (payoutEvents 60) :=
  (conserved_iff_exact sampleDb rfl (by decide) (payoutEvents 60)).mpr (by decide +kernel)

theorem conserved_fails_partial_amount :
    ¬Runs.Always settle Conserved sampleDb (payoutEvents 50) := by
  intro h
  have hl := (h.last 0).1
  revert hl
  decide +kernel

end SexySelfies.Payout
