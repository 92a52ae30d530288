import SexySelfies.PaymentHandlers

/-!
# Balances and payments

A creator's balance is credited in two places: by the endpoint that charged the card, and by the
`NewSaleSuccess` event about the same payment. The ledger that should hold when no handler is in
flight is

    balance = Σ earnings of the completed payments
              - 15 for every payment charged back

A handler moves the difference of the two sides (`ledgerGap`) by nothing when its writes are
`Careful`. The sums are exact here and rounded to doubles in the store; the two are the same as long
as each is a double, which is part of `Careful`.
-/

namespace SexySelfies.Payments

open Js Platform Interleave PaymentChange Double

variable (db : Db)

def balance (creator : Nat) : ℚ :=
  match db.earnings creator with
  | some e => e.availableBalance
  | none => 0

def worth (creator : Nat) (p : Payment) : ℚ :=
  if p.creator = creator then
    (if p.status = .completed then p.creatorEarnings else 0)
      - (if p.chargedBack then chargebackFee else 0)
  else 0

/-- Each balance is what its payments are worth. -/
def Balanced : Prop :=
  ∀ creator, balance db creator = Collection.total (worth creator) db.payments

def ledgerGap (creator : Nat) (db : Db) : ℚ :=
  Collection.total (worth creator) db.payments - balance db creator

theorem balanced_iff {db : Db} : Balanced db ↔ ∀ creator, ledgerGap creator db = 0 := by
  refine forall_congr' fun creator => ?_
  rw [ledgerGap, sub_eq_zero, eq_comm]

/-! ## Careful writes -/

/-- The condition on a change to a payment, as it was loaded and as it is
stored. -/
def PaymentChange.Careful (old : Payment) (c : PaymentChange) (p : Payment) : Prop :=
  match c with
  | .markCompleted _ => old.status ≠ .completed ∧ p.status ≠ .completed
  | .setSubscriptionId _ => True
  | .markFailed => old.status = .failed ∨ p.status ≠ .completed
  | .processRefund => old.status ≠ .refunded ∧ p.status = .completed
  | .chargeback => old.status ≠ .refunded ∧ p.status = .completed ∧ p.chargedBack = false

instance (old : Payment) (c : PaymentChange) (p : Payment) : Decidable (c.Careful old p) := by
  cases c <;> unfold PaymentChange.Careful <;> infer_instance

/-- A card is saved only before the end of its year, the saves of content and member are accepted,
a reversal finds a balance to take from, and no sum has to be rounded. -/
def Careful : Op → Prop
  | .savePayment id old c => ∀ p ∈ db.payments[id]?, c.Careful old p
  | .markUsed _ old today => today.year ≤ old.expiryYear
  | .saveContent _ _ _ accepted => accepted = true
  | .saveMember _ _ accepted => accepted = true
  | .incEarnings creator i upsert =>
    (upsert = true ∨ (db.earnings creator).isSome = true)
      ∧ IsDouble i.earnings ∧ IsDouble (balance db creator + i.earnings)
  | _ => True

instance (db : Db) : ∀ o, Decidable (Careful db o)
  | .savePayment id old c => inferInstanceAs (Decidable (∀ p ∈ db.payments[id]?, c.Careful old p))
  | .markUsed _ old today => inferInstanceAs (Decidable (today.year ≤ old.expiryYear))
  | .saveContent _ _ _ accepted | .saveMember _ _ accepted =>
    inferInstanceAs (Decidable (accepted = true))
  | .incEarnings creator i upsert =>
    inferInstanceAs (Decidable ((upsert = true ∨ (db.earnings creator).isSome = true)
      ∧ IsDouble i.earnings ∧ IsDouble (balance db creator + i.earnings)))
  | .findMember _ | .findCreator _ | .findContent _ | .findPaymentMethod _ _
  | .findActiveSubscription _ _ | .findOwnSubscription _ _ | .findSubscription _
  | .findPayment _ | .findPaymentOf _ | .callGateway _ _ | .insertPayment _
  | .insertSubscription _ | .saveSubscription _ _ _ => .isTrue trivial

/-- No payment is lost, nor its creator or share changed. -/
def PaymentsKept (db db' : Db) : Prop :=
  ∀ (i : Nat) (p : Payment), db.payments[i]? = some p →
    ∃ p', db'.payments[i]? = some p' ∧ p'.creator = p.creator
      ∧ p'.creatorEarnings = p.creatorEarnings

theorem PaymentsKept.refl : PaymentsKept db db := fun _ p hp => ⟨p, hp, rfl, rfl⟩

theorem PaymentsKept.trans (a b c : Db) (hab : PaymentsKept a b) (hbc : PaymentsKept b c) :
    PaymentsKept a c := by
  intro i p hp
  obtain ⟨p', hp', hcr, hea⟩ := hab i p hp
  obtain ⟨p'', hp'', hcr', hea'⟩ := hbc i p' hp'
  exact ⟨p'', hp'', hcr'.trans hcr, hea'.trans hea⟩

variable {c : PaymentChange}

theorem apply_kept (old : Payment) (p : Payment) :
    (c.apply old p).creator = p.creator ∧ (c.apply old p).creatorEarnings = p.creatorEarnings := by
  cases c <;> exact ⟨rfl, rfl⟩

theorem paymentsKept_exec (cfg : Config) (o : Op) (db : Db) :
    PaymentsKept db (exec cfg o db).1 := by
  by_cases ho : o.writes = some .payments
  · intro i p hp
    cases o with
    | insertPayment => exact ⟨p, Collection.getElem?_concat_of_some hp, rfl, rfl⟩
    | savePayment id old c =>
      by_cases hi : id = i
      · refine ⟨c.apply old p, ?_, apply_kept old p⟩
        simp [exec, hi, hp]
      · refine ⟨p, ?_, rfl, rfl⟩
        simp [exec, hi, hp]
    | _ => cases ho
  · intro i p hp
    rw [(frame_exec cfg o db).payments_eq ho]
    exact ⟨p, hp, rfl, rfl⟩

/-! ## What an operation does to the gap -/

def share (creator owner : Nat) (amount : ℚ) : ℚ := if owner = creator then amount else 0

def PaymentChange.gain : PaymentChange → Payment → ℚ
  | .markCompleted _, p => p.creatorEarnings
  | .setSubscriptionId _, _ => 0
  | .markFailed, _ => 0
  | .processRefund, p => -p.creatorEarnings
  | .chargeback, p => -(p.creatorEarnings + chargebackFee)

variable {p : Payment}

theorem worth_apply {old : Payment} {c : PaymentChange} (creator : Nat) (h : c.Careful old p) :
    worth creator (c.apply old p) = worth creator p + share creator p.creator (c.gain p) := by
  by_cases hp : p.creator = creator
  · cases c with
    | markCompleted =>
      obtain ⟨hold, hst⟩ := h
      have hnew := assign_of_ne hold
      simp [worth, share, apply, gain, hp, hnew, hst]
      ring
    | setSubscriptionId => simp [worth, share, apply, gain, hp]
    | markFailed =>
      have hnew : (assign old.status .failed p.status = .completed) ↔ p.status = .completed := by
        unfold assign
        split
        · rfl
        · rename_i hne
          rcases h with hold | hst
          · exact absurd hold.symm hne
          · simp [hst]
      simp [worth, share, apply, gain, hp, hnew]
    | processRefund =>
      obtain ⟨hold, hst⟩ := h
      have hnew := assign_of_ne hold
      simp [worth, share, apply, gain, hp, hnew, hst]
      ring
    | chargeback =>
      obtain ⟨hold, hst, hf⟩ := h
      have hnew := assign_of_ne hold
      simp [worth, share, apply, gain, hp, hnew, hst, hf]
  · have hp' : (c.apply old p).creator ≠ creator := by
      rwa [(apply_kept old p).1]
    simp [worth, share, hp, hp']

def Op.offLedger (o : Op) : Bool := o.writes ≠ some .payments && o.writes ≠ some .earnings

variable {cfg : Config} {creator : Nat} {db : Db}

theorem ledgerGap_of_frame {o : Op} (ho : o.offLedger) :
    ledgerGap creator (exec cfg o db).1 = ledgerGap creator db := by
  have hfra := frame_exec cfg o db
  simp only [Op.offLedger, Bool.and_eq_true, decide_eq_true_eq] at ho
  obtain ⟨hp, he⟩ := ho
  rw [ledgerGap, ledgerGap, balance, balance, hfra.payments_eq hp, hfra.earnings_eq he]

theorem ledgerGap_insert : ledgerGap creator (exec cfg (.insertPayment p) db).1
      = ledgerGap creator db + worth creator p := by
  simp only [ledgerGap, exec, balance, Collection.total_concat]
  ring

theorem ledgerGap_save {id : Nat} {old : Payment} {c : PaymentChange}
    (hp : db.payments[id]? = some p) (h : c.Careful old p) :
    ledgerGap creator (exec cfg (.savePayment id old c) db).1
      = ledgerGap creator db + share creator p.creator (c.gain p) := by
  simp only [ledgerGap, exec, balance, Collection.total_modify _ hp, worth_apply creator h]
  ring

theorem balance_inc {owner : Nat} {i : Inc} {upsert : Bool}
    (h : upsert ∨ (db.earnings owner).isSome) :
    balance (db.incEarnings owner i upsert) creator
      = balance db creator + share creator owner i.earnings := by
  unfold balance Db.incEarnings share
  by_cases hc : owner = creator
  · subst hc
    cases he : db.earnings owner with
    | some => simp [Earnings.inc]
    | none =>
      rw [he] at h
      simp at h
      simp [h, Earnings.inc, Earnings.empty]
  · have hc' : creator ≠ owner := fun heq => hc heq.symm
    cases he : db.earnings owner with
    | some => simp [hc, hc']
    | none => cases upsert <;> simp [hc, hc']

theorem ledgerGap_inc (hinc : cfg.incStored) {owner : Nat} {i : Inc} {upsert : Bool}
    (h : upsert ∨ (db.earnings owner).isSome) :
    ledgerGap creator (exec cfg (.incEarnings owner i upsert) db).1
      = ledgerGap creator db + -share creator owner i.earnings := by
  have hp : (db.incEarnings owner i upsert).payments = db.payments := by
    have hfra := frame_exec cfg (.incEarnings owner i upsert) db
    have hpa := hfra.payments_eq (by simp [Op.writes])
    simpa only [exec, hinc, if_true] using hpa
  simp only [ledgerGap, exec, hinc, if_true, hp, balance_inc h]
  ring

/-! ## Every handler is neutral -/

abbrev Shifts (cfg : Config) (creator : Nat) {ρ : Type} (x : ℚ) (db : Db)
    (p : Proc Op.Res ρ) : Prop :=
  Moves (exec cfg) PaymentsKept Careful (ledgerGap creator) x db p

def Stored (db : Db) (id : Nat) (p : Payment) : Prop :=
  ∃ p', db.payments[id]? = some p' ∧ p'.creator = p.creator
    ∧ p'.creatorEarnings = p.creatorEarnings

theorem Stored.mono {db' : Db} {id : Nat} (h : PaymentsKept db db') (hp : Stored db id p) :
    Stored db' id p := by
  obtain ⟨q, hq, hcr, hea⟩ := hp
  obtain ⟨q', hq', hcr', hea'⟩ := h id q hq
  exact ⟨q', hq', hcr'.trans hcr, hea'.trans hea⟩

theorem gain_congr {q : Payment} (h : p.creatorEarnings = q.creatorEarnings) :
    c.gain p = c.gain q := by
  cases c <;> simp only [gain, h]

variable {ρ : Type} {x : ℚ}

theorem shifts_other {o : Op} {f : o.Res → Proc Op.Res ρ} (ho : o.offLedger)
    (h : ∀ db', Careful db' o → PaymentsKept db (exec cfg o db').1 →
    Shifts cfg creator x (exec cfg o db').1 (f (exec cfg o db').2)) :
    Shifts cfg creator x db (perform o >>= f) :=
  moves_perform_of_eq (fun _ => ledgerGap_of_frame ho) fun db' hR hG =>
    h db' hG (hR.trans _ _ _ (paymentsKept_exec cfg o db'))

theorem shifts_read {o : Op} {f : o.Res → Proc Op.Res ρ} (ho : o.writes = none)
    (h : ∀ db' r, Shifts cfg creator x db' (f r)) : Shifts cfg creator x db (perform o >>= f) := by
  have hoff : o.offLedger := by
    rw [Op.offLedger, ho]
    rfl
  exact shifts_other hoff fun _ _ _ => h _ _

theorem shifts_insert {f : Nat → Proc Op.Res ρ}
    (h : ∀ db' id, Stored db' id p → Shifts cfg creator (x - worth creator p) db' (f id)) :
    Shifts cfg creator x db (perform (Op.insertPayment p) >>= f) := by
  refine moves_perform (fun db' _ _ => ledgerGap_insert) fun db' _ _ => ?_
  exact h _ _ ⟨p, by simp [exec], rfl, rfl⟩

variable {id : Nat}

theorem shifts_save {p : Payment} {c : PaymentChange} {f : Unit → Proc Op.Res ρ}
    (hp : Stored db id p) (h : ∀ db', Stored db' id p →
      Shifts cfg creator (x - share creator p.creator (c.gain p)) db' (f ())) :
    Shifts cfg creator x db (perform (Op.savePayment id p c) >>= f) := by
  refine moves_perform (fun db' hR hG => ?_) fun db' hR _ =>
    h _ ((hp.mono hR).mono (paymentsKept_exec cfg _ db'))
  obtain ⟨p', hp', hcr, hea⟩ := hp.mono hR
  rw [ledgerGap_save hp' (hG p' hp'), hcr, gain_congr hea]

theorem shifts_inc (hinc : cfg.incStored) {owner : Nat} {i : Inc} {upsert : Bool}
    {f : Unit → Proc Op.Res ρ}
    (h : ∀ db', Shifts cfg creator (x - -share creator owner i.earnings) db' (f ())) :
    Shifts cfg creator x db (perform (Op.incEarnings owner i upsert) >>= f) :=
  moves_perform (fun _ _ hG => ledgerGap_inc hinc hG.1) fun _ _ _ => h _

theorem shifts_lookup {α : Type} {ref : Ref} {find : Nat → Proc Op.Res (Option α)}
    {f : Option α → Proc Op.Res ρ} (hn : Shifts cfg creator x db (f none))
    (hf : ∀ n, Shifts cfg creator x db (find n >>= f)) :
    Shifts cfg creator x db (lookup ref find >>= f) := by
  cases ref with
  | id n => exact hf n
  | absent | malformed => exact hn

theorem shifts_find {α : Type} {o : Op} {g : o.Res → α} {f : α → Proc Op.Res ρ}
    (ho : o.writes = none) (h : ∀ db' r, Shifts cfg creator x db' (f r)) :
    Shifts cfg creator x db ((perform o >>= fun r => pure (g r)) >>= f) :=
  shifts_read ho fun db' _ => h db' _

variable {f : Bool → Proc Op.Res ρ}

theorem shifts_markUsed {old : PaymentMethod} {today : CivilDate.Date}
    (h : ∀ db', Shifts cfg creator x db' (f true)) :
    Shifts cfg creator x db (perform (Op.markUsed id old today) >>= f) := by
  refine shifts_other rfl fun db' hG _ => ?_
  have hus : (exec cfg (.markUsed id old today) db').2 := by
    obtain ⟨m, hm⟩ := Option.isSome_iff_exists.mp (markUsed_isSome hG)
    simp only [exec, hm]
  rw [hus]
  exact h _

theorem shifts_saveContent {loaded doc : Content} {accepted : Bool}
    (h : ∀ db', Shifts cfg creator x db' (f true)) :
    Shifts cfg creator x db (perform (Op.saveContent id loaded doc accepted) >>= f) := by
  refine shifts_other rfl fun db' hG _ => ?_
  obtain rfl : accepted = true := hG
  exact h _

theorem shifts_saveMember {content : Nat} {accepted : Bool}
    (h : ∀ db', Shifts cfg creator x db' (f true)) :
    Shifts cfg creator x db (perform (Op.saveMember id content accepted) >>= f) := by
  refine shifts_other rfl fun db' hG _ => ?_
  obtain rfl : accepted = true := hG
  exact h _

variable {input : PaymentInput}

theorem worth_pending (h : input.Split p) (hp : input.status = .pending) : worth creator p = 0 := by
  simp [worth, h.status_eq, h.chargedBack_eq, hp]

theorem worth_completed (h : input.Split p) (hco : input.status = .completed) :
    worth creator p = share creator p.creator p.creatorEarnings := by
  simp [worth, share, h.status_eq, h.chargedBack_eq, hco]

theorem shifts_charge (hsp : input.Split p) (hp : input.status = .pending) {o : Op}
    (ho : o.offLedger) {f : Nat → o.Res → Proc Op.Res ρ}
    (h : ∀ db' id r, Stored db' id p → Shifts cfg creator x db' (f id r)) :
    Shifts cfg creator x db (perform (Op.insertPayment p) >>= fun id => perform o >>= f id) := by
  refine shifts_insert fun db₁ id hid => ?_
  rw [worth_pending hsp hp, sub_zero]
  exact shifts_other ho fun db₂ _ hk => h _ _ _ (hid.mono hk)

theorem settled_of_eq {owner owner' : Nat} {v v' : ℚ} (hown : owner = owner') (hv : v = v') :
    0 - share creator owner v - -share creator owner' v' = 0 := by
  rw [hown, hv]
  ring

section

variable (hinc : cfg.incStored = true) (creator : Nat)

theorem shifts_cancelSubscription (r : CancelRequest) (db : Db) :
    Shifts cfg creator 0 db (cancelSubscription r) := by
  unfold cancelSubscription
  split
  · refine shifts_read rfl fun _ found => ?_
    split
    · refine moves_ite (fun _ => rfl) fun _ => ?_
      refine shifts_other rfl fun _ _ _ => ?_
      split
      · rfl
      · exact shifts_other rfl fun _ _ _ => rfl
    · rfl
  · rfl

theorem shifts_saveSubscription {old : Subscription} {c : SubscriptionChange}
    {f : Unit → Proc Op.Res ρ} (h : ∀ db', Shifts cfg creator x db' (f ())) :
    Shifts cfg creator x db (perform (Op.saveSubscription id old c) >>= f) :=
  shifts_other rfl fun _ _ _ => h _

variable (e : Event)

theorem shifts_activateOnSale (paymentId : Nat) (payment : Payment) (db : Db) :
    Shifts cfg creator 0 db (activateOnSale e paymentId payment) := by
  refine moves_ite (fun _ => shifts_read rfl fun _ found => ?_) fun _ => rfl
  split
  · refine shifts_saveSubscription creator fun _ => ?_
    split
    · exact shifts_saveSubscription creator fun _ => rfl
    · rfl
  · rfl

theorem shifts_forInvoice {e : Event} {f : Nat → Payment → EventHandler}
    (h : ∀ db' id p, Stored db' id p → Shifts cfg creator 0 db' (f id p)) :
    Shifts cfg creator 0 db (forInvoice e f) := by
  refine moves_ite (fun _ => rfl) fun _ => shifts_lookup rfl fun n => ?_
  refine shifts_other rfl fun db' _ _ => ?_
  simp only [exec]
  cases hp : db'.payments[n]? with
  | none => rfl
  | some p => exact h db' n p ⟨p, hp, rfl, rfl⟩

theorem shifts_newSaleFailure (db : Db) :
    Shifts cfg creator 0 db (handleNewSaleFailure e) := by
  refine shifts_forInvoice creator fun db' id p hp => shifts_save hp fun _ _ => ?_
  simp [share, gain, Moves]

theorem shifts_renewalFailure (db : Db) :
    Shifts cfg creator 0 db (handleRenewalFailure e) := by
  refine shifts_read rfl fun _ found => ?_
  split
  · exact shifts_saveSubscription creator fun _ => rfl
  · rfl

theorem shifts_cancellation (db : Db) :
    Shifts cfg creator 0 db (handleCancellation e) := by
  refine shifts_read rfl fun _ found => ?_
  split
  · exact shifts_saveSubscription creator fun _ => rfl
  · rfl

theorem shifts_expiration (db : Db) : Shifts cfg creator 0 db (handleExpiration e) := by
  refine shifts_read rfl fun _ found => ?_
  split
  · exact moves_ite (fun _ => rfl) fun _ => shifts_saveSubscription creator fun _ => rfl
  · rfl

include hinc

theorem shifts_processTip (r : TipRequest) (db : Db) :
    Shifts cfg creator 0 db (processTip cfg r) := by
  refine moves_ite (fun _ => rfl) fun _ => ?_
  refine shifts_read rfl fun _ member => ?_
  split
  · refine moves_ite (fun _ => rfl) fun _ => ?_
    refine shifts_lookup rfl fun n => shifts_find rfl fun _ found => ?_
    split
    · rename_i owner
      refine moves_ite (fun _ => rfl) fun _ => ?_
      refine shifts_lookup rfl fun n => shifts_find rfl fun _ method => ?_
      split
      · split
        · rfl
        · rename_i payment hpay
          have hsp := split_of_validated hpay
          refine shifts_charge hsp rfl rfl fun db₁ id _ hid => ?_
          split
          · rfl
          · refine shifts_save hid fun _ _ => shifts_markUsed fun _ => ?_
            refine shifts_inc hinc fun _ => ?_
            exact settled_of_eq hsp.creator_eq rfl
      · rfl
    · rfl
  · rfl

theorem shifts_purchaseContent (r : PurchaseRequest) (db : Db) :
    Shifts cfg creator 0 db (purchaseContent cfg r) := by
  refine shifts_read rfl fun _ member => ?_
  split
  · refine moves_ite (fun _ => rfl) fun _ => ?_
    refine shifts_lookup rfl fun n => shifts_find rfl fun _ found => ?_
    split
    · refine moves_ite (fun _ => rfl) fun _ => ?_
      refine moves_ite (fun _ => rfl) fun _ => ?_
      refine shifts_lookup rfl fun n => shifts_find rfl fun _ method => ?_
      split
      · split
        · rfl
        · rename_i payment hpay
          have hsp := split_of_validated hpay
          refine shifts_charge hsp rfl rfl fun db₁ id _ hid => ?_
          split
          · rfl
          · refine shifts_save hid fun _ _ => shifts_markUsed fun _ => ?_
            refine shifts_saveContent fun _ => shifts_saveMember fun _ => ?_
            refine shifts_inc hinc fun _ => ?_
            exact settled_of_eq hsp.creator_eq rfl
      · rfl
    · rfl
  · rfl

theorem shifts_recordSubscription (r : SubscribeRequest) (member owner : Nat)
    (result : SubscriptionResult) :
    Shifts cfg creator 0 db (recordSubscription cfg r member owner result) := by
  unfold recordSubscription
  split
  · refine shifts_other rfl fun _ _ _ => ?_
    split
    · refine shifts_saveSubscription creator fun _ => ?_
      split
      · rfl
      · rename_i payment hpay
        have hsp := split_of_validated hpay
        refine shifts_insert fun _ _ _ => shifts_inc hinc fun _ => ?_
        rw [worth_completed hsp rfl]
        exact settled_of_eq hsp.creator_eq rfl
    · rfl
  · rfl

theorem shifts_createSubscription (r : SubscribeRequest) (db : Db) :
    Shifts cfg creator 0 db (createSubscription cfg r) := by
  refine shifts_read rfl fun _ member => ?_
  split
  · refine moves_ite (fun _ => rfl) fun _ => ?_
    refine shifts_lookup rfl fun n => shifts_find rfl fun _ found => ?_
    split
    · refine shifts_read rfl fun _ existing => ?_
      refine moves_ite (fun _ => rfl) fun _ => ?_
      refine moves_ite (fun _ => rfl) fun _ => ?_
      refine shifts_lookup rfl fun n => shifts_find rfl fun _ method => ?_
      split
      · refine shifts_other rfl fun _ _ _ => ?_
        split
        · rfl
        · exact shifts_recordSubscription hinc creator r _ _ _
      · rfl
    · rfl
  · rfl

theorem shifts_newSaleSuccess (db : Db) :
    Shifts cfg creator 0 db (handleNewSaleSuccess e) := by
  refine shifts_forInvoice creator fun db' id p hp => ?_
  refine shifts_save hp fun db₁ hid => ?_
  have hcr : ∀ db₂, Shifts cfg creator (0 - share creator p.creator p.creatorEarnings) db₂
      (perform (Op.incEarnings p.creator (.sale p.creatorEarnings 1) true) >>= fun _ =>
        activateOnSale e id p) := by
    intro db₂
    refine shifts_inc hinc fun db₃ => ?_
    have hz : 0 - share creator p.creator p.creatorEarnings
        - -share creator p.creator (Inc.sale p.creatorEarnings 1).earnings = 0 :=
      settled_of_eq rfl rfl
    rw [hz]
    exact shifts_activateOnSale creator e id p db₃
  split
  · refine shifts_save hid fun db₂ _ => ?_
    have hn : share creator p.creator 0 = 0 := ite_self _
    rw [gain, gain, hn, sub_zero]
    exact hcr db₂
  · exact hcr db₁

theorem shifts_renewalSuccess (db : Db) :
    Shifts cfg creator 0 db (handleRenewalSuccess cfg e) := by
  refine shifts_read rfl fun _ found => ?_
  split
  · split
    · rfl
    · rename_i payment hpay
      have hsp := split_of_validated hpay
      refine shifts_insert fun _ _ _ => shifts_saveSubscription creator fun _ => ?_
      refine shifts_inc hinc fun _ => ?_
      rw [worth_completed hsp rfl]
      exact settled_of_eq hsp.creator_eq rfl
  · rfl

theorem shifts_reversePayment (c : PaymentChange) {inc : Payment → Inc}
    (hga : ∀ p, (inc p).earnings = c.gain p) (e : Event) (db : Db) :
    Shifts cfg creator 0 db (reversePayment c inc e) := by
  refine shifts_other rfl fun db' _ _ => ?_
  simp only [exec]
  cases hp : Collection.findOne (fun p => p.ccbillTransactionId = e.transactionId) db'.payments with
  | none => rfl
  | some np =>
    refine shifts_save ⟨np.2, (Collection.findOne_some hp).1, rfl, rfl⟩ fun _ _ => ?_
    exact shifts_inc hinc fun _ => settled_of_eq rfl (hga np.2).symm

theorem shifts_handleEvent (db : Db) : Shifts cfg creator 0 db (handleEvent cfg e) := by
  unfold handleEvent
  split
  · exact shifts_newSaleSuccess hinc creator e db
  · exact shifts_newSaleFailure creator e db
  · exact shifts_renewalSuccess hinc creator e db
  · exact shifts_renewalFailure creator e db
  · exact shifts_cancellation creator e db
  · exact shifts_reversePayment hinc creator .processRefund (fun _ => rfl) e db
  · exact shifts_reversePayment hinc creator .chargeback (fun _ => rfl) e db
  · exact shifts_expiration creator e db
  · rfl

theorem shifts_handle (r : Request) (db : Db) : Shifts cfg creator 0 db (handle cfg r) := by
  cases r with
  | tip r => exact shifts_processTip hinc creator r db
  | purchase r => exact shifts_purchaseContent hinc creator r db
  | subscribe r => exact shifts_createSubscription hinc creator r db
  | cancel r => exact shifts_cancelSubscription creator r db
  | webhook isValid e =>
    refine moves_ite (fun _ => rfl) fun _ => ?_
    refine moves_bind (fun _ processed => ?_) (shifts_handleEvent hinc creator e db)
    exact moves_ite (fun _ => rfl) fun _ => rfl

end

/-! ## Interleavings -/

abbrev Gate := Pool Op.Res (Response Data) Db

def next (cfg : Config) : Gate → Label Request → Gate := Pool.next (exec cfg) (handle cfg)

def tipDb : Db :=
  { members := [⟨0, []⟩], creators := 1, contents := [],
    paymentMethods := [⟨0, true, 2030, 12⟩], payments := [], subscriptions := [],
    earnings := fun _ => none, gateway := [] }

theorem tipDb_balanced : Balanced tipDb := fun _ => rfl

def approvedTip : Request :=
  .tip { user := 0, creatorId := .id 0, amount := .num (.fin 10), paymentMethodId := .id 0,
         gateway := .ok (some "T1"), today := newYear }

def tipEvent (eventType : String) : Request :=
  .webhook true
    { eventType := some eventType, event_type := none, transactionId := some "T1",
      subscriptionId := none, merchantInvoiceId := .id 0, amount := .num (.fin 10),
      expirationDate := none }

end SexySelfies.Payments
