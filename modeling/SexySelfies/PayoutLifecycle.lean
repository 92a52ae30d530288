import SexySelfies.PayoutModel

/-!
# The life of a payout request, one call at a time

The five endpoints of `payout.controller.js`, called one after another. The machine is `Solo`: a
call may stop anywhere, and between any two of its operations the rest of the application may write
to the other collections. All four results come from one fact about the handlers: every write they
make is *lawful* (`handle_lawful`).
-/

namespace SexySelfies.Payout

open Js Platform Interleave List Runs

structure Outside where
  creators : List Creator
  profiles : List CreatorProfile
  transactions : List Transaction

variable (db : Db)

/-- A write by the rest of the application. One that would change a flag is
not made. -/
def Db.outside (w : Outside) : Db :=
  if db.flags <+: w.transactions.map Transaction.payoutProcessed then
    { db with creators := w.creators, profiles := w.profiles, transactions := w.transactions }
  else db

abbrev Machine := Solo Op.Res (Response (Nat × PayoutRequest)) Db

def turn : Machine → Turn Call Outside → Machine := Solo.next exec handle Db.outside

/-! ## Lawful writes -/

def Advances : PayoutStatus → PayoutStatus → Bool
  | .pending, .approved => true
  | .pending, .rejected => true
  | .pending, .cancelled => true
  | .approved, .processed => true
  | _, _ => false

theorem advances_cases {a b : PayoutStatus} (h : Advances a b) :
    (a = .pending ∧ (b = .approved ∨ b = .rejected ∨ b = .cancelled))
      ∨ (a = .approved ∧ b = .processed) := by
  revert h
  cases a <;> cases b <;> decide

/-- The writes of the five endpoints. -/
def Lawful : Op → Prop
  | .insert r =>
    r.status = .pending ∧ NoPending db r.creator
      ∧ ∀ i ∈ r.transactions, db.flags[i]? = some false
  | .saveStatus id status =>
    ∃ r, db.payoutRequests[id]? = some r ∧ Advances r.status status = true
      ∧ (status = .processed → ∀ i ∈ r.transactions, db.flags[i]? = some true)
  | _ => True

def Listed : Prop :=
  ∀ (id : Nat) (r : PayoutRequest), db.payoutRequests[id]? = some r →
    ∀ i ∈ r.transactions, i < db.flags.length

def Undisturbed (db db' : Db) : Prop :=
  db'.payoutRequests = db.payoutRequests ∧ db.flags <+: db'.flags

theorem Undisturbed.refl : Undisturbed db db := ⟨rfl, prefix_refl _⟩

theorem Undisturbed.trans (a b c : Db) (hab : Undisturbed a b) (hbc : Undisturbed b c) :
    Undisturbed a c := ⟨hbc.1.trans hab.1, hab.2.trans hbc.2⟩

theorem undisturbed_outside (w : Outside) : Undisturbed db (db.outside w) := by
  unfold Db.outside
  split
  · rename_i hfla
    exact ⟨rfl, hfla⟩
  · exact .refl db

variable {db db' : Db} {id : Nat}

theorem Undisturbed.request_eq (h : Undisturbed db db') {r : PayoutRequest}
    (hr : db.payoutRequests[id]? = some r) : db'.payoutRequests[id]? = some r := by
  rwa [h.1]

theorem Undisturbed.flags_eq (h : Undisturbed db db') {i : Nat} {b : Bool}
    (hi : db.flags[i]? = some b) : db'.flags[i]? = some b := by
  obtain ⟨-, rest, hr⟩ := h
  rwa [← hr, List.getElem?_append_left (List.getElem?_eq_some_iff.mp hi).1]

theorem lawful_reads (db : Db) (o : Op) (h : o.reads) : Lawful db o := by
  cases o with
  | insert r | saveStatus id status => cases h
  | _ => trivial

theorem savesFrom_lawful {before after : PayoutStatus} (hadv : Advances before after)
    (hne : after ≠ .processed) :
    SavesFrom Undisturbed (fun db _ => Listed db) Lawful before after := by
  intro s t id r hget hbef hR _
  have hadv' : Advances r.status after := by rw [hbef]; exact hadv
  exact ⟨r, hR.request_eq hget, hadv', fun h => absurd h hne⟩

theorem flags_flagTransactions {ids : List Nat} {i : Nat} (hi : i ∈ ids)
    (hlt : i < db.flags.length) : (exec (.flagTransactions ids) db).1.flags[i]? = some true := by
  rw [Db.flags, length_map] at hlt
  simp only [exec, Db.flags, getElem?_map, Collection.getElem?_updateMany, hi, if_true,
    getElem?_eq_getElem hlt, Option.map_some]
  rfl

theorem createPayoutRequest_lawful (user : Nat) (ra message : Value)
    (notified : Bool) : Keeps exec Undisturbed (fun db _ => Listed db) Lawful db
      (createPayoutRequest user ra message notified) := by
  refine createPayoutRequest_keeps lawful_reads (fun _ _ => trivial) ?_ db user ra message notified
  intro s t u r hno hst hqu htu _
  refine ⟨hqu.status_eq, ?_, ?_⟩
  · intro r' hr'
    rw [htu.1, hst.1] at hr'
    exact hno r' hr'
  · intro i hi
    rw [hqu.transactions_eq] at hi
    exact htu.flags_eq (flags_of_mem_unpaidIds hi)

theorem markPayoutProcessed_lawful (requestId : Option Nat) (p : Value) :
    Keeps exec Undisturbed (fun db _ => Listed db) Lawful db (markPayoutProcessed requestId p) := by
  refine markPayoutProcessed_keeps lawful_reads (fun _ _ _ _ _ _ _ _ => trivial) ?_ ?_ db
    requestId p
  · intro s t u id r hget happ hst hl htu _
    have hget_t : t.payoutRequests[id]? = some r := hst.request_eq hget
    refine ⟨r, htu.request_eq hget_t, by rw [happ]; rfl, fun _ i hi => ?_⟩
    exact htu.flags_eq (flags_flagTransactions hi (hl id r hget_t i hi))
  · intro s t id r hget happ hnil hst _
    refine ⟨r, hst.request_eq hget, by rw [happ]; rfl, fun _ i hi => ?_⟩
    rw [hnil] at hi
    cases hi

theorem handle_lawful (call : Call) (db : Db) :
    Keeps exec Undisturbed (fun db _ => Listed db) Lawful db (handle call) := by
  cases call with
  | create user r message notified => exact createPayoutRequest_lawful user r message notified
  | cancel => exact cancelPayoutRequest_keeps lawful_reads (savesFrom_lawful rfl (by decide))
  | approve requestId notes =>
    exact approvePayoutRequest_keeps lawful_reads (savesFrom_lawful rfl (by decide)) notes
  | reject requestId reason =>
    exact rejectPayoutRequest_keeps lawful_reads (savesFrom_lawful rfl (by decide)) reason
  | process requestId p => exact markPayoutProcessed_lawful requestId p

/-! ## What lawful writes preserve -/

theorem flags_length_le (o : Op) : db.flags.length ≤ (exec o db).1.flags.length := by
  cases o <;> simp [exec, Db.flags]

variable {o : Op}

theorem listed_exec (h : Listed db) (hl : Lawful db o) : Listed (exec o db).1 := by
  intro id r' hr' i hi
  refine Nat.lt_of_lt_of_le ?_ (flags_length_le o)
  rcases exec_request_some hr' with ⟨r, hr, hs, -⟩ | ⟨-, rfl⟩
  · rw [hs.transactions_eq] at hi
    exact h id r hr i hi
  · obtain ⟨-, -, hfla⟩ := hl
    exact (List.getElem?_eq_some_iff.mp (hfla i hi)).1

variable (w : Outside)

theorem listed_outside (h : Listed db) : Listed (db.outside w) := by
  obtain ⟨hreq, hfla⟩ := undisturbed_outside db w
  intro id r hr i hi
  rw [hreq] at hr
  exact Nat.lt_of_lt_of_le (h id r hr i hi) hfla.length_le

/-- No creator has two pending requests. -/
def OnePending (db : Db) : Prop :=
  ∀ (id id' : Nat) (r r' : PayoutRequest), db.payoutRequests[id]? = some r →
    db.payoutRequests[id']? = some r' → r.creator = r'.creator →
    r.status = .pending → r'.status = .pending → id = id'

theorem pending_exec (hl : Lawful db o) {r' : PayoutRequest}
    (hr' : (exec o db).1.payoutRequests[id]? = some r') (hp : r'.status = .pending) :
    (∃ r, db.payoutRequests[id]? = some r ∧ r'.creator = r.creator ∧ r.status = .pending)
      ∨ (id = db.payoutRequests.length ∧ NoPending db r'.creator) := by
  rcases exec_request_some hr' with ⟨r, hr, hs, hst⟩ | ⟨hid, rfl⟩
  · rcases hst with hs' | rfl
    · exact .inl ⟨r, hr, hs.creator_eq, hs'.symm.trans hp⟩
    · obtain ⟨r₀, -, hadv, -⟩ := hl
      rw [hp] at hadv
      rcases advances_cases hadv with ⟨-, h | h | h⟩ | ⟨-, h⟩ <;> cases h
  · exact .inr ⟨hid, hl.2.1⟩

theorem onePending_exec (h : OnePending db) (hl : Lawful db o) : OnePending (exec o db).1 := by
  intro id id' r r' hr hr' hcr hp hp'
  rcases pending_exec hl hr hp with ⟨s, hs, hsc, hsp⟩ | ⟨hid, hno⟩
  · rcases pending_exec hl hr' hp' with ⟨s', hs', hsc', hsp'⟩ | ⟨hid', hno'⟩
    · exact h id id' s s' hs hs' (by rw [← hsc, ← hsc', hcr]) hsp hsp'
    · exact absurd hsp (hno' s (mem_of_getElem? hs) (by rw [← hsc, hcr]))
  · rcases pending_exec hl hr' hp' with ⟨s', hs', hsc', hsp'⟩ | ⟨hid', hno'⟩
    · exact absurd hsp' (hno s' (mem_of_getElem? hs') (by rw [← hsc', hcr]))
    · rw [hid, hid']

/-- What a processed request lists is flagged. -/
def ProcessedFlagged (db : Db) : Prop :=
  ∀ (id : Nat) (r : PayoutRequest), db.payoutRequests[id]? = some r →
    r.status = .processed → ∀ i ∈ r.transactions, db.flags[i]? = some true

theorem processedFlagged_exec (h : ProcessedFlagged db) (hl : Lawful db o) :
    ProcessedFlagged (exec o db).1 := by
  intro id r' hr' hp i hi
  have hfl : db.flags[i]? = some true := by
    rcases exec_request_some hr' with ⟨r, hr, hs, hst⟩ | ⟨-, rfl⟩
    · rw [hs.transactions_eq] at hi
      rcases hst with hs' | rfl
      · exact h id r hr (hs'.symm.trans hp) i hi
      · obtain ⟨r₀, hr₀, -, hfla⟩ := hl
        obtain rfl := Option.mem_unique hr hr₀
        exact hfla hp i hi
    · rw [hl.1] at hp
      cases hp
  exact exec_flags_true hfl

theorem onePending_nil (h : db.payoutRequests = []) : OnePending db :=
  fun _ _ _ _ hr => absurd hr (no_request h)

theorem processedFlagged_nil (h : db.payoutRequests = []) : ProcessedFlagged db :=
  fun _ _ hr => absurd hr (no_request h)

theorem onePending_outside (h : OnePending db) : OnePending (db.outside w) := by
  unfold OnePending
  rwa [(undisturbed_outside db w).1]

theorem processedFlagged_outside (h : ProcessedFlagged db) :
    ProcessedFlagged (db.outside w) := by
  have hu := undisturbed_outside db w
  intro id r hr hp i hi
  rw [hu.1] at hr
  exact hu.flags_eq (h id r hr hp i hi)

/-- Requests made after `base` list nothing that was flagged in `base`. -/
structure FreshSince (base db : Db) : Prop where
  length_le : base.payoutRequests.length ≤ db.payoutRequests.length
  flags_true : ∀ i : Nat, base.flags[i]? = some true → db.flags[i]? = some true
  fresh : ∀ (id : Nat) (r : PayoutRequest), db.payoutRequests[id]? = some r →
    base.payoutRequests.length ≤ id → ∀ i ∈ r.transactions, base.flags[i]? ≠ some true

theorem freshSince_refl : FreshSince db db := by
  refine ⟨le_rfl, fun _ h => h, ?_⟩
  intro id r hr hid
  have hlt := (List.getElem?_eq_some_iff.mp hr).1
  omega

theorem freshSince_exec {base : Db} (h : FreshSince base db) (hl : Lawful db o) :
    FreshSince base (exec o db).1 := by
  refine ⟨Nat.le_trans h.length_le (exec_length_le o),
    fun i hi => exec_flags_true (h.flags_true i hi), ?_⟩
  intro id r' hr' hid i hi
  rcases exec_request_some hr' with ⟨r, hr, hs, -⟩ | ⟨-, rfl⟩
  · rw [hs.transactions_eq] at hi
    exact h.fresh id r hr hid i hi
  · intro hba
    have htr := h.flags_true i hba
    rw [hl.2.2 i hi] at htr
    cases htr

theorem freshSince_outside {base : Db} (w : Outside) (h : FreshSince base db) :
    FreshSince base (db.outside w) := by
  have hu := undisturbed_outside db w
  refine ⟨by rw [hu.1]; exact h.length_le, fun i hi => hu.flags_eq (h.flags_true i hi), ?_⟩
  intro id r hr hid
  rw [hu.1] at hr
  exact h.fresh id r hr hid

def statusOf (db : Db) (id : Nat) : Option PayoutStatus :=
  (db.payoutRequests[id]?).map PayoutRequest.status

abbrev StatusStep (db db' : Db) (id : Nat) : Prop :=
  Runs.Follows (fun a b => Advances a b = true) .pending (statusOf db id) (statusOf db' id)

theorem statusStep_of_eq (h : statusOf db' id = statusOf db id) : StatusStep db db' id := by
  unfold StatusStep
  rw [h]
  cases statusOf db id with
  | none => trivial
  | some => exact .inl rfl

theorem statusStep_exec (hl : Lawful db o) : StatusStep db (exec o db).1 id := by
  unfold StatusStep statusOf
  cases hr : db.payoutRequests[id]? with
  | none =>
    cases hr' : (exec o db).1.payoutRequests[id]? with
    | none => trivial
    | some =>
      rcases exec_request_some hr' with ⟨r, hr₀, -⟩ | ⟨-, rfl⟩
      · rw [hr] at hr₀
        cases hr₀
      · exact hl.1
  | some =>
    obtain ⟨r', hr', -, hst⟩ := exec_request_stays hr
    rw [hr']
    rcases hst with hs | rfl
    · exact .inl hs.symm
    · obtain ⟨r₀, hr₀, hadv, -⟩ := hl
      obtain rfl := Option.mem_unique hr hr₀
      exact .inr hadv

/-! ## Whole runs -/

def lifecycles : List (List PayoutStatus) :=
  [[.pending, .rejected], [.pending, .cancelled], [.pending, .approved, .processed]]

def statusHistory (db : Db) (turns : List (Turn Call Outside)) (id : Nat) : List PayoutStatus :=
  Runs.history turn (fun c : Machine => statusOf c.store id) ⟨db, none⟩ turns

theorem turns_lawful (h : db.payoutRequests = []) (turns : List (Turn Call Outside)) :
    Every turn (Solo.Fires Lawful) ⟨db, none⟩ turns := by
  have hl : Listed db := fun _ _ hr => absurd hr (no_request h)
  refine solo_every_of_keeps Undisturbed.refl Undisturbed.trans undisturbed_outside
    (fun _ w => listed_outside w) (fun _ _ => listed_exec) (fun call db => handle_lawful call db)
    hl ?_
  intro p hp
  cases hp

theorem turn_store {T : Db → Db → Prop} (hre : ∀ db, T db db)
    (hop : ∀ db o, Lawful db o → T db (exec o db).1) (hout : ∀ db w, T db (db.outside w))
    {c : Machine} {t : Turn Call Outside} (h : c.Fires Lawful t) : T c.store (turn c t).store :=
  solo_next_store hre hop hout h

theorem always_of_lawful {I : Db → Prop} (hop : ∀ {db o}, I db → Lawful db o → I (exec o db).1)
    (hout : ∀ {db} w, I db → I (db.outside w)) {turns : List (Turn Call Outside)}
    {c : Machine} (hI : I c.store) (h : Every turn (Solo.Fires Lawful) c turns) :
    Always turn (fun c => I c.store) c turns := by
  refine always_of_every (fun c t hc hQ => ?_) hI h
  have hT := turn_store (T := fun db db' => I db → I db') (fun _ h => h)
    (fun _ _ hl h => hop h hl) (fun _ w h => hout w h) hQ
  exact hT hc

theorem prefix_lifecycles {t : List PayoutStatus}
    (h : (PayoutStatus.pending :: t).IsChain fun a b => Advances a b) :
    ∃ path ∈ lifecycles, .pending :: t <+: path := by
  cases t with
  | nil => exact ⟨_, mem_cons_self .., by decide⟩
  | cons a t =>
    obtain ⟨ha, hr⟩ := isChain_cons_cons.mp h
    cases t with
    | nil =>
      rcases advances_cases ha with ⟨-, rfl | rfl | rfl⟩ | ⟨hap, -⟩
      · exact ⟨[.pending, .approved, .processed], by decide, by decide⟩
      · exact ⟨[.pending, .rejected], by decide, by decide⟩
      · exact ⟨[.pending, .cancelled], by decide, by decide⟩
      · cases hap
    | cons b t =>
      obtain ⟨hb, hr'⟩ := isChain_cons_cons.mp hr
      rcases advances_cases hb with ⟨rfl, -⟩ | ⟨rfl, rfl⟩
      · cases ha
      · cases t with
        | nil => exact ⟨[.pending, .approved, .processed], by decide, by decide⟩
        | cons =>
          obtain ⟨hc, -⟩ := isChain_cons_cons.mp hr'
          cases hc

theorem statusHistory_prefix (h : db.payoutRequests = []) (turns : List (Turn Call Outside))
    (id : Nat) : ∃ path ∈ lifecycles, statusHistory db turns id <+: path := by
  have hn : statusOf db id = none := by simp [statusOf, h]
  have hste : Every turn
      (fun c t => StatusStep c.store (turn c t).store id) (⟨db, none⟩ : Machine) turns := by
    refine every_mono (fun c t hQ => ?_) (turns_lawful h turns)
    refine turn_store (T := fun db db' => StatusStep db db' id)
      (fun db => statusStep_of_eq rfl) (fun _ _ hl => statusStep_exec hl)
      (fun db w => statusStep_of_eq ?_) hQ
    rw [statusOf, statusOf, (undisturbed_outside db w).1]
  rcases history_of_none (f := fun c : Machine => statusOf c.store id) hn hste with
    hnil | ⟨t, ht, hcha⟩
  · refine ⟨_, mem_cons_self .., ?_⟩
    rw [statusHistory, hnil]
    exact nil_prefix
  · rw [statusHistory, ht]
    exact prefix_lifecycles hcha

theorem disjoint_of_processed (h : db.payoutRequests = []) (before after : List (Turn Call Outside))
    {id' : Nat} {r r' : PayoutRequest}
    (hr : (final turn ⟨db, none⟩ before).store.payoutRequests[id]? = some r)
    (hp : r.status = .processed)
    (hr' : (final turn ⟨db, none⟩ (before ++ after)).store.payoutRequests[id']? = some r')
    (hnew : (final turn ⟨db, none⟩ before).store.payoutRequests.length ≤ id') :
    ∀ i ∈ r.transactions, i ∉ r'.transactions := by
  obtain ⟨hbef, ha⟩ := Every.append.mp (turns_lawful h (before ++ after))
  have hfl : ProcessedFlagged (final turn ⟨db, none⟩ before).store :=
    (always_of_lawful processedFlagged_exec processedFlagged_outside
      (processedFlagged_nil h) hbef).last
  have hf : FreshSince (final turn ⟨db, none⟩ before).store
      (final turn ⟨db, none⟩ (before ++ after)).store := by
    rw [final_append]
    exact (always_of_lawful freshSince_exec freshSince_outside freshSince_refl ha).last
  intro i hi hi'
  exact hf.fresh id' r' hr' hnew i hi' (hfl id r hr hp i hi)

/-- Calls one after another: a creator has at most one pending request, every request follows a
lifecycle, and what was processed is flagged and never listed again. -/
theorem payout_lifecycle (db : Db) (h : db.payoutRequests = [])
    (turns : List (Turn Call Outside)) :
    Runs.Always turn (fun c => OnePending c.store) ⟨db, none⟩ turns
      ∧ (∀ id, ∃ path ∈ lifecycles, statusHistory db turns id <+: path)
      ∧ Runs.Always turn (fun c => ProcessedFlagged c.store) ⟨db, none⟩ turns
      ∧ (∀ before after : List (Turn Call Outside), before ++ after = turns →
          ∀ (id id' : Nat) (r r' : PayoutRequest),
            (Runs.final turn ⟨db, none⟩ before).store.payoutRequests[id]? = some r →
            r.status = .processed →
            (Runs.final turn ⟨db, none⟩ turns).store.payoutRequests[id']? = some r' →
            (Runs.final turn ⟨db, none⟩ before).store.payoutRequests.length ≤ id' →
            ∀ i ∈ r.transactions, i ∉ r'.transactions) := by
  have hlaw := turns_lawful h turns
  refine ⟨?_, statusHistory_prefix h turns, ?_, ?_⟩
  · exact always_of_lawful onePending_exec onePending_outside (onePending_nil h) hlaw
  · exact always_of_lawful processedFlagged_exec processedFlagged_outside
      (processedFlagged_nil h) hlaw
  · rintro before after rfl id id' r r' hr hp hr' hnew
    exact disjoint_of_processed h before after hr hp hr' hnew

def sampleTransaction (creatorEarnings : ℚ) (h : 0 ≤ creatorEarnings) : Transaction :=
  { transactionId := "TXN-1", memberId := 0, creatorId := 0, creator := 0, type := .tip,
    amount := creatorEarnings * (5 / 4), status := .completed, paymentMethod := .ccbill,
    creatorEarnings, payoutProcessed := false, amount_nonneg := by linarith,
    creatorEarnings_nonneg := h }

def sampleDb : Db :=
  { creators := [⟨7⟩], profiles := [⟨0, some "mail@pay.com", none⟩], payoutRequests := [],
    transactions := [sampleTransaction 60 (by norm_num)] }

def sampleTurns : List (Turn Call Outside) :=
  [.start (.create 7 (.num (.fin 60)) .undefined true), .step, .step, .step, .step, .step, .step,
   .start (.approve (some 0) .undefined), .step, .step,
   .start (.process (some 0) (.str "PAYPAL-1")), .step, .step, .step]

theorem payout_lifecycle_sample :
    statusHistory sampleDb sampleTurns 0 = [.pending, .approved, .processed]
      ∧ Runs.Always turn (fun c => OnePending c.store) ⟨sampleDb, none⟩ sampleTurns :=
  ⟨by decide +kernel, (payout_lifecycle sampleDb rfl sampleTurns).1⟩

end SexySelfies.Payout
