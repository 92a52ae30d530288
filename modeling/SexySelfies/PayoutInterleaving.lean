import SexySelfies.PayoutLifecycle

/-!
# Payout requests under interleaving

With several calls in flight the guards of `payout.controller.js` no longer protect the money. The
condition under which nothing is paid twice is about two writes: a request is inserted only when no
transaction it lists is listed in a live one, and a status is saved only over `pending` or
`approved` (or over itself). Under it `Sound` is invariant.
-/

namespace SexySelfies.Payout

open Js Platform Interleave List Runs Collection

abbrev Office := Pool Op.Res (Response (Nat × PayoutRequest)) Db

def next : Office → Label Call → Office := Pool.next exec handle

def PayoutStatus.live : PayoutStatus → Bool
  | .pending => true
  | .approved => true
  | .processed => true
  | .rejected => false
  | .cancelled => false

/-- No live request is touched by another. -/
def Exclusive (db : Db) : Op → Prop
  | .insert r => ∀ r' ∈ db.payoutRequests, r'.status.live = true →
      ∀ i ∈ r.transactions, i ∉ r'.transactions
  | .saveStatus id status => ∀ r ∈ db.payoutRequests[id]?,
      r.status = .pending ∨ r.status = .approved ∨ r.status = status
  | _ => True

instance (db : Db) : ∀ o, Decidable (Exclusive db o)
  | .insert r => inferInstanceAs (Decidable (∀ r' ∈ db.payoutRequests, r'.status.live = true →
      ∀ i ∈ r.transactions, i ∉ r'.transactions))
  | .saveStatus id status => inferInstanceAs (Decidable (∀ r ∈ db.payoutRequests[id]?,
      r.status = .pending ∨ r.status = .approved ∨ r.status = status))
  | .findCreator _ | .findProfile _ | .findPending _ | .aggregateEarnings _ | .saveNotified _
  | .findById _ | .findOfCreator _ _ | .flagTransactions _ => .isTrue trivial

/-! ## Requests are backed by earnings -/

/-- A request for at most what its own transactions earned, all of them
completed transactions of its creator. -/
structure Backed (db : Db) (r : PayoutRequest) : Prop where
  nodup : r.transactions.Nodup
  completed : ∀ i ∈ r.transactions, ∃ t, db.transactions[i]? = some t
    ∧ t.creator = r.creator ∧ t.status = .completed
  requestedAmount_le : r.requestedAmount ≤ (r.transactions.map db.earningsOf).sum

/-- Transactions stay, keep their creator and earnings, and stay completed. -/
def EarningsKept (db db' : Db) : Prop :=
  ∀ (i : Nat) (t : Transaction), db.transactions[i]? = some t →
    ∃ t', db'.transactions[i]? = some t' ∧ t'.creator = t.creator
      ∧ t'.creatorEarnings = t.creatorEarnings
      ∧ (t.status = .completed → t'.status = .completed)

theorem EarningsKept.refl (db : Db) : EarningsKept db db := fun _ t ht => ⟨t, ht, rfl, rfl, id⟩

theorem EarningsKept.trans (a b c : Db) (hab : EarningsKept a b) (hbc : EarningsKept b c) :
    EarningsKept a c := by
  intro i t ht
  obtain ⟨t', ht', hcr, hea, hst⟩ := hab i t ht
  obtain ⟨t'', ht'', hcr', hea', hst'⟩ := hbc i t' ht'
  exact ⟨t'', ht'', hcr'.trans hcr, hea'.trans hea, fun h => hst' (hst h)⟩

theorem earningsKept_exec (o : Op) (db : Db) : EarningsKept db (exec o db).1 := by
  intro i t ht
  cases o with
  | flagTransactions ids =>
    refine ⟨if i ∈ ids then Transaction.flag t else t, ?_, ?_⟩
    · simp [exec, getElem?_updateMany, ht]
    · by_cases hi : i ∈ ids
      · rw [if_pos hi]; exact ⟨rfl, rfl, id⟩
      · rw [if_neg hi]; exact ⟨rfl, rfl, id⟩
  | _ => exact ⟨t, ht, rfl, rfl, id⟩

variable {db : Db} {r : PayoutRequest}

theorem Backed.mono {db' : Db} (h : EarningsKept db db') (hr : Backed db r) : Backed db' r := by
  have hco : ∀ i ∈ r.transactions, ∃ t, db'.transactions[i]? = some t
      ∧ t.creator = r.creator ∧ t.status = .completed ∧ db'.earningsOf i = db.earningsOf i := by
    intro i hi
    obtain ⟨t, ht, hcr, hst⟩ := hr.completed i hi
    obtain ⟨t', ht', hcr', hea, hst'⟩ := h i t ht
    refine ⟨t', ht', hcr'.trans hcr, hst' hst, ?_⟩
    rwa [Db.earningsOf, Db.earningsOf, ht, ht']
  refine ⟨hr.nodup, fun i hi => ?_, ?_⟩
  · obtain ⟨t, ht, hcr, hst, -⟩ := hco i hi
    exact ⟨t, ht, hcr, hst⟩
  · have hmap : r.transactions.map db'.earningsOf = r.transactions.map db.earningsOf := by
      refine map_congr_left fun i hi => ?_
      obtain ⟨-, -, -, -, heq⟩ := hco i hi
      exact heq
    rw [hmap]
    exact hr.requestedAmount_le

variable {r' : PayoutRequest}

theorem Backed.of_same (h : SameRequest r r') (hr : Backed db r) : Backed db r' := by
  refine ⟨?_, ?_, ?_⟩
  · rw [h.transactions_eq]; exact hr.nodup
  · rw [h.transactions_eq, h.creator_eq]; exact hr.completed
  · rw [h.transactions_eq, h.requestedAmount_eq]; exact hr.requestedAmount_le

theorem Quoted.backed (h : Quoted db r) : Backed db r := by
  refine ⟨?_, ?_, h.requestedAmount_le⟩
  · rw [h.transactions_eq]
    exact nodup_unpaidIds
  · intro i hi
    rw [h.transactions_eq] at hi
    obtain ⟨t, ht, hcr, hst, -⟩ := mem_unpaidIds.mp hi
    exact ⟨t, ht, hcr, hst⟩

def Backs (db : Db) : Op → Prop
  | .insert r => Backed db r
  | _ => True

theorem backs_reads (db : Db) (o : Op) (h : o.reads) : Backs db o := by
  cases o with
  | insert => cases h
  | _ => trivial

theorem handle_backs {G : Db → Op → Prop} (call : Call) :
    Keeps exec EarningsKept G Backs db (handle call) := by
  have hs : ∀ before after, SavesFrom EarningsKept G Backs before after :=
    fun _ _ _ _ _ _ _ _ _ _ => trivial
  cases call with
  | create user ra message notified =>
    refine createPayoutRequest_keeps backs_reads (fun _ _ => trivial) ?_ db user ra message notified
    intro s t u r _ _ hqu htu _
    exact hqu.backed.mono htu
  | cancel => exact cancelPayoutRequest_keeps backs_reads (hs _ _)
  | approve requestId notes => exact approvePayoutRequest_keeps backs_reads (hs _ _) notes
  | reject requestId reason => exact rejectPayoutRequest_keeps backs_reads (hs _ _) reason
  | process requestId p =>
    exact markPayoutProcessed_keeps backs_reads (fun _ _ _ _ _ _ _ _ => trivial)
      (fun _ _ _ _ _ _ _ _ _ _ _ => trivial) (fun _ _ _ _ _ _ _ _ _ => trivial) db
      requestId p

variable {id : Nat} {o : Op}

theorem backed_exec
    (h : ∀ (id : Nat) (r : PayoutRequest), db.payoutRequests[id]? = some r → Backed db r)
    (hba : Backs db o) (hr' : (exec o db).1.payoutRequests[id]? = some r') :
    Backed (exec o db).1 r' := by
  have hbef : Backed db r' := by
    rcases exec_request_some hr' with ⟨r, hr, hs, -⟩ | ⟨-, rfl⟩
    · exact (h id r hr).of_same hs
    · exact hba
  exact hbef.mono (earningsKept_exec o db)

/-- Live requests share nothing, and every request is backed. -/
structure Sound (db : Db) : Prop where
  disjoint : ∀ (id id' : Nat) (r r' : PayoutRequest), db.payoutRequests[id]? = some r →
    db.payoutRequests[id']? = some r' → id ≠ id' → r.status.live = true →
    r'.status.live = true → ∀ i ∈ r.transactions, i ∉ r'.transactions
  backed : ∀ (id : Nat) (r : PayoutRequest), db.payoutRequests[id]? = some r → Backed db r

theorem sound_nil (h : db.payoutRequests = []) : Sound db :=
  ⟨fun _ _ _ _ hr => absurd hr (no_request h), fun _ _ hr => absurd hr (no_request h)⟩

theorem live_exec (hex : Exclusive db o) (hr' : (exec o db).1.payoutRequests[id]? = some r')
    (hl : r'.status.live) :
    (∃ r, db.payoutRequests[id]? = some r ∧ r'.transactions = r.transactions ∧ r.status.live)
      ∨ (id = db.payoutRequests.length ∧ ∀ s ∈ db.payoutRequests, s.status.live →
          ∀ i ∈ r'.transactions, i ∉ s.transactions) := by
  rcases exec_request_some hr' with ⟨r, hr, hs, hst⟩ | ⟨hid, rfl⟩
  · refine .inl ⟨r, hr, hs.transactions_eq, ?_⟩
    rcases hst with heq | rfl
    · rw [← heq]; exact hl
    · rcases hex r hr with h | h | h
      · rw [h]; rfl
      · rw [h]; rfl
      · rw [h]; exact hl
  · exact .inr ⟨hid, hex⟩

theorem sound_exec (h : Sound db) (hop : Exclusive db o ∧ Backs db o) : Sound (exec o db).1 := by
  obtain ⟨hex, hba⟩ := hop
  refine ⟨?_, ?_⟩
  · intro id id' r r' hr hr' hne hl hl' i hi hi'
    rcases live_exec hex hr hl with ⟨s, hs, hst, hsl⟩ | ⟨hid, hf⟩
    · rcases live_exec hex hr' hl' with ⟨s', hs', hst', hsl'⟩ | ⟨hid', hf'⟩
      · rw [hst] at hi
        rw [hst'] at hi'
        exact h.disjoint id id' s s' hs hs' hne hsl hsl' i hi hi'
      · rw [hst] at hi
        exact hf' s (mem_of_getElem? hs) hsl i hi' hi
    · rcases live_exec hex hr' hl' with ⟨s', hs', hst', hsl'⟩ | ⟨hid', -⟩
      · rw [hst'] at hi'
        exact hf s' (mem_of_getElem? hs') hsl' i hi hi'
      · omega
  · exact fun id r' => backed_exec h.backed hba

theorem processed_exec (hex : Exclusive db o) (hr : db.payoutRequests[id]? = some r)
    (hp : r.status = .processed) :
    ∃ r', (exec o db).1.payoutRequests[id]? = some r' ∧ r'.transactions = r.transactions
      ∧ r'.status = .processed := by
  obtain ⟨r', hr', hs, hst⟩ := exec_request_stays hr
  refine ⟨r', hr', hs.transactions_eq, ?_⟩
  rcases hst with heq | rfl
  · rw [heq]; exact hp
  · rcases hex r hr with h | h | h
    · rw [hp] at h; cases h
    · rw [hp] at h; cases h
    · rw [← h]; exact hp

/-! ## Sound stores pay at most what was earned -/

variable {creator : Nat}

theorem earned_eq_sum : db.earned creator = ∑ i ∈ (Finset.range db.transactions.length).filter
      (fun i => (db.transactions[i]?).any fun t => t.creator = creator ∧ t.status = .completed),
      db.earningsOf i := by
  rw [Db.earned, total_eq_sum_range, Finset.sum_filter]
  refine Finset.sum_congr rfl fun i _ => ?_
  unfold Db.earningsOf
  cases hi : db.transactions[i]? with
  | none => rfl
  | some => simp

theorem earningsOf_nonneg (i : Nat) : 0 ≤ db.earningsOf i := by
  unfold Db.earningsOf
  cases db.transactions[i]? with
  | none => exact le_refl 0
  | some t => exact t.creatorEarnings_nonneg

def Db.processedOf (db : Db) (creator : Nat) : List PayoutRequest :=
  db.payoutRequests.filter fun r => decide (r.creator = creator ∧ r.status = .processed)

theorem mem_processedOf {creator : Nat} (hr : r ∈ db.processedOf creator) :
    ∃ id : Nat, db.payoutRequests[id]? = some r ∧ r.creator = creator ∧ r.status = .processed := by
  obtain ⟨hmem, hp⟩ := List.mem_filter.mp hr
  obtain ⟨id, hid⟩ := getElem?_of_mem hmem
  exact ⟨id, hid, of_decide_eq_true hp⟩

theorem paidOut_eq_total : db.paidOut creator = total Prod.fst
      ((db.processedOf creator).map fun r => (r.requestedAmount, r.transactions)) := by
  rw [total_map, Db.processedOf, total_filter]
  simp [Db.paidOut]

theorem Sound.pairwise_processedOf (h : Sound db) (creator : Nat) :
    (db.processedOf creator).Pairwise fun r r' => ∀ i ∈ r.transactions, i ∉ r'.transactions := by
  rw [Db.processedOf, pairwise_filter]
  refine pairwise_iff_getElem.mpr fun j k hj hk hjk hpj hpk => ?_
  have hj' := (of_decide_eq_true hpj).2
  have hk' := (of_decide_eq_true hpk).2
  exact h.disjoint j k _ _ (getElem?_eq_getElem hj) (getElem?_eq_getElem hk)
    (Nat.ne_of_lt hjk) (by rw [hj']; rfl) (by rw [hk']; rfl)

theorem Sound.paidOut_le_earned (h : Sound db) (creator : Nat) :
    db.paidOut creator ≤ db.earned creator := by
  have hdi := h.pairwise_processedOf creator
  rw [paidOut_eq_total, earned_eq_sum]
  refine total_le_of_disjoint ?_ (pairwise_map.mpr hdi) ?_ ?_ fun i _ => earningsOf_nonneg i
  · intro c hc
    obtain ⟨r, hr, rfl⟩ := mem_map.mp hc
    obtain ⟨id, hid, -⟩ := mem_processedOf hr
    exact (h.backed id r hid).nodup
  · intro c hc
    obtain ⟨r, hr, rfl⟩ := mem_map.mp hc
    obtain ⟨id, hid, -⟩ := mem_processedOf hr
    exact (h.backed id r hid).requestedAmount_le
  · intro c hc i hi
    obtain ⟨r, hr, rfl⟩ := mem_map.mp hc
    obtain ⟨id, hid, rfl, -⟩ := mem_processedOf hr
    obtain ⟨t, ht, hcr, hst⟩ := (h.backed id r hid).completed i hi
    have hlt := (List.getElem?_eq_some_iff.mp ht).1
    rw [Finset.mem_filter, Finset.mem_range, ht]
    exact ⟨hlt, by simp [hcr, hst]⟩

/-! ## Whole interleavings -/

/-- In the run, no transaction is listed in two requests that both reach
`processed`, and no creator is ever paid more than was earned. -/
def PaidOnce (db : Db) (labels : List (Label Call)) : Prop :=
  (∀ before before' : List (Label Call), before <+: labels → before' <+: labels →
    ∀ (id id' : Nat) (r r' : PayoutRequest), id ≠ id' →
      (Runs.final next ⟨db, []⟩ before).store.payoutRequests[id]? = some r →
      (Runs.final next ⟨db, []⟩ before').store.payoutRequests[id']? = some r' →
      r.status = .processed → r'.status = .processed →
      ∀ i ∈ r.transactions, i ∉ r'.transactions)
  ∧ Runs.Always next (fun c => ∀ creator, c.store.paidOut creator ≤ c.store.earned creator)
      ⟨db, []⟩ labels

theorem every_exclusive_backs {labels : List (Label Call)}
    (hex : Every next (Fires Exclusive) ⟨db, []⟩ labels) :
    Every next (Fires fun db o => Exclusive db o ∧ Backs db o) ⟨db, []⟩ labels := by
  have hba : Every next (Fires Backs) ⟨db, []⟩ labels :=
    every_of_keeps EarningsKept.refl EarningsKept.trans (fun s o _ _ => earningsKept_exec o s)
      (fun call s => handle_backs call) (by simp) hex
  exact every_mono (fun c l h => fires_and h.1 h.2) (hex.and hba)

theorem processed_final {c : Office} {l : List (Label Call)}
    (hex : Every next (Fires Exclusive) c l) (hr : c.store.payoutRequests[id]? = some r)
    (hp : r.status = .processed) : ∃ r', (final next c l).store.payoutRequests[id]? = some r'
      ∧ r'.transactions = r.transactions ∧ r'.status = .processed := by
  have hsta := always_store_of_fires (I := fun db : Db => ∃ r', db.payoutRequests[id]? = some r'
      ∧ r'.transactions = r.transactions ∧ r'.status = .processed)
    (fun db o hI hex => ?_) ⟨r, hr, rfl, hp⟩ hex
  · exact hsta.last
  · obtain ⟨s, hs, hst, hsp⟩ := hI
    obtain ⟨s', hs', hst', hsp'⟩ := processed_exec hex hs hsp
    exact ⟨s', hs', hst'.trans hst, hsp'⟩

/-- No stored transaction that the request lists can be requested again. -/
def Cleared (db : Db) (r : PayoutRequest) : Prop :=
  ∀ i ∈ r.transactions, db.flags[i]? ≠ some false

def ClearedKept (db db' : Db) : Prop :=
  ∀ (id : Nat) (r : PayoutRequest), db.payoutRequests[id]? = some r →
    ∃ r', db'.payoutRequests[id]? = some r' ∧ r'.transactions = r.transactions
      ∧ (Cleared db r → Cleared db' r')

theorem ClearedKept.trans (a b c : Db) (hab : ClearedKept a b) (hbc : ClearedKept b c) :
    ClearedKept a c := by
  intro id r hr
  obtain ⟨s, hs, hst, hsc⟩ := hab id r hr
  obtain ⟨t, ht, htt, htc⟩ := hbc id s hs
  exact ⟨t, ht, htt.trans hst, fun h => htc (hsc h)⟩

theorem cleared_exec (h : Cleared db r) (hs : r'.transactions = r.transactions) (o : Op) :
    Cleared (exec o db).1 r' := by
  intro i hi
  rcases exec_flags i with heq | ⟨-, -, -, heq⟩
  · rw [heq]
    exact h i (hs ▸ hi)
  · rw [heq]
    cases db.flags[i]? <;> simp

/-- A request is processed only with its flags set. -/
def Clears (db : Db) : Op → Prop
  | .insert r => r.status = .pending
  | .saveStatus id .processed => ∀ r ∈ db.payoutRequests[id]?, Cleared db r
  | _ => True

theorem handle_clears {G : Db → Op → Prop} (call : Call) :
    Keeps exec ClearedKept G Clears db (handle call) := by
  have hrd : ∀ (db : Db) (o : Op), o.reads → Clears db o := by
    intro db o h
    cases o with
    | insert | saveStatus => cases h
    | _ => trivial
  cases call with
  | create user ra message notified =>
    refine createPayoutRequest_keeps hrd (fun _ _ => trivial) ?_ db user ra message notified
    exact fun _ _ _ _ _ _ hqu _ _ => hqu.status_eq
  | cancel => exact cancelPayoutRequest_keeps hrd fun _ _ _ _ _ _ _ _ => trivial
  | approve requestId notes =>
    exact approvePayoutRequest_keeps hrd (fun _ _ _ _ _ _ _ _ => trivial) notes
  | reject requestId reason =>
    exact rejectPayoutRequest_keeps hrd (fun _ _ _ _ _ _ _ _ => trivial) reason
  | process requestId p =>
    refine markPayoutProcessed_keeps hrd (fun _ _ _ _ _ _ _ _ => trivial) ?_ ?_ db requestId p
    · intro s t u id r hr _ hst _ htu _ x hx
      obtain ⟨r₁, hr₁, htr, -⟩ := hst id r hr
      obtain ⟨r₂, hr₂, hsa, -⟩ := exec_request_stays (o := .flagTransactions r.transactions) hr₁
      obtain ⟨r₃, hr₃, -, hcl⟩ := htu id r₂ hr₂
      obtain rfl := Option.mem_unique hx hr₃
      refine hcl fun i hi => ?_
      rw [hsa.transactions_eq, htr] at hi
      simp [exec, Db.flags, getElem?_updateMany, hi, Transaction.flag]
    · intro s t id r hr _ hnil hst _ x hx
      obtain ⟨r₁, hr₁, htr, -⟩ := hst id r hr
      obtain rfl := Option.mem_unique hx hr₁
      simp [Cleared, htr, hnil]

/-- In every interleaving, whatever a processed request lists is flagged as paid. -/
theorem processed_cleared (db : Db) (h : db.payoutRequests = []) (labels : List (Label Call)) :
    Always next (fun c => ∀ r ∈ c.store.payoutRequests, r.status = .processed → Cleared c.store r)
      ⟨db, []⟩ labels := by
  have hcl : Every next (Fires Clears) ⟨db, []⟩ labels :=
    every_of_keeps (fun _ _ r hr => ⟨r, hr, rfl, id⟩) ClearedKept.trans
      (fun s o _ _ id r hr => by
        obtain ⟨r', hr', hs, -⟩ := exec_request_stays (o := o) hr
        exact ⟨r', hr', hs.transactions_eq, fun hc => cleared_exec hc hs.transactions_eq o⟩)
      (fun call s => handle_clears call) nofun every_fires_true
  refine always_mono (fun c hc r hr => ?_) (always_store_of_fires (I := fun db : Db =>
    ∀ (id : Nat) (r : PayoutRequest), db.payoutRequests[id]? = some r → r.status = .processed →
      Cleared db r) ?_ (fun _ _ hr => absurd hr (no_request h)) hcl)
  · obtain ⟨id, hid⟩ := getElem?_of_mem hr
    exact hc id r hid
  · intro db o hI ho id r' hr' hp
    rcases exec_request_some hr' with ⟨r, hr, hs, hst | rfl⟩ | ⟨-, rfl⟩
    · exact cleared_exec (hI id r hr (hst ▸ hp)) hs.transactions_eq o
    · rw [hp] at ho ⊢
      exact cleared_exec (ho r hr) hs.transactions_eq _
    · cases hp.symm.trans ho

def orderlyLabels : List (Label Call) :=
  [.start (.create 7 (.num (.fin 60)) .undefined true),
   .start (.create 7 (.num (.fin 60)) .undefined true),
   .step 0, .step 1, .step 0, .step 1, .step 0, .step 0, .step 0, .step 1, .step 0,
   .start (.approve (some 0) .undefined), .step 2, .step 2,
   .start (.process (some 0) (.str "PAYPAL-1")), .step 3, .step 3, .step 3]

def doublePayoutLabels : List (Label Call) :=
  oneByOne
    [(.create 7 (.num (.fin 60)) .undefined true, 6), (.approve (some 0) .undefined, 2),
     (.create 7 (.num (.fin 60)) .undefined true, 6), (.approve (some 1) .undefined, 2),
     (.process (some 0) (.str "PAYPAL-1"), 3), (.process (some 1) (.str "PAYPAL-2"), 3)]

theorem processed_cleared_double : sampleDb.payoutRequests = []
    ∧ Always next (fun c => ∀ r ∈ c.store.payoutRequests, r.status = .processed → Cleared c.store r)
        ⟨sampleDb, []⟩ doublePayoutLabels :=
  ⟨rfl, processed_cleared sampleDb rfl doublePayoutLabels⟩

end SexySelfies.Payout
