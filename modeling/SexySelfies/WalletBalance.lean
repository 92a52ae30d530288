import SexySelfies.WalletAtomicity

/-!
# Credits under interleaving

What a member's credits should be: the initial credits, plus the amount of every confirmed top-up,
counted once, minus what the member has spent. `handleWidgetWebhook` asks neither whether the
transaction is still open, nor whether it is a top-up, nor whether the event is a sale. And every
handler computes the new credits from what it loaded, so of two that overlap the later save wins.
Credits are doubles, and sums that are none are rounded.
-/

namespace SexySelfies.Wallet

open Js Platform Interleave CreditChange

variable (i : Nat)

def Record.topup (r : Record) : ℚ :=
  if r.confirmed = true ∧ r.transaction.type = .walletTopup ∧ r.transaction.memberId = i then
    r.transaction.amount
  else 0

def bought (db : Db) : ℚ := Collection.total (Record.topup i) db.transactions

def value : Number → ℚ
  | .fin q => q
  | _ => 0

def Member.worth (m : Member) : ℚ := value m.credits + m.spent

def worth (db : Db) : ℚ := ((db.members[i]?).map Member.worth).getD 0

def creditGap (db : Db) : ℚ := worth i db - bought i db

/-- From `db₀` to `db` the credits of every member have grown by what was
bought and shrunk by what was spent. -/
def Reconciled (db₀ db : Db) : Prop :=
  ∀ (i : Nat) (m₀ : Member) (q₀ : ℚ), db₀.members[i]? = some m₀ → m₀.credits = .fin q₀ →
    ∃ m, db.members[i]? = some m ∧ m.credits =
      .fin (q₀ + (bought i db - bought i db₀) - (m.spent - m₀.spent))

/-! ## Orderly operations -/

def isFinite : Number → Bool
  | .fin _ => true
  | _ => false

/-- A finite number that is stored as it is. -/
def isExact : Number → Bool
  | .fin q => Double.IsDouble q
  | _ => false

def CreditChange.amount : CreditChange → Number
  | .topup n => n
  | .spend n _ => n

/-- A first confirmed sale completes a top-up of as many credits, and a member is saved with the
credits that were loaded, changed without rounding. -/
def Orderly (db : Db) : Op → Prop
  | .completeTransaction id _ e => ∀ r ∈ db.transactions[id]?, e.isSale = true
      ∧ r.transaction.type = .walletTopup ∧ r.confirmed = false
      ∧ e.creditsToAdd = .fin r.transaction.amount
  | .findMemberById id => id < db.members.length
  | .saveMember id old c => isExact c.amount = true ∧ ∀ m ∈ db.members[id]?,
      isFinite m.credits = true ∧ m.credits = old.credits ∧ isExact (c.result m.credits) = true
  | _ => True

instance (db : Db) : ∀ o, Decidable (Orderly db o)
  | .completeTransaction id _ e => inferInstanceAs (Decidable (∀ r ∈ db.transactions[id]?,
      e.isSale = true ∧ r.transaction.type = .walletTopup ∧ r.confirmed = false
        ∧ e.creditsToAdd = .fin r.transaction.amount))
  | .findMemberById id => inferInstanceAs (Decidable (id < db.members.length))
  | .saveMember id old c => inferInstanceAs (Decidable (isExact c.amount = true
      ∧ ∀ m ∈ db.members[id]?, isFinite m.credits = true ∧ m.credits = old.credits
        ∧ isExact (c.result m.credits) = true))
  | .findMember _ | .findCreator _ | .findContent _ | .findPurchase _ _ | .findTransaction _
  | .insertTransaction _ | .saveContent _ _ _ | .saveCreator _ _ _ => .isTrue trivial

structure Kept (db db' : Db) : Prop where
  members : db.members.length ≤ db'.members.length
  transactions : ∀ (id : Nat) (r : Record), db.transactions[id]? = some r →
    ∃ r', db'.transactions[id]? = some r' ∧ r'.transaction.memberId = r.transaction.memberId

theorem Kept.refl (db : Db) : Kept db db := ⟨le_rfl, fun _ r hr => ⟨r, hr, rfl⟩⟩

theorem Kept.trans (a b c : Db) (hab : Kept a b) (hbc : Kept b c) : Kept a c := by
  refine ⟨Nat.le_trans hab.members hbc.members, fun id r hr => ?_⟩
  obtain ⟨r', hr', hmb⟩ := hab.transactions id r hr
  obtain ⟨r'', hr'', hmb'⟩ := hbc.transactions id r' hr'
  exact ⟨r'', hr'', hmb'.trans hmb⟩

theorem kept_exec (o : Op) (db : Db) : Kept db (exec o db).1 := by
  cases o with
  | completeTransaction id old e =>
    refine ⟨le_rfl, fun j r hr => ?_⟩
    by_cases hj : id = j
    · refine ⟨r.complete old e, ?_, rfl⟩
      simp [exec, hj, hr]
    · refine ⟨r, ?_, rfl⟩
      simp [exec, hj, hr]
  | saveMember =>
    simp only [exec]
    split
    · refine ⟨?_, fun _ r hr => ⟨r, hr, rfl⟩⟩
      simp
    · exact Kept.refl db
  | insertTransaction =>
    simp only [exec]
    split
    · exact Kept.refl db
    · exact ⟨le_rfl, fun _ r hr => ⟨r, Collection.getElem?_concat_of_some hr, rfl⟩⟩
  | saveContent =>
    simp only [exec]
    split
    · exact ⟨le_rfl, fun _ r hr => ⟨r, hr, rfl⟩⟩
    · exact Kept.refl db
  | saveCreator => exact ⟨le_rfl, fun _ r hr => ⟨r, hr, rfl⟩⟩
  | _ => exact Kept.refl db

/-! ## What an operation does to the gap -/

theorem fin_of_isFinite {n : Number} (h : isFinite n) : n = .fin (value n) := by
  cases n with
  | fin => rfl
  | _ => cases h

theorem isFinite_of_isExact {n : Number} (h : isExact n) : isFinite n := by
  cases n with
  | fin => rfl
  | _ => cases h

def CreditChange.gain : CreditChange → ℚ
  | .topup n => value n
  | .spend _ _ => 0

variable {old : Member} {m m' : Member} {c : CreditChange}

theorem save_of_loaded (hold : m.credits = old.credits) (hs : old.save c m = some m') :
    m'.credits = c.result m.credits ∧ m'.spent = m.spent + c.spent := by
  unfold Member.save at hs
  split at hs
  · cases hs
    refine ⟨?_, rfl⟩
    change assign old.credits (c.result old.credits) m.credits = c.result m.credits
    rw [hold, assign_self]
  · cases hs

theorem worth_of_save (hold : m.credits = old.credits) (hm : isFinite m.credits)
    (hc : isExact c.amount) (hs : old.save c m = some m') :
    m'.worth = m.worth + c.gain ∧ isFinite m'.credits := by
  obtain ⟨hcr, hspe⟩ := save_of_loaded hold hs
  have hfin := fin_of_isFinite hm
  cases c with
  | topup n =>
    have hn : n = .fin (value n) := fin_of_isFinite (isFinite_of_isExact hc)
    rw [result, hfin, hn, Number.add_fin] at hcr
    refine ⟨?_, by rw [hcr]; rfl⟩
    rw [Member.worth, Member.worth, hcr, hspe]
    simp only [value, gain, spent]
    ring
  | spend n content =>
    have hn : n = .fin (value n) := fin_of_isFinite (isFinite_of_isExact hc)
    rw [result, hfin, hn, Number.sub_fin] at hcr
    refine ⟨?_, by rw [hcr]; rfl⟩
    rw [Member.worth, Member.worth, hcr, hspe, hn]
    simp only [value, gain, spent]
    ring

variable {i : Nat} {db : Db} {id : Nat}

theorem worth_set {g : ℚ} (hm : db.members[id]? = some m) (hwor : m'.worth = m.worth + g) :
    worth i { db with members := db.members.set id m' } = worth i db + if id = i then g else 0 := by
  have hid : id < db.members.length := (List.getElem?_eq_some_iff.mp hm).1
  unfold worth
  by_cases hi : id = i
  · subst hi
    simp only [List.getElem?_set_self hid, hm, Option.map_some, Option.getD_some, if_true]
    exact hwor
  · simp only [List.getElem?_set_ne hi, if_neg hi, add_zero]

theorem creditGap_save (hG : Orderly db (.saveMember id old c)) :
    creditGap i (exec (.saveMember id old c) db).1 = creditGap i db
      + if (exec (.saveMember id old c) db).2 = true ∧ id = i then c.gain else 0 := by
  obtain ⟨hc, hst⟩ := hG
  rcases exec_saveMember id old c db with ⟨-, hex⟩ | ⟨m, m', hm, hs, hex⟩
  · simp [hex]
  · obtain ⟨hfin, hold, -⟩ := hst m hm
    have hwor := (worth_of_save hold hfin hc hs).1
    simp only [hex, true_and]
    rw [creditGap, worth_set hm hwor, creditGap]
    change _ - bought i db = _
    ring

theorem topup_complete (r : Record) (old : Transaction) (e : WidgetEvent)
    (hsa : e.isSale) (ht : r.transaction.type = .walletTopup) (ho : r.confirmed = false) :
    (r.complete old e).topup i = r.topup i
      + if r.transaction.memberId = i then r.transaction.amount else 0 := by
  simp [Record.topup, Record.complete, hsa, ht, ho]

theorem creditGap_complete {old : Transaction} {e : WidgetEvent} {r : Record}
    (hr : db.transactions[id]? = some r) (hG : Orderly db (.completeTransaction id old e)) :
    creditGap i (exec (.completeTransaction id old e) db).1 = creditGap i db
      + -(if r.transaction.memberId = i then value e.creditsToAdd else 0) := by
  obtain ⟨hsa, ht, ho, hcr⟩ := hG r hr
  have hbuy : bought i (exec (.completeTransaction id old e) db).1 = bought i db
      + if r.transaction.memberId = i then r.transaction.amount else 0 := by
    simp only [bought, exec, Collection.total_modify _ hr, topup_complete r old e hsa ht ho]
    ring
  rw [creditGap, hbuy, hcr]
  change worth i db - _ = _
  rw [creditGap]
  simp only [value]
  ring

def Op.spends : Op → Bool
  | .completeTransaction _ _ _ => false
  | .saveMember _ _ (.topup _) => false
  | _ => true

theorem creditGap_spend {o : Op} (ho : o.spends) (hG : Orderly db o) :
    creditGap i (exec o db).1 = creditGap i db := by
  cases o with
  | completeTransaction => cases ho
  | saveMember id old c =>
    cases c with
    | topup => cases ho
    | spend =>
      rw [creditGap_save hG]
      simp [gain]
  | insertTransaction =>
    simp only [exec]
    split
    · rfl
    · simp [creditGap, bought, Record.topup, worth]
  | saveContent =>
    simp only [exec]
    split <;> rfl
  | _ => rfl

/-! ## Every handler is neutral -/

inductive Request where
  | widget (e : WidgetEvent)
  | spend (s : Spend)

def handle : Request → Handler
  | .widget e => handleWidgetWebhook e
  | .spend s => s.handle

abbrev Shifts (i : Nat) {ρ : Type} (x : ℚ) (db : Db) (p : Proc Op.Res ρ) : Prop :=
  Moves exec Kept Orderly (creditGap i) x db p

abbrev OnlySpends {ρ : Type} (db : Db) (p : Proc Op.Res ρ) : Prop :=
  Keeps exec Kept Orderly (fun _ o => o.spends = true) db p

theorem onlySpends_debit (mi : Nat) (member : Member) (amount : Number) :
    OnlySpends db (debit mi member amount) := by
  refine keeps_guard fun _ => keeps_perform_of rfl fun _ saved => ?_
  exact keeps_guard fun _ => trivial

theorem onlySpends_createTip (r : TipRequest) : OnlySpends db (createTip r) := by
  refine keeps_perform_of rfl fun _ found => keeps_guard fun _ => ?_
  refine keeps_perform_of rfl fun _ creator => ?_
  split
  · split
    · refine keeps_bind (fun _ s => ?_) (onlySpends_debit _ _ _)
      split
      · trivial
      · split
        · trivial
        · refine keeps_perform_of rfl fun _ ins => ?_
          split
          · exact keeps_perform_of rfl fun _ _ => trivial
          · trivial
    · trivial
  · trivial

theorem onlySpends_record (r : PurchaseRequest) (ci : Nat) (content : Content)
    (creator : Option Creator) : OnlySpends db (r.record ci content creator) := by
  refine keeps_guard fun _ => ?_
  split
  · trivial
  · refine keeps_perform_of rfl fun _ ins => ?_
    split
    · refine keeps_perform_of rfl fun _ stored => keeps_guard fun _ => ?_
      refine keeps_perform_of rfl fun _ found => ?_
      split
      · exact keeps_perform_of rfl fun _ _ => trivial
      · trivial
    · trivial

theorem onlySpends_createPurchase (r : PurchaseRequest) : OnlySpends db (createPurchase r) := by
  refine keeps_perform_of rfl fun _ found => keeps_guard fun _ => ?_
  refine keeps_perform_of rfl fun _ content => ?_
  split
  · split
    · refine keeps_perform_of rfl fun _ p => keeps_guard fun _ => ?_
      refine keeps_bind (fun db' s => ?_) ?_
      · split
        · trivial
        · exact onlySpends_record r _ _ _
      · exact keeps_ite (fun _ => onlySpends_debit _ _ _) fun _ => trivial
    · trivial
  · trivial

theorem onlySpends_purchaseContent (r : BuyRequest) : OnlySpends db (purchaseContent r) := by
  refine keeps_perform_of rfl fun _ found => keeps_guard fun _ => ?_
  refine keeps_perform_of rfl fun _ content => ?_
  split
  · split
    · refine keeps_guard fun _ => keeps_guard fun _ => ?_
      refine keeps_guard fun _ => keeps_perform_of rfl fun _ saved => ?_
      refine keeps_guard fun _ => keeps_perform_of rfl fun _ stored => ?_
      refine keeps_guard fun _ => ?_
      split
      · trivial
      · refine keeps_perform_of rfl fun _ ins => ?_
        split
        · refine keeps_perform_of rfl fun _ found => ?_
          split
          · exact keeps_perform_of rfl fun _ _ => trivial
          · trivial
        · trivial
    · trivial
  · trivial

theorem onlySpends_spend (s : Spend) : OnlySpends db s.handle := by
  cases s with
  | tip r => exact onlySpends_createTip r
  | purchase r => exact onlySpends_createPurchase r
  | buy r => exact onlySpends_purchaseContent r

theorem save_topup_accepted {a : ℚ} (ha : 0 ≤ a) (hid : id < db.members.length)
    (hG : Orderly db (.saveMember id old (.topup (.fin a)))) :
    (exec (.saveMember id old (.topup (.fin a))) db).2 := by
  rcases exec_saveMember id old (.topup (.fin a)) db with ⟨hn, -⟩ | ⟨m, m', -, -, hex⟩
  · have hm : db.members[id]? = some db.members[id] := List.getElem?_eq_getElem hid
    obtain ⟨-, hold, -⟩ := hG.2 _ hm
    rw [hm, Option.bind_some, Member.save] at hn
    split at hn
    · cases hn
    · rename_i href
      refine absurd ?_ href
      rw [result, ← hold]
      exact isBalance_add db.members[id].credits_valid ha
  · rw [hex]

theorem shifts_widget (e : WidgetEvent) : Shifts i 0 db (handleWidgetWebhook e) := by
  refine moves_perform_of_eq (fun _ => rfl) fun db₁ _ _ => ?_
  dsimp only [exec]
  cases hf : Collection.findOne (fun r => some r.transaction.transactionId = e.key)
      db₁.transactions with
  | none => rfl
  | some found =>
    obtain ⟨id, record⟩ := found
    have hrec : db₁.transactions[id]? = some record := (Collection.findOne_some hf).1
    -- the event's credits are owed from here until the member is saved
    refine moves_perform
      (y := -(if record.transaction.memberId = i then value e.creditsToAdd else 0))
      (fun db₂ hR hG => ?_) fun db₂ hR hG => ?_
    · obtain ⟨r, hr, hmb⟩ := hR.transactions id record hrec
      rw [creditGap_complete hr hG, hmb]
    · obtain ⟨r, hr, -⟩ := hR.transactions id record hrec
      obtain ⟨-, -, -, hcr⟩ := hG r hr
      refine moves_perform_of_eq (fun _ => rfl) fun db₃ _ hex => ?_
      have hid : record.transaction.memberId < db₃.members.length := hex
      dsimp only [exec]
      rw [List.getElem?_eq_getElem hid, hcr]
      refine moves_perform
        (y := if record.transaction.memberId = i then r.transaction.amount else 0)
        (fun db₄ hR' hG' => ?_) fun _ _ _ => ?_
      · have hid' := Nat.lt_of_lt_of_le hid hR'.members
        rw [creditGap_save hG', save_topup_accepted r.transaction.amount_nonneg hid' hG']
        simp only [true_and]
        rfl
      · have hz : (0 : ℚ)
            - -(if record.transaction.memberId = i then value (.fin r.transaction.amount) else 0)
            - (if record.transaction.memberId = i then r.transaction.amount else 0) = 0 := by
          simp only [value]
          ring
        rw [hz]
        exact moves_ite (fun _ => rfl) fun _ => rfl

theorem shifts_handle (i : Nat) (r : Request) (db : Db) : Shifts i 0 db (handle r) := by
  cases r with
  | widget e => exact shifts_widget e
  | spend s =>
    refine moves_of_keeps (Q := fun _ (o : Op) => o.spends = true) (fun db' o hG ho => ?_)
      (onlySpends_spend s)
    exact creditGap_spend ho hG

/-! ## Interleavings -/

abbrev Till := Pool Op.Res (Response Data) Db

def next : Till → Label Request → Till := Pool.next exec handle

/-- The member's credits are a finite number. -/
def Solvent (i : Nat) (db : Db) : Prop :=
  ∃ m, db.members[i]? = some m ∧ isFinite m.credits = true

theorem solvent_exec (db : Db) (o : Op) (h : Solvent i db) (hG : Orderly db o) :
    Solvent i (exec o db).1 := by
  obtain ⟨m, hm, hfin⟩ := h
  cases o with
  | saveMember id old c =>
    rcases exec_saveMember id old c db with ⟨-, hex⟩ | ⟨n, n', hn, hs, hex⟩
    · rw [hex]
      exact ⟨m, hm, hfin⟩
    · rw [hex]
      by_cases hi : id = i
      · subst hi
        obtain ⟨hfin', hold, -⟩ := hG.2 n hn
        refine ⟨n', List.getElem?_set_self (List.getElem?_eq_some_iff.mp hn).1, ?_⟩
        exact (worth_of_save hold hfin' hG.1 hs).2
      · refine ⟨m, ?_, hfin⟩
        change (db.members.set id n')[i]? = some m
        rwa [List.getElem?_set_ne hi]
  | insertTransaction t | saveContent id loaded accepted =>
    simp only [exec]
    split <;> exact ⟨m, hm, hfin⟩
  | _ => exact ⟨m, hm, hfin⟩

/-- In every interleaving of orderly operations, whenever no handler is in flight, a member's
credits are the initial ones plus the confirmed top-ups minus what was spent. -/
theorem reconciled_of_orderly (db : Db) (ls : List (Label Request))
    (h : Runs.Every next (Fires Orderly) ⟨db, []⟩ ls) :
    Runs.Always next (fun c => c.Idle → Reconciled db c.store) ⟨db, []⟩ ls := by
  refine Runs.always_of_prefixes fun ls' ms heq hidle => ?_
  rw [heq] at h
  have hrun := (Runs.Every.append.mp h).1
  intro i m₀ q₀ hm₀ hq₀
  have hsol : Solvent i (Runs.final next ⟨db, []⟩ ls').store := by
    have hs : Solvent i db := ⟨m₀, hm₀, by rw [hq₀]; rfl⟩
    exact (always_store_of_fires solvent_exec hs hrun).last
  obtain ⟨m, hm, hfin⟩ := hsol
  have hgap := idle_of_moves Kept.refl Kept.trans (fun s o _ => kept_exec o s)
    (fun r s => shifts_handle i r s) hrun hidle
  refine ⟨m, hm, (fin_of_isFinite hfin).trans (congrArg Number.fin ?_)⟩
  have hfina : worth i (Runs.final next ⟨db, []⟩ ls').store = value m.credits + m.spent := by
    simp only [worth, hm, Option.map_some, Option.getD_some, Member.worth]
  have hinit : worth i db = q₀ + m₀.spent := by
    simp only [worth, hm₀, Option.map_some, Option.getD_some, Member.worth, hq₀, value]
  have hgap' : worth i (Runs.final next ⟨db, []⟩ ls').store
      - bought i (Runs.final next ⟨db, []⟩ ls').store = worth i db - bought i db := hgap
  rw [hfina, hinit] at hgap'
  linarith

def topupDb : Db :=
  { members := [⟨0, .fin 0, [], 0, by decide⟩], creators := [⟨0, 0⟩], contents := [],
    transactions :=
      [⟨{ transactionId := "W1", memberId := 0, creatorId := 0, creator := 0,
          type := .walletTopup, amount := 10, status := .pending, paymentMethod := .ccbill,
          creatorEarnings := 8, payoutProcessed := false, amount_nonneg := by decide,
          creatorEarnings_nonneg := by decide }, false⟩] }

def saleEvent : WidgetEvent := ⟨some "W1", none, some "10", some "NewSaleSuccess"⟩

theorem reconciled_topup_and_tip :
    Runs.Always next (fun c => c.Idle → Reconciled topupDb c.store) ⟨topupDb, []⟩
      (oneByOne [(.widget saleEvent, 4), (.spend (.tip ⟨0, .id 0, .num (.fin 4)⟩), 3)]) :=
  reconciled_of_orderly topupDb _ (by decide +kernel)

def redelivered : Db :=
  (Runs.final next ⟨topupDb, []⟩
    (oneByOne [(.widget saleEvent, 4), (.widget saleEvent, 4)])).store

theorem reconciled_fails_on_redelivery :
    redelivered.members.map Member.credits = [.fin 20]
      ∧ ¬ Runs.Always next (fun c => c.Idle → Reconciled topupDb c.store) ⟨topupDb, []⟩
        (oneByOne [(.widget saleEvent, 4), (.widget saleEvent, 4)]) := by
  refine ⟨by decide +kernel, fun h => ?_⟩
  obtain ⟨m, hm, hcr⟩ := h.last (by decide +kernel) 0 _ 0 rfl rfl
  change redelivered.members[0]? = some m at hm
  change m.credits = .fin (0 + (bought 0 redelivered - bought 0 topupDb) - (m.spent - 0)) at hcr
  have hval : (redelivered.members[0]?).map (fun m => (m.credits, m.spent)) = some (.fin 20, 0)
      ∧ bought 0 redelivered = 10 ∧ bought 0 topupDb = 0 := by decide +kernel
  obtain ⟨hmem, hbou, hbou₀⟩ := hval
  rw [hm, Option.map_some, Option.some.injEq, Prod.mk.injEq] at hmem
  rw [hmem.1, hmem.2, hbou, hbou₀] at hcr
  exact absurd hcr (by decide +kernel)

end SexySelfies.Wallet
