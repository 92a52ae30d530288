import SexySelfies.WalletModel

/-!
# Spending credits is not all-or-nothing

Each spending handler saves the debited member before it creates the transaction, and none passes
the `transactionId`, `memberId` and `creatorId` that the transaction schema requires. So the
creation is refused every time, and the credits stay debited (`failed_spend`).
-/

namespace SexySelfies.Wallet

open Js Platform Interleave

def Spend.user : Spend → Nat
  | .tip r => r.user
  | .purchase r => r.user
  | .buy r => r.user

variable (s : Spend) (db : Db)

def Spend.after : Db := (s.handle.run exec db).1

def Spend.answer : Response Data := (s.handle.run exec db).2

def CreditsKept (db db' : Db) (others : List Nat) : Prop :=
  ∀ i, i ∉ others → (db'.members[i]?).map Member.credits = (db.members[i]?).map Member.credits

/-- What a successful call owes: one new completed transaction, its amount
taken off the member's credits, and 80% of it added to the creator's
earnings. -/
def Settled (db db' : Db) : Prop :=
  ∃ (i : Nat) (m m' : Member) (t : Transaction) (c c' : Creator),
    db.member? s.user = some (i, m) ∧ db'.members[i]? = some m'
      ∧ db'.transactions = db.transactions ++ [⟨t, false⟩]
      ∧ t.status = .completed ∧ 0 ≤ t.amount ∧ m'.credits = m.credits.sub (.fin t.amount)
      ∧ CreditsKept db db' [i]
      ∧ db.creators[t.creator]? = some c ∧ db'.creators[t.creator]? = some c'
      ∧ c'.totalEarnings = c.totalEarnings + t.amount * (4 / 5)

/-- An error leaves every member's credits as they were; a success is
settled. -/
def AllOrNothing (s : Spend) : Prop :=
  match s.answer db with
  | .failure _ _ => CreditsKept db (s.after db) []
  | .success _ _ _ => Settled s db (s.after db)

/-! ## The debit -/

def Member.covers (m : Member) (amount : Number) : Bool :=
  !m.credits.lt amount && isBalance (m.credits.sub amount)

/-- The member and the amount whose debit the call stores, or `none` when it
stops before. -/
def Spend.debited : Spend → Option (Nat × Number)
  | .tip r =>
    match db.member? r.user, db.creator? r.creatorId with
    | some (i, m), some _ =>
      if m.covers r.amount.toNumber then some (i, r.amount.toNumber) else none
    | _, _ => none
  | .purchase r =>
    match db.member? r.user, db.content? r.contentId with
    | some (i, m), some (_, content, _) =>
      if r.byCredits && m.covers (.fin content.price) then some (i, .fin content.price)
      else none
    | _, _ => none
  | .buy r =>
    match db.member? r.user, db.content? r.contentId with
    | some (i, m), some (contentId, content, some _) =>
      if contentId ∉ m.purchasedContent ∧ m.covers (.fin content.price) then
        some (i, .fin content.price)
      else none
    | _, _ => none

/-- The call stores no debit, or one that leaves the credits as they are. -/
def Spares (s : Spend) : Prop :=
  ∀ d ∈ s.debited db, ∀ m ∈ db.members[d.1]?, m.credits.sub d.2 = m.credits

/-- Nobody pays, or one member the given amount. -/
def Debited (db db' : Db) : Option (Nat × Number) → Prop
  | none => db'.members = db.members
  | some (i, amount) => ∃ m m', db.members[i]? = some m ∧ db'.members = db.members.set i m'
      ∧ m'.credits = m.credits.sub amount

variable {db : Db} {i : Nat} {m : Member} {amount : Number} {content : Option Nat}

theorem exec_spend (hm : db.members[i]? = some m) : (isBalance (m.credits.sub amount) = false
        ∧ exec (.saveMember i m (.spend amount content)) db = (db, false))
      ∨ ∃ m', isBalance (m.credits.sub amount) ∧ m'.credits = m.credits.sub amount
        ∧ exec (.saveMember i m (.spend amount content)) db
          = ({ db with members := db.members.set i m' }, true) := by
  rcases exec_saveMember i m (.spend amount content) db with
    ⟨hno, hex⟩ | ⟨n, m', hn, hs, hex⟩
  · refine .inl ⟨?_, hex⟩
    rw [hm, Option.bind_some, Member.save] at hno
    split at hno
    · cases hno
    · rename_i hbal
      exact Bool.eq_false_of_not_eq_true hbal
  · obtain rfl := Option.mem_unique hm hn
    unfold Member.save at hs
    split at hs
    · rename_i hbal
      cases hs
      exact .inr ⟨_, hbal, assign_self _ _, hex⟩
    · cases hs

/-! ## Every call fails -/

def Failed (db : Db) (out : Db × Response Data) (d : Option (Nat × Number)) : Prop :=
  (∃ status error, out.2 = .failure status error) ∧ Debited db out.1 d

theorem failed_ret (status : Nat) (error : String) :
    Failed db ((pure (.failure status error) : Handler).run exec db) none :=
  ⟨⟨status, error, rfl⟩, rfl⟩

theorem member?_getElem? {user : Nat} (h : db.member? user = some (i, m)) :
    db.members[i]? = some m := (Collection.findOne_some h).1

theorem failed_saveMember (hm : db.members[i]? = some m)
    {f : Bool → Handler} (hfal : ∃ status error, f false = pure (.failure status error))
    (htr : ∀ db', (∃ status error, ((f true).run exec db').2 = .failure status error)
      ∧ ((f true).run exec db').1.members = db'.members) :
    Failed db ((perform (Op.saveMember i m (.spend amount content)) >>= f).run exec db)
      (if isBalance (m.credits.sub amount) then some (i, amount) else none) := by
  rw [perform_bind, run_call]
  rcases exec_spend hm with ⟨hbal, hex⟩ | ⟨m', hbal, hcr, hex⟩
  · obtain ⟨status, error, hans⟩ := hfal
    rw [hex, hbal, hans, if_neg Bool.false_ne_true]
    exact failed_ret status error
  · rw [hex, hbal, if_pos rfl]
    obtain ⟨hf, hmbs⟩ := htr { db with members := db.members.set i m' }
    exact ⟨hf, m, m', hm, hmbs, hcr⟩

theorem failed_debit (hm : db.members[i]? = some m)
    {f : Option (Response Data) → Handler} (hs : ∀ answer, f (some answer) = pure answer)
    (hn : ∀ db', ∃ status error, (f none).run exec db' = (db', .failure status error)) :
    Failed db ((debit i m amount >>= f).run exec db)
      (if m.covers amount then some (i, amount) else none) := by
  unfold debit Member.covers
  cases hlt : m.credits.lt amount with
  | true =>
    rw [if_pos rfl]
    change Failed db ((f (some _)).run exec db) none
    rw [hs]
    exact failed_ret _ _
  | false =>
    rw [if_neg Bool.false_ne_true, Bool.not_false, Bool.true_and]
    refine failed_saveMember hm ⟨500, "Member validation failed: credits", hs _⟩ fun db' => ?_
    obtain ⟨status, error, hrun⟩ := hn db'
    change (∃ status error, ((f none).run exec db').2 = .failure status error)
      ∧ ((f none).run exec db').1.members = db'.members
    rw [hrun]
    exact ⟨⟨status, error, rfl⟩, rfl⟩

theorem failed_createTip (r : TipRequest) :
    Failed db ((createTip r).run exec db) ((Spend.tip r).debited db) := by
  unfold createTip Spend.debited
  rw [perform_bind, run_call]
  dsimp only [exec]
  by_cases href : r.creatorId = .malformed
  · rw [if_pos href, href]
    cases db.member? r.user <;> exact failed_ret _ _
  · rw [if_neg href, perform_bind, run_call]
    dsimp only [exec]
    cases db.creator? r.creatorId with
    | none => cases db.member? r.user <;> exact failed_ret _ _
    | some creator =>
      cases hmb : db.member? r.user with
      | none => exact failed_ret _ _
      | some member =>
        refine failed_debit (member?_getElem? hmb) (fun _ => rfl) fun db' => ?_
        rw [create_refused (d := r.input creator.1) rfl]
        exact ⟨_, _, rfl⟩

theorem purchase?_eq_none (member content : Nat) : db.purchase? member content = none := by
  unfold Db.purchase?
  rw [Collection.findOne_eq_none]
  intro r _
  have hn : TransactionType.names.lookup "content_purchase" = none := by decide
  rw [hn]
  rfl

variable {r : PurchaseRequest}

theorem record_failed (ci : Nat) (content : Content) (creator : Option Creator) (db : Db) :
    ∃ status error, (r.record ci content creator).run exec db = (db, .failure status error) := by
  unfold PurchaseRequest.record
  rw [create_refused (d := purchaseInput content r.method) rfl]
  cases creator with
  | none | some c => exact ⟨_, _, rfl⟩

theorem failed_createPurchase :
    Failed db ((createPurchase r).run exec db) ((Spend.purchase r).debited db) := by
  unfold createPurchase Spend.debited
  rw [perform_bind, run_call]
  dsimp only [exec]
  by_cases href : r.contentId = .malformed
  · rw [if_pos href, href]
    cases db.member? r.user <;> exact failed_ret _ _
  · rw [if_neg href, perform_bind, run_call]
    dsimp only [exec]
    cases db.content? r.contentId with
    | none => cases db.member? r.user <;> exact failed_ret _ _
    | some found =>
      obtain ⟨c, content, creator⟩ := found
      cases hmb : db.member? r.user with
      | none => exact failed_ret _ _
      | some member =>
        obtain ⟨i, m⟩ := member
        have hn : ¬ ((exec (.findPurchase i c) db).2).isSome := by
          simp [exec, purchase?_eq_none]
        dsimp only
        rw [perform_bind, run_call, if_neg hn]
        unfold PurchaseRequest.pay
        cases r.byCredits with
        | true =>
          exact failed_debit (member?_getElem? hmb) (fun _ => rfl) (record_failed c content creator)
        | false =>
          obtain ⟨status, error, hrun⟩ := record_failed c content creator db
          change Failed db ((r.record c content creator).run exec db) none
          rw [hrun]
          exact ⟨⟨status, error, rfl⟩, rfl⟩

theorem debited_buy_of_missing {r : BuyRequest}
    (h : db.member? r.user = none ∨ db.content? r.contentId = none) :
    (Spend.buy r).debited db = none := by
  rcases h with hmb | hc
  · simp only [Spend.debited, hmb]
  · simp only [Spend.debited, hc]
    cases db.member? r.user <;> rfl

theorem debited_buy {r : BuyRequest} {ci : Nat} {content : Content}
    {creator : Option Creator} (hmb : db.member? r.user = some (i, m))
    (hc : db.content? r.contentId = some (ci, content, creator)) : (Spend.buy r).debited db =
      if ci ∉ m.purchasedContent ∧ creator.isSome
          ∧ m.covers (.fin content.price) = true then some (i, .fin content.price) else none := by
  cases creator with
  | none | some c => simp [Spend.debited, hmb, hc]

theorem failed_purchaseContent (r : BuyRequest) :
    Failed db ((purchaseContent r).run exec db) ((Spend.buy r).debited db) := by
  unfold purchaseContent
  rw [perform_bind, run_call]
  dsimp only [exec]
  by_cases href : r.contentId = .malformed
  · have hc : db.content? r.contentId = none := by rw [href]; rfl
    rw [if_pos href, debited_buy_of_missing (.inr hc)]
    exact failed_ret _ _
  · rw [if_neg href, perform_bind, run_call]
    dsimp only [exec]
    cases hc : db.content? r.contentId with
    | none =>
      rw [debited_buy_of_missing (.inr hc)]
      exact failed_ret _ _
    | some found =>
      obtain ⟨c, content, creator⟩ := found
      cases hmb : db.member? r.user with
      | none =>
        rw [debited_buy_of_missing (.inl hmb)]
        exact failed_ret _ _
      | some member =>
        obtain ⟨i, m⟩ := member
        have hm : db.members[i]? = some m := member?_getElem? hmb
        rw [debited_buy hmb hc]
        dsimp only
        by_cases hbuy : c ∈ m.purchasedContent
        · rw [if_pos hbuy, if_neg fun h => h.1 hbuy]
          exact failed_ret _ _
        · rw [if_neg hbuy]
          cases hlt : m.credits.lt (.fin content.price) with
          | true =>
            have hco : m.covers (.fin content.price) = false := by
              rw [Member.covers, hlt]
              rfl
            rw [if_pos rfl, if_neg fun h => Bool.false_ne_true (hco.symm.trans h.2.2)]
            exact failed_ret _ _
          | false =>
            rw [if_neg Bool.false_ne_true]
            cases creator with
            | none =>
              rw [if_pos Option.isNone_none, if_neg fun h => Bool.false_ne_true h.2.1]
              exact failed_ret _ _
            | some =>
              rw [create_refused (d := purchaseInput content none) rfl]
              rw [Option.isNone_some, if_neg Bool.false_ne_true]
              have hco : m.covers (.fin content.price)
                  = isBalance (m.credits.sub (.fin content.price)) := by
                rw [Member.covers, hlt, Bool.not_false, Bool.true_and]
              simp only [Option.isSome_some, hbuy, not_false_eq_true, true_and, hco]
              refine failed_saveMember hm ⟨_, _, rfl⟩ fun db' => ?_
              cases r.contentAccepted with
              | true | false => exact ⟨⟨_, _, rfl⟩, rfl⟩

theorem failed_spend : Failed db (s.handle.run exec db) (s.debited db) := by
  cases s with
  | tip r => exact failed_createTip r
  | purchase => exact failed_createPurchase
  | buy r => exact failed_purchaseContent r

theorem creditsKept_set_iff {db' : Db} {m' : Member} (hm : db.members[i]? = some m)
    (hset : db'.members = db.members.set i m') :
    CreditsKept db db' [] ↔ m'.credits = m.credits := by
  have hi : i < db.members.length := (List.getElem?_eq_some_iff.mp hm).1
  unfold CreditsKept
  rw [hset]
  constructor
  · intro h
    have hse := h i (List.not_mem_nil)
    rw [List.getElem?_set_self hi, hm] at hse
    exact Option.some.inj hse
  · intro h j _
    by_cases hj : i = j
    · subst hj
      rw [List.getElem?_set_self hi, hm, Option.map_some, Option.map_some, h]
    · rw [List.getElem?_set_ne hj]

/-- A call of a spending handler is all-or-nothing exactly when it stores no
debit, or a debit of nothing. -/
theorem all_or_nothing_iff (db : Db) (s : Spend) : AllOrNothing db s ↔ Spares db s := by
  obtain ⟨⟨status, error, ha⟩, hdeb⟩ := failed_spend s
  unfold AllOrNothing Spend.answer
  rw [ha]
  unfold Spares Spend.after
  cases hd : s.debited db with
  | none =>
    rw [hd] at hdeb
    refine ⟨fun _ d hno => ?_, fun _ i _ => ?_⟩
    · cases hno
    · rw [hdeb]
  | some d =>
    obtain ⟨i, amount⟩ := d
    rw [hd] at hdeb
    obtain ⟨m, m', hm, hset, hcr⟩ := hdeb
    refine (creditsKept_set_iff hm hset).trans ?_
    rw [hcr]
    constructor
    · intro h d' hd' n hn
      cases hd'
      obtain rfl := Option.mem_unique hm hn
      exact h
    · exact fun h => h (i, amount) rfl m hm

def walletDb : Db :=
  { members := [⟨0, .fin 10, [], 0, by decide⟩], creators := [⟨0, 0⟩], contents := [],
    transactions := [] }

def tipOfFive : TipRequest := ⟨0, .id 0, .num (.fin 5)⟩

theorem tip_fails_and_debits :
    ((Spend.tip tipOfFive).answer walletDb).isSuccess = false
      ∧ ((Spend.tip tipOfFive).after walletDb).members.map Member.credits = [.fin 5]
      ∧ ¬ AllOrNothing walletDb (.tip tipOfFive) := by
  have ha : ((Spend.tip tipOfFive).after walletDb).members.map Member.credits = [.fin 5] := by
    decide +kernel
  refine ⟨by decide +kernel, ha, fun h => ?_⟩
  obtain ⟨⟨status, error, hans⟩, -⟩ := failed_spend (.tip tipOfFive)
  unfold AllOrNothing Spend.answer at h
  rw [hans] at h
  have hk := h 0 List.not_mem_nil
  rw [← List.getElem?_map, ha] at hk
  exact absurd hk (by decide)

end SexySelfies.Wallet
