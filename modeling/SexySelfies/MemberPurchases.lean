import SexySelfies.WalletModel

/-!
# Purchases with credits, entry by entry

`purchaseContent` of `member.controller.js` writes two collections: the member pays and notes the
purchase in `purchasedContent`, the content counts it in `stats` and notes the buyer in
`purchasedBy`. Every call stops with an error, at the latest at `Transaction.create`, after both
saves.

The numbers are doubles: from 20 credits two purchases at 1.99 leave 16.020000000000003.
-/

namespace SexySelfies.Purchases

open Js Platform List Double

open Wallet (isBalance nullError validationError)

structure Purchase where
  creator : Option Nat
  content : Option Nat
  amount : Option ℚ

structure Member where
  user : Nat
  credits : Number
  purchasedContent : List Purchase
  credits_valid : isBalance credits = true

structure Buyer where
  member : Option Nat
  amount : Option ℚ

structure Content where
  creator : Nat
  price : ℚ
  purchases : Number
  revenue : Number
  purchasedBy : List Buyer
  price_nonneg : 0 ≤ price

structure Db where
  members : List Member
  contents : List Content
  creators : List Wallet.Creator
  transactions : List Transaction

/-! ## Sums of doubles -/

def tally (n : Number) (amounts : List ℚ) : Number :=
  amounts.foldl (fun n a => (n.add (.fin a)).rounded) n

/-- None of the sums has to be rounded. -/
def Exact : Number → List ℚ → Prop
  | _, [] => True
  | n, a :: as => (n.add (.fin a)).rounded = n.add (.fin a) ∧ Exact (n.add (.fin a)) as

/-- The amounts were added one after the other. -/
structure Tallied (amounts : List ℚ) (n₀ n : Number) : Prop where
  tallied : n = tally n₀ amounts
  exact : Exact n₀ amounts → n = n₀.add (.fin amounts.sum)

theorem tally_of_exact {n : Number} {as : List ℚ} (h : Exact n as) :
    tally n as = n.add (.fin as.sum) := by
  induction as generalizing n with
  | nil => cases n <;> simp [tally, Number.add]
  | cons a as ih =>
    have hrest := ih h.2
    rw [tally, foldl_cons, h.1, ← tally, hrest, sum_cons]
    cases n <;> simp [Number.add, add_assoc]

theorem Tallied.start (n : Number) : Tallied [] n n := ⟨rfl, tally_of_exact⟩

theorem Tallied.concat {as : List ℚ} {n₀ n : Number} (h : Tallied as n₀ n) (a : ℚ) :
    Tallied (as ++ [a]) n₀ ((n.add (.fin a)).rounded) := by
  have heq : (n.add (.fin a)).rounded = tally n₀ (as ++ [a]) := by
    rw [h.tallied, tally, tally, foldl_append, foldl_cons, foldl_nil]
  exact ⟨heq, fun hexact => heq.trans (tally_of_exact hexact)⟩

theorem isBalance_rounded {n : Number} (h : isBalance n = true) : isBalance n.rounded = true := by
  cases n with
  | fin q =>
    have hq : 0 ≤ toDouble q := toDouble_nonneg (by simpa [isBalance, Number.le] using h)
    rw [Number.rounded]
    split_ifs with hpos hneg
    · rfl
    · linarith [overflow_pos]
    · simpa [isBalance, Number.le] using hq
  | _ => exact h

/-! ## The handler -/

/-- `member.purchasedContent.some(p => p.content.toString() === id)`; an entry
without `content` before the first match throws. -/
def alreadyPurchased (contentId : Nat) : List Purchase → Option Bool
  | [] => some false
  | p :: ps =>
    match p.content with
    | none => none
    | some c => if c = contentId then some true else alreadyPurchased contentId ps

/-- Subtract the price and note the purchase; the schema refuses negative
credits. -/
def Member.buy (m : Member) (contentId : Nat) (content : Content) : Option Member :=
  if h : isBalance (m.credits.sub (.fin content.price)).rounded = true then
    some
      { m with
        credits := (m.credits.sub (.fin content.price)).rounded
        purchasedContent :=
          m.purchasedContent ++ [⟨some content.creator, some contentId, some content.price⟩]
        credits_valid := h }
  else none

def Content.sell (c : Content) (memberId : Nat) : Content :=
  { c with
    purchases := (c.purchases.add (.fin 1)).rounded
    revenue := (c.revenue.add (.fin c.price)).rounded
    purchasedBy := c.purchasedBy ++ [⟨some memberId, some c.price⟩] }

structure Request where
  user : Nat
  contentId : Ref
  memberAccepted : Bool
  contentAccepted : Bool

structure Receipt where
  contentId : Nat
  remainingCredits : Number

def Db.member? (db : Db) (user : Nat) : Option (Nat × Member) :=
  Collection.findOne (fun m => m.user = user) db.members

def Db.content? (db : Db) : Ref → Option (Nat × Content)
  | .id n => (db.contents[n]?).map ((n, ·))
  | _ => none

def purchaseInput (content : Content) : TransactionInput :=
  { creator := some content.creator, type := some "content_purchase",
    amount := .num (.fin content.price), status := some "completed" }

def recordPurchase (contentId : Nat) (content : Content) (buyer : Member) (db : Db) :
    Db × Response Receipt :=
  match Transaction.create (purchaseInput content) with
  | .error paths => (db, .failure 500 (validationError paths))
  | .ok t =>
    if db.transactions.any fun t' => t'.transactionId = t.transactionId then
      (db, .failure 500 "E11000 duplicate key error")
    else
      let share := content.price * (4 / 5)
      let earn := fun c : Wallet.Creator =>
        { c with totalEarnings := c.totalEarnings + share
                 monthlyEarnings := c.monthlyEarnings + share }
      ({ db with
          transactions := db.transactions ++ [t]
          creators := db.creators.modify content.creator earn },
        .success 200 "" (some ⟨contentId, buyer.credits⟩))

def savePurchase (r : Request) (memberId : Nat) (buyer : Member) (contentId : Nat)
    (content : Content) (db : Db) : Db × Response Receipt :=
  if r.memberAccepted then
    let paid := { db with members := db.members.set memberId buyer }
    if r.contentAccepted then
      recordPurchase contentId content buyer
        { paid with contents := paid.contents.set contentId (content.sell memberId) }
    else (paid, .failure 500 "Content validation failed")
  else (db, .failure 500 "Member validation failed")

def purchaseContent (r : Request) (db : Db) : Db × Response Receipt :=
  if r.contentId = .malformed then (db, .failure 500 (castError "Content"))
  else
    match db.content? r.contentId, db.member? r.user with
    | none, _ => (db, .failure 404 "Content not found")
    | some _, none => (db, .failure 500 (nullError "purchasedContent"))
    | some (contentId, content), some (memberId, member) =>
      match alreadyPurchased contentId member.purchasedContent with
      | none => (db, .failure 500 "Cannot read properties of undefined (reading 'toString')")
      | some true => (db, .failure 400 "Content already purchased")
      | some false =>
        if member.credits.lt (.fin content.price) then
          (db, .failure 400 "Insufficient credits")
        else if (db.creators[content.creator]?).isNone then
          (db, .failure 500 (nullError "_id"))
        else
          match member.buy contentId content with
          | none => (db, .failure 500 "Member validation failed: credits")
          | some buyer => savePurchase r memberId buyer contentId content db

/-! ## What a call does -/

variable {content : Content} {db : Db}

theorem recordPurchase_fst (contentId : Nat) (buyer : Member) :
    (recordPurchase contentId content buyer db).1 = db := by
  rw [recordPurchase, Wallet.create_refused rfl]

/-- The call finds both documents and the member can pay. -/
structure Sold (memberId contentId : Nat) (buyer : Member) (content : Content) (db : Db) :
    Prop where
  content_found : db.contents[contentId]? = some content
  bought : ∃ member, db.members[memberId]? = some member
    ∧ alreadyPurchased contentId member.purchasedContent = some false
    ∧ member.buy contentId content = some buyer

variable {r : Request} {contentId : Nat}

theorem savePurchase_cases (m : Nat) (buyer : Member) :
    (savePurchase r m buyer contentId content db).1 = db
      ∨ (savePurchase r m buyer contentId content db).1 = { db with
          members := db.members.set m buyer
          contents :=
            if r.contentAccepted then db.contents.set contentId (content.sell m)
            else db.contents } := by
  unfold savePurchase
  cases r.memberAccepted with
  | false => exact .inl rfl
  | true =>
    cases r.contentAccepted with
    | false => exact .inr rfl
    | true => exact .inr (recordPurchase_fst contentId buyer)

variable {content : Content} {contentId : Nat} {db : Db}

theorem content?_some {ref : Ref} (h : db.content? ref = some (contentId, content)) :
    db.contents[contentId]? = some content := by
  cases ref with
  | id =>
    obtain ⟨c, hc, heq⟩ := Option.map_eq_some_iff.mp h
    obtain ⟨rfl, rfl⟩ := Prod.mk.injEq .. |>.mp heq
    exact hc
  | _ => cases h

theorem purchaseContent_cases : (purchaseContent r db).1 = db
      ∨ ∃ m contentId buyer content, Sold m contentId buyer content db
        ∧ (purchaseContent r db).1 = { db with
            members := db.members.set m buyer
            contents :=
              if r.contentAccepted then db.contents.set contentId (content.sell m)
              else db.contents } := by
  unfold purchaseContent
  split
  · exact .inl rfl
  · split
    · exact .inl rfl
    · exact .inl rfl
    · rename_i contentId content m member hc hmb
      cases hbo : alreadyPurchased contentId member.purchasedContent with
      | none => exact .inl rfl
      | some b =>
        cases b with
        | true => exact .inl rfl
        | false =>
          simp only
          split
          · exact .inl rfl
          · split
            · exact .inl rfl
            · cases hbuy : member.buy contentId content with
              | none => exact .inl rfl
              | some buyer =>
                have hso : Sold m contentId buyer content db :=
                  ⟨content?_some hc, member, (Collection.findOne_some hmb).1, hbo, hbuy⟩
                exact (savePurchase_cases m buyer).imp_right
                  fun h => ⟨m, contentId, buyer, content, hso, h⟩

/-! ## The sales made -/

structure Sale where
  member : Nat
  content : Nat
  creator : Nat
  amount : ℚ

def Sale.purchase (s : Sale) : Purchase := ⟨some s.creator, some s.content, some s.amount⟩

def Sale.buyer (s : Sale) : Buyer := ⟨some s.member, some s.amount⟩

def salesOf (key : Sale → Nat) (sales : List Sale) (id : Nat) : List Sale :=
  sales.filter fun s => key s = id

def Purchase.paid (p : Purchase) : ℚ := p.amount.getD 0

def Buyer.paid (b : Buyer) : ℚ := b.amount.getD 0

def Member.Distinct (m : Member) : Prop := (m.purchasedContent.filterMap Purchase.content).Nodup

/-- What the member bought since is entered and was paid, amount by amount. -/
structure MemberBooked (bought : List Purchase) (m₀ m : Member) : Prop where
  entries : m.purchasedContent = m₀.purchasedContent ++ bought
  credits : Tallied (bought.map fun p => -p.paid) m₀.credits m.credits
  nonneg : isBalance m.credits = true
  distinct : m₀.Distinct → m.Distinct

structure ContentBooked (sold : List Buyer) (c₀ c : Content) : Prop where
  entries : c.purchasedBy = c₀.purchasedBy ++ sold
  purchases : Tallied (sold.map fun _ => 1) c₀.purchases c.purchases
  revenue : Tallied (sold.map Buyer.paid) c₀.revenue c.revenue

/-- The sales so far, seen from every member and content. -/
structure Booked (db₀ : Db) (sales : List Sale) (db : Db) : Prop where
  members : ∀ i, Option.Rel (MemberBooked ((salesOf Sale.member sales i).map Sale.purchase))
    db₀.members[i]? db.members[i]?
  contents : ∀ j, Option.Rel (ContentBooked ((salesOf Sale.content sales j).map Sale.buyer))
    db₀.contents[j]? db.contents[j]?
  named : ∀ s ∈ sales, s.member < db.members.length ∧ s.content < db.contents.length

theorem content_ne_of_alreadyPurchased {ps : List Purchase}
    (h : alreadyPurchased contentId ps = some false) :
    contentId ∉ ps.filterMap Purchase.content := by
  induction ps with
  | nil => exact not_mem_nil
  | cons p ps ih =>
    rw [alreadyPurchased] at h
    split at h
    · cases h
    · rename_i c hc
      split at h
      · cases h
      · rename_i hne
        rw [filterMap_cons_some hc, mem_cons]
        rintro (rfl | hmem)
        · exact hne rfl
        · exact ih h hmem

theorem MemberBooked.buy {bought : List Purchase} {m₀ m buyer : Member}
    (h : MemberBooked bought m₀ m)
    (hnot : alreadyPurchased contentId m.purchasedContent = some false)
    (hbuy : m.buy contentId content = some buyer) :
    MemberBooked (bought ++ [⟨some content.creator, some contentId, some content.price⟩])
      m₀ buyer := by
  rw [Member.buy] at hbuy
  split at hbuy
  · cases hbuy
    refine ⟨?_, ?_, ‹_›, fun hd => ?_⟩
    · simp [h.entries]
    · rw [map_append]
      exact h.credits.concat (-content.price)
    · have hdi := h.distinct hd
      have hf := content_ne_of_alreadyPurchased hnot
      rw [Member.Distinct, filterMap_append]
      exact hdi.append (nodup_singleton contentId) (disjoint_singleton.mpr hf)
  · cases hbuy

theorem ContentBooked.sell {sold : List Buyer} {c₀ c : Content} (h : ContentBooked sold c₀ c)
    (m : Nat) : ContentBooked (sold ++ [⟨some m, some c.price⟩]) c₀ (c.sell m) := by
  refine ⟨?_, ?_, ?_⟩
  · simp [Content.sell, h.entries]
  · rw [map_append]
    exact h.purchases.concat 1
  · rw [map_append]
    exact h.revenue.concat c.price

theorem Booked.start (db : Db) : Booked db [] db := by
  refine ⟨fun i => ?_, fun j => ?_, fun s hs => absurd hs not_mem_nil⟩
  · cases db.members[i]? with
    | none => exact .none
    | some m => exact .some ⟨(append_nil _).symm, .start _, m.credits_valid, id⟩
  · cases db.contents[j]? with
    | none => exact .none
    | some => exact .some ⟨(append_nil _).symm, .start _, .start _⟩

theorem salesOf_concat (key : Sale → Nat) (sales : List Sale) (s : Sale) (id : Nat) :
    salesOf key (sales ++ [s]) id =
      if key s = id then salesOf key sales id ++ [s] else salesOf key sales id := by
  rw [salesOf, filter_append]
  split
  · rename_i h
    simp [salesOf, h]
  · rename_i h
    simp [salesOf, h]

variable {db₀ : Db} {sales : List Sale}

theorem Booked.sale (h : Booked db₀ sales db) {mi : Nat} {buyer : Member}
    (hso : Sold mi contentId buyer content db) :
    Booked db₀ (sales ++ [⟨mi, contentId, content.creator, content.price⟩]) { db with
        members := db.members.set mi buyer
        contents := db.contents.set contentId (content.sell mi) } := by
  obtain ⟨member, hmb, hnot, hbuy⟩ := hso.bought
  refine ⟨?_, ?_, fun s hs => ?_⟩
  · refine Collection.rel_set h.members hmb (fun m₀ hm₀ => ?_) fun i hi m₀ m hm => ?_
    · rw [salesOf_concat, if_pos rfl, map_append]
      exact hm₀.buy hnot hbuy
    · rwa [salesOf_concat, if_neg (Ne.symm hi)]
  · refine Collection.rel_set h.contents hso.content_found (fun c₀ hc₀ => ?_) fun j hj c₀ c hc => ?_
    · rw [salesOf_concat, if_pos rfl, map_append]
      exact hc₀.sell mi
    · rwa [salesOf_concat, if_neg (Ne.symm hj)]
  · rw [length_set, length_set]
    rcases mem_append.mp hs with hold | hnew
    · exact h.named s hold
    · obtain rfl := mem_singleton.mp hnew
      exact ⟨(List.getElem?_eq_some_iff.mp hmb).1,
        (List.getElem?_eq_some_iff.mp hso.content_found).1⟩

/-! ## Runs -/

inductive Step where
  | purchase (r : Request)
  | setPrice (contentId : Nat) (price : ℚ) (nonneg : 0 ≤ price)

def step (db : Db) : Step → Db
  | .purchase r => (purchaseContent r db).1
  | .setPrice contentId price nonneg =>
    { db with contents := db.contents.modify contentId fun c =>
        { c with price, price_nonneg := nonneg } }

def Step.Saved : Step → Prop
  | .purchase r => r.contentAccepted = true
  | .setPrice _ _ _ => True

theorem Booked.setPrice (h : Booked db₀ sales db) (contentId : Nat) (price : ℚ)
    (n : 0 ≤ price) : Booked db₀ sales (step db (.setPrice contentId price n)) := by
  refine ⟨h.members, ?_, fun s hs => ?_⟩
  · refine Collection.rel_modify h.contents (fun j c₀ c hc => ?_)
    exact ⟨hc.entries, hc.purchases, hc.revenue⟩
  · rw [step, length_modify]
    exact h.named s hs

theorem booked_step {s : Step} (h : ∃ sales, Booked db₀ sales db) (hs : s.Saved) :
    ∃ sales, Booked db₀ sales (step db s) := by
  obtain ⟨sales, hbo⟩ := h
  cases s with
  | setPrice contentId price n => exact ⟨sales, hbo.setPrice contentId price n⟩
  | purchase =>
    rcases purchaseContent_cases with hsm | ⟨i, j, buyer, content, hso, hsa⟩
    · rw [step, hsm]
      exact ⟨sales, hbo⟩
    · rw [Step.Saved] at hs
      rw [step, hsa, if_pos hs]
      exact ⟨_, hbo.sale hso⟩

/-- The entries that were added, `bought` by each member and `sold` of each
content, pay for each other. -/
structure DoubleEntry (db₀ db : Db) (bought : Nat → List Purchase) (sold : Nat → List Buyer) :
    Prop where
  members : ∀ i, Option.Rel (MemberBooked (bought i)) db₀.members[i]? db.members[i]?
  contents : ∀ j, Option.Rel (ContentBooked (sold j)) db₀.contents[j]? db.contents[j]?
  -- the same purchases stand on both sides
  matched : ∀ i j, ((sold j).filter fun b => b.member = some i).map Buyer.amount
    = ((bought i).filter fun p => p.content = some j).map Purchase.amount
  sold_named : ∀ j, ∀ b ∈ sold j, ∃ i < db.members.length, b.member = some i
  bought_named : ∀ i, ∀ p ∈ bought i, ∃ j < db.contents.length, p.content = some j

theorem Booked.doubleEntry (h : Booked db₀ sales db) :
    DoubleEntry db₀ db (fun i => (salesOf Sale.member sales i).map Sale.purchase)
      (fun j => (salesOf Sale.content sales j).map Sale.buyer) := by
  refine ⟨h.members, h.contents, fun i j => ?_, fun j b hb => ?_, fun i p hp => ?_⟩
  · have hsw : (sales.filter fun s => s.content = j).filter (fun s => s.member = i)
        = (sales.filter fun s => s.member = i).filter fun s => s.content = j := by
      rw [filter_filter, filter_filter]
      simp only [Bool.and_comm]
    have hso : (fun b : Buyer => decide (b.member = some i)) ∘ Sale.buyer
        = fun s => decide (s.member = i) := by
      funext s
      simp [Sale.buyer]
    have hbuy : (fun p : Purchase => decide (p.content = some j)) ∘ Sale.purchase
        = fun s => decide (s.content = j) := by
      funext s
      simp [Sale.purchase]
    rw [filter_map, filter_map, hso, hbuy, salesOf, salesOf, hsw, map_map, map_map]
    rfl
  · obtain ⟨s, hs, rfl⟩ := mem_map.mp hb
    exact ⟨s.member, (h.named s (mem_filter.mp hs).1).1, rfl⟩
  · obtain ⟨s, hs, rfl⟩ := mem_map.mp hp
    exact ⟨s.content, (h.named s (mem_filter.mp hs).1).2, rfl⟩

/-- In every state of every run of purchases and price changes in which the
content documents can be saved, the entries of both sides agree. -/
theorem double_entry (db : Db) (ss : List Step) (hsaved : ∀ s ∈ ss, s.Saved) :
    Runs.Always step (fun db' => ∃ bought sold, DoubleEntry db db' bought sold) db ss := by
  have he : Runs.Every step (fun _ s => s.Saved) db ss := Runs.every_of_forall hsaved
  have hboo : Runs.Always step (fun db' => ∃ sales, Booked db sales db') db ss :=
    Runs.always_of_every (fun _ _ h hs => booked_step h hs) ⟨[], Booked.start db⟩ he
  refine Runs.always_mono (fun db' h => ?_) hboo
  obtain ⟨sales, hsal⟩ := h
  exact ⟨_, _, hsal.doubleEntry⟩

theorem four_nonneg : (0 : ℚ) ≤ 4 := by decide

theorem ten_isBalance : isBalance (.fin 10) := by decide

def shopDb : Db :=
  { members := [⟨0, .fin 10, [], ten_isBalance⟩]
    contents := [⟨0, 4, .fin 0, .fin 0, [], four_nonneg⟩, ⟨0, 4, .fin 0, .fin 0, [], four_nonneg⟩]
    creators := [⟨0, 0⟩]
    transactions := [] }

def buy (contentId : Nat) : Step := .purchase ⟨0, .id contentId, true, true⟩

theorem double_entry_two_purchases :
    (Runs.states step shopDb [buy 0, .setPrice 0 0 le_rfl, buy 0, buy 1]).map
        (fun db => db.members.map Member.credits)
        = [[.fin 10], [.fin 6], [.fin 6], [.fin 6], [.fin 2]]
      ∧ Runs.Always step (fun db => ∃ bought sold, DoubleEntry shopDb db bought sold) shopDb
        [buy 0, .setPrice 0 0 le_rfl, buy 0, buy 1] := by
  refine ⟨by decide +kernel, double_entry shopDb _ fun s hs => ?_⟩
  simp only [mem_cons, not_mem_nil, or_false] at hs
  rcases hs with rfl | rfl | rfl | rfl
  · rfl
  · trivial
  · rfl
  · rfl

/-- Credits and what was paid for the entries. -/
def Member.worth (m : Member) : Number :=
  m.credits.add (.fin (m.purchasedContent.map Purchase.paid).sum)

theorem cents_nonneg : 0 ≤ toDouble (199 / 100) := by decide +kernel

theorem twenty_isBalance : isBalance (.fin 20) := by decide

def centsItem : Content := ⟨0, toDouble (199 / 100), .fin 0, .fin 0, [], cents_nonneg⟩

def centsDb : Db := ⟨[⟨0, .fin 20, [], twenty_isBalance⟩], [centsItem, centsItem], [⟨0, 0⟩], []⟩

theorem worth_changes : (∀ s ∈ [buy 0, buy 1], s.Saved)
      ∧ (Runs.final step centsDb [buy 0, buy 1]).members.map Member.credits
        = [Number.rounded (.fin (16020000000000003 / 10 ^ 15))]
      ∧ (Runs.final step centsDb [buy 0, buy 1]).members.map Member.worth
        ≠ centsDb.members.map Member.worth := by
  refine ⟨?_, by decide +kernel, by decide +kernel⟩
  simp [Step.Saved, buy]

end SexySelfies.Purchases
