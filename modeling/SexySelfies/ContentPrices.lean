import SexySelfies.ContentUnlock
import SexySelfies.MemberPurchases
import SexySelfies.PaymentLinks

/-!
# What the three ways of buying an item charge

An item is sold by three handlers: `purchaseContent` of the CCBill routes charges a card,
`processContentUnlock` of the payment routes answers a payment link, and `purchaseContent` of the
member routes takes credits. Only the last reads the price of the schema; the other two read
`content.pricing.currentPrice`, a path that is not declared, and fall back to 4.99.
-/

namespace SexySelfies.ContentPrices

open Js Platform Interleave Payments

/-! ## An item and its buyer -/

/-- A stored content document: what the member routes read of it, and the
further paths the database holds, declared or not. -/
structure Item where
  document : Purchases.Content
  further : List (String × Payments.ContentField)

def Item.price (i : Item) : ℚ := i.document.price

def Item.content (i : Item) : Payments.Content := ⟨i.document.creator, i.further⟩

structure Shop where
  item : Item
  id : Nat
  payments : Payments.Db
  links : PaymentLinks.Store
  purchases : Purchases.Db
  in_payments : payments.contents[id]? = some item.content
  in_links : links.contents[id]? = some item.content
  in_purchases : purchases.contents[id]? = some item.document

/-- Someone who has not bought the item and can pay for it in each way: with a
card that the gateway approves, and with enough credits. -/
structure Buyer (s : Shop) where
  user : Nat
  paymentMethodId : Ref
  gateway : Payments.ChargeResult
  today : CivilDate.Date
  customer : PaymentLinks.Customer
  contentAccepted : Bool
  memberId : Nat
  member : Purchases.Member
  has_member : (s.payments.member? user).isSome = true
  has_card : (s.payments.paymentMethod? user paymentMethodId).isSome = true
  approved : Payments.isApproved gateway = true
  found : s.purchases.member? user = some (memberId, member)
  not_bought : Purchases.alreadyPurchased s.id member.purchasedContent = some false
  enough : member.credits.lt (.fin s.item.price) = false
  has_creator : (s.purchases.creators[s.item.document.creator]?).isSome = true

variable {s : Shop}

def Buyer.cardRequest (b : Buyer s) : Payments.PurchaseRequest :=
  { user := b.user, contentId := .id s.id, paymentMethodId := b.paymentMethodId,
    gateway := b.gateway, today := b.today, contentAccepted := b.contentAccepted,
    memberAccepted := true }

def Buyer.linkCall (b : Buyer s) : PaymentLinks.Call :=
  .processContentUnlock b.user (.id s.id) b.customer

def Buyer.creditRequest (b : Buyer s) : Purchases.Request :=
  { user := b.user, contentId := .id s.id, memberAccepted := true,
    contentAccepted := b.contentAccepted }

/-- The gateway is charged `a` for the item. -/
def Buyer.CardCharged (b : Buyer s) (cfg : Payments.Config) (a : ℚ) : Prop :=
  ((Payments.purchaseContent cfg b.cardRequest).run (Payments.exec cfg) s.payments).1.gateway
      = s.payments.gateway ++ [(.chargePaymentToken b.user (some s.id), true)]
    ∧ ∃ payment, b.cardRequest.reaches cfg s.payments = some (s.id, payment) ∧ payment.amount = a

/-- The answered link bills `a`. -/
def Buyer.LinkCharged (b : Buyer s) (cfg : PaymentLinks.Config) (a : ℚ) : Prop :=
  ∃ db answer, b.linkCall.handle cfg s.links = (db, .success 200 "" (some answer))
    ∧ answer.paymentUrl.lookup "initialPrice" = some (numeral a)

/-- The member pays `a` credits and notes the purchase. -/
def Buyer.CreditsCharged (b : Buyer s) (a : ℚ) : Prop :=
  ∃ m, (Purchases.purchaseContent b.creditRequest s.purchases).1.members[b.memberId]? = some m
    ∧ m.credits = (b.member.credits.sub (.fin a)).rounded
    ∧ m.purchasedContent
      = b.member.purchasedContent ++ [⟨some s.item.document.creator, some s.id, some a⟩]

inductive Way where
  | card | link | credits

def Buyer.Charged (b : Buyer s) (cfg : Payments.Config) (links : PaymentLinks.Config) :
    Way → ℚ → Prop
  | .card => b.CardCharged cfg
  | .link => b.LinkCharged links
  | .credits => b.CreditsCharged

/-! ## The fallback price -/

theorem price_hydrate (c : Content) : c.hydrate.price = 499 / 100 := by
  have hpa : c.hydrate.fields.lookup "pricing" = none := by
    rw [Content.hydrate, lookup_strict (by decide)]
  rw [Content.price, hpa]

variable {b : Buyer s} {a : ℚ}

theorem not_linkCharged (cfg : PaymentLinks.Config) : ¬ b.LinkCharged cfg a := by
  rintro ⟨db, answer, hha, -⟩
  obtain ⟨status, error, hf⟩ := PaymentLinks.handle_fails
  rw [hf] at hha
  cases (Prod.mk.inj hha).2

variable {cfg : Payments.Config}

theorem cardRequest_reaches :
    (cfg.saveOrder = .validateFirst ∧ b.cardRequest.reaches cfg s.payments = none)
      ∨ cfg.saveOrder = .hooksFirst ∧ ∃ p, b.cardRequest.reaches cfg s.payments = some (s.id, p)
          ∧ p.amount = 499 / 100 := by
  obtain ⟨member, hmb⟩ := Option.isSome_iff_exists.mp b.has_member
  obtain ⟨method, hme⟩ := Option.isSome_iff_exists.mp b.has_card
  have hc : s.payments.content? (.id s.id) = some (s.id, s.item.content.hydrate) := by
    rw [Db.content?, s.in_payments]
    rfl
  have hpri := price_hydrate s.item.content
  have hpos : 0 ≤ s.item.content.hydrate.price := by rw [hpri]; norm_num
  unfold PurchaseRequest.reaches
  dsimp only [Buyer.cardRequest]
  rw [hmb, hc, hme]
  dsimp only
  cases ho : cfg.saveOrder with
  | validateFirst =>
    refine .inl ⟨rfl, ?_⟩
    obtain ⟨message, href⟩ := validated_validateFirst
      { user := b.user, member := member.1, creator := s.item.content.hydrate.creator,
        amount := .num (.fin s.item.content.hydrate.price), type := .unlock, status := .pending,
        ccbillTransactionId := none, ccbillSubscriptionId := none }
    rw [href]
  | hooksFirst =>
    refine .inr ⟨rfl, ?_⟩
    dsimp only [PaymentInput.validated, castNumber]
    rw [dif_pos hpos]
    exact ⟨_, rfl, hpri⟩

theorem cardCharged_iff : b.CardCharged cfg a ↔ cfg.saveOrder = .hooksFirst ∧ a = 499 / 100 := by
  rw [Buyer.CardCharged, gateway_purchase]
  rcases cardRequest_reaches with ⟨ho, hn⟩ | ⟨ho, p, hs, hamt⟩
  · rw [hn, ho]
    constructor
    · rintro ⟨-, p, hrea, -⟩
      cases hrea
    · rintro ⟨hne, -⟩
      cases hne
  · rw [hs, ho]
    constructor
    · rintro ⟨-, p', heq, hamt'⟩
      cases heq
      exact ⟨rfl, hamt'.symm.trans hamt⟩
    · rintro ⟨-, ha⟩
      refine ⟨?_, p, rfl, hamt.trans ha.symm⟩
      rw [Buyer.cardRequest]
      dsimp only
      rw [b.approved]

theorem buy_of_enough : ∃ buyer, b.member.buy s.id s.item.document = some buyer
      ∧ buyer.credits = (b.member.credits.sub (.fin s.item.price)).rounded
      ∧ buyer.purchasedContent = b.member.purchasedContent
        ++ [⟨some s.item.document.creator, some s.id, some s.item.price⟩] := by
  have hbal := Purchases.isBalance_rounded
    (Wallet.isBalance_sub b.member.credits_valid b.enough)
  exact ⟨_, dif_pos hbal, rfl, rfl⟩

theorem members_purchaseContent : ∃ buyer, b.member.buy s.id s.item.document = some buyer
      ∧ (Purchases.purchaseContent b.creditRequest s.purchases).1.members[b.memberId]?
        = some buyer := by
  obtain ⟨buyer, hbuy, -⟩ := buy_of_enough
  refine ⟨buyer, hbuy, ?_⟩
  have hst := (Collection.findOne_some b.found).1
  have hlen : b.memberId < s.purchases.members.length := (List.getElem?_eq_some_iff.mp hst).1
  have hwe : b.creditRequest.contentId ≠ .malformed := by rintro ⟨⟩
  have hc : s.purchases.content? b.creditRequest.contentId = some (s.id, s.item.document) := by
    rw [Buyer.creditRequest, Purchases.Db.content?, s.in_purchases]
    rfl
  have hmb : s.purchases.member? b.creditRequest.user = some (b.memberId, b.member) := b.found
  have hen : ¬ b.member.credits.lt (.fin s.item.document.price) := by
    rw [Bool.not_eq_true]
    exact b.enough
  have hcr : ¬ (s.purchases.creators[s.item.document.creator]?).isNone := by
    rw [Option.isNone_iff_eq_none]
    intro hn
    have hs := b.has_creator
    rw [hn] at hs
    cases hs
  rw [Purchases.purchaseContent, if_neg hwe, hc, hmb]
  dsimp only
  rw [b.not_bought]
  dsimp only
  rw [if_neg hen, if_neg hcr, hbuy]
  dsimp only
  have hp : (s.purchases.members.set b.memberId buyer)[b.memberId]? = some buyer :=
    List.getElem?_set_self hlen
  rw [Purchases.savePurchase, if_pos (by rfl)]
  split
  · rwa [Purchases.recordPurchase_fst]
  · exact hp

theorem creditsCharged_iff : b.CreditsCharged a ↔ a = s.item.price := by
  obtain ⟨buyer, hbuy, hcr, hnot⟩ := buy_of_enough
  obtain ⟨buyer', hbuy', hmbs⟩ := members_purchaseContent
  obtain rfl : buyer = buyer' := Option.mem_unique hbuy hbuy'
  rw [Buyer.CreditsCharged, hmbs]
  constructor
  · rintro ⟨m, heq, -, hnot'⟩
    cases heq
    have he := List.append_cancel_left (hnot'.symm.trans hnot)
    cases he
    rfl
  · rintro rfl
    exact ⟨buyer, rfl, hcr, hnot⟩

/-! ## The three ways -/

/-- What each way charges: the stored price in credits, 4.99 on a card if the
payment can be saved, and nothing by a link. -/
def Shop.Due (s : Shop) (cfg : Payments.Config) : Way → ℚ → Prop
  | .card, a => cfg.saveOrder = .hooksFirst ∧ a = 499 / 100
  | .link, _ => False
  | .credits, a => a = s.item.price

theorem charges_iff (links : PaymentLinks.Config) (way : Way)
    (a : ℚ) : b.Charged cfg links way a ↔ s.Due cfg way a := by
  cases way with
  | card => exact cardCharged_iff
  | link => exact iff_of_false (not_linkCharged links) not_false
  | credits => exact creditsCharged_iff

/-- For no item and no buyer do the three ways charge the stored price. What
each of them charges is exactly what is `Due`. -/
theorem ways_never_agree (b : Buyer s) (cfg : Payments.Config) (links : PaymentLinks.Config) :
    ¬ (∀ way, b.Charged cfg links way s.item.price)
      ∧ ∀ way a, b.Charged cfg links way a ↔ s.Due cfg way a := by
  refine ⟨fun h => ?_, charges_iff links⟩
  exact (charges_iff links .link s.item.price).mp (h .link)

def tenDollarItem : Item :=
  ⟨{ creator := 0, price := 10, purchases := .fin 0, revenue := .fin 0, purchasedBy := []
     price_nonneg := Payments.ten_nonneg }, []⟩

def twentyCredits : Purchases.Member := ⟨0, .fin 20, [], Purchases.twenty_isBalance⟩

def tenDollarShop : Shop where
  item := tenDollarItem
  id := 0
  payments := Payments.itemDb
  links := ⟨[⟨0, []⟩], [], []⟩
  purchases := ⟨[twentyCredits], [tenDollarItem.document], [⟨0, 0⟩], []⟩
  in_payments := rfl
  in_links := rfl
  in_purchases := rfl

theorem twentyCredits_enough : twentyCredits.credits.lt (.fin 10) = false := by decide +kernel

def twentyCreditBuyer : Buyer tenDollarShop where
  user := 0
  paymentMethodId := .id 0
  gateway := .ok (some "T1")
  today := Payments.newYear
  customer := ⟨"Member", "User", ""⟩
  contentAccepted := true
  memberId := 0
  member := twentyCredits
  has_member := rfl
  has_card := rfl
  approved := rfl
  found := rfl
  not_bought := rfl
  enough := twentyCredits_enough
  has_creator := rfl

def sampleCharged (order : SaveOrder) : Way → ℚ → Prop :=
  twentyCreditBuyer.Charged ⟨order, true⟩ PaymentLinks.sampleConfig

/-- With validation first only the credits are charged, and with the hooks first the card pays
another price. -/
theorem ten_dollar_item_differs :
    tenDollarShop.item.price = 10
      ∧ (sampleCharged .validateFirst .credits 10
        ∧ (∀ a, ¬ sampleCharged .validateFirst .card a ∧ ¬ sampleCharged .validateFirst .link a))
      ∧ sampleCharged .hooksFirst .credits 10 ∧ sampleCharged .hooksFirst .card (499 / 100)
      ∧ ∀ order, ¬ ∀ way, sampleCharged order way 10 := by
  refine ⟨rfl, ⟨(charges_iff ..).mpr rfl, fun a => ⟨fun h => ?_, not_linkCharged _⟩⟩,
    (charges_iff ..).mpr rfl, (charges_iff ..).mpr ⟨rfl, rfl⟩, fun order h => ?_⟩
  · obtain ⟨hfal, -⟩ := (charges_iff ..).mp h
    cases hfal
  · exact (charges_iff ..).mp (h .link)

end SexySelfies.ContentPrices
