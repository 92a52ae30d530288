import SexySelfies.JsNumeral
import SexySelfies.WalletModel
import SexySelfies.Wildcard

/-!
# Buying credits through the payment form

`generateCreditPurchaseURL` of `ccbill.payment.controller.js` answers the address of a hosted
payment form and stores a pending transaction; `handleWidgetWebhook` adds the credits when the
gateway reports the sale. Nothing but the address connects the two: the credits go out as the text
of `clientCustom2` and come back through `parseInt`, while the form bills the two decimals of
`initialPrice`. The id of the transaction is the user's id and the clock.
-/

namespace SexySelfies.Wallet

open Js Platform Interleave

/-! ## The widget service -/

/-- The service's settings, with the digest, and the texts of user ids: 24
hexadecimal digits each. -/
structure Widget where
  accountNumber : String
  oneTime : String
  salt : String
  formName : String
  isTest : Bool
  clientUrl : String
  md5 : String → String
  platformId : Nat
  idText : Nat → String
  idText_injective : Function.Injective idText
  underscore_notMem : ∀ user, '_' ∉ (idText user).toList

/-- The body and the user of a request, at the time `now`. A name or an
address that is absent is empty. -/
structure TopupRequest where
  user : Nat
  now : Nat
  credits : Value
  email : String
  firstName : String
  lastName : String

structure PaymentLink where
  address : String
  params : List (String × String)
  transactionId : String
  amount : Number
  credits : Number
  expiresIn : Nat
deriving DecidableEq

def optionalParam (name value : String) : List (String × String) :=
  if value = "" then [] else [(name, value)]

variable (w : Widget) (r : TopupRequest)

def Widget.transactionId : String :=
  w.idText r.user ++ "_" ++ toString r.now

def Widget.generateHash (amount : Number) : String :=
  w.md5 (amount.toFixed ++ "30" ++ "840" ++ w.salt)

def Widget.paymentParams (credits : Number) :
    List (String × String) :=
  let returnUrl := w.clientUrl ++ "/member/wallet"
  [("clientAccnum", w.accountNumber), ("clientSubacc", w.oneTime),
    ("initialPrice", credits.toFixed), ("initialPeriod", "30"), ("currencyCode", "840"),
    ("formDigest", w.generateHash credits)]
  ++ optionalParam "email" r.email ++ optionalParam "firstName" r.firstName
  ++ optionalParam "lastName" r.lastName
  ++ [("merchantInvoiceId", w.transactionId r), ("clientCustom1", w.idText r.user),
    ("clientCustom2", credits.text),
    ("approvalURL", returnUrl ++ "?transaction=" ++ w.transactionId r ++ "&status=approved"),
    ("declineURL", returnUrl ++ "?status=declined")]

def Widget.link (credits : Number) : PaymentLink :=
  { address :=
      (if w.isTest then "https://sandbox-api.ccbill.com/wap-frontflex/flexforms"
       else "https://api.ccbill.com/wap-frontflex/flexforms") ++ "/" ++ w.formName
    params := w.paymentParams r credits
    transactionId := w.transactionId r
    amount := credits
    credits
    expiresIn := 900 }

def Widget.generatePaymentURL : Except String PaymentLink :=
  if !r.credits.truthy then .error "Missing required payment parameters"
  else if w.salt = "" then
    .error "CCBill salt not configured. Please set CCBILL_SALT in environment variables."
  else if w.formName = "" then
    .error "CCBill form name not configured. Please set CCBILL_FORM_NAME in environment variables."
  else
    match r.credits with
    | .num n => .ok (w.link r n)
    | _ => .error "amount.toFixed is not a function"

def topupInput (link : PaymentLink) (memberId : Nat) : TransactionInput :=
  { transactionId := some link.transactionId, memberId := some memberId,
    creatorId := some w.platformId, creator := some w.platformId, type := some "wallet_topup",
    amount := .num link.amount, status := some "pending", paymentMethod := some "ccbill" }

/-- A user without a member document is not given one: the schema asks for a
name and a gender. -/
def generateCreditPurchaseURL :
    Proc Op.Res (Response PaymentLink) := do
  if !r.credits.truthy || r.credits.toNumber.lt (.fin 5) then
    return .failure 400 "Minimum credit purchase is 5 credits ($5.00)"
  match w.generatePaymentURL r with
  | .error message => return .failure 500 message
  | .ok link =>
    let some (memberId, _) ← perform (Op.findMember r.user)
      | return .failure 500 "Member validation failed: username, gender"
    match Transaction.create (topupInput w link memberId) with
    | .error paths => return .failure 500 (validationError paths)
    | .ok t =>
      let some _ ← perform (Op.insertTransaction t)
        | return .failure 500 "E11000 duplicate key error"
      return .success 200 "" (some link)

/-! ## What an answer tells -/

variable {link : PaymentLink} {r : TopupRequest} {w : Widget}

theorem generatePaymentURL_ok (h : w.generatePaymentURL r = .ok link) :
    ∃ n, r.credits = .num n ∧ link = w.link r n := by
  unfold Widget.generatePaymentURL at h
  split at h
  · cases h
  split at h
  · cases h
  split at h
  · cases h
  split at h
  · next n hn => exact ⟨n, hn, (Except.ok.inj h).symm⟩
  · cases h

variable {memberId : Nat}

theorem create_topup {t : Transaction}
    (h : Transaction.create (topupInput w link memberId) = .ok t) :
    (∃ q, link.amount = .fin q) ∧ t.transactionId = link.transactionId ∧ t.memberId = memberId := by
  unfold Transaction.create at h
  split at h
  · next hid hmb _ _ _ hamt _ _ =>
    split at h
    · cases h
      refine ⟨?_, (Option.some.inj hid).symm, (Option.some.inj hmb).symm⟩
      unfold TransactionInput.setAmount at hamt
      split at hamt
      · next q hq => exact ⟨q, Value.num.inj hq⟩
      · cases hamt
    · cases h
  · cases h

/-- The stored transaction of this id is the member's. -/
def Db.Owes (db : Db) (transactionId : String) (memberId : Nat) : Prop :=
  ∃ i record, Collection.findOne (fun r => some r.transaction.transactionId = some transactionId)
      db.transactions = some (i, record) ∧ record.transaction.memberId = memberId

variable {db : Db}

theorem owes_unique {transactionId : String} {m m' : Nat} (h : db.Owes transactionId m)
    (h' : db.Owes transactionId m') : m = m' := by
  obtain ⟨i, record, hf, rfl⟩ := h
  obtain ⟨i', r', hf', rfl⟩ := h'
  rw [hf] at hf'
  cases hf'
  rfl

theorem insertTransaction_cases (t : Transaction) : (exec (.insertTransaction t) db).2 = none
      ∨ (exec (.insertTransaction t) db).1.members = db.members
        ∧ (exec (.insertTransaction t) db).1.Owes t.transactionId t.memberId
        ∧ ∀ id, ¬ db.Owes t.transactionId id := by
  by_cases hus : (db.transactions.any fun r => r.transaction.transactionId = t.transactionId) = true
  · left
    rw [exec, if_pos hus]
  · right
    have hfr : Collection.findOne (fun r => some r.transaction.transactionId = some t.transactionId)
        db.transactions = none := by
      refine Collection.findOne_eq_none.mpr fun record hrec => decide_eq_false fun hid => ?_
      exact hus (List.any_eq_true.mpr ⟨record, hrec, decide_eq_true (Option.some.inj hid)⟩)
    rw [exec, if_neg hus]
    refine ⟨rfl, ⟨db.transactions.length, ⟨t, false⟩, ?_, rfl⟩, ?_⟩
    · rw [Collection.findOne_concat, hfr]
      simp
    · rintro id ⟨i, record, hf, -⟩
      rw [hfr] at hf
      cases hf

theorem answered_cases {db' : Db} {status : Nat} {message : String}
    (h : (generateCreditPurchaseURL w r).run exec db = (db', .success status message (some link))) :
    ∃ q memberId member, r.credits = .num (.fin q) ∧ 5 ≤ q ∧ link = w.link r (.fin q)
      ∧ db.members[memberId]? = some member ∧ member.user = r.user
      ∧ db'.members = db.members ∧ db'.Owes link.transactionId memberId
      ∧ ∀ id, ¬ db.Owes link.transactionId id := by
  unfold generateCreditPurchaseURL at h
  split at h
  · cases h
  next hen =>
  split at h
  · cases h
  next link' hli =>
  rw [perform_bind, run_call] at h
  dsimp only [exec] at h
  cases hmb : db.member? r.user with
  | none =>
    rw [hmb] at h
    cases h
  | some found =>
    obtain ⟨memberId, member⟩ := found
    rw [hmb] at h
    dsimp only at h
    split at h
    · cases h
    next t ht =>
    obtain ⟨⟨q, hamt⟩, hid, hown⟩ := create_topup ht
    obtain ⟨n, hcr, rfl⟩ := generatePaymentURL_ok hli
    obtain rfl : n = .fin q := hamt
    obtain ⟨hst, hu⟩ := Collection.findOne_some hmb
    have hmin : 5 ≤ q := by
      by_contra hle
      refine hen ?_
      rw [hcr, Bool.or_eq_true]
      exact .inr (decide_eq_true (not_le.mp hle))
    rw [perform_bind, run_call] at h
    rcases insertTransaction_cases t with hn | ⟨hmbs, how, hfr⟩
    · rw [hn] at h
      cases h
    · split at h
      · cases h
        rw [hid, hown] at how
        rw [hid] at hfr
        exact ⟨q, memberId, member, hcr, hmin, rfl, hst, of_decide_eq_true hu, hmbs, how, hfr⟩
      · cases h

/-! ## The event that comes back -/

/-- The event of a sale through the link: the gateway echoes its parameters.
`clientCustom1` is echoed too and not read. -/
structure PaymentLink.Echoed (link : PaymentLink) (e : WidgetEvent) : Prop where
  merchantInvoiceId : e.merchantInvoiceId = link.params.lookup "merchantInvoiceId"
  clientCustom2 : e.clientCustom2 = link.params.lookup "clientCustom2"

variable (link : PaymentLink)

def PaymentLink.echo : WidgetEvent :=
  ⟨link.params.lookup "merchantInvoiceId", none, link.params.lookup "clientCustom2", none⟩

def PaymentLink.billed : Number :=
  ((link.params.lookup "initialPrice").map numberOfString).getD .nan

theorem lookup_optionalParam {name other : String} (h : (other == name) = false) (value : String) :
    (optionalParam name value).lookup other = none := by
  unfold optionalParam
  split
  · rfl
  · rw [List.lookup_cons, h]
    rfl

theorem lookup_paymentParams (w : Widget) (r : TopupRequest) (n : Number) :
    (w.paymentParams r n).lookup "initialPrice" = some n.toFixed
      ∧ (w.paymentParams r n).lookup "merchantInvoiceId" = some (w.transactionId r)
      ∧ (w.paymentParams r n).lookup "clientCustom2" = some n.text := by
  unfold Widget.paymentParams
  refine ⟨rfl, ?_, ?_⟩ <;>
  · simp only [List.lookup_append]
    rw [lookup_optionalParam (by decide), lookup_optionalParam (by decide),
      lookup_optionalParam (by decide)]
    rfl

theorem transactionId_ne_empty : w.transactionId r ≠ "" := by
  intro h
  have hl := congrArg String.toList h
  simp [Widget.transactionId] at hl

variable {e : WidgetEvent}

theorem echoed_key {n : Number} (h : (w.link r n).Echoed e) : e.key = some (w.transactionId r) := by
  have hid : e.merchantInvoiceId = some (w.transactionId r) :=
    h.merchantInvoiceId.trans (lookup_paymentParams w r n).2.1
  have hk : (some (w.transactionId r)).filter (· ≠ "") = some (w.transactionId r) :=
    Option.filter_some_pos (p := (· ≠ "")) (decide_eq_true transactionId_ne_empty)
  rw [WidgetEvent.key, hid, hk]
  rfl

variable {q : ℚ}

theorem echoed_creditsToAdd_iff (hq : q ≠ 0) (h : (w.link r (.fin q)).Echoed e) :
    e.creditsToAdd = .fin q ↔ parseInt (numeral q) = .fin q := by
  have hte : e.clientCustom2 = some (numeral q) :=
    h.clientCustom2.trans (lookup_paymentParams w r (.fin q)).2.2
  have hk : (some (numeral q)).filter (· ≠ "") = some (numeral q) :=
    Option.filter_some_pos (p := (· ≠ "")) (decide_eq_true (numeral_ne_empty q))
  have hcr : e.credits = parseInt (numeral q) := by rw [WidgetEvent.credits, hte, hk]
  rw [WidgetEvent.creditsToAdd, hcr]
  constructor
  · intro hadd
    split at hadd
    · exact hadd
    · cases hadd
  · intro hr
    rw [hr]
    exact if_pos (decide_eq_true hq)

theorem save_topup (m : Member) (hq : 0 ≤ q) :
    ∃ m', m.save (.topup (.fin q)) m = some m' ∧ m'.credits = m.credits.add (.fin q) := by
  have hbal : isBalance ((CreditChange.topup (.fin q)).result m.credits) :=
    isBalance_add m.credits_valid hq
  rw [Member.save, dif_pos hbal]
  exact ⟨_, rfl, assign_self _ _⟩

theorem handleWidgetWebhook_adds {transactionId : String} {m : Member}
    (hkey : e.key = some transactionId) (how : db.Owes transactionId memberId)
    (hm : db.members[memberId]? = some m) (hadd : e.creditsToAdd = .fin q) (hq : 0 ≤ q) :
    ∃ m', ((handleWidgetWebhook e).run exec db).1.members[memberId]? = some m'
      ∧ m'.credits = m.credits.add (.fin q) := by
  obtain ⟨i, record, hf, rfl⟩ := how
  obtain ⟨m', hs, hcr⟩ := save_topup m hq
  have hlen : record.transaction.memberId < db.members.length := (List.getElem?_eq_some_iff.mp hm).1
  have hex : ∀ db₁ : Db, db₁.members = db.members →
      exec (.saveMember record.transaction.memberId m (.topup (.fin q))) db₁
        = ({ db₁ with members := db.members.set record.transaction.memberId m' }, true) := by
    intro db₁ hmbs
    simp [exec, hmbs, hm, hs]
  refine ⟨m', ?_, hcr⟩
  unfold handleWidgetWebhook
  rw [perform_bind, run_call]
  dsimp only [exec]
  rw [hkey, hf]
  dsimp only
  rw [perform_bind, run_call]
  dsimp only [exec]
  rw [perform_bind, run_call]
  dsimp only [exec]
  rw [hm]
  dsimp only
  rw [perform_bind, run_call, hadd]
  rw [hex { db with
    transactions := db.transactions.modify i (Record.complete record.transaction e) } rfl]
  exact List.getElem?_set_self hlen

theorem transactionId_eq_iff (r' : TopupRequest) :
    w.transactionId r = w.transactionId r' ↔ r.user = r'.user ∧ r.now = r'.now := by
  constructor
  · intro h
    have hl := congrArg String.toList h
    simp only [Widget.transactionId, String.toList_append, List.append_assoc] at hl
    obtain ⟨hu, hnow⟩ := Wildcard.append_sep_inj (w.underscore_notMem r.user)
      (w.underscore_notMem r'.user) hl
    refine ⟨w.idText_injective (String.toList_inj.mp hu), ?_⟩
    exact toString_injective (String.toList_inj.mp hnow)
  · rintro ⟨hu, hnow⟩
    rw [Widget.transactionId, Widget.transactionId, hu, hnow]

/-! ## The round trip -/

/-- In whatever store the transaction and its member are when the sale is
reported, the webhook adds the credits requested, which are the dollars
billed. -/
def PaymentLink.Exact (memberId : Nat) (credits : Number) : Prop :=
  link.billed = credits ∧ ∀ db e m, link.Echoed e → db.Owes link.transactionId memberId →
    db.members[memberId]? = some m → e.creditsToAdd = credits
      ∧ ∃ m', ((handleWidgetWebhook e).run exec db).1.members[memberId]? = some m'
        ∧ m'.credits = m.credits.add credits

def TopupRequest.IsWhole (r : TopupRequest) : Prop :=
  ∃ q : ℚ, r.credits = .num (.fin q) ∧ q.den = 1 ∧ q < 10 ^ 21

theorem PaymentLink.echoed_echo : link.Echoed link.echo := ⟨rfl, rfl⟩

theorem exact_iff (hq : 5 ≤ q) {m : Member} (hm : db.members[memberId]? = some m)
    (how : db.Owes (w.transactionId r) memberId) :
    (w.link r (.fin q)).Exact memberId (.fin q) ↔ q.den = 1 ∧ q < 10 ^ 21 := by
  have hpos : 0 ≤ q := by linarith
  have hne : q ≠ 0 := by linarith
  constructor
  · rintro ⟨-, hall⟩
    have hec := (w.link r (.fin q)).echoed_echo
    obtain ⟨hadd, -⟩ := hall db _ m hec how hm
    exact (parseInt_numeral_iff hpos).mp ((echoed_creditsToAdd_iff hne hec).mp hadd)
  · rintro ⟨hden, hlt⟩
    refine ⟨?_, fun db e m hec how hm => ?_⟩
    · have hpri := (lookup_paymentParams w r (.fin q)).1
      rw [PaymentLink.billed, Widget.link, hpri, Option.map_some, Option.getD_some]
      exact numberOfString_toFixed hpos hden hlt
    · have hadd := (echoed_creditsToAdd_iff hne hec).mpr
        ((parseInt_numeral_iff hpos).mpr ⟨hden, hlt⟩)
      exact ⟨hadd, handleWidgetWebhook_adds (echoed_key hec) how hm hadd hpos⟩

/-- The credits added are those requested and billed, and no other link has the id, exactly when
they are a whole number below `10 ^ 21` and the requests differ in the user or the millisecond. -/
theorem topup_exact_iff {w : Widget} {r r' : TopupRequest} {db db' : Db} {status : Nat}
    {message : String} {link link' : PaymentLink}
    (h : (generateCreditPurchaseURL w r).run exec db = (db', .success status message (some link)))
    (h' : w.generatePaymentURL r' = .ok link') :
    ((∃ memberId m, db'.members[memberId]? = some m ∧ m.user = r.user
          ∧ db'.Owes link.transactionId memberId ∧ link.Exact memberId r.credits.toNumber)
        ∧ link.transactionId ≠ link'.transactionId)
      ↔ r.IsWhole ∧ (r.user ≠ r'.user ∨ r.now ≠ r'.now) := by
  obtain ⟨q, memberId, m, hcr, hq, rfl, hm, hu, hmem, howes, -⟩ := answered_cases h
  obtain ⟨n', -, rfl⟩ := generatePaymentURL_ok h'
  have hids : (w.link r (.fin q)).transactionId ≠ (w.link r' n').transactionId
      ↔ r.user ≠ r'.user ∨ r.now ≠ r'.now := by
    rw [← not_and_or]
    exact not_congr (transactionId_eq_iff r')
  have hwho : r.IsWhole ↔ q.den = 1 ∧ q < 10 ^ 21 := by
    unfold TopupRequest.IsWhole
    rw [hcr]
    constructor
    · rintro ⟨q', heq, hden, hlt⟩
      cases heq
      exact ⟨hden, hlt⟩
    · intro hq'
      exact ⟨q, rfl, hq'⟩
  rw [hids, hwho, hcr]
  rw [← hmem] at hm
  refine and_congr_left fun _ => ⟨?_, fun hq' => ?_⟩
  · rintro ⟨memberId', -, -, -, howes', hexa⟩
    obtain rfl := owes_unique howes howes'
    exact (exact_iff hq hm howes).mp hexa
  · exact ⟨memberId, m, hm, hu, howes, (exact_iff hq hm howes).mpr hq'⟩

/-! ## Five and a half credits -/

theorem underscore_notMem_toString (n : Nat) : '_' ∉ (toString n).toList := by
  rw [Nat.toString_eq_repr, Nat.toList_repr]
  intro h
  exact absurd ((isDigits_toDigits n).2 '_' h) (by decide)

def sampleWidget : Widget :=
  { accountNumber := "948700", oneTime := "0000", salt := "salt", formName := "form"
    isTest := true, clientUrl := "https://client", md5 := id, platformId := 0
    idText := toString, idText_injective := toString_injective
    underscore_notMem := underscore_notMem_toString }

def sampleRequest (q : ℚ) (now : Nat) : TopupRequest := ⟨0, now, .num (.fin q), "", "", ""⟩

def sampleLink (q : ℚ) (now : Nat) : PaymentLink := sampleWidget.link (sampleRequest q now) (.fin q)

def oneMember : Db :=
  { members := [⟨0, .fin 0, [], 0, rfl⟩], creators := [], contents := [], transactions := [] }

def requested (q : ℚ) : Db × Response PaymentLink :=
  (generateCreditPurchaseURL sampleWidget (sampleRequest q 1)).run exec oneMember

theorem requested_ten :
    requested 10 = ((requested 10).1, .success 200 "" (some (sampleLink 10 1))) :=
  Prod.ext rfl (by decide +kernel)

theorem topup_exact_ten :
    (∃ memberId m, (requested 10).1.members[memberId]? = some m ∧ m.user = 0
        ∧ (requested 10).1.Owes (sampleLink 10 1).transactionId memberId
        ∧ (sampleLink 10 1).Exact memberId (.fin 10))
      ∧ (sampleLink 10 1).transactionId ≠ (sampleLink 10 2).transactionId := by
  have ho : sampleWidget.generatePaymentURL (sampleRequest 10 2) = .ok (sampleLink 10 2) := rfl
  exact (topup_exact_iff requested_ten ho).mpr ⟨⟨10, rfl, rfl, by norm_num⟩, .inr (by decide)⟩

/-- Five and a half credits are billed, five are added; and another request in
the same millisecond gets a link with the same id. -/
theorem half_credit_lost :
    (requested (11 / 2)).2 = .success 200 "" (some (sampleLink (11 / 2) 1))
      ∧ (sampleLink (11 / 2) 1).billed = .fin (11 / 2)
      ∧ ((handleWidgetWebhook (sampleLink (11 / 2) 1).echo).run exec
          (requested (11 / 2)).1).1.members.map Member.credits = [.fin 5]
      ∧ (sampleLink 7 1).transactionId = (sampleLink (11 / 2) 1).transactionId := by decide +kernel

end SexySelfies.Wallet
