import SexySelfies.Collection
import SexySelfies.Platform
import SexySelfies.Runs

/-!
# Special offers

`models/SpecialOffer.js`: the document of an offer, its methods, and the hook that keeps its status
up to date. The schema rejects a number that is `NaN` or outside its bounds. Counters start at zero
and grow by one, so they are natural numbers. Amounts are doubles and rounded after each operation;
the rates are not, since rounding never takes them across 100.
-/

namespace SexySelfies.Offers

open Js Platform

/-! ## Documents -/

inductive RecipientStatus where
  | pending
  | viewed
  | redeemed
  | expired
  | declined
deriving DecidableEq

structure Recipient where
  member : Nat
  sentAt : Nat
  viewedAt : Option Nat
  redeemedAt : Option Nat
  status : RecipientStatus

inductive OfferStatus where
  | draft
  | scheduled
  | active
  | paused
  | completed
  | cancelled
  | expired
deriving DecidableEq

structure StatusChange where
  status : OfferStatus
  changedAt : Nat
  reason : String

structure Redemption where
  member : Nat
  redeemedAt : Nat
  transactionId : Value
  originalAmount : ℚ
  discountAmount : ℚ
  finalAmount : ℚ
  madeIn : OfferStatus

structure Terms where
  maxRecipients : Number
  startDate : Nat
  endDate : Nat
  perMember : Number
  total : Option Number
  cost : ℚ
  perMember_valid : Number.le (.fin 1) perMember = true
  total_valid : ∀ t ∈ total, Number.le (.fin 1) t = true
  cost_nonneg : 0 ≤ cost

structure Offer where
  terms : Terms
  members : List Recipient
  totalRecipients : Nat
  sent : Nat
  viewed : Nat
  redeemed : Nat
  viewRate : Number
  conversionRate : Number
  gross : Number
  discountGiven : Number
  net : Number
  averageOrderValue : Number
  roiRevenue : Number
  roiPercentage : Option Number
  isPositive : Bool
  redemptions : List Redemption
  status : OfferStatus
  history : List StatusChange

def Offer.new (terms : Terms) (status : OfferStatus) : Offer :=
  { terms, members := [], totalRecipients := 0, sent := 0, viewed := 0, redeemed := 0,
    viewRate := .fin 0, conversionRate := .fin 0, gross := .fin 0, discountGiven := .fin 0,
    net := .fin 0, averageOrderValue := .fin 0, roiRevenue := .fin 0, roiPercentage := none,
    isPositive := false,
    redemptions := [], status, history := [] }

def percent (n k : Nat) : Number :=
  if k = 0 then (if n = 0 then .nan else .posInf) else .fin ((n : ℚ) / k * 100)

def isRate (r : Number) : Bool := Number.le (.fin 0) r && Number.le r (.fin 100)

def isAmount (n : Number) : Bool := Number.le (.fin 0) n

variable (o : Offer)

def Offer.valid : Bool :=
  isRate o.viewRate && isRate o.conversionRate && isAmount o.gross && isAmount o.discountGiven
    && isAmount o.net && isAmount o.averageOrderValue && isAmount o.roiRevenue
    && o.redemptions.all fun r => castsToString r.transactionId

variable (now : Nat) (o : Offer)

def Offer.updateStatus : Offer :=
  if o.terms.endDate < now ∧ o.status = .active then
    { o with
      status := .expired
      history := o.history ++ [⟨.expired, now, "Validity period ended"⟩] }
  else if o.terms.startDate ≤ now ∧ now ≤ o.terms.endDate ∧ o.status = .scheduled then
    { o with
      status := .active
      history := o.history ++ [⟨.active, now, "Scheduled start time reached"⟩] }
  else o

inductive Answer where
  | thrown
  | done
  | result (success : Bool) (message : String)

/-- `save` of the changed document: what is stored then, and the answer. -/
def Offer.save (stored : Offer) (now : Nat) (doc : Offer) (answer : Answer) : Offer × Answer :=
  if doc.valid then (doc.updateStatus now, answer) else (stored, .thrown)

/-! ## The methods -/

def Offer.recipient? (member : Nat) : Option (Nat × Recipient) :=
  Collection.findOne (fun r => r.member = member) o.members

def Offer.limitReached : Bool :=
  Number.le o.terms.maxRecipients (.fin o.totalRecipients)

def Offer.addRecipient (now member : Nat) (o : Offer) : Offer :=
  { o with
    members := o.members ++ [⟨member, now, none, none, .pending⟩]
    totalRecipients := o.totalRecipients + 1
    sent := o.sent + 1 }

/-- Without an object id the document cannot be saved; without any id the
search throws at the first recipient. -/
def Offer.sendToMember (memberId : Ref) (o : Offer) : Offer × Answer :=
  match memberId with
  | .id member =>
    if (o.recipient? member).isSome then
      (o, .result false "Offer already sent to this member")
    else if o.limitReached then (o, .result false "Recipient limit reached")
    else o.save now (o.addRecipient now member) (.result true "Offer sent successfully")
  | .malformed =>
    if o.limitReached then (o, .result false "Recipient limit reached") else (o, .thrown)
  | .absent =>
    if o.members.isEmpty && o.limitReached then (o, .result false "Recipient limit reached")
    else (o, .thrown)

def Offer.noteView (now i : Nat) (o : Offer) : Offer :=
  { o with
    members := o.members.modify i fun r => { r with viewedAt := some now, status := .viewed }
    viewed := o.viewed + 1
    viewRate := percent (o.viewed + 1) o.sent }

def Offer.recordView (memberId : Ref) (o : Offer) : Offer × Answer :=
  match memberId with
  | .id member =>
    match o.recipient? member with
    | some (i, r) =>
      if r.viewedAt.isNone then o.save now (o.noteView now i) .done else (o, .done)
    | none => (o, .done)
  | .malformed => (o, .done)
  | .absent => (o, if o.members.isEmpty then .done else .thrown)

structure RedemptionData where
  memberId : Ref
  transactionId : Value
  originalAmount : ℚ
  discountAmount : ℚ
  finalAmount : ℚ

def Offer.markRedeemed (now member : Nat) (o : Offer) : List Recipient :=
  match o.recipient? member with
  | some (i, _) =>
    o.members.modify i fun r => { r with redeemedAt := some now, status := .redeemed }
  | none => o.members

/-- `((revenue - cost) / cost) * 100`, where there is a cost. -/
def Terms.roi (t : Terms) (revenue : Number) : Option Number :=
  if 0 < t.cost then
    let ratio := ((revenue.sub (.fin t.cost)).rounded.div t.cost).rounded
    some (ratio.div (1 / 100)).rounded
  else none

def Offer.noteRedemption (now member : Nat) (d : RedemptionData) (o : Offer) : Offer :=
  let net := (o.net.add (.fin d.finalAmount)).rounded
  { o with
    members := o.markRedeemed now member
    redemptions := o.redemptions ++
      [⟨member, now, d.transactionId, d.originalAmount, d.discountAmount, d.finalAmount, o.status⟩]
    redeemed := o.redeemed + 1
    conversionRate := percent (o.redeemed + 1) o.sent
    gross := (o.gross.add (.fin d.originalAmount)).rounded
    discountGiven := (o.discountGiven.add (.fin d.discountAmount)).rounded
    net := net
    averageOrderValue := (net.div (o.redeemed + 1 : Nat)).rounded
    roiRevenue := net
    roiPercentage := (o.terms.roi net).orElse fun _ => o.roiPercentage
    isPositive := (o.terms.roi net).elim o.isPositive (Number.lt (.fin 0)) }

def Offer.recordRedemption (d : RedemptionData) (o : Offer) : Offer × Answer :=
  match d.memberId with
  | .id member => o.save now (o.noteRedemption now member d) (.result true "")
  | _ => (o, .thrown)

def Offer.isValid : Bool :=
  o.status = .active && o.terms.startDate ≤ now && now ≤ o.terms.endDate

def Offer.redemptionCount (member : Nat) : Nat :=
  o.redemptions.countP fun r => r.member = member

/-- The reason why a member may not redeem the offer; `none` is
`canRedeem: true`. -/
def Offer.canBeRedeemedBy (now member : Nat) (o : Offer) : Option String :=
  if !o.isValid now then some "Offer expired or inactive"
  else
    match o.recipient? member with
    | none => some "Offer not available for this member"
    | some (_, r) =>
      if r.status = .redeemed
          ∧ Number.le o.terms.perMember (.fin (o.redemptionCount member)) = true then
        some "Redemption limit reached"
      else if o.terms.total.any fun t => t.truthy && Number.le t (.fin o.redeemed) then
        some "Offer fully redeemed"
      else none

/-! ## What a save changes -/

theorem updateStatus_eq :
    ∃ status history, o.updateStatus now = { o with status, history } := by
  unfold Offer.updateStatus
  split
  · exact ⟨_, _, rfl⟩
  · split
    · exact ⟨_, _, rfl⟩
    · exact ⟨_, _, rfl⟩

/-- A property that neither the status nor its history takes part in. -/
def StatusFree (P : Offer → Prop) : Prop :=
  ∀ (o : Offer) (status : OfferStatus) (history : List StatusChange),
    P { o with status, history } ↔ P o

theorem StatusFree.updateStatus_iff {P : Offer → Prop} (h : StatusFree P) (now : Nat)
    (o : Offer) : P (o.updateStatus now) ↔ P o := by
  obtain ⟨status, history, heq⟩ := updateStatus_eq now o
  rw [heq]
  exact h o status history

theorem save_fst (stored : Offer) (now : Nat) (doc : Offer) (answer : Answer) :
    (stored.save now doc answer).1 = if doc.valid then doc.updateStatus now else stored := by
  unfold Offer.save
  split
  · rfl
  · rfl

theorem isRate_percent_iff {n k : Nat} (hn : n ≠ 0) : isRate (percent n k) ↔ n ≤ k := by
  unfold percent isRate
  by_cases hk : k = 0
  · rw [if_pos hk, if_neg hn, hk]
    simp [Number.le, hn]
  · have hpos : (0 : ℚ) < k := by exact_mod_cast Nat.pos_of_ne_zero hk
    have hra : (n : ℚ) / k * 100 ≤ 100 ↔ n ≤ k := by
      rw [← Nat.cast_le (α := ℚ), ← div_le_one hpos]
      constructor
      · intro h
        linarith
      · intro h
        linarith
    have hno : (0 : ℚ) ≤ (n : ℚ) / k * 100 := by positivity
    rw [if_neg hk]
    simp [Number.le, hno, hra]

end SexySelfies.Offers
