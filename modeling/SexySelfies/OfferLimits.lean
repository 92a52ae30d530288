import SexySelfies.OfferFigures

/-!
# Who may redeem a special offer, and how often

A redemption is guarded by `canBeRedeemedBy` on the same document. The limit per member is only
looked at while the status of the recipient is `redeemed`, and a view overwrites that status. A
limit that is no whole number is passed by the redemption that crosses it; and the clock is read
again when the redemption is recorded.
-/

namespace SexySelfies.Offers

open Js Platform

/-! ## Guarded calls -/

/-- A redemption is recorded some time after it was granted. -/
inductive GuardedCall where
  | send (now : Nat) (memberId : Ref)
  | view (now : Nat) (memberId : Ref)
  | redeem (checkedAt delay : Nat) (data : RedemptionData)

variable (o : Offer)

def Offer.grants (now : Nat) : Ref → Bool
  | .id member => o.canBeRedeemedBy now member = none
  | _ => false

def guarded : GuardedCall → Offer
  | .send now memberId => step o (.send now memberId)
  | .view now memberId => step o (.view now memberId)
  | .redeem checkedAt delay data =>
    if o.grants checkedAt data.memberId then step o (.redeem (checkedAt + delay) data) else o

/-- No member has more entries than allowed, nor have all together, and every
entry was made while the offer was active and within its dates. -/
structure Respected (o : Offer) : Prop where
  perMember : ∀ member, Number.le (.fin (o.redemptionCount member)) o.terms.perMember = true
  total : ∀ t ∈ o.terms.total, Number.le (.fin o.redemptions.length) t = true
  timely : ∀ r ∈ o.redemptions, r.madeIn = .active
    ∧ o.terms.startDate ≤ r.redeemedAt ∧ r.redeemedAt ≤ o.terms.endDate

def splits (limit : Number) (n : Nat) : Bool :=
  Number.lt (.fin n) limit && Number.lt limit (.fin (n + 1 : Nat))

/-- A redemption that is granted and saved finds the recipient still `redeemed`, or the member
below the limit; neither limit is split by it; and the end date has not passed. -/
def Careful : GuardedCall → Prop
  | .redeem checkedAt delay data => ∀ member i r, data.memberId = .id member →
      o.recipient? member = some (i, r) → o.canBeRedeemedBy checkedAt member = none →
      (o.noteRedemption (checkedAt + delay) member data).valid = true →
      (r.status = .redeemed ∨ Number.le o.terms.perMember (.fin (o.redemptionCount member)) = false)
        ∧ splits o.terms.perMember (o.redemptionCount member) = false
        ∧ (∀ t ∈ o.terms.total, splits t o.redemptions.length = false)
        ∧ checkedAt + delay ≤ o.terms.endDate
  | _ => True

/-- What `canBeRedeemedBy` checks. -/
structure Granted (o : Offer) (now : Nat) (r : Recipient) (member : Nat) : Prop where
  active : o.status = .active
  started : o.terms.startDate ≤ now
  perMember : r.status = .redeemed →
    Number.le o.terms.perMember (.fin (o.redemptionCount member)) = false
  total : ∀ t ∈ o.terms.total, Number.le t (.fin o.redeemed) = false

theorem granted_of_canBeRedeemedBy {o : Offer} {now member : Nat}
    (h : o.canBeRedeemedBy now member = none) :
    ∃ i r, o.recipient? member = some (i, r) ∧ Granted o now r member := by
  unfold Offer.canBeRedeemedBy at h
  split at h
  · cases h
  · rename_i hv
    split at h
    · cases h
    · rename_i i r hf
      split at h
      · cases h
      · rename_i hl
        split at h
        · cases h
        · rename_i htot
          simp only [Offer.isValid, Bool.not_eq_true, Bool.not_eq_false', Bool.and_eq_true,
            decide_eq_true_eq] at hv
          refine ⟨i, r, hf, hv.1.1, hv.1.2, fun hst => ?_, fun t ht => ?_⟩
          · exact Bool.eq_false_iff.mpr fun hle => hl ⟨hst, hle⟩
          · refine Bool.eq_false_iff.mpr fun hle => htot ?_
            rw [ht]
            have htr : t.truthy := by
              have hone := o.terms.total_valid t ht
              cases t with
              | fin q =>
                have hq : (1 : ℚ) ≤ q := of_decide_eq_true hone
                exact decide_eq_true (by linarith)
              | nan | negInf => cases hone
              | posInf => rfl
            simp [htr, hle]

theorem room_iff {limit : Number} (h : Number.le (.fin 1) limit) (n : Nat) :
    Number.le (.fin (n + 1 : Nat)) limit ↔
      Number.le limit (.fin n) = false ∧ splits limit n = false := by
  cases limit with
  | nan | negInf => cases h
  | posInf => simp [splits, Number.le, Number.lt]
  | fin =>
    simp only [splits, Number.le, Number.lt, decide_eq_true_eq, decide_eq_false_iff_not, not_le,
      Bool.and_eq_false_iff, not_lt]
    push_cast
    constructor
    · intro hr
      exact ⟨by linarith, .inr hr⟩
    · rintro ⟨hlt, hle | hr⟩
      · exact absurd hlt (not_lt.mpr hle)
      · exact hr

/-! ## One call -/

variable {o : Offer}

theorem respected_statusFree : StatusFree Respected :=
  fun _ _ _ => ⟨fun h => ⟨h.perMember, h.total, h.timely⟩,
    fun h => ⟨h.perMember, h.total, h.timely⟩⟩

theorem redemptions_step {c : Call} (h : ∀ now data, c ≠ .redeem now data) :
    (step o c).redemptions = o.redemptions := by
  rcases step_cases o c with heq | ⟨now, doc, hc, -, heq⟩
  · rw [heq]
  · obtain ⟨status, history, hs⟩ := updateStatus_eq now doc
    rw [heq, hs]
    cases hc with
    | sent hnew hr | viewed hf hnew => rfl
    | redeemed => exact absurd rfl (h _ _)

theorem respected_step {c : Call} (h : Respected o) (hc : ∀ now data, c ≠ .redeem now data) :
    Respected (step o c) := by
  have hs := redemptions_step (o := o) hc
  constructor
  · intro member
    rw [Offer.redemptionCount, hs, terms_step]
    exact h.perMember member
  · rw [hs, terms_step]
    exact h.total
  · rw [hs, terms_step]
    exact h.timely

theorem redemptionCount_noteRedemption (now member m : Nat) (data : RedemptionData) (o : Offer) :
    (o.noteRedemption now member data).redemptionCount m
      = o.redemptionCount m + if member = m then 1 else 0 := by
  simp [Offer.redemptionCount, Offer.noteRedemption, List.countP_append, List.countP_singleton]

theorem respected_noteRedemption_iff (h : Respected o) (now member : Nat) (data : RedemptionData) :
    Respected (o.noteRedemption now member data) ↔
      Number.le (.fin (o.redemptionCount member + 1 : Nat)) o.terms.perMember
        ∧ (∀ t ∈ o.terms.total, Number.le (.fin (o.redemptions.length + 1 : Nat)) t)
        ∧ o.status = .active ∧ o.terms.startDate ≤ now ∧ now ≤ o.terms.endDate := by
  have hlen : (o.noteRedemption now member data).redemptions.length = o.redemptions.length + 1 := by
    simp [Offer.noteRedemption]
  constructor
  · intro hnew
    have hc := hnew.perMember member
    have ht := hnew.total
    rw [redemptionCount_noteRedemption, if_pos rfl] at hc
    rw [hlen] at ht
    have he := hnew.timely _ (List.mem_append_right _ (List.mem_singleton.mpr rfl))
    exact ⟨hc, ht, he⟩
  · rintro ⟨hc, ht, he⟩
    constructor
    · intro m
      rw [redemptionCount_noteRedemption]
      split
      · rename_i hs
        rwa [← hs]
      · exact h.perMember m
    · rwa [hlen]
    · intro r hr
      rcases List.mem_append.mp hr with hr | hr
      · exact h.timely r hr
      · rwa [List.mem_singleton.mp hr]

theorem respected_granted_iff (hco : Counted o) (h : Respected o) {checkedAt delay : Nat}
    {data : RedemptionData} {member i : Nat} {r : Recipient}
    (hid : data.memberId = .id member) (hf : o.recipient? member = some (i, r))
    (hcan : o.canBeRedeemedBy checkedAt member = none) (hgr : Granted o checkedAt r member)
    (hv : (o.noteRedemption (checkedAt + delay) member data).valid) :
    Respected (o.noteRedemption (checkedAt + delay) member data) ↔
      Careful o (.redeem checkedAt delay data) := by
  rw [respected_noteRedemption_iff h, room_iff o.terms.perMember_valid]
  constructor
  · rintro ⟨⟨hbel, hwho⟩, htot, -, -, hend⟩ member' i' r' hid' hf' - -
    obtain rfl : member = member' := by
      rw [hid] at hid'
      exact Ref.id.inj hid'
    refine ⟨.inr hbel, hwho, fun t ht => ?_, hend⟩
    exact ((room_iff (o.terms.total_valid t ht) _).mp (htot t ht)).2
  · intro hca
    obtain ⟨hst, hwho, htot, hend⟩ := hca member i r hid hf hcan hv
    have hbel : Number.le o.terms.perMember (.fin (o.redemptionCount member)) = false := by
      rcases hst with hre | hbel
      · exact hgr.perMember hre
      · exact hbel
    refine ⟨⟨hbel, hwho⟩, fun t ht => ?_, hgr.active,
      hgr.started.trans (Nat.le_add_right _ _), hend⟩
    have ho := hgr.total t ht
    rw [hco.redeemed_eq] at ho
    exact (room_iff (o.terms.total_valid t ht) _).mpr ⟨ho, htot t ht⟩

theorem respected_guarded_iff (hco : Counted o) (h : Respected o) (c : GuardedCall) :
    Respected (guarded o c) ↔ Careful o c := by
  cases c with
  | send now memberId =>
    refine iff_of_true (respected_step (c := .send now memberId) h fun _ _ heq => ?_) trivial
    cases heq
  | view now memberId =>
    refine iff_of_true (respected_step (c := .view now memberId) h fun _ _ heq => ?_) trivial
    cases heq
  | redeem checkedAt delay data =>
    simp only [guarded]
    by_cases hgr : o.grants checkedAt data.memberId = true
    · rw [if_pos hgr]
      cases hid : data.memberId with
      | absent | malformed => rw [hid] at hgr; cases hgr
      | id member =>
        rw [hid] at hgr
        have hcan : o.canBeRedeemedBy checkedAt member = none := of_decide_eq_true hgr
        obtain ⟨i, r, hf, hgra⟩ := granted_of_canBeRedeemedBy hcan
        rw [step_redeem hid]
        by_cases hv : (o.noteRedemption (checkedAt + delay) member data).valid
        · rw [if_pos hv, respected_statusFree.updateStatus_iff]
          exact respected_granted_iff hco h hid hf hcan hgra hv
        · rw [if_neg hv]
          refine iff_of_true h fun member' i' r' hid' _ _ hv' => ?_
          obtain rfl : member = member' := Ref.id.inj (hid.symm.trans hid')
          exact absurd hv' hv
    · rw [if_neg hgr]
      refine iff_of_true h fun member i r hid _ hcan _ => absurd ?_ hgr
      rw [hid]
      exact decide_eq_true hcan

theorem counted_guarded (h : Counted o) (c : GuardedCall) : Counted (guarded o c) := by
  cases c with
  | send now m => exact counted_step h (.send now m)
  | view now m => exact counted_step h (.view now m)
  | redeem =>
    simp only [guarded]
    split
    · exact counted_step h _
    · exact h

/-! ## Whole runs -/

theorem zero_le_of_one_le {limit : Number} (h : Number.le (.fin 1) limit) :
    Number.le (.fin 0) limit := by
  cases limit with
  | nan | negInf => cases h
  | posInf => rfl
  | fin q =>
    have hq : (1 : ℚ) ≤ q := of_decide_eq_true h
    exact decide_eq_true (by linarith)

theorem respected_new (terms : Terms) (status : OfferStatus) :
    Respected (Offer.new terms status) := by
  refine ⟨fun member => ?_, fun t ht => ?_, fun r hr => absurd hr List.not_mem_nil⟩
  · exact zero_le_of_one_le terms.perMember_valid
  · exact zero_le_of_one_le (terms.total_valid t ht)

/-- From a new offer, for any sends, views and guarded redemptions, the limits
and the dates are respected throughout exactly when every call is careful. -/
theorem limits_respected_iff (terms : Terms) (status : OfferStatus) (calls : List GuardedCall) :
    Runs.Always guarded Respected (Offer.new terms status) calls ↔
      Runs.Every guarded Careful (Offer.new terms status) calls := by
  exact Runs.always_iff_every_within (fun o c ho => counted_guarded ho c)
    (fun o c ho hI => respected_guarded_iff ho hI c) (counted_new terms status)
    (respected_new terms status)

def redeemedTwice : List GuardedCall :=
  [.send 1 (.id 0), .send 1 (.id 1), .redeem 2 0 (sampleData 0), .view 3 (.id 0),
   .redeem 4 0 (sampleData 0)]

theorem view_resets_limit :
    (sampleTerms (.fin 100)).perMember = .fin 1
      ∧ ¬ Runs.Always guarded Respected (Offer.new (sampleTerms (.fin 100)) .active)
        redeemedTwice := by
  refine ⟨rfl, fun h => ?_⟩
  have hc : (Runs.final guarded (Offer.new (sampleTerms (.fin 100)) .active)
      redeemedTwice).redemptionCount 0 = 2 := by decide +kernel
  have hl := h.last.perMember 0
  rw [hc] at hl
  have hter : (Runs.final guarded (Offer.new (sampleTerms (.fin 100)) .active)
      redeemedTwice).terms.perMember = .fin 1 := by decide +kernel
  rw [hter] at hl
  exact absurd hl (by decide +kernel)

end SexySelfies.Offers
