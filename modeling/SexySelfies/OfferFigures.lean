import SexySelfies.OfferModel

/-!
# The figures of a special offer

Whatever their order, the stored numbers agree with the lists they count (`Counted`). That no more
is redeemed than was sent is checked by no method; it follows from the bound of the schema on the
conversion rate. The amounts are the sums over the redemptions (`Summed`) as long as none of them
has to be rounded.

The check of `maxRecipients` compares the number of recipients before the new one is added: with a
limit of 0.5 one recipient is added.
-/

namespace SexySelfies.Offers

open Js Platform Offer List

/-! ## Calls -/

inductive Call where
  | send (now : Nat) (memberId : Ref)
  | view (now : Nat) (memberId : Ref)
  | redeem (now : Nat) (data : RedemptionData)

variable (o : Offer)

def step : Call → Offer
  | .send now memberId => (o.sendToMember now memberId).1
  | .view now memberId => (o.recordView now memberId).1
  | .redeem now data => (o.recordRedemption now data).1

/-- What a call stores, before the hook: the recipient is added, the view or
the redemption is noted. -/
inductive Changes (o : Offer) : Call → Nat → Offer → Prop where
  | sent {now member : Nat} (hnew : o.recipient? member = none)
      (hroom : o.limitReached = false) :
      Changes o (.send now (.id member)) now (o.addRecipient now member)
  | viewed {now member i : Nat} {r : Recipient} (hfound : o.recipient? member = some (i, r))
      (hnew : r.viewedAt = none) : Changes o (.view now (.id member)) now (o.noteView now i)
  | redeemed {now member : Nat} {data : RedemptionData} (hid : data.memberId = .id member) :
      Changes o (.redeem now data) now (o.noteRedemption now member data)

theorem step_cases (c : Call) :
    step o c = o ∨ ∃ now doc, Changes o c now doc ∧ doc.valid
      ∧ step o c = doc.updateStatus now := by
  have hsv : ∀ now doc answer, Changes o c now doc → step o c = (o.save now doc answer).1 →
      step o c = o ∨ ∃ now doc, Changes o c now doc ∧ doc.valid
        ∧ step o c = doc.updateStatus now := by
    intro now doc answer hch hs
    rw [save_fst] at hs
    split at hs
    · rename_i hv
      exact .inr ⟨now, doc, hch, hv, hs⟩
    · exact .inl hs
  cases c with
  | send now m =>
    cases m with
    | absent | malformed =>
      refine .inl ?_
      simp only [step, sendToMember]
      split <;> rfl
    | id member =>
      cases hf : o.recipient? member with
      | some => exact .inl (by simp [step, sendToMember, hf])
      | none =>
        cases hl : o.limitReached with
        | true => exact .inl (by simp [step, sendToMember, hf, hl])
        | false =>
          refine hsv _ _ (.result true "Offer sent successfully") (.sent hf hl) ?_
          simp [step, sendToMember, hf, hl]
  | view now m =>
    cases m with
    | absent | malformed => exact .inl rfl
    | id member =>
      cases hf : o.recipient? member with
      | none => exact .inl (by simp [step, recordView, hf])
      | some found =>
        obtain ⟨i, r⟩ := found
        cases hvi : r.viewedAt with
        | some => exact .inl (by simp [step, recordView, hf, hvi])
        | none =>
          refine hsv _ _ .done (.viewed hf hvi) ?_
          simp [step, recordView, hf, hvi]
  | redeem now data =>
    cases hid : data.memberId with
    | absent | malformed => exact .inl (by simp [step, recordRedemption, hid])
    | id =>
      refine hsv _ _ (.result true "") (.redeemed hid) ?_
      simp [step, recordRedemption, hid]

/-- The counters are the lengths of their lists. -/
structure Counted (o : Offer) : Prop where
  sent_eq : o.sent = o.totalRecipients
  totalRecipients_eq : o.totalRecipients = o.members.length
  nodup : (o.members.map Recipient.member).Nodup
  viewed_eq : o.viewed = o.members.countP fun r => r.viewedAt.isSome
  redeemed_eq : o.redeemed = o.redemptions.length
  redeemed_le : o.redeemed ≤ o.sent

/-- The amounts are the sums over the redemptions. -/
structure Summed (o : Offer) : Prop where
  gross_eq : o.gross = .fin (o.redemptions.map Redemption.originalAmount).sum
  discountGiven_eq : o.discountGiven = .fin (o.redemptions.map Redemption.discountAmount).sum
  net_eq : o.net = .fin (o.redemptions.map Redemption.finalAmount).sum
  average_eq : ∃ a, o.averageOrderValue = .fin a ∧ o.net = .fin (a * o.redeemed)

def Within : Prop :=
  Number.le (.fin o.totalRecipients) o.terms.maxRecipients = true

/-- There is room for a whole recipient. -/
def FitsLimit : Call → Prop
  | .send _ (.id member) => o.recipient? member = none → o.limitReached = false →
      Number.le (.fin (o.totalRecipients + 1 : Nat)) o.terms.maxRecipients = true
  | _ => True

/-- None of the sums nor the average that the redemption leads to has to be rounded. -/
def Offer.Unrounded (d : RedemptionData) : Prop :=
  let net := o.net.add (.fin d.finalAmount)
  ∀ n ∈ [o.gross.add (.fin d.originalAmount), o.discountGiven.add (.fin d.discountAmount), net,
    net.div (o.redeemed + 1 : Nat)], n.rounded = n

/-- No sum of a stored redemption has to be rounded. -/
def FitsSums : Call → Prop
  | .redeem now d => ∀ member, d.memberId = .id member →
      (o.noteRedemption now member d).valid = true → o.Unrounded d
  | _ => True

theorem counted_statusFree : StatusFree Counted :=
  fun _ _ _ => ⟨fun h => ⟨h.1, h.2, h.3, h.4, h.5, h.6⟩, fun h => ⟨h.1, h.2, h.3, h.4, h.5, h.6⟩⟩

theorem summed_statusFree : StatusFree Summed :=
  fun _ _ _ => ⟨fun h => ⟨h.1, h.2, h.3, h.4⟩, fun h => ⟨h.1, h.2, h.3, h.4⟩⟩

theorem within_statusFree : StatusFree Within := fun _ _ _ => .rfl

theorem valid_statusFree : StatusFree (fun o => o.valid) := fun _ _ _ => .rfl

/-! ## What a change keeps -/

variable {o doc : Offer} {now : Nat}

theorem counted_addRecipient (h : Counted o) {member : Nat}
    (hnew : o.recipient? member = none) : Counted (o.addRecipient now member) where
  sent_eq := congrArg (· + 1) h.sent_eq
  totalRecipients_eq := by
    simp only [addRecipient, length_append, length_singleton, h.totalRecipients_eq]
  nodup := by
    have hout : member ∉ o.members.map Recipient.member := by
      intro hmem
      obtain ⟨r, hr, heq⟩ := mem_map.mp hmem
      have hne := Collection.findOne_eq_none.mp hnew r hr
      exact absurd (decide_eq_true heq) (by simp [hne])
    simp only [addRecipient, map_append, map_cons, map_nil]
    exact nodup_append.mpr ⟨h.nodup, nodup_singleton _, fun a ha b hb => by
      rw [mem_singleton.mp hb]
      rintro rfl
      exact hout ha⟩
  viewed_eq := by
    simp only [addRecipient, countP_append, countP_singleton,
      Option.isSome_none, Bool.false_eq_true, if_false, Nat.add_zero, h.viewed_eq]
  redeemed_eq := h.redeemed_eq
  redeemed_le := h.redeemed_le.trans (Nat.le_succ _)

theorem counted_noteView (h : Counted o) {member i : Nat} {r : Recipient}
    (hf : o.recipient? member = some (i, r)) (hnew : r.viewedAt = none) :
    Counted (o.noteView now i) where
  sent_eq := h.sent_eq
  totalRecipients_eq := by simp only [noteView, length_modify, h.totalRecipients_eq]
  nodup := by
    have hs := Collection.map_modify (g := Recipient.member)
      (f := fun r => { r with viewedAt := some now, status := .viewed }) (fun _ => rfl)
      o.members i
    simp only [noteView, hs]
    exact h.nodup
  viewed_eq := by
    have hc := Collection.countP_modify (p := fun r : Recipient => r.viewedAt.isSome)
      (f := fun r => { r with viewedAt := some now, status := .viewed })
      (Collection.findOne_some hf).1 (by rw [hnew]; rfl) rfl
    simp only [noteView, hc, h.viewed_eq]
  redeemed_eq := h.redeemed_eq
  redeemed_le := h.redeemed_le

theorem map_markRedeemed {β : Type} {g : Recipient → β} (now member : Nat) (o : Offer)
    (h : ∀ r : Recipient, g { r with redeemedAt := some now, status := .redeemed } = g r) :
    (o.markRedeemed now member).map g = o.members.map g := by
  unfold markRedeemed
  split
  · exact Collection.map_modify h _ _
  · rfl

theorem counted_noteRedemption (h : Counted o) (member : Nat) (data : RedemptionData)
    (hv : (o.noteRedemption now member data).valid) :
    Counted (o.noteRedemption now member data) where
  sent_eq := h.sent_eq
  totalRecipients_eq := by
    have hlen := congrArg List.length
      (map_markRedeemed (g := Recipient.member) now member o fun _ => rfl)
    rw [length_map, length_map] at hlen
    exact h.totalRecipients_eq.trans hlen.symm
  nodup := by
    rw [noteRedemption, map_markRedeemed now member o fun _ => rfl]
    exact h.nodup
  viewed_eq := by
    have hvi := map_markRedeemed (g := Recipient.viewedAt) now member o fun _ => rfl
    have hc := congrArg (List.countP Option.isSome) hvi
    rw [countP_map, countP_map] at hc
    exact h.viewed_eq.trans hc.symm
  redeemed_eq := by simp only [noteRedemption, length_append, length_singleton, h.redeemed_eq]
  redeemed_le := by
    simp only [valid, Bool.and_eq_true] at hv
    exact (isRate_percent_iff (Nat.succ_ne_zero _)).mp hv.1.1.1.1.1.1.2

theorem counted_step (h : Counted o) (c : Call) : Counted (step o c) := by
  rcases step_cases o c with heq | ⟨now, doc, hc, hv, heq⟩
  · rwa [heq]
  · rw [heq, counted_statusFree.updateStatus_iff]
    cases hc with
    | sent hnew hr => exact counted_addRecipient h hnew
    | viewed hf hnew => exact counted_noteView h hf hnew
    | redeemed => exact counted_noteRedemption h _ _ hv

variable {c : Call}

theorem valid_step (h : o.valid) : (step o c).valid := by
  rcases step_cases o c with heq | ⟨now, doc, -, hv, heq⟩
  · rwa [heq]
  · rw [heq]
    exact (valid_statusFree.updateStatus_iff now doc).mpr hv

theorem terms_step : (step o c).terms = o.terms := by
  rcases step_cases o c with heq | ⟨now, doc, hc, -, heq⟩
  · rw [heq]
  · obtain ⟨status, history, hs⟩ := updateStatus_eq now doc
    rw [heq, hs]
    cases hc with
    | sent hnew hr | viewed hf hnew | redeemed hid => rfl

theorem sum_noteRedemption (f : Redemption → ℚ) (member : Nat) (d : RedemptionData) :
    ((o.noteRedemption now member d).redemptions.map f).sum = (o.redemptions.map f).sum
      + f ⟨member, now, d.transactionId, d.originalAmount, d.discountAmount, d.finalAmount,
          o.status⟩ := by
  simp [noteRedemption]

theorem summed_noteRedemption_iff (h : Summed o) (member : Nat) (d : RedemptionData) :
    Summed (o.noteRedemption now member d) ↔ o.Unrounded d := by
  have hcount : ((o.redeemed + 1 : Nat) : ℚ) ≠ 0 := Nat.cast_ne_zero.mpr (Nat.succ_ne_zero _)
  have hgross : o.gross.add (.fin d.originalAmount)
      = .fin ((o.noteRedemption now member d).redemptions.map Redemption.originalAmount).sum := by
    rw [h.gross_eq, Number.add_fin, sum_noteRedemption]
  have hdiscount : o.discountGiven.add (.fin d.discountAmount)
      = .fin ((o.noteRedemption now member d).redemptions.map Redemption.discountAmount).sum := by
    rw [h.discountGiven_eq, Number.add_fin, sum_noteRedemption]
  have hnet : o.net.add (.fin d.finalAmount)
      = .fin ((o.noteRedemption now member d).redemptions.map Redemption.finalAmount).sum := by
    rw [h.net_eq, Number.add_fin, sum_noteRedemption]
  simp only [Unrounded, forall_mem_cons, not_mem_nil, false_implies, implies_true, and_true]
  constructor
  · intro hs
    have hnet' : (o.net.add (.fin d.finalAmount)).rounded = o.net.add (.fin d.finalAmount) :=
      hs.net_eq.trans hnet.symm
    obtain ⟨a, ha, hna⟩ := hs.average_eq
    refine ⟨hs.gross_eq.trans hgross.symm, hs.discountGiven_eq.trans hdiscount.symm, hnet', ?_⟩
    have hdiv : (o.net.add (.fin d.finalAmount)).div (o.redeemed + 1 : Nat) = .fin a := by
      have hprod : o.net.add (.fin d.finalAmount) = .fin (a * (o.redeemed + 1 : Nat)) :=
        hnet'.symm.trans hna
      rw [hprod, Number.div, mul_div_cancel_right₀ a hcount]
    change ((o.net.add (.fin d.finalAmount)).rounded.div (o.redeemed + 1 : Nat)).rounded = _ at ha
    rw [hnet'] at ha
    exact ha.trans hdiv.symm
  · rintro ⟨hgross', hdiscount', hnet', haverage⟩
    refine ⟨hgross'.trans hgross, hdiscount'.trans hdiscount, hnet'.trans hnet, _, ?_,
      (hnet'.trans hnet).trans (congrArg Number.fin (div_mul_cancel₀ _ hcount).symm)⟩
    change ((o.net.add (.fin d.finalAmount)).rounded.div (o.redeemed + 1 : Nat)).rounded = _
    rw [hnet', haverage, hnet]
    rfl

theorem step_redeem {now member : Nat} {data : RedemptionData} (hid : data.memberId = .id member) :
    step o (.redeem now data) = if (o.noteRedemption now member data).valid then
      (o.noteRedemption now member data).updateStatus now else o := by
  simp only [step, recordRedemption, hid, save_fst]

theorem summed_step_iff (h : Summed o) : Summed (step o c) ↔ FitsSums o c := by
  cases c with
  | send now m | view now m =>
    refine iff_of_true ?_ trivial
    rcases step_cases o _ with heq | ⟨now, doc, hc, -, heq⟩
    · rwa [heq]
    · rw [heq, summed_statusFree.updateStatus_iff]
      cases hc
      exact ⟨h.1, h.2, h.3, h.4⟩
  | redeem now d =>
    by_cases hstored : ∃ member, d.memberId = .id member ∧ (o.noteRedemption now member d).valid
    · obtain ⟨member, hid, hv⟩ := hstored
      rw [step_redeem hid, if_pos hv, summed_statusFree.updateStatus_iff,
        summed_noteRedemption_iff h]
      constructor
      · exact fun hu _ _ _ => hu
      · exact fun hfits => hfits member hid hv
    · refine iff_of_true ?_ fun member hid hv => absurd ⟨member, hid, hv⟩ hstored
      cases hid : d.memberId with
      | absent | malformed => simpa [step, recordRedemption, hid] using h
      | id member => rwa [step_redeem hid, if_neg fun hv => hstored ⟨member, hid, hv⟩]

/-! ## The limit -/

theorem step_send (hv : o.valid) {member : Nat}
    (hnew : o.recipient? member = none) (hr : o.limitReached = false) :
    step o (.send now (.id member)) = (o.addRecipient now member).updateStatus now := by
  have hdoc : (o.addRecipient now member).valid := hv
  simp [step, sendToMember, hnew, hr, save_fst, hdoc]

theorem totalRecipients_step {c : Call} (h : ∀ now member, c = .send now (.id member) →
      o.recipient? member ≠ none ∨ o.limitReached) :
    (step o c).totalRecipients = o.totalRecipients := by
  rcases step_cases o c with heq | ⟨now, doc, hc, -, heq⟩
  · rw [heq]
  · obtain ⟨status, history, hs⟩ := updateStatus_eq now doc
    rw [heq, hs]
    cases hc with
    | sent hnew hr =>
      rcases h _ _ rfl with hold | hfu
      · exact absurd hnew hold
      · exact absurd (hr.symm.trans hfu) Bool.false_ne_true
    | viewed hf hnew | redeemed hid => rfl

theorem within_step_iff (hv : o.valid) (hin : Within o) :
    Within (step o c) ↔ FitsLimit o c := by
  have hk : (step o c).totalRecipients = o.totalRecipients → Within (step o c) := by
    intro heq
    rwa [Within, heq, terms_step]
  cases c with
  | send now m =>
    cases m with
    | absent => exact iff_of_true (hk (totalRecipients_step fun _ _ h => by cases h)) trivial
    | malformed => exact iff_of_true (hk (totalRecipients_step fun _ _ h => by cases h)) trivial
    | id member =>
      by_cases hsen : o.recipient? member = none ∧ o.limitReached = false
      · obtain ⟨hnew, hr⟩ := hsen
        rw [step_send hv hnew hr, within_statusFree.updateStatus_iff]
        exact ⟨fun h _ _ => h, fun h => h hnew hr⟩
      · refine iff_of_true (hk (totalRecipients_step fun now' m' heq => ?_)) ?_
        · cases heq
          by_cases hnew : o.recipient? member = none
          · exact .inr (Bool.not_eq_false _ ▸ fun hr => hsen ⟨hnew, hr⟩)
          · exact .inl hnew
        · exact fun hnew hr => absurd ⟨hnew, hr⟩ hsen
  | view now m | redeem now data =>
    exact iff_of_true (hk (totalRecipients_step fun _ _ h => by cases h)) trivial

theorem every_fitsLimit_of_whole {n : Nat} (h : o.terms.maxRecipients = .fin n)
    (calls : List Call) : Runs.Every step FitsLimit o calls := by
  refine Runs.every_imp_under (I := fun o => o.terms.maxRecipients = .fin n)
    (C := fun _ _ => True) (fun o c ho => ?_) (fun o c ho _ => ?_) h
    (Runs.every_of_forall fun _ _ => trivial)
  · rwa [terms_step]
  · unfold FitsLimit
    split
    · intro _ hr
      rw [limitReached, ho] at hr
      rw [ho]
      simp only [Number.le, decide_eq_false_iff_not, decide_eq_true_eq, Nat.cast_le, not_le] at hr ⊢
      exact hr
    · trivial

variable (terms : Terms)

theorem counted_new (status : OfferStatus) :
    Counted (new terms status) := by constructor <;> simp [new]

theorem summed_new (status : OfferStatus) :
    Summed (new terms status) := by constructor <;> simp [new]

/-- From a new offer without recipients, the figures agree with the lists and the limit is kept
exactly when every new recipient finds room as a whole and no redemption leads to a sum that has
to be rounded. -/
theorem figures_kept_iff (hmax : Number.le (.fin 0) terms.maxRecipients = true)
    (status : OfferStatus) (calls : List Call) :
    Runs.Always step (fun o => Counted o ∧ Summed o ∧ Within o) (Offer.new terms status) calls ↔
      Runs.Every step (fun o c => FitsSums o c ∧ FitsLimit o c) (Offer.new terms status) calls := by
  have hnew := counted_new terms status
  have hwit : Within (new terms status) := by
    rw [Within, new, Nat.cast_zero]
    exact hmax
  refine Runs.always_iff_every_within (J := fun o => Counted o ∧ o.valid = true)
    (fun o c ho => ⟨counted_step ho.1 c, valid_step ho.2⟩) (fun o c ho hI => ?_)
    ⟨hnew, rfl⟩ ⟨hnew, summed_new terms status, hwit⟩
  rw [and_iff_right (counted_step ho.1 c)]
  exact and_congr (summed_step_iff hI.2.1) (within_step_iff ho.2 hI.2.2)

theorem one_le_one : Number.le (.fin 1) (.fin 1) := by decide

def sampleTerms (maxRecipients : Number) : Terms :=
  { maxRecipients, startDate := 0, endDate := 1000, perMember := .fin 1, total := none, cost := 0,
    perMember_valid := one_le_one, total_valid := fun t ht => absurd ht (Option.not_mem_none t),
    cost_nonneg := le_refl 0 }

def sampleData (member : Nat) : RedemptionData := ⟨.id member, .str "T1", 10, 2, 8⟩

def sampleCalls : List Call := [.send 1 (.id 0), .redeem 2 (sampleData 0), .view 3 (.id 0)]

theorem figures_kept_default_limit :
    Number.le (.fin 0) (sampleTerms (.fin 100)).maxRecipients = true
      ∧ Runs.Always step (fun o => Counted o ∧ Summed o ∧ Within o)
        (Offer.new (sampleTerms (.fin 100)) .active) sampleCalls := by
  have hmax : Number.le (.fin 0) (sampleTerms (.fin 100)).maxRecipients = true := by decide
  refine ⟨hmax, (figures_kept_iff _ hmax _ _).mpr ?_⟩
  have hlimit := every_fitsLimit_of_whole (n := 100) (o := new (sampleTerms (.fin 100)) .active)
    (by simp [new, sampleTerms]) sampleCalls
  have hsums : Runs.Every step FitsSums (new (sampleTerms (.fin 100)) .active) sampleCalls := by
    refine ⟨trivial, fun member _ _ => ?_, trivial, trivial⟩
    unfold Unrounded
    decide +kernel
  exact hsums.and hlimit

theorem half_recipient_exceeded :
    Number.le (.fin 0) (sampleTerms (.fin (1 / 2))).maxRecipients = true
      ∧ ¬ Runs.Always step (fun o => Counted o ∧ Summed o ∧ Within o)
        (Offer.new (sampleTerms (.fin (1 / 2))) .active) [.send 1 (.id 0)] := by
  refine ⟨by decide +kernel, fun h => ?_⟩
  have hover : ¬ Within (step (new (sampleTerms (.fin (1 / 2))) .active) (.send 1 (.id 0))) := by
    unfold Within
    decide +kernel
  exact hover h.last.2.2

end SexySelfies.Offers
