import SexySelfies.ContactModel
import SexySelfies.SalesLimitsModel

/-!
# Who a bulk request reaches

A bulk message or offer first passes `bulkActionLimits`, which compares the length of `recipients`
in the body with the cap of the creator's level. The handlers do not read `recipients`: they address
whom a query finds, and `maxRecipients` of the body is the limit of that query.
-/

namespace SexySelfies.Contact

open Js Platform List

inductive Kind where
  | message
  | offer

def Kind.allows : Kind → Record → Option Bool
  | .message => Record.allowBulkMessages
  | .offer => Record.allowSpecialOffers

def send (kind : Kind) (details : Bool) (creator : Nat) (r : BulkRequest) (db : Db) :
    List Nat × Response Nat :=
  match kind with
  | .message => sendBulkMessage creator r db
  | .offer => sendBulkOffer details creator r db

/-- A bulk request after the checks of the role and the level: what the handler
does, if it runs. -/
def bulk (cal : SalesLimits.Calendar) (level : Nat → Option SalesLimits.VerificationLevel)
    (kind : Kind) (details : Bool) (q : SalesLimits.Request) (r : BulkRequest)
    (s : MemoryStore SalesLimits.Key) (db : Db) : Option (List Nat × Response Nat) :=
  match (SalesLimits.bulkActionLimits cal level q s).2 with
  | .next _ => some (send kind details q.creatorId r db)
  | .refused _ _ _ => none

def countOf : Response Nat → Option Nat
  | .success _ _ data => data
  | .failure _ _ => none

/-- The members reached accept what is sent and have not blocked the creator;
each is reached once, and the answer counts them. -/
structure Sound (kind : Kind) (creator : Nat) (db : Db) (o : List Nat × Response Nat) : Prop where
  accepts : ∀ member ∈ o.1, ∃ a ∈ db, a.member = some member ∧ a.discoverable = some true
    ∧ creator ∉ a.blockedCreators ∧ kind.allows a = some true
  once : o.1.Nodup
  counted : ∀ n, countOf o.2 = some n → n = o.1.length

variable {r : BulkRequest} {members : List Record}

theorem sendAll_sublist (k s : Nat) :
    (sendAll r k members s).1.Sublist (members.filterMap Record.member) := by
  induction members generalizing k s with
  | nil => exact List.Sublist.refl []
  | cons a rest ih =>
    rw [sendAll]
    split
    · rename_i member hs
      rw [filterMap_cons_some (saves_eq hs)]
      exact (ih (k + 1) (s + 1)).cons_cons member
    · refine (ih (k + 1) s).trans ?_
      exact (sublist_cons_self a rest).filterMap Record.member

theorem sendAll_count (k s : Nat) :
    (sendAll r k members s).2 = s + (sendAll r k members s).1.length := by
  induction members generalizing k s with
  | nil => rfl
  | cons a rest ih =>
    rw [sendAll]
    split
    · have hr := ih (k + 1) (s + 1)
      simp only [length_cons]
      omega
    · exact ih (k + 1) s

theorem sendAll_eq (hcas : castsWithin 1000 r.content)
    (hacc : ∀ k, r.accepted k) (k s : Nat) :
    (sendAll r k members s).1 = members.filterMap Record.member := by
  have hs : ∀ k a, saves r k a = a.member := by
    intro k a
    simp [saves, hcas, hacc]
  induction members generalizing k s with
  | nil => rfl
  | cons a rest ih =>
    rw [sendAll, hs, filterMap_cons]
    cases a.member with
    | none => exact ih (k + 1) s
    | some member => exact congrArg (member :: ·) (ih (k + 1) (s + 1))

variable {creator : Nat} {db : Db} {kind : Kind}

theorem sound_none {o : List Nat × Response Nat}
    (h : o.1 = [] ∧ o.2.isSuccess = false) : Sound kind creator db o := by
  obtain ⟨hrch, hfa⟩ := h
  refine ⟨?_, ?_, ?_⟩
  · rw [hrch]
    exact nofun
  · rw [hrch]
    exact nodup_nil
  · intro n hn
    cases hans : o.2 with
    | failure =>
      rw [hans] at hn
      cases hn
    | success =>
      rw [hans] at hfa
      cases hfa

variable {details : Bool}

theorem send_sound (hun : Distinct db) :
    Sound kind creator db (send kind details creator r db) := by
  cases kind with
  | offer => exact sound_none (sendBulkOffer_none details)
  | message =>
    refine ⟨fun member hmem => mem_sendBulkMessage hmem, ?_, ?_⟩
    · rw [send]
      rcases sendBulkMessage_cases with ⟨hno, -⟩ | ⟨members, hf, heq⟩
      · rw [hno]
        exact nodup_nil
      · rw [heq]
        exact List.Nodup.sublist (sendAll_sublist 0 0) (hun.findMembers hf)
    · intro n hn
      rw [send] at hn ⊢
      rcases sendBulkMessage_cases with hno | ⟨members, -, heq⟩
      · have hs : Sound .message creator db _ := sound_none hno
        exact hs.counted n hn
      · rw [heq] at hn ⊢
        cases hn
        exact (sendAll_count 0 0).trans (Nat.zero_add _)

/-! ## The cap -/

/-- A body that keeps a message within `cap`: it is refused, cannot be stored,
addresses no tier, or has a limit within the cap. -/
def Bounded (cap : Nat) (r : BulkRequest) : Prop :=
  r.content.truthy = false ∨ castsWithin 1000 r.content = false
    ∨ (∀ inSegment, r.segment.query = some inSegment → ∀ t, inSegment t = false)
    ∨ ∀ limit, limitOf (orDefault r.maxRecipients 50) = some limit → ∃ n ≤ cap, limit = some n

variable {cap : Nat}

theorem sendAll_of_not_casts (hcas : castsWithin 1000 r.content = false) (k s : Nat) :
    (sendAll r k members s).1 = [] := by
  induction members generalizing k s with
  | nil => rfl
  | cons a rest ih =>
    have hs : saves r k a = none := by simp [saves, hcas]
    rw [sendAll, hs]
    exact ih (k + 1) s

variable {members : List Record}

theorem findMembers_of_no_tier {allows : Record → Option Bool} {most : Nat}
    (hf : findMembers creator allows most r db = some members)
    (hn : ∀ i, r.segment.query = some i → ∀ t, i t = false) : members = [] := by
  obtain ⟨i, limit, hseg, -, rfl⟩ := findMembers_eq_some hf
  have hse : db.filter (selects creator allows i) = [] := by
    refine filter_eq_nil_iff.mpr fun a _ => ?_
    simp [selects, hn i hseg]
  have hso : r.order.sort [] = [] := (r.order.perm []).eq_nil
  rw [hse, hso]
  exact sublist_nil.mp (take_sublist limit [])

theorem length_findMembers_le {allows : Record → Option Bool} {most n : Nat}
    (hf : findMembers creator allows most r db = some members)
    (hl : limitOf (orDefault r.maxRecipients most) = some (some n)) : members.length ≤ n := by
  obtain ⟨i, limit, -, hl', rfl⟩ := findMembers_eq_some hf
  obtain rfl := Option.mem_unique hl hl'
  exact length_take_le n _

theorem length_le_of_bounded (h : Bounded cap r) :
    (sendBulkMessage creator r db).1.length ≤ cap := by
  rcases sendBulkMessage_cases with ⟨hno, -⟩ | ⟨members, hf, heq⟩
  · rw [hno]
    exact Nat.zero_le cap
  rcases h with hc | hcas | hseg | hl
  · have href : (sendBulkMessage creator r db).1 = [] := by simp [sendBulkMessage, hc]
    rw [href]
    exact Nat.zero_le cap
  · rw [heq, sendAll_of_not_casts hcas]
    exact Nat.zero_le cap
  · rw [heq, findMembers_of_no_tier hf hseg]
    exact Nat.zero_le cap
  · obtain ⟨i, limit, -, hl', -⟩ := findMembers_eq_some hf
    obtain ⟨n, hn, rfl⟩ := hl limit hl'
    rw [heq]
    calc (sendAll r 0 members 0).1.length
        ≤ (members.filterMap Record.member).length := (sendAll_sublist 0 0).length_le
      _ ≤ members.length := length_filterMap_le Record.member members
      _ ≤ n := length_findMembers_le hf hl'
      _ ≤ cap := hn

theorem length_send_le {kind : Kind} (h : kind = .offer ∨ Bounded cap r) :
    (send kind details creator r db).1.length ≤ cap := by
  cases kind with
  | offer =>
    rw [send, (sendBulkOffer_none details).1]
    exact Nat.zero_le cap
  | message =>
    rcases h with hoff | hbo
    · cases hoff
    · exact length_le_of_bounded hbo

/-! ## A population that is too large -/

def crowd (cap : Nat) (t : Tier) : Db :=
  (List.range (cap + 1)).map fun i => { newRecord (some i) with tier := t }

theorem member_crowd (t : Tier) : (crowd cap t).filterMap Record.member = List.range (cap + 1) := by
  rw [crowd, filterMap_map]
  exact filterMap_some

theorem distinct_crowd (cap : Nat) (t : Tier) : Distinct (crowd cap t) := by
  rw [Distinct, member_crowd]
  exact nodup_range

variable {t : Tier}

theorem filter_crowd {is : Tier → Bool} (ht : is t) :
    (crowd cap t).filter (selects creator Record.allowBulkMessages is) = crowd cap t := by
  refine filter_eq_self.mpr fun a ha => ?_
  obtain ⟨i, -, rfl⟩ := mem_map.mp ha
  simp [selects, newRecord, ht]

theorem take_crowd {limit : Option Nat} (hov : ∀ n, limit = some n → cap < n) :
    take limit (crowd cap t) = crowd cap t := by
  cases limit with
  | none => rfl
  | some n =>
    have hlen : (crowd cap t).length = cap + 1 := by simp [crowd]
    have hn := hov n rfl
    exact take_of_length_le (by omega)

def BulkRequest.plain (r : BulkRequest) : BulkRequest :=
  { r with order := ⟨id, List.Perm.refl⟩, accepted := fun _ => true }

theorem findMembers_crowd {i : Tier → Bool} {limit : Option Nat}
    (hseg : r.segment.query = some i) (ht : i t)
    (hl : limitOf (orDefault r.maxRecipients 50) = some limit)
    (hov : ∀ n, limit = some n → cap < n) :
    findMembers creator Record.allowBulkMessages 50 r.plain (crowd cap t) = some (crowd cap t) := by
  rw [findMembers]
  simp only [BulkRequest.plain, hseg, hl, filter_crowd ht, id]
  rw [take_crowd hov]

theorem sendBulkMessage_of_found (hc : r.content.truthy)
    (hf : findMembers creator Record.allowBulkMessages 50 r db = some members) :
    (sendBulkMessage creator r db).1 = (sendAll r 0 members 0).1 := by
  obtain ⟨i, -, hseg, -, -⟩ := findMembers_eq_some hf
  cases hr : r.segment with
  | missing =>
    rw [hr] at hseg
    cases hseg
  | invalid | all | tiers => simp only [sendBulkMessage, hc, hr, hf]

theorem exceeds_of_not_bounded (h : ¬ Bounded cap r) :
    ∃ t, (sendBulkMessage creator r.plain (crowd cap t)).1.length = cap + 1 := by
  simp only [Bounded, not_or, not_forall, Bool.not_eq_false, not_exists, not_and] at h
  obtain ⟨hc, hcas, ⟨i, hseg, t, ht⟩, limit, hl, hno⟩ := h
  have hov : ∀ n, limit = some n → cap < n := by
    intro n hn
    exact Nat.lt_of_not_le fun hle => hno n hle hn
  have hf : findMembers creator Record.allowBulkMessages 50 r.plain (crowd cap t)
      = some (crowd cap t) := findMembers_crowd hseg ht hl hov
  have htr : r.plain.content.truthy := hc
  have hst : castsWithin 1000 r.plain.content := hcas
  refine ⟨t, ?_⟩
  rw [sendBulkMessage_of_found htr hf, sendAll_eq hst (fun _ => rfl), member_crowd, length_range]

/-- Every population is reached as it should, within the cap of the creator's level, exactly if
the request is refused, an offer, or keeps within the cap. -/
theorem within_cap_iff (cal : SalesLimits.Calendar)
    (level : Nat → Option SalesLimits.VerificationLevel) (kind : Kind) (details : Bool)
    (q : SalesLimits.Request) (r : BulkRequest) (s : MemoryStore SalesLimits.Key) :
    (∀ db order accepted, Distinct db → ∀ o,
        bulk cal level kind details q { r with order, accepted } s db = some o →
          Sound kind q.creatorId db o
            ∧ o.1.length ≤ SalesLimits.maxRecipients (level q.creatorId))
      ↔ (SalesLimits.bulkActionLimits cal level q s).2.isNext = false ∨ kind = .offer
        ∨ Bounded (SalesLimits.maxRecipients (level q.creatorId)) r := by
  constructor
  · intro h
    cases hlim : (SalesLimits.bulkActionLimits cal level q s).2 with
    | refused => exact .inl rfl
    | next =>
      cases kind with
      | offer => exact .inr (.inl rfl)
      | message =>
        refine .inr (.inr (by_contra fun hover => ?_))
        obtain ⟨t, hlen⟩ := exceeds_of_not_bounded hover
        have huni := distinct_crowd (SalesLimits.maxRecipients (level q.creatorId)) t
        obtain ⟨-, hle⟩ := h _ r.plain.order r.plain.accepted huni _ (by
          rw [bulk, hlim])
        exact absurd (hlen.symm.trans_le hle) (Nat.not_succ_le_self _)
  · intro h db order accepted huni o ho
    unfold bulk at ho
    split at ho
    · rename_i hlim
      cases ho
      rcases h with href | hwit
      · rw [hlim] at href
        cases href
      · exact ⟨send_sound huni, length_send_le hwit⟩
    · cases ho

def fromPremium : SalesLimits.Request := ⟨3, 0, true, .found, "", "message", .undefined⟩

def unlimited : BulkRequest :=
  ⟨.str "hello", .all, .num (.fin 0), ⟨id, List.Perm.refl⟩, fun _ => true⟩

theorem reaches_fifty_one : Distinct (crowd 50 .new)
    ∧ SalesLimits.maxRecipients (some .premium) = 50
    ∧ (bulk SalesLimits.utc (fun _ => some .premium) .message true fromPremium unlimited
        MemoryStore.empty (crowd 50 .new)).map (fun o => (o.1.length, countOf o.2))
      = some (51, some 51) := by
  refine ⟨distinct_crowd 50 .new, rfl, ?_⟩
  decide +kernel

end SexySelfies.Contact
