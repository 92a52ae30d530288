import SexySelfies.ContactModel
import SexySelfies.Runs

/-!
# Blocks that reach nobody

A member who has blocked a creator should hear nothing more from them. But the requests of members
look for their record by a value that is never there (`memberIdOf_eq`), so all of them write to one
record that belongs to no member, while what a creator sends is decided by the records that do.
-/

namespace SexySelfies.Contact

open Js Platform Runs List

structure World where
  db : Db
  blocks : List (Nat × Nat)

/-- `member` is who makes the request. The four kinds of contact with one
member go through the same two middlewares. -/
inductive Event where
  | block (member : Nat) (user : Moderation.User) (creatorId : Ref)
  | unblock (member : Nat) (user : Moderation.User) (creatorId : Ref)
  | contact (creator : Nat) (memberId : Ref) (tiers : Record → Tier)
  | bulkMessage (creator : Nat) (r : BulkRequest) (tiers : Record → Tier)
  | bulkOffer (creator : Nat) (details : Bool) (r : BulkRequest)

def retier (tiers : Record → Tier) (r : Record) : Record := { r with tier := tiers r }

def pairOf (member : Nat) : Ref → Response Nat → Option (Nat × Nat)
  | .id creator, .success _ _ _ => some (member, creator)
  | _, _ => none

def step (objectId : Value → Ref) (w : World) : Event → World
  | .block member user creatorId =>
    let (db, answer) := block (memberIdOf objectId user) creatorId w.db
    ⟨db, (pairOf member creatorId answer).toList ++ w.blocks⟩
  | .unblock member user creatorId =>
    let (db, answer) := unblock (memberIdOf objectId user) creatorId w.db
    ⟨db, w.blocks.filter fun p => some p ≠ pairOf member creatorId answer⟩
  | .contact creator memberId tiers =>
    match admits creator memberId w.db with
    | .next => { w with db := w.db.map (retier tiers) }
    | .refused _ _ => w
  | .bulkMessage _ _ tiers => { w with db := w.db.map (retier tiers) }
  | .bulkOffer _ _ _ => w

/-! ## The records of a member -/

def recordsOf (member : Nat) (db : Db) : List Record := db.filter (·.member = some member)

variable {member : Nat} {db : Db}

theorem find_eq : find member db = (recordsOf member db).head? := head?_filter.symm

theorem any_recordsOf (creator : Nat) :
    (db.any fun r => r.member = some member && creator ∈ r.blockedCreators)
      = (recordsOf member db).any fun r => creator ∈ r.blockedCreators := by
  rw [recordsOf, any_filter]

variable {db : Db} {member : Nat}

theorem recordsOf_eq_nil (h : member ∉ db.filterMap Record.member) : recordsOf member db = [] := by
  refine filter_eq_nil_iff.mpr fun r hr hmb => h ?_
  exact mem_filterMap.mpr ⟨r, hr, of_decide_eq_true hmb⟩

theorem recordsOf_of_mem {r : Record} (h : Distinct db) (hr : r ∈ db)
    (hmb : r.member = some member) : recordsOf member db = [r] := by
  induction db with
  | nil => cases hr
  | cons a rest ih =>
    rcases mem_cons.mp hr with rfl | hre
    · rw [Distinct, filterMap_cons_some hmb, nodup_cons] at h
      rw [recordsOf, filter_cons_of_pos (by simpa using hmb)]
      exact congrArg (r :: ·) (recordsOf_eq_nil h.1)
    · have hmem : member ∈ rest.filterMap Record.member := mem_filterMap.mpr ⟨r, hre, hmb⟩
      have ho : a.member ≠ some member := by
        intro ha
        rw [Distinct, filterMap_cons_some ha, nodup_cons] at h
        exact h.1 hmem
      rw [recordsOf, filter_cons_of_neg (by simpa using ho)]
      exact ih (h.sublist (sublist_cons_self a rest)) hre

theorem admits_congr {creator : Nat} {db' : Db} (h : recordsOf member db' = recordsOf member db) :
    admits creator (.id member) db' = admits creator (.id member) db := by
  simp only [admits, checkMemberOptIn, respectBlockList, find_eq, any_recordsOf, h]

theorem recordsOf_modify {i : Nat} {f : Record → Record} (hf : ∀ r, (f r).member = r.member)
    (hi : indexOf .absent db = some i) :
    recordsOf member (db.modify i f) = recordsOf member db := by
  obtain ⟨hlt, hn, -⟩ := findIdx?_eq_some_iff_getElem.mp hi
  have hmb : (db[i]).member = none := of_decide_eq_true hn
  refine Collection.filter_modify (getElem?_eq_getElem hlt) ?_ ?_
  · simp [hmb]
  · simp [hf, hmb]

variable {creatorId : Ref}

theorem recordsOf_block :
    recordsOf member (block .absent creatorId db).1 = recordsOf member db := by
  cases creatorId with
  | absent | malformed => rfl
  | id =>
    rw [block]
    split
    · rename_i i hi
      exact recordsOf_modify (fun _ => rfl) hi
    · rw [recordsOf, filter_append, filter_cons_of_neg (by
        simp [addToSet, newRecord, memberOf])]
      exact append_nil _
    · exact fun h => by cases h

theorem recordsOf_unblock :
    recordsOf member (unblock .absent creatorId db).1 = recordsOf member db := by
  cases creatorId with
  | absent | malformed => rfl
  | id =>
    rw [unblock]
    split
    · rename_i i hi
      exact recordsOf_modify (fun _ => rfl) hi
    · rfl

/-! ## Whether a block is respected -/

/-- The same creators are admitted to the member, and every query finds the
same of their records. -/
def Unaffected (member : Nat) (db db' : Db) : Prop :=
  (∀ creator, admits creator (.id member) db' = admits creator (.id member) db)
    ∧ ∀ q : Record → Bool, (recordsOf member db').filter q = (recordsOf member db).filter q

variable (objectId : Value → Ref)

/-- While member `m` has blocked creator `c`, no contact of `c` with `m` is
admitted and no bulk request of `c` reaches `m`; and a request of `m` changes
neither whom another member's creators are nor what a query finds of them. -/
def Respects (m c : Nat) (w : World) : Event → Prop
  | .block member user creatorId =>
    member = m → ∀ other, other ≠ m →
      Unaffected other w.db (step objectId w (.block member user creatorId)).db
  | .unblock member user creatorId =>
    member = m → ∀ other, other ≠ m →
      Unaffected other w.db (step objectId w (.unblock member user creatorId)).db
  | .contact creator memberId _ =>
    creator = c → memberId = .id m → (m, c) ∈ w.blocks → admits creator memberId w.db ≠ .next
  | .bulkMessage creator r _ =>
    creator = c → (m, c) ∈ w.blocks → m ∉ (sendBulkMessage creator r w.db).1
  | .bulkOffer creator details r =>
    creator = c → (m, c) ∈ w.blocks → m ∉ (sendBulkOffer details creator r w.db).1

/-- The member cannot be found by the creator. -/
def Closed (m c : Nat) (db : Db) : Prop :=
  ∀ r ∈ db, r.member = some m → r.discoverable = some false ∨ c ∈ r.blockedCreators

section

variable {objectId} {m c : Nat} {w : World}

theorem closed_iff : Closed m c db
    ↔ ∀ r ∈ recordsOf m db, r.discoverable = some false ∨ c ∈ r.blockedCreators := by
  simp [Closed, recordsOf]

theorem Closed.of_recordsOf {db' : Db} (h : Closed m c db)
    (heq : recordsOf m db' = recordsOf m db) : Closed m c db' := by
  rw [closed_iff, heq]
  exact closed_iff.mp h

theorem Closed.retier (h : Closed m c db) (tiers : Record → Tier) :
    Closed m c (db.map (retier tiers)) := by
  intro r hr hmb
  obtain ⟨r', hr', rfl⟩ := mem_map.mp hr
  exact h r' hr' hmb

theorem Closed.step (h : Closed m c w.db) (e : Event) : Closed m c (step objectId w e).db := by
  cases e with
  | block =>
    refine h.of_recordsOf ?_
    simp only [Contact.step, memberIdOf_eq]
    exact recordsOf_block
  | unblock =>
    refine h.of_recordsOf ?_
    simp only [Contact.step, memberIdOf_eq]
    exact recordsOf_unblock
  | contact creator mi tiers =>
    rw [Contact.step]
    split
    · exact h.retier tiers
    · exact h
  | bulkMessage creator r tiers => exact h.retier tiers
  | bulkOffer => exact h

theorem not_admits_of_closed (h : Closed m c db) : admits c (.id m) db ≠ .next := by
  unfold admits checkMemberOptIn
  dsimp only
  cases hf : find m db with
  | none => exact Verdict.noConfusion
  | some r =>
    have hmem : r ∈ db := mem_of_find?_eq_some hf
    have hmb : r.member = some m := by simpa using find?_some hf
    rcases h r hmem hmb with hhid | hblk
    · simp [hhid]
    · by_cases hdi : r.discoverable.getD true = true
      · simp [hdi, hblk]
      · simp [hdi]

theorem not_reached_of_closed (h : Closed m c db) (r : BulkRequest) :
    m ∉ (sendBulkMessage c r db).1 := by
  intro hmem
  obtain ⟨a, ha, hmb, hdi, hblk, -⟩ := mem_sendBulkMessage hmem
  rcases h a ha hmb with hhid | hl
  · exact absurd (hdi.symm.trans hhid) (by decide)
  · exact hblk hl

theorem unaffected_of_recordsOf {db' : Db} (h : recordsOf m db' = recordsOf m db) :
    Unaffected m db db' := ⟨fun _ => admits_congr h, fun q => by rw [h]⟩

theorem respects_of_closed (h : Closed m c w.db) (e : Event) : Respects objectId m c w e := by
  cases e with
  | block =>
    intro _ other _
    refine unaffected_of_recordsOf ?_
    simp only [step, memberIdOf_eq]
    exact recordsOf_block
  | unblock =>
    intro _ other _
    refine unaffected_of_recordsOf ?_
    simp only [step, memberIdOf_eq]
    exact recordsOf_unblock
  | contact =>
    rintro rfl rfl -
    exact not_admits_of_closed h
  | bulkMessage creator r tiers =>
    rintro rfl -
    exact not_reached_of_closed h r
  | bulkOffer creator details r =>
    intro _ _
    rw [(sendBulkOffer_none details).1]
    exact not_mem_nil

theorem every_of_closed (h : Closed m c w.db) (events : List Event) :
    Every (step objectId) (Respects objectId m c) w events :=
  every_imp_under (I := fun w => Closed m c w.db) (fun _ e hw => hw.step e)
    (fun _ e hw _ => respects_of_closed hw e) h (every_of_forall fun _ _ => trivial)

theorem admits_of_recordsOf {r : Record} (hre : recordsOf m db = [r])
    (hdi : r.discoverable ≠ some false) (hblk : c ∉ r.blockedCreators) :
    admits c (.id m) db = .next := by
  have hsho : r.discoverable.getD true := by
    rcases hfl : r.discoverable with _ | _ | _
    · rfl
    · exact absurd hfl hdi
    · rfl
  have hopt : checkMemberOptIn c (.id m) db = .next := by
    simp [checkMemberOptIn, find_eq, hre, hsho, hblk]
  have hl : respectBlockList c (.id m) db = .next := by
    simp [respectBlockList, any_recordsOf, hre, hblk]
  rwa [admits, hopt]

theorem block_isSuccess (creator : Nat) : (block .absent (.id creator) db).2.isSuccess := by
  rw [block]
  · split <;> rfl
  · exact fun h => by cases h

theorem pairOf_of_isSuccess {creator : Nat} {answer : Response Nat}
    (h : answer.isSuccess) : pairOf m (.id creator) answer = some (m, creator) := by
  cases answer with
  | failure => cases h
  | success => rfl

end

theorem step_block (m c : Nat) (w : World) (user : Moderation.User) :
    (m, c) ∈ (step objectId w (.block m user (.id c))).blocks
      ∧ recordsOf m (step objectId w (.block m user (.id c))).db = recordsOf m w.db := by
  simp only [step, memberIdOf_eq]
  constructor
  · rw [pairOf_of_isSuccess (block_isSuccess c)]
    exact mem_cons_self
  · exact recordsOf_block

theorem declared_nil : ∀ f ∈ ([] : List (String × Value)), f.1 ∈ Moderation.userPaths := nofun

def blocker : Moderation.User := ⟨.member, [], declared_nil⟩

/-- The blocks of a member on a creator are respected in every run if and only
if the stored record of the member keeps the creator away from the start. -/
theorem blocks_respected_iff (db : Db) (hunique : Distinct db) (m c : Nat) :
    (∀ events, Every (step objectId) (Respects objectId m c) ⟨db, []⟩ events)
      ↔ ∀ r ∈ db, r.member = some m → r.discoverable = some false ∨ c ∈ r.blockedCreators := by
  constructor
  · intro h r hr hmem
    by_contra ho
    obtain ⟨hdis, hblo⟩ := not_or.mp ho
    obtain ⟨hbloc, hrec⟩ := step_block objectId m c ⟨db, []⟩ blocker
    rw [recordsOf_of_mem hunique hr hmem] at hrec
    obtain ⟨-, hcon, -⟩ := h [.block m blocker (.id c), .contact c (.id m) Record.tier]
    exact hcon rfl rfl hbloc (admits_of_recordsOf hrec hdis hblo)
  · intro h events
    have hclo : Closed m c (World.mk db []).db := h
    exact every_of_closed hclo events

def hidden : Record := { newRecord (some 7) with discoverable := some false }

theorem blocks_respected_of_hidden : Distinct [hidden]
    ∧ ∀ events, Every (step fun _ => .absent) (Respects (fun _ => .absent) 7 3) ⟨[hidden], []⟩
      events := by
  have huni : Distinct [hidden] := nodup_singleton 7
  refine ⟨huni, (blocks_respected_iff (fun _ => .absent) [hidden] huni 7 3).mpr ?_⟩
  intro r hr _
  rw [mem_singleton.mp hr]
  exact .inl rfl

def toEveryone : BulkRequest :=
  ⟨.str "hello", .all, .undefined, ⟨id, List.Perm.refl⟩, fun _ => true⟩

/-- Member 7 blocks creator 3, who is told so; the list grows on a record of
nobody, and the creator is admitted and reaches the member. -/
theorem contact_after_block :
    let w := step (fun _ => .absent) ⟨[newRecord (some 7)], []⟩ (.block 7 blocker (.id 3))
    w.blocks = [(7, 3)] ∧ w.db = [newRecord (some 7), addToSet 3 (newRecord none)]
      ∧ admits 3 (.id 7) w.db = .next
      ∧ (sendBulkMessage 3 toEveryone w.db).1 = [7]
      ∧ ¬ Respects (fun _ => .absent) 7 3 w (.contact 3 (.id 7) Record.tier)
      ∧ ¬ Respects (fun _ => .absent) 7 3 w (.bulkMessage 3 toEveryone Record.tier) := by
  refine ⟨by decide, by decide, by decide, by decide, fun h => ?_, fun h => ?_⟩
  · exact h rfl rfl (by decide) (by decide)
  · exact h rfl (by decide) (by decide)

end SexySelfies.Contact
