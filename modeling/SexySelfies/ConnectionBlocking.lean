import SexySelfies.ConnectionSwipes

/-!
# Blocked connections

A block should be final for the other side, and a connection should be out of reach of everyone
else. The handlers check who deletes and who accepts a connection, but not who blocks it; and
neither a swipe nor a like looks at the status of what it finds.
-/

namespace SexySelfies.Connections

open Js Platform

/-! ## Strangers -/

/-- A request leaves every connection alone whose member and creator the user
is not. -/
def Confined (env : Env) (db : Db) (c : Call) : Prop :=
  ∀ id stored, db.find? id = some stored → ¬ Participant env c.user stored →
    (step env db c).find? id = some stored

/-- A block is a participant's, or changes nothing. -/
def OwnBlock (env : Env) (db : Db) (c : Call) : Prop :=
  ∀ id now, c.write env db = .block id now → ∀ stored, db.find? id = some stored →
    Participant env c.user stored ∨ stored.block now = stored

variable {db : Db}

theorem ownBlock_of_confined {env : Env} {c : Call} (h : Confined env db c) :
    OwnBlock env db c := by
  intro id now hw stored hf
  by_cases hown : Participant env c.user stored
  · exact .inl hown
  · have hs := h id stored hf hown
    rw [find?_step, hw, Write.run, find?_rewrite, if_pos rfl, hf] at hs
    exact .inr (Option.some.inj hs)

theorem confined_of_ownBlock {env : Env} {c : Call} (h : OwnBlock env db c) :
    Confined env db c := by
  intro id stored hf hstr
  have hchk := checked_write env db c
  rw [find?_step]
  cases hw : c.write env db with
  | keep => exact hf
  | swipe member creator | like member creator now =>
    rw [hw] at hchk
    refine find?_upsert_of_ne hf fun hp => hstr (.inl (.inl ?_))
    rwa [hp.1]
  | accept =>
    rw [hw] at hchk
    obtain ⟨accepted, hfd, hcr, -⟩ := hchk
    rw [Write.run, find?_rewrite]
    split
    · rename_i hid
      rw [hid, hfd] at hf
      cases hf
      exact absurd (.inr (.inr hcr)) hstr
    · exact hf
  | block j now =>
    rw [Write.run, find?_rewrite]
    split
    · rename_i hid
      subst hid
      rw [hf, Option.map_some]
      rcases h id now hw stored hf with hown | hs
      · exact absurd hown hstr
      · rw [hs]
    · exact hf
  | delete =>
    rw [hw] at hchk
    rwa [Write.run, find?_delete, if_neg fun hid => hstr (hchk id hid stored hf)]

theorem confined_iff_ownBlock (env : Env) (db : Db) (c : Call) :
    Confined env db c ↔ OwnBlock env db c := ⟨ownBlock_of_confined, confined_of_ownBlock⟩

/-! ## The pair -/

variable {env : Env} {member creator : Nat}

def Blocks (env : Env) (member creator : Nat) (db : Db) (c : Call) : Bool :=
  match c.write env db with
  | .block id _ => (db.find? id).any fun stored =>
    stored.member = member ∧ stored.creator = creator ∧ Participant env c.user stored
  | _ => false

/-- The pair has a connection that is pending or connected. -/
def Db.live (member creator : Nat) (db : Db) : Bool :=
  db.connections.any fun stored => stored.any fun c => c.member = member ∧ c.creator = creator
    ∧ (c.status = .pending ∨ c.status = .connected)

/-- The store, and the users whose block of the pair's connection stands: until the very user who
made it leaves the pair with a pending or connected one. -/
structure Watched where
  db : Db
  blockedBy : List Nat

def Watched.step (env : Env) (member creator : Nat) (s : Watched) (c : Call) : Watched where
  db := Connections.step env s.db c
  blockedBy :=
    if Blocks env member creator s.db c then c.user.id :: s.blockedBy
    else if (Connections.step env s.db c).live member creator then
      s.blockedBy.filter (· ≠ c.user.id)
    else s.blockedBy

/-- The pair has no pending or connected connection. -/
def Db.Quiet (member creator : Nat) (db : Db) : Prop :=
  ∀ id c, db.find? id = some c → c.member = member → c.creator = creator →
    c.status ≠ .pending ∧ c.status ≠ .connected

/-- While a block stands, the pair has no pending or connected connection. -/
def Final (member creator : Nat) (s : Watched) : Prop :=
  s.blockedBy ≠ [] → s.db.Quiet member creator

/-- The request stores a right swipe of the pair, or a like that inserts its
connection. -/
def Revives (env : Env) (member creator : Nat) (db : Db) (c : Call) : Prop :=
  c.write env db = .swipe member creator
    ∨ (∃ now, c.write env db = .like member creator now) ∧ db.pair? member creator = none

def NotRevived (env : Env) (member creator : Nat) (s : Watched) (c : Call) : Prop :=
  ∀ user ∈ s.blockedBy, user ≠ c.user.id → ¬ Revives env member creator s.db c

theorem live_iff : db.live member creator = true ↔ ¬ db.Quiet member creator := by
  constructor
  · intro h hq
    obtain ⟨stored, hs, hc⟩ := List.any_eq_true.mp h
    obtain ⟨c, rfl, hc⟩ := (Option.any_eq_true ..).mp hc
    obtain ⟨hmb, hcr, hst⟩ := of_decide_eq_true hc
    obtain ⟨id, hid⟩ := List.getElem?_of_mem hs
    have hf : db.find? id = some c := by rw [Db.find?, hid, Option.join_some]
    obtain ⟨hpe, hco⟩ := hq id c hf hmb hcr
    exact hst.elim hpe hco
  · intro h
    by_contra hno
    refine h fun id c hf hmb hcr => not_or.mp fun hst => hno ?_
    have hs : some c ∈ db.connections := List.mem_of_getElem? (Option.join_eq_some_iff.mp hf)
    exact List.any_eq_true.mpr ⟨_, hs, decide_eq_true ⟨hmb, hcr, hst⟩⟩

theorem block_quiet (now : ℤ) (c : Connection) :
    (c.block now).status ≠ .pending ∧ (c.block now).status ≠ .connected := by
  constructor
  · rintro ⟨⟩
  · rintro ⟨⟩

variable {c : Call}

theorem quiet_of_blocks (hun : db.Unique) (h : Blocks env member creator db c) :
    (step env db c).Quiet member creator ∧ ¬ Revives env member creator db c := by
  unfold Blocks at h
  split at h
  · rename_i id now hw
    obtain ⟨stored, hfi, hst⟩ := (Option.any_eq_true ..).mp h
    obtain ⟨hmb, hcr, -⟩ := of_decide_eq_true hst
    refine ⟨fun j found hf hm hc => ?_, ?_⟩
    · rw [find?_step, hw, Write.run, find?_rewrite] at hf
      split at hf
      · rw [hfi] at hf
        cases hf
        exact block_quiet now stored
      · rename_i hj
        exact absurd (hun j id found stored hf hfi (hm.trans hmb.symm) (hc.trans hcr.symm)) hj
    · unfold Revives
      rw [hw]
      rintro (hsw | ⟨⟨now', hli⟩, -⟩)
      · cases hsw
      · cases hli
  · cases h

theorem pending_of_revives (h : Revives env member creator db c) :
    ∃ id stored, (step env db c).find? id = some stored ∧ stored.member = member
      ∧ stored.creator = creator ∧ stored.status = .pending := by
  rcases h with hsw | ⟨⟨now, hli⟩, hn⟩
  · obtain ⟨id, stored, hf, hst⟩ := exists_upsert
    have hf' : (step env db c).find? id = some stored := by
      rwa [find?_step, hsw]
    rcases hst with ⟨c₀, -, hmb, hcr, rfl⟩ | ⟨-, rfl⟩
    · exact ⟨id, _, hf', hmb, hcr, rfl⟩
    · exact ⟨id, _, hf', rfl, rfl, rfl⟩
  · obtain ⟨id, stored, hf, hst⟩ := exists_upsert
    have hf' : (step env db c).find? id = some stored := by
      rwa [find?_step, hli]
    rcases hst with ⟨c₀, hfd, hmb, hcr, -⟩ | ⟨-, rfl⟩
    · exact absurd ⟨hmb, hcr⟩ (pair?_none hn hfd)
    · exact ⟨id, _, hf', rfl, rfl, rfl⟩

theorem quiet_step (hq : db.Quiet member creator) (hnot : ¬ Revives env member creator db c) :
    (step env db c).Quiet member creator := by
  have hchk := checked_write env db c
  intro id stored hf hmb hcr
  rw [find?_step] at hf
  cases hw : c.write env db with
  | keep =>
    rw [hw] at hf
    exact hq id stored hf hmb hcr
  | swipe m k =>
    rw [hw] at hf
    rcases find?_upsert hf with hold | ⟨c₀, -, hm, hk, rfl⟩ | ⟨-, rfl⟩
    · exact hq id stored hold hmb hcr
    · obtain rfl : m = member := hm.symm.trans hmb
      obtain rfl : k = creator := hk.symm.trans hcr
      exact absurd (.inl hw) hnot
    · obtain rfl : m = member := hmb
      obtain rfl : k = creator := hcr
      exact absurd (.inl hw) hnot
  | like m k now =>
    rw [hw] at hf
    rcases find?_upsert hf with hold | ⟨c₀, hfd, -, -, rfl⟩ | ⟨hn, rfl⟩
    · exact hq id stored hold hmb hcr
    · obtain ⟨hm, hk, hst⟩ := liked_pair c₀
      rw [hst]
      exact hq id c₀ hfd (hm.symm.trans hmb) (hk.symm.trans hcr)
    · obtain rfl : m = member := hmb
      obtain rfl : k = creator := hcr
      exact absurd (.inr ⟨⟨now, hw⟩, hn⟩) hnot
  | accept j now =>
    rw [hw] at hf hchk
    rw [Write.run, find?_rewrite] at hf
    split at hf
    · obtain ⟨pending, hfd, -, hp⟩ := hchk
      rw [hfd] at hf
      cases hf
      exact absurd hp (hq j pending hfd hmb hcr).1
    · exact hq id stored hf hmb hcr
  | block j now =>
    rw [hw, Write.run, find?_rewrite] at hf
    split at hf
    · obtain ⟨found, -, rfl⟩ := Option.map_eq_some_iff.mp hf
      exact block_quiet now found
    · exact hq id stored hf hmb hcr
  | delete =>
    rw [hw, Write.run, find?_delete, Option.ite_none_left_eq_some] at hf
    exact hq id stored hf.2 hmb hcr

theorem quiet_step_iff (hq : db.Quiet member creator) (c : Call) :
    (step env db c).Quiet member creator ↔ ¬ Revives env member creator db c := by
  refine ⟨fun hq' hre => ?_, quiet_step hq⟩
  obtain ⟨id, stored, hf, hmb, hcr, hp⟩ := pending_of_revives hre
  exact (hq' id stored hf hmb hcr).1 hp

theorem final_step_iff {s : Watched} (hun : s.db.Unique) (hfin : Final member creator s)
    (c : Call) :
    Final member creator (s.step env member creator c) ↔ NotRevived env member creator s c := by
  cases hbl : Blocks env member creator s.db c with
  | true =>
    obtain ⟨hq, hnot⟩ := quiet_of_blocks hun hbl
    exact iff_of_true (fun _ => hq) fun _ _ _ => hnot
  | false =>
    rcases eq_or_ne s.blockedBy [] with hnil | hsome
    · refine iff_of_true (fun hst => absurd ?_ hst) fun user hu => ?_
      · simp [Watched.step, hbl, hnil]
      · rw [hnil] at hu
        cases hu
    · have hqui : (step env s.db c).Quiet member creator
          ↔ ¬ Revives env member creator s.db c := quiet_step_iff (hfin hsome) c
      by_cases hre : Revives env member creator s.db c
      · -- only the blocks of the user who revives it are lifted
        have hlive : (step env s.db c).live member creator = true :=
          live_iff.mpr fun hq => hqui.mp hq hre
        have hby : (s.step env member creator c).blockedBy
            = s.blockedBy.filter (· ≠ c.user.id) := by
          rw [Watched.step, hbl, if_neg Bool.false_ne_true, if_pos hlive]
        constructor
        · intro hf user hu hne
          refine absurd hre (hqui.mp (hf ?_))
          rw [hby]
          exact List.ne_nil_of_mem (List.mem_filter.mpr ⟨hu, decide_eq_true hne⟩)
        · intro hnot hst
          rw [hby] at hst
          obtain ⟨user, hu⟩ := List.exists_mem_of_ne_nil _ hst
          obtain ⟨hmem, hne⟩ := List.mem_filter.mp hu
          exact absurd hre (hnot user hmem (of_decide_eq_true hne))
      · exact iff_of_true (fun _ => hqui.mpr hre) fun _ _ _ => hre

/-! ## Sequences of requests -/

/-- In every sequence of requests, blocks are final for the other side and
connections out of reach of strangers exactly when no block is revived and no
stranger blocks. -/
theorem blocks_final_and_confined_iff (env : Env) (member creator : Nat) (db : Db)
    (hunique : db.Unique) (calls : List Call) :
    (Runs.Always (Watched.step env member creator) (Final member creator) ⟨db, []⟩ calls
        ∧ Runs.Every (step env) (Confined env) db calls)
      ↔ Runs.Every (Watched.step env member creator) (NotRevived env member creator) ⟨db, []⟩
          calls ∧ Runs.Every (step env) (OwnBlock env) db calls := by
  refine and_congr ?_ (Runs.every_congr (confined_iff_ownBlock env))
  refine Runs.always_iff_every_within (J := fun s : Watched => s.db.Unique)
    (fun s c h => unique_step env h c) (fun s c hu hf => final_step_iff hu hf c) hunique ?_
  exact fun hsta => absurd rfl hsta

/-- Whatever is requested, no pair ever has two connections. -/
theorem one_connection_per_pair (env : Env) (likes passes : Nat → List Nat)
    (messages : List Message) (calls : List Call) :
    Runs.Always (step env) Db.Unique (.noConnections likes passes messages) calls := by
  refine Runs.always_of_step (fun db call h => unique_step env h call) ?_
  intro i j a b ha
  cases ha

variable (r : Request)

def memberCall : Call := ⟨⟨0, .member⟩, r⟩

def creatorCall : Call := ⟨⟨1, .creator⟩, r⟩

def strangerCall : Call := ⟨⟨2, .member⟩, r⟩

def likeTwenty : Request := .swipeAction (.id 20) (.str "like") true true

theorem like_then_block :
    Runs.Always (Watched.step twoUsers 10 20) (Final 10 20) ⟨emptyDb, []⟩
        [memberCall likeTwenty, creatorCall (.blockCreatorConnection (.id 0) 5 true)]
      ∧ Runs.Every (step twoUsers) (Confined twoUsers) emptyDb
        [memberCall likeTwenty, creatorCall (.blockCreatorConnection (.id 0) 5 true)] := by
  have hlike : (memberCall likeTwenty).write twoUsers emptyDb = .swipe 10 20 := by decide +kernel
  have hblo : (creatorCall (.blockCreatorConnection (.id 0) 5 true)).write twoUsers
      (step twoUsers emptyDb (memberCall likeTwenty)) = .block 0 5 := rfl
  refine (blocks_final_and_confined_iff twoUsers 10 20 emptyDb unique_emptyDb
    [memberCall likeTwenty, creatorCall (.blockCreatorConnection (.id 0) 5 true)]).mpr
    ⟨⟨?_, ?_, trivial⟩, ?_, ?_, trivial⟩
  · exact fun user hu => absurd hu List.not_mem_nil
  · intro _ _ _ hrev
    rcases hrev with hsw | ⟨⟨now, hnew⟩, -⟩
    · cases hblo.symm.trans hsw
    · cases hblo.symm.trans hnew
  · intro id now hw
    cases hlike.symm.trans hw
  · intro id now hw stored hf
    cases hblo.symm.trans hw
    left
    cases hf
    exact .inr (.inr rfl)

/-- The creator blocks the connection; the member deletes it and swipes again,
and it is pending. A stranger blocks the new one. -/
theorem blocked_connection_revived : let calls : List Call :=
      [memberCall likeTwenty, creatorCall (.blockCreatorConnection (.id 0) 5 true),
       memberCall (.unmatch (.id 0) true), memberCall likeTwenty,
       strangerCall (.blockCreatorConnection (.id 1) 6 true)]
    (Runs.states (Watched.step twoUsers 10 20) ⟨emptyDb, []⟩ calls).map
        (fun s => (s.blockedBy, s.db.connections.map fun o => o.map (·.status)))
      = [([], []), ([], [some .pending]), ([1], [some .blocked]), ([1], [none]),
         ([1], [none, some .pending]), ([1], [none, some .blocked])]
      ∧ ¬ Runs.Always (Watched.step twoUsers 10 20) (Final 10 20) ⟨emptyDb, []⟩ calls
      ∧ ¬ Runs.Every (step twoUsers) (Confined twoUsers) emptyDb calls := by
  refine ⟨by decide +kernel, fun h => ?_, fun h => ?_⟩
  · have hq := h.2.2.2.2.1 (by decide +kernel) 1 _ rfl rfl rfl
    exact hq.1 rfl
  · have hs := h.2.2.2.2.1 1 _ rfl (by decide +kernel)
    revert hs
    decide +kernel

end SexySelfies.Connections
