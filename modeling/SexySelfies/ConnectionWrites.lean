import SexySelfies.ConnectionModel

/-!
# What a request writes

Every request of the handlers in `ConnectionModel` does one of six things to the connections. Which
one is a function of the request and of the store before it (`Call.write`); later files reason about
writes and do not unfold the handlers.
-/

namespace SexySelfies.Connections

open Js Platform

/-- `memberLiked` is set; a connection that the creator has liked gets its date,
but no other status. -/
def Connection.liked (now : ℤ) (c : Connection) : Connection :=
  if c.creatorLiked then { c with memberLiked := true, connectedAt := some now }
  else { c with memberLiked := true }

def Db.like (db : Db) (member creator : Nat) (now : ℤ) : Db :=
  db.upsert member creator (Connection.liked now) { member, creator, memberLiked := true }

def Db.rewrite (db : Db) (id : Nat) (f : Connection → Connection) : Db :=
  match db.find? id with
  | some c => db.put id (f c)
  | none => db

inductive Write where
  | keep
  | swipe (member creator : Nat)
  | like (member creator : Nat) (now : ℤ)
  | accept (id : Nat) (now : ℤ)
  | block (id : Nat) (now : ℤ)
  | delete (ids : List Nat)
deriving DecidableEq

def Write.run (db : Db) : Write → Db
  | .keep => db
  | .swipe member creator => db.swipe member creator
  | .like member creator now => db.like member creator now
  | .accept id now => db.rewrite id (Connection.accepted now)
  | .block id now => db.rewrite id (Connection.block now)
  | .delete ids => db.delete ids

/-! ## The write of each request -/

variable (env : Env) (db : Db)

def swipeWrite (user : User) (creatorId : Ref) (action : Value)
    (saved : Bool) : Write :=
  match env.memberOf user.id, creatorId, Swipe.ofValue (swipeDirection action) with
  | some member, .id creator, some swipe =>
    if user.role = .member ∧ db.hasSwiped member creator = false ∧ saved = true
        ∧ swipe ≠ .left then .swipe member creator
    else .keep
  | _, _, _ => .keep

def likeWrite (user : User) (creatorId : Ref) (now : ℤ)
    (saves : LikeSaves) : Write :=
  match env.memberOf user.id, creatorId with
  | some member, .id creator =>
    if env.isCreator creator = true ∧ creator ∉ db.likes member ∧ saves.member = true
        ∧ saves.connection = true
        ∧ (db.pair? member creator).all (fun x => !x.2.creatorLiked || saves.creator) = true
    then .like member creator now
    else .keep
  | _, _ => .keep

def acceptWrite (user : User) (connectionId : Ref) (now : ℤ)
    (saved : Bool) : Write :=
  match connectionId with
  | .id id =>
    if user.role = .creator ∧ saved = true ∧ (db.find? id).any (fun c =>
        env.creatorOf user.id = some c.creator ∧ c.status = .pending) = true
    then .accept id now
    else .keep
  | _ => .keep

def blockWrite (connectionId : Ref) (now : ℤ) (saved : Bool) : Write :=
  match connectionId with
  | .id id => if saved then .block id now else .keep
  | _ => .keep

def Env.ownsAll (user : User) (ids : List Nat) : Bool :=
  (env.userProfile user).any fun userProfileId =>
    ids.all fun id => (db.find? id).all fun c => c.isOf userProfileId

def unmatchWrite (user : User) (connectionId : Ref) (deleted : Bool) :
    Write :=
  match connectionId with
  | .id id =>
    if (db.find? id).isSome = true ∧ env.ownsAll db user [id] = true ∧ deleted = true then
      .delete [id]
    else .keep
  | _ => .keep

def bulkWrite (user : User) (connectionIds : Option (List Ref))
    (action : Value) (written : Bool) : Write :=
  match connectionIds.bind refIds with
  | some ids =>
    if isText "delete" action = true ∧ env.ownsAll db user ids = true ∧ written = true then
      .delete ids
    else .keep
  | none => .keep

def Call.write (c : Call) : Write :=
  match c.request with
  | .likeCreator creatorId now saves => likeWrite env db c.user creatorId now saves
  | .swipeAction creatorId action saved _ => swipeWrite env db c.user creatorId action saved
  | .acceptCreatorConnection connectionId now _ saved =>
    acceptWrite env db c.user connectionId now saved
  | .declineCreatorConnection .. => .keep
  | .blockCreatorConnection connectionId now saved => blockWrite connectionId now saved
  | .unmatch connectionId deleted => unmatchWrite env db c.user connectionId deleted
  | .bulkCreatorConnectionAction connectionIds action written =>
    bulkWrite env db c.user connectionIds action written
  | .sendMessage .. => .keep

/-! ## That is all it writes -/

variable {env : Env} {user : User} {db : Db} {creatorId : Ref} {action : Value} {saved : Bool}

theorem connections_swipeAction (m : Bool) :
    (swipeAction env user creatorId action saved m db).1.connections
      = ((swipeWrite env db user creatorId action saved).run db).connections := by
  unfold swipeAction swipeWrite
  by_cases hr : user.role = .member
  · rw [if_neg (not_not.mpr hr)]
    cases env.memberOf user.id with
    | none => rfl
    | some member =>
      dsimp only
      cases creatorId with
      | malformed | absent =>
        unfold processSwipe
        cases Swipe.ofValue (swipeDirection action) <;> rfl
      | id creator =>
        rw [processSwipe_id]
        cases Swipe.ofValue (swipeDirection action) with
        | none => rfl
        | some swipe =>
          dsimp only
          cases hsw : db.hasSwiped member creator with
          | true => simp [Write.run]
          | false =>
            by_cases hst : saved = true ∧ swipe ≠ .left
            · rw [if_neg Bool.false_ne_true, if_pos hst, if_pos ⟨hr, rfl, hst⟩]
              cases m with
              | false => rfl
              | true =>
                cases isText "right" (swipeDirection action) with
                | true => rfl
                | false => cases isText "left" (swipeDirection action) <;> rfl
            · rw [if_neg Bool.false_ne_true, if_neg hst, if_neg fun h => hst h.2.2]
              rfl
  · rw [if_pos hr]
    split
    · rw [if_neg fun h => hr h.1]
      rfl
    · rfl

variable {now : ℤ}

theorem save_like (c : Connection) :
    (c.like now).save saved = if saved then some (c.liked now) else none := by
  unfold Connection.like Connection.liked
  split
  · exact save_load
  · exact save_load

variable {saves : LikeSaves} {member creator : Nat}

theorem connections_likeConnection : (likeConnection member creator now saves db).1.connections =
      if saves.connection
          ∧ (db.pair? member creator).all (fun x => !x.2.creatorLiked || saves.creator) = true then
        (db.like member creator now).connections else db.connections := by
  unfold likeConnection Db.like Db.upsert
  cases saves.connection with
  | false =>
    rcases db.pair? member creator with _ | ⟨id, c⟩
    · rfl
    · dsimp only
      rw [save_like]
      split <;> rfl
  | true =>
    rcases db.pair? member creator with _ | ⟨id, c⟩
    · rfl
    · dsimp only
      rw [save_like, Option.all_some]
      cases c.creatorLiked with
      | false => rfl
      | true => cases saves.creator <;> rfl

theorem connections_like (likes : Nat → List Nat) :
    ({ db with likes }.like member creator now).connections
      = (db.like member creator now).connections := by
  have hp : { db with likes }.pair? member creator = db.pair? member creator := rfl
  unfold Db.like Db.upsert
  rw [hp]
  split <;> rfl

theorem connections_likeCreator : (likeCreator env user creatorId now saves db).1.connections
      = ((likeWrite env db user creatorId now saves).run db).connections := by
  unfold likeCreator likeWrite
  cases creatorId with
  | malformed | absent => cases env.memberOf user.id <;> rfl
  | id creator =>
    dsimp only
    cases env.memberOf user.id with
    | none => split <;> rfl
    | some member =>
      dsimp only
      cases hcr : env.isCreator creator with
      | false => simp [Write.run]
      | true =>
        rw [Bool.not_true, if_neg Bool.false_ne_true]
        by_cases hlik : creator ∈ db.likes member
        · rw [if_pos hlik, if_neg fun h => h.2.1 hlik]
          rfl
        · rw [if_neg hlik]
          cases hmb : saves.member with
          | false => simp [Write.run]
          | true =>
            rw [Bool.not_true, if_neg Bool.false_ne_true, connections_likeConnection]
            by_cases hst : saves.connection = true ∧ (db.pair? member creator).all
                  (fun x => !x.2.creatorLiked || saves.creator) = true
            · refine (if_pos hst).trans ?_
              rw [if_pos ⟨rfl, hlik, rfl, hst⟩, connections_like]
              rfl
            · refine (if_neg hst).trans ?_
              rw [if_neg fun h => hst h.2.2.2]
              rfl

variable {connectionId : Ref} {notified : Bool}

theorem connections_acceptCreatorConnection :
    (acceptCreatorConnection env user connectionId now notified saved db).1.connections
      = ((acceptWrite env db user connectionId now saved).run db).connections := by
  unfold acceptCreatorConnection acceptWrite
  cases connectionId with
  | malformed | absent =>
    unfold handleConnectionResponse
    cases env.creatorOf user.id <;> split <;> rfl
  | id id =>
    dsimp only
    by_cases hacc : user.role = .creator ∧ saved = true ∧ (db.find? id).any (fun c =>
        decide (env.creatorOf user.id = some c.creator ∧ c.status = .pending)) = true
    · obtain ⟨hr, hs, hany⟩ := hacc
      cases hf : db.find? id with
      | none =>
        rw [hf] at hany
        cases hany
      | some =>
        rw [hf, Option.any_some, decide_eq_true_eq] at hany
        simp [handleConnectionResponse, hany.1, hany.2, hf, hr, hs, save_respond,
          Write.run, Db.rewrite]
    · rw [if_neg hacc]
      split
      · rfl
      · rename_i hr
        split
        · rfl
        · rename_i hok
          obtain ⟨j, c, hj, hf, hcr, hst, -, hs, -⟩ := handleConnectionResponse_ok hok
          cases hj
          refine absurd ⟨not_not.mp hr, hs, ?_⟩ hacc
          rw [hf, Option.any_some]
          exact decide_eq_true ⟨hcr, hst⟩

theorem connections_declineCreatorConnection :
    (declineCreatorConnection env user connectionId now notified saved db).1.connections
      = db.connections := by
  unfold declineCreatorConnection
  split
  · rfl
  · split
    · rfl
    · rename_i hok
      obtain ⟨_, _, -, -, -, -, hac, -⟩ := handleConnectionResponse_ok hok
      exact absurd hac (by decide)

theorem connections_blockCreatorConnection :
    (blockCreatorConnection connectionId now saved db).1.connections
      = ((blockWrite connectionId now saved).run db).connections := by
  unfold blockCreatorConnection blockWrite
  cases connectionId with
  | malformed | absent => rfl
  | id id =>
    dsimp only
    cases hf : db.find? id with
    | none | some c => cases saved <;> simp [Write.run, Db.rewrite, hf]

theorem connections_unmatch (deleted : Bool) :
    (unmatch env user connectionId deleted db).1.connections
      = ((unmatchWrite env db user connectionId deleted).run db).connections := by
  unfold unmatch unmatchWrite Env.ownsAll
  cases connectionId with
  | malformed | absent => rfl
  | id id =>
    dsimp only
    cases hf : db.find? id with
    | none => simp [Write.run]
    | some c =>
      cases env.userProfile user with
      | none => simp [Write.run]
      | some u =>
        cases hown : c.isOf u with
        | false => simp [hf, hown, Write.run]
        | true => cases deleted <;> simp [hf, hown, Write.run]

theorem isText_ne {text other : String} {v : Value} (hne : text ≠ other)
    (h : isText text v) : isText other v = false := by
  cases v with
  | str =>
    rw [isText, decide_eq_true_eq] at h
    rw [isText, h]
    exact decide_eq_false hne
  | undefined | null | bool b | num n | arr xs | obj f => rfl

theorem filter_unauthorized (ids : List Nat) (userProfileId : Nat) :
    (ids.filter fun id => (db.find? id).any fun c => !c.isOf userProfileId).isEmpty
      = ids.all fun id => (db.find? id).all fun c => c.isOf userProfileId := by
  rw [Bool.eq_iff_iff, List.isEmpty_iff, List.filter_eq_nil_iff, List.all_eq_true]
  refine forall₂_congr fun id _ => ?_
  cases db.find? id with
  | none | some c => simp

theorem connections_bulkCreatorConnectionAction (connectionIds : Option (List Ref))
    (written : Bool) :
    (bulkCreatorConnectionAction env user connectionIds action written db).1.connections
      = ((bulkWrite env db user connectionIds action written).run db).connections := by
  unfold bulkCreatorConnectionAction bulkWrite Env.ownsAll
  rcases connectionIds with _ | _ | ⟨ref, refs⟩
  · rfl
  · have he : (db.delete []).connections = db.connections := Collection.updateMany_nil ..
    dsimp only [Option.bind_some, refIds]
    simp only [List.mapM_nil, Option.pure_def, Option.map_some, List.filterMap_nil]
    split
    · exact he.symm
    · rfl
  · dsimp only [Option.bind_some]
    split
    · rename_i ho
      simp only [Bool.or_eq_true] at ho
      have hnot : isText "delete" action = false := by
        rcases ho with ((h | h) | h) | h
        · exact isText_ne (by decide) h
        · exact isText_ne (by decide) h
        · exact isText_ne (by decide) h
        · exact isText_ne (by decide) h
      rw [hnot]
      cases refIds (ref :: refs) with
      | none => rfl
      | some => cases written <;> rfl
    · cases isText "delete" action with
      | false => cases refIds (ref :: refs) <;> rfl
      | true =>
        cases env.userProfile user with
        | none => cases refIds (ref :: refs) <;> simp [Write.run]
        | some userProfileId =>
          cases refIds (ref :: refs) with
          | none => rfl
          | some ids =>
            dsimp only [Option.any_some]
            rw [filter_unauthorized]
            by_cases hown : (ids.all fun id =>
                (db.find? id).all fun c => c.isOf userProfileId) = true
            · simp only [hown]
              cases written <;> rfl
            · simp only [hown]
              rfl

theorem connections_sendMessage : (sendMessage user connectionId saved db).1 = db := by
  unfold sendMessage
  cases connectionId with
  | malformed | absent => rfl
  | id id =>
    dsimp only
    cases db.find? id <;> rfl

variable {c : Call}

theorem connections_step : (step env db c).connections = ((c.write env db).run db).connections := by
  unfold step Call.run Call.write
  cases c.request with
  | likeCreator => exact connections_likeCreator
  | swipeAction creatorId action saved m => exact connections_swipeAction m
  | acceptCreatorConnection => exact connections_acceptCreatorConnection
  | declineCreatorConnection => exact connections_declineCreatorConnection
  | blockCreatorConnection => exact connections_blockCreatorConnection
  | unmatch connectionId deleted => exact connections_unmatch deleted
  | bulkCreatorConnectionAction ci action written =>
    exact connections_bulkCreatorConnectionAction ci written
  | sendMessage => exact congrArg Db.connections connections_sendMessage

/-! ## Who writes -/

def Env.owns (env : Env) (user : User) (profile : Nat) : Prop :=
  env.memberOf user.id = some profile ∨ env.creatorOf user.id = some profile

/-- One of the user's profiles is a side of the connection. -/
def Participant (env : Env) (user : User) (c : Connection) : Prop :=
  env.owns user c.member ∨ env.owns user c.creator

instance (env : Env) (user : User) (profile : Nat) : Decidable (env.owns user profile) :=
  inferInstanceAs (Decidable (_ ∨ _))

instance (env : Env) (user : User) (c : Connection) : Decidable (Participant env user c) :=
  inferInstanceAs (Decidable (_ ∨ _))

/-- What the handlers make sure of before a write. A block is not checked. -/
def Write.Checked (env : Env) (db : Db) (user : User) : Write → Prop
  | .keep => True
  | .swipe member _ => env.memberOf user.id = some member
  | .like member _ _ => env.memberOf user.id = some member
  | .accept id _ => ∃ c, db.find? id = some c ∧ env.creatorOf user.id = some c.creator
      ∧ c.status = .pending
  | .block _ _ => True
  | .delete ids => ∀ id ∈ ids, ∀ c, db.find? id = some c → Participant env user c

theorem participant_of_ownsAll {ids : List Nat} (h : env.ownsAll db user ids) :
    (Write.delete ids).Checked env db user := by
  intro id hid c hf
  rw [Env.ownsAll, Option.any_eq_true] at h
  obtain ⟨profile, hpr, hall⟩ := h
  have how : env.owns user profile := by
    unfold Env.userProfile at hpr
    split at hpr
    · exact .inl hpr
    · exact .inr hpr
  have hof := List.all_eq_true.mp hall id hid
  rw [hf, Option.all_some, Connection.isOf, Bool.or_eq_true, decide_eq_true_eq,
    decide_eq_true_eq] at hof
  rcases hof with rfl | rfl
  · exact .inl how
  · exact .inr how

theorem checked_swipeWrite :
    (swipeWrite env db user creatorId action saved).Checked env db user := by
  unfold swipeWrite
  split
  · rename_i hmb _
    split
    · exact hmb
    · trivial
  · trivial

theorem checked_likeWrite : (likeWrite env db user creatorId now saves).Checked env db user := by
  unfold likeWrite
  split
  · rename_i hmb
    split
    · exact hmb
    · trivial
  · trivial

theorem checked_acceptWrite :
    (acceptWrite env db user connectionId now saved).Checked env db user := by
  unfold acceptWrite
  split
  · split
    · rename_i hacc
      obtain ⟨c, hf, hc⟩ := (Option.any_eq_true ..).mp hacc.2.2
      exact ⟨c, hf, of_decide_eq_true hc⟩
    · trivial
  · trivial

theorem checked_write (env : Env) (db : Db) (c : Call) :
    (c.write env db).Checked env db c.user := by
  unfold Call.write
  cases c.request with
  | likeCreator => exact checked_likeWrite
  | swipeAction => exact checked_swipeWrite
  | acceptCreatorConnection => exact checked_acceptWrite
  | declineCreatorConnection => trivial
  | blockCreatorConnection connectionId now saved =>
    cases connectionId with
    | malformed | absent => trivial
    | id => cases saved <;> trivial
  | unmatch =>
    dsimp only [unmatchWrite]
    split
    · split
      · rename_i hown
        exact participant_of_ownsAll hown.2.1
      · trivial
    · trivial
  | bulkCreatorConnectionAction =>
    dsimp only [bulkWrite]
    split
    · split
      · rename_i hown
        exact participant_of_ownsAll hown.2.1
      · trivial
    · trivial
  | sendMessage => trivial

/-! ## The connections after a write -/

variable {id : Nat}

theorem find?_step : (step env db c).find? id = ((c.write env db).run db).find? id :=
  by rw [Db.find?, Db.find?, connections_step]

theorem find?_rewrite (f : Connection → Connection) (j : Nat) :
    (db.rewrite id f).find? j = if j = id then (db.find? id).map f else db.find? j := by
  unfold Db.rewrite
  cases hf : db.find? id with
  | none =>
    by_cases hj : j = id
    · rwa [if_pos hj, hj]
    · rw [if_neg hj]
  | some => exact find?_put hf

theorem unique_rewrite (h : db.Unique) {f : Connection → Connection}
    (hmb : ∀ c, (f c).member = c.member) (hcr : ∀ c, (f c).creator = c.creator) :
    (db.rewrite id f).Unique := by
  unfold Db.rewrite
  cases hf : db.find? id with
  | none => exact h
  | some c => exact unique_put h hf (hmb c) (hcr c)

theorem liked_pair (c : Connection) :
    (c.liked now).member = c.member ∧ (c.liked now).creator = c.creator
      ∧ (c.liked now).status = c.status := by
  unfold Connection.liked
  split <;> exact ⟨rfl, rfl, rfl⟩

theorem unique_run (h : db.Unique) (write : Write) : (write.run db).Unique := by
  cases write with
  | keep => exact h
  | swipe => exact unique_upsert h (fun _ => ⟨rfl, rfl⟩) ⟨rfl, rfl⟩
  | like => exact unique_upsert h (fun c => ⟨(liked_pair c).1, (liked_pair c).2.1⟩) ⟨rfl, rfl⟩
  | accept id now | block id now => exact unique_rewrite h (fun _ => rfl) (fun _ => rfl)
  | delete ids => exact unique_delete h ids

theorem unique_step (env : Env) (h : db.Unique) (c : Call) : (step env db c).Unique := by
  intro i j a b ha hb
  rw [find?_step] at ha hb
  exact unique_run h (c.write env db) i j a b ha hb

theorem pair?_of_find? (h : db.Unique) {id : Nat} {c : Connection}
    (hf : db.find? id = some c) : db.pair? c.member c.creator = some (id, c) := by
  cases hp : db.pair? c.member c.creator with
  | none => exact absurd ⟨rfl, rfl⟩ (pair?_none hp hf)
  | some found =>
    obtain ⟨j, c'⟩ := found
    obtain ⟨hf', hmb, hcr⟩ := pair?_some hp
    obtain rfl : j = id := h j id c' c hf' hf hmb hcr
    rw [hf] at hf'
    cases hf'
    rfl

end SexySelfies.Connections
