import SexySelfies.MemberPurchases

/-!
# What members can change of themselves

Five handlers of `member.controller.js` write the member's document on the member's own request.
None of them should touch the credits, the purchases or the owning user. But `updateMemberProfile`
passes the request body to `findByIdAndUpdate`, which sets every declared path of it.
-/

namespace SexySelfies.Members

open Js Platform

open Wallet (isBalance nullError)

open Purchases (Purchase)

structure Member where
  user : Nat
  credits : Option Number
  purchasedContent : List Purchase
  likes : List (Option Nat)
  passes : List (Option Nat)
  preferences : List (String × Value)
  profileComplete : Option Bool
  other : List (String × Value)

def otherPaths : List String :=
  ["_id", "__v", "username", "location", "lastActive", "displayName", "birthDate", "phone",
   "gender", "agreeToTerms", "marketingOptIn", "updatedAt"]

structure Connection where
  member : Nat
  creator : Nat
  memberLiked : Bool
  creatorLiked : Bool

structure Db where
  members : List Member
  creators : Nat
  connections : List Connection

/-! ## Updates -/

/-- The casts of the schema with the validators of the path; `none` is a
refused value. -/
structure Casts where
  objectId : Value → Option Nat
  purchases : Value → Option (List Purchase)
  creators : Value → Option (List (Option Nat))
  preferences : Value → Option (List (String × Value))
  boolean : Value → Option (Option Bool)
  other : String → Value → Option Value

/-- `credits: { type: Number, min: 0 }`; the validator passes `null`. -/
def castCredits (v : Value) : Option (Option Number) :=
  (castNumber v).filter fun n => n.all isBalance

def setPath {α : Type} (body : List (String × Value)) (name : String)
    (cast : Value → Option α) (old : α) : Option α :=
  match body.lookup name with
  | none => some old
  | some v => cast v

variable (casts : Casts)

/-- `findByIdAndUpdate(member._id, body, { runValidators: true })`. -/
def Member.set (body : List (String × Value)) (m : Member) : Option Member := do
  let user ← setPath body "user" casts.objectId m.user
  let credits ← setPath body "credits" castCredits m.credits
  let purchasedContent ← setPath body "purchasedContent" casts.purchases m.purchasedContent
  let likes ← setPath body "likes" casts.creators m.likes
  let passes ← setPath body "passes" casts.creators m.passes
  let preferences ← setPath body "preferences" casts.preferences m.preferences
  let profileComplete ← setPath body "profileComplete" casts.boolean m.profileComplete
  let other ← (strict otherPaths body).mapM fun f => (casts.other f.1 f.2).map ((f.1, ·))
  return { user, credits, purchasedContent, likes, passes, preferences, profileComplete,
           other := other ++ m.other }

/-! ## The handlers -/

structure Saves where
  member : Bool
  connection : Bool
  activity : Bool

def Db.member? (db : Db) (user : Nat) : Option (Nat × Member) :=
  Collection.findOne (fun m => m.user = user) db.members

def Db.save (db : Db) (id : Nat) (m : Member) : Db := { db with members := db.members.set id m }

/-- An array is no update: the sanitizer has removed its operators. -/
def Value.update? : Value → Option (List (String × Value))
  | .obj fields => some fields
  | .arr _ => none
  | _ => some []

variable (user : Nat)

def updateMemberProfile (body : Value) (accepted : Bool) (db : Db) :
    Db × Response Unit :=
  match db.member? user with
  | none => (db, .failure 404 "Member profile not found")
  | some (id, member) =>
    match (Value.update? body).bind (member.set casts) with
    | none => (db, .failure 500 "Validation failed")
    | some updated =>
      if accepted then (db.save id updated, .success 200 "" none)
      else (db, .failure 500 "E11000 duplicate key error")

/-- `{ ...member.preferences, ...req.body }`: what the body has comes first. -/
def updatePreferences (body : Value) (accepted : Bool) (db : Db) :
    Db × Response Unit :=
  match db.member? user with
  | none => (db, .failure 500 (nullError "preferences"))
  | some (id, member) =>
    match casts.preferences (.obj ((Value.update? body).getD [] ++ member.preferences)) with
    | none => (db, .failure 500 "Member validation failed: preferences")
    | some preferences =>
      if accepted then (db.save id { member with preferences }, .success 200 "" none)
      else (db, .failure 500 "Member validation failed")

def completeProfile (db : Db) : Db × Response Unit :=
  match db.member? user with
  | none => (db, .failure 404 "Member profile not found")
  | some (id, member) =>
    (db.save id { member with profileComplete := some true },
      .success 200 "Profile setup completed successfully!" none)

/-- `member.likes.some(l => l.creator.toString() === id)`; a like without a
creator before the first match throws. -/
def alreadyLiked (creatorId : Nat) : List (Option Nat) → Option Bool
  | [] => some false
  | none :: _ => none
  | some c :: likes => if c = creatorId then some true else alreadyLiked creatorId likes

def connect (saves : Saves) (memberId creatorId : Nat) (db : Db) : Db × Response Unit :=
  if saves.connection then
    let connections :=
      match Collection.findOne (fun c => c.member = memberId ∧ c.creator = creatorId)
          db.connections with
      | none => db.connections ++ [⟨memberId, creatorId, true, false⟩]
      | some (n, _) => db.connections.modify n fun c => { c with memberLiked := true }
    ({ db with connections },
      if saves.activity then .success 200 "" none else .failure 500 "Activity not recorded")
  else (db, .failure 500 "CreatorConnection validation failed")

def likeCreator (creatorId : Ref) (saves : Saves) (db : Db) : Db × Response Unit :=
  match creatorId with
  | .malformed => (db, .failure 500 (castError "Creator"))
  | .absent => (db, .failure 404 "Creator not found")
  | .id creatorId =>
    if db.creators ≤ creatorId then (db, .failure 404 "Creator not found")
    else
      match db.member? user with
      | none => (db, .failure 500 (nullError "likes"))
      | some (id, member) =>
        match alreadyLiked creatorId member.likes with
        | none => (db, .failure 500 "Cannot read properties of undefined (reading 'toString')")
        | some true => (db, .failure 400 "Already liked this creator")
        | some false =>
          if saves.member then
            connect saves id creatorId
              (db.save id { member with likes := member.likes ++ [some creatorId] })
          else (db, .failure 500 "Member validation failed")

def passCreator (creatorId : Ref) (saves : Saves) (db : Db) : Db × Response Unit :=
  match db.member? user with
  | none => (db, .failure 500 (nullError "passes"))
  | some (id, member) =>
    match creatorId.stored with
    | none => (db, .failure 500 "Member validation failed: passes")
    | some creator =>
      if saves.member then
        (db.save id { member with passes := member.passes ++ [creator] },
          if saves.activity then .success 200 "Creator passed" none
          else .failure 500 "Activity not recorded")
      else (db, .failure 500 "Member validation failed")

inductive Request where
  | updateProfile (body : Value) (accepted : Bool)
  | updatePreferences (body : Value) (accepted : Bool)
  | completeProfile
  | like (creatorId : Ref) (saves : Saves)
  | pass (creatorId : Ref) (saves : Saves)

def handle (db : Db) : Request → Db × Response Unit
  | .updateProfile body accepted => updateMemberProfile casts user body accepted db
  | .updatePreferences body accepted => Members.updatePreferences casts user body accepted db
  | .completeProfile => Members.completeProfile user db
  | .like creatorId saves => likeCreator user creatorId saves db
  | .pass creatorId saves => passCreator user creatorId saves db

def step (db : Db) (r : Request) : Db := (handle casts user db r).1

/-! ## What a request writes -/

def Member.owned (m : Member) : Nat × Option Number × List Purchase :=
  (m.user, m.credits, m.purchasedContent)

def Request.update? (m : Member) : Request → Option Member
  | .updateProfile body accepted =>
    if accepted then (Value.update? body).bind (m.set casts) else none
  | _ => none

/-- The request's update is stored, or what is owned stays. -/
structure Writes (casts : Casts) (r : Request) (id : Nat) (m m' : Member) (db db' : Db) : Prop where
  members : db'.members = db.members.set id m'
  updated : ∀ u ∈ r.update? casts m, m' = u
  kept : r.update? casts m = none → m'.owned = m.owned

variable {saves : Saves}

theorem members_connect (mi creatorId : Nat) (db : Db) :
    (connect saves mi creatorId db).1.members = db.members := by
  unfold connect
  split <;> rfl

variable {casts : Casts} {user id : Nat} {m : Member} {db : Db} {r : Request}

theorem Writes.refl (h : db.member? user = some (id, m)) (hr : r.update? casts m = none) :
    Writes casts r id m m db db := by
  obtain ⟨hlt, hget⟩ := List.getElem?_eq_some_iff.mp (Collection.findOne_some h).1
  refine ⟨?_, fun u hu => ?_, fun _ => rfl⟩
  · rw [← hget, List.set_getElem_self]
  · rw [hr] at hu
    cases hu

theorem Writes.save {m' : Member} (hr : r.update? casts m = none) (hown : m'.owned = m.owned) :
    Writes casts r id m m' db (db.save id m') := by
  refine ⟨rfl, fun u hu => ?_, fun _ => hown⟩
  rw [hr] at hu
  cases hu

variable {body : Value} {accepted : Bool}

theorem writes_updateMemberProfile (h : db.member? user = some (id, m)) :
    ∃ m', Writes casts (.updateProfile body accepted) id m m' db
      (updateMemberProfile casts user body accepted db).1 := by
  unfold updateMemberProfile
  simp only [h]
  cases hset : (Value.update? body).bind (m.set casts) with
  | none =>
    have hno : Request.update? casts m (.updateProfile body accepted) = none := by
      rw [Request.update?, hset, ite_self]
    exact ⟨m, Writes.refl h hno⟩
  | some u =>
    cases hacc : accepted with
    | false => exact ⟨m, Writes.refl h rfl⟩
    | true =>
      have hyes : Request.update? casts m (.updateProfile body true) = some u := by
        rw [Request.update?, hset, if_pos rfl]
      refine ⟨u, rfl, fun v hv => ?_, fun hno => ?_⟩
      · rw [hyes] at hv
        exact Option.some.inj hv
      · rw [hyes] at hno
        cases hno

theorem writes_updatePreferences (h : db.member? user = some (id, m)) :
    ∃ m', Writes casts (.updatePreferences body accepted) id m m' db
      (updatePreferences casts user body accepted db).1 := by
  unfold updatePreferences
  simp only [h]
  split
  · exact ⟨m, Writes.refl h rfl⟩
  · split
    · exact ⟨_, Writes.save rfl rfl⟩
    · exact ⟨m, Writes.refl h rfl⟩

variable {creatorId : Ref}

theorem writes_likeCreator (h : db.member? user = some (id, m)) :
    ∃ m', Writes casts (.like creatorId saves) id m m' db
      (likeCreator user creatorId saves db).1 := by
  unfold likeCreator
  cases creatorId with
  | malformed | absent => exact ⟨m, Writes.refl h rfl⟩
  | id creatorId =>
    simp only [h]
    split
    · exact ⟨m, Writes.refl h rfl⟩
    · split
      · exact ⟨m, Writes.refl h rfl⟩
      · exact ⟨m, Writes.refl h rfl⟩
      · split
        · have hs : Writes casts (.like (.id creatorId) saves) id m _ db
              (db.save id { m with likes := m.likes ++ [some creatorId] }) := Writes.save rfl rfl
          refine ⟨_, ?_, hs.updated, hs.kept⟩
          rw [members_connect]
          exact hs.members
        · exact ⟨m, Writes.refl h rfl⟩

theorem writes_passCreator (h : db.member? user = some (id, m)) :
    ∃ m', Writes casts (.pass creatorId saves) id m m' db
      (passCreator user creatorId saves db).1 := by
  unfold passCreator
  simp only [h]
  split
  · exact ⟨m, Writes.refl h rfl⟩
  · split
    · exact ⟨_, Writes.save rfl rfl⟩
    · exact ⟨m, Writes.refl h rfl⟩

theorem writes_step (h : db.member? user = some (id, m)) :
    ∃ m', Writes casts r id m m' db (step casts user db r) := by
  cases r with
  | updateProfile => exact writes_updateMemberProfile h
  | updatePreferences => exact writes_updatePreferences h
  | completeProfile =>
    rw [step, handle, completeProfile, h]
    exact ⟨_, Writes.save rfl rfl⟩
  | like => exact writes_likeCreator h
  | pass => exact writes_passCreator h

/-! ## What an update of the profile changes -/

/-- The body has no value for what is owned, or the stored one. -/
structure Keeps (casts : Casts) (body : List (String × Value)) (m : Member) : Prop where
  user : ∀ v ∈ body.lookup "user", casts.objectId v = some m.user
  credits : ∀ v ∈ body.lookup "credits", castCredits v = some m.credits
  purchasedContent :
    ∀ v ∈ body.lookup "purchasedContent", casts.purchases v = some m.purchasedContent

variable {body : List (String × Value)}

theorem setPath_eq_iff {α : Type} {name : String} {cast : Value → Option α} {old new : α}
    (h : setPath body name cast old = some new) :
    new = old ↔ ∀ v ∈ body.lookup name, cast v = some old := by
  rw [setPath] at h
  cases hlo : body.lookup name with
  | none =>
    rw [hlo] at h
    refine iff_of_true (Option.some.inj h).symm fun v hv => ?_
    cases hv
  | some v =>
    rw [hlo] at h
    simp only at h
    constructor
    · rintro rfl w hw
      cases hw
      exact h
    · intro hall
      exact Option.mem_unique h (hall v rfl)

variable {m' : Member}

theorem set_some (h : m.set casts body = some m') :
    setPath body "user" casts.objectId m.user = some m'.user
      ∧ setPath body "credits" castCredits m.credits = some m'.credits
      ∧ setPath body "purchasedContent" casts.purchases m.purchasedContent
        = some m'.purchasedContent := by
  simp only [Member.set, bind, pure, Option.bind_eq_some_iff, Option.some.injEq] at h
  obtain ⟨user, hu, credits, hcr, purchases, hpur, _, _, _, _, _, _, _, _, _, _, rfl⟩ := h
  exact ⟨hu, hcr, hpur⟩

theorem owned_set_iff (h : m.set casts body = some m') :
    m'.owned = m.owned ↔ Keeps casts body m := by
  obtain ⟨hu, hcr, hpur⟩ := set_some h
  rw [Member.owned, Member.owned, Prod.mk.injEq, Prod.mk.injEq, setPath_eq_iff hu,
    setPath_eq_iff hcr, setPath_eq_iff hpur]
  exact ⟨fun h => ⟨h.1, h.2.1, h.2.2⟩, fun h => ⟨h.user, h.credits, h.purchasedContent⟩⟩

/-- An update of the profile is refused, or its body keeps what is owned. -/
def Harmless (casts : Casts) (user : Nat) (db : Db) (r : Request) : Prop :=
  ∀ found ∈ db.member? user, ∀ body, r = .updateProfile body true →
    ∀ fields ∈ Value.update? body, (found.2.set casts fields).isSome = true →
      Keeps casts fields found.2

theorem update?_eq_some {u : Member} (h : r.update? casts m = some u) :
    ∃ body f, r = .updateProfile body true ∧ Value.update? body = some f
      ∧ m.set casts f = some u := by
  cases r with
  | updateProfile body accepted =>
    rw [Request.update?] at h
    split at h
    · rename_i hacc
      obtain ⟨f, hfl, hset⟩ := Option.bind_eq_some_iff.mp h
      exact ⟨body, f, by rw [hacc], hfl, hset⟩
    · cases h
  | _ => cases h

theorem owned_iff_harmless {db' : Db} (hf : db.member? user = some (id, m))
    (hwr : Writes casts r id m m' db db') : m'.owned = m.owned ↔ Harmless casts user db r := by
  cases hupd : r.update? casts m with
  | none =>
    refine iff_of_true (hwr.kept hupd) ?_
    rintro found hmem body rfl f hfl hset
    rw [hf] at hmem
    cases hmem
    rw [Request.update?, if_pos rfl, Option.mem_def.mp hfl, Option.bind_some] at hupd
    rw [hupd] at hset
    cases hset
  | some u =>
    obtain rfl := hwr.updated u hupd
    obtain ⟨body, f, rfl, hfl, hset⟩ := update?_eq_some hupd
    rw [owned_set_iff hset]
    constructor
    · rintro hkee found hmem body' hb f' hfl' -
      rw [hf] at hmem
      cases hmem
      obtain ⟨rfl, -⟩ := Request.updateProfile.inj hb
      obtain rfl := Option.mem_unique hfl hfl'
      exact hkee
    · intro h
      exact h (id, m) hf body rfl f hfl (by rw [hset]; rfl)

/-- The user's document is still the one with number `id`, with the credits and
the purchases of `m`. -/
def Untouched (user id : Nat) (m : Member) (db : Db) : Prop :=
  ∃ m', db.member? user = some (id, m') ∧ m'.credits = m.credits
    ∧ m'.purchasedContent = m.purchasedContent

theorem untouched_step_iff (db : Db) (r : Request) (h : Untouched user id m db) :
    Untouched user id m (step casts user db r) ↔ Harmless casts user db r := by
  obtain ⟨now, hf, hcr, hpur⟩ := h
  obtain ⟨m', hwr⟩ := writes_step hf
  have hus : now.user = user := of_decide_eq_true (Collection.findOne_some hf).2
  rw [← owned_iff_harmless hf hwr, Untouched, Db.member?, hwr.members,
    Member.owned, Member.owned, Prod.mk.injEq, Prod.mk.injEq, hcr, hpur, hus]
  constructor
  · rintro ⟨found, hset, hc, hp⟩
    obtain ⟨hmat, rfl⟩ := (Collection.findOne_set hf m' found).mp hset
    exact ⟨of_decide_eq_true hmat, hc, hp⟩
  · rintro ⟨hu, hc, hp⟩
    exact ⟨m', (Collection.findOne_set hf m' m').mpr ⟨decide_eq_true hu, rfl⟩, hc, hp⟩

/-- The credits, the purchases and the owner of the document stay exactly when every update of the
profile is refused or keeps them. -/
theorem untouched_iff (casts : Casts) (user id : Nat) (db : Db) (m : Member)
    (hfound : db.member? user = some (id, m)) (rs : List Request) :
    Runs.Always (step casts user) (Untouched user id m) db rs ↔
      Runs.Every (step casts user) (Harmless casts user) db rs :=
  Runs.always_iff_every untouched_step_iff ⟨m, hfound, rfl, rfl⟩

def sampleCasts : Casts :=
  { objectId := fun _ => none, purchases := fun _ => none, creators := fun _ => none,
    preferences := fun _ => some [], boolean := fun _ => none, other := fun _ v => some v }

def newMember : Member :=
  { user := 0, credits := some (.fin 0), purchasedContent := [], likes := [], passes := [],
    preferences := [], profileComplete := some false, other := [] }

def memberDb : Db := { members := [newMember], creators := 1, connections := [] }

def profile (name : String) (v : Value) : Request := .updateProfile (.obj [(name, v)]) true

theorem untouched_without_credits :
    Runs.Always (step sampleCasts 0) (Untouched 0 0 newMember) memberDb
      [profile "displayName" (.str "S"), .like (.id 0) ⟨true, true, true⟩, .completeProfile] := by
  refine (untouched_iff sampleCasts 0 0 memberDb newMember rfl _).mpr ⟨?_, ?_, ?_, trivial⟩
  · rintro found hmem body hb fields hfie -
    obtain ⟨rfl, -⟩ := Request.updateProfile.inj hb
    cases hfie
    refine ⟨fun v hv => ?_, fun v hv => ?_, fun v hv => ?_⟩
    · cases hv
    · cases hv
    · cases hv
  · intro found hmem body hb
    cases hb
  · intro found hmem body hb
    cases hb

theorem untouched_fails_on_credits :
    (step sampleCasts 0 memberDb (profile "credits" (.num (.fin 1000)))).members.map
        Member.credits = [some (.fin 1000)]
      ∧ ¬ Runs.Always (step sampleCasts 0) (Untouched 0 0 newMember) memberDb
        [profile "credits" (.num (.fin 1000))] := by
  refine ⟨by decide +kernel, fun h => ?_⟩
  have hhar := (untouched_step_iff memberDb _ h.1).mp h.2
  have hkee := hhar (0, newMember) rfl _ rfl _ rfl (by decide +kernel)
  have hcr := hkee.credits _ rfl
  revert hcr
  decide +kernel

end SexySelfies.Members
