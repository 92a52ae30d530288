import SexySelfies.Runs
import SexySelfies.ConnectionModel

/-!
# Connections are mutual

From an empty collection, whatever members and creators call of `processSwipe` and
`handleConnectionResponse`, a connection is `connected` only when its member has swiped right on its
creator and the creator has accepted afterwards.
-/

namespace SexySelfies.Connections

open Js Platform

inductive ServiceCall where
  | processSwipe (member : Nat) (creatorId : Ref) (direction : Value) (saved : Bool)
  | handleConnectionResponse (user : Nat) (connectionId : Ref) (action : String) (now : ℤ)
      (notified saved : Bool)

variable (env : Env)

def serviceStep (db : Db) : ServiceCall → Db
  | .processSwipe member creatorId direction saved =>
    match Connections.processSwipe member creatorId direction saved db with
    | .ok (db, _) => db
    | .error _ => db
  | .handleConnectionResponse user connectionId action now notified saved =>
    match Connections.handleConnectionResponse env user connectionId action now notified saved
        db with
    | .ok (db, _) => db
    | .error _ => db

def Wanted (c : Connection) : ServiceCall → Prop
  | .processSwipe member creatorId direction _ =>
    member = c.member ∧ creatorId = .id c.creator
      ∧ (Swipe.ofValue direction = some .right ∨ Swipe.ofValue direction = some .super)
  | .handleConnectionResponse .. => False

def Accepted (id : Nat) (c : Connection) : ServiceCall → Prop
  | .processSwipe .. => False
  | .handleConnectionResponse user connectionId action _ _ _ =>
    env.creatorOf user = some c.creator ∧ connectionId = .id id ∧ action = "accept"

/-- The member swiped, and later the creator accepted. -/
structure Mutual (env : Env) (calls : List ServiceCall) (id : Nat) (c : Connection) : Prop where
  calls : ∃ swipe accept, [swipe, accept].Sublist calls ∧ Wanted c swipe ∧ Accepted env id c accept
  memberSwiped : c.memberSwiped = some .right
  creatorSwiped : c.creatorSwiped = some .right
  memberLiked : c.memberLiked = true
  creatorLiked : c.creatorLiked = true
  creatorAccepted : c.creatorAccepted = true

structure Known (env : Env) (calls : List ServiceCall) (id : Nat) (c : Connection) : Prop where
  wanted : ∃ swipe ∈ calls, Wanted c swipe
  memberSwiped : c.memberSwiped = some .right
  memberLiked : c.memberLiked = true
  mutual_ : c.status = .connected → Mutual env calls id c

/-- Every connection goes back to a swipe of its member. -/
def Recorded (calls : List ServiceCall) (db : Db) : Prop :=
  ∀ id c, db.find? id = some c → Known env calls id c

variable {env : Env} {calls : List ServiceCall} {db : Db}

theorem Known.concat {id : Nat} {c : Connection} (h : Known env calls id c) (call : ServiceCall) :
    Known env (calls ++ [call]) id c where
  wanted := by
    obtain ⟨swipe, hsw, hwa⟩ := h.wanted
    exact ⟨swipe, List.mem_append_left [call] hsw, hwa⟩
  memberSwiped := h.memberSwiped
  memberLiked := h.memberLiked
  mutual_ hco := by
    have hmu := h.mutual_ hco
    obtain ⟨swipe, accept, hsub, hbo⟩ := hmu.calls
    exact { hmu with
      calls := ⟨swipe, accept, hsub.trans (List.sublist_append_left calls [call]), hbo⟩ }

theorem recorded_swipe (h : Recorded env calls db) (member : Nat) (creatorId : Ref)
    (direction : Value) (saved : Bool) :
    Recorded env (calls ++ [.processSwipe member creatorId direction saved])
      (serviceStep env db (.processSwipe member creatorId direction saved)) := by
  intro id c hf
  simp only [serviceStep] at hf
  split at hf
  · rename_i db' result hok
    rcases processSwipe_ok hok with rfl | ⟨creator, swipe, rfl, hsw, hr, -, rfl⟩
    · exact (h id c hf).concat _
    · have hma : Swipe.ofValue direction = some .right ∨ Swipe.ofValue direction = some .super := by
        cases swipe with
        | left => exact absurd rfl hr
        | right => exact .inl hsw
        | super => exact .inr hsw
      have hnew (c₀ : Connection) (hmb : c₀.member = member) (hcr : c₀.creator = creator) :
          Known env (calls ++ [.processSwipe member (.id creator) direction saved]) id
            c₀.swiped := by
        subst hmb hcr
        refine ⟨⟨_, List.mem_append_right calls List.mem_cons_self, rfl, rfl, hma⟩, rfl, rfl, ?_⟩
        rintro ⟨⟩
      rcases find?_upsert hf with hold | ⟨c₀, -, hmb, hcr, rfl⟩ | ⟨-, rfl⟩
      · exact (h id c hold).concat _
      · exact hnew c₀ hmb hcr
      · exact hnew { member, creator } rfl rfl
  · exact (h id c hf).concat _

theorem recorded_response (h : Recorded env calls db) (user : Nat) (ci : Ref)
    (a : String) (now : ℤ) (notified saved : Bool) : Recorded env
      (calls ++ [.handleConnectionResponse user ci a now notified saved]) (serviceStep env db
        (.handleConnectionResponse user ci a now notified saved)) := by
  intro id c hf
  simp only [serviceStep] at hf
  split at hf
  · rename_i db' result hok
    obtain ⟨j, c₀, rfl, hfd, hcr, -, rfl, -, rfl⟩ := handleConnectionResponse_ok hok
    rw [find?_put hfd] at hf
    split at hf
    · rename_i hj
      cases hf
      subst hj
      have hkno := h id c₀ hfd
      obtain ⟨swipe, hsw, hwa⟩ := hkno.wanted
      have hwa' : Wanted (c₀.accepted now) swipe := by
        cases swipe <;> exact hwa
      have hacc : Accepted env id (c₀.accepted now)
          (.handleConnectionResponse user (.id id) "accept" now notified saved) := ⟨hcr, rfl, rfl⟩
      refine ⟨⟨swipe, List.mem_append_left _ hsw, hwa'⟩, hkno.memberSwiped,
        hkno.memberLiked, fun _ => ?_⟩
      refine ⟨⟨swipe, _, ?_, hwa', hacc⟩, hkno.memberSwiped, rfl, hkno.memberLiked, rfl, rfl⟩
      exact (List.singleton_sublist.mpr hsw).append (List.Sublist.refl [_])
    · exact (h id c hf).concat _
  · exact (h id c hf).concat _

theorem recorded_step (h : Recorded env calls db) (call : ServiceCall) :
    Recorded env (calls ++ [call]) (serviceStep env db call) := by
  cases call with
  | processSwipe member creatorId direction saved =>
    exact recorded_swipe h member creatorId direction saved
  | handleConnectionResponse user c a now notified saved =>
    exact recorded_response h user c a now notified saved

theorem unique_serviceStep (h : db.Unique) (call : ServiceCall) :
    (serviceStep env db call).Unique := by
  cases call with
  | processSwipe =>
    simp only [serviceStep]
    split
    · rename_i hok
      rcases processSwipe_ok hok with rfl | ⟨creator, -, -, -, -, -, rfl⟩
      · exact h
      · exact unique_upsert h (fun _ => ⟨rfl, rfl⟩) ⟨rfl, rfl⟩
    · exact h
  | handleConnectionResponse =>
    simp only [serviceStep]
    split
    · rename_i hok
      obtain ⟨id, c, -, hf, -, -, -, -, rfl⟩ := handleConnectionResponse_ok hok
      exact unique_put h hf rfl rfl
    · exact h

/-- From no connections, after every sequence of calls, a connected pair has
asked for it on both sides, and no pair has two connections. -/
theorem connected_only_if_mutual (env : Env) (likes passes : Nat → List Nat)
    (messages : List Message) (calls : List ServiceCall) :
    let db := Runs.final (serviceStep env) (.noConnections likes passes messages) calls
    (∀ id c, db.find? id = some c → c.status = .connected → Mutual env calls id c) ∧ db.Unique := by
  intro db
  have hrec : Recorded env calls db := by
    induction calls using List.reverseRecOn with
    | nil =>
      intro id c hf
      cases hf
    | append_singleton calls call ih =>
      show Recorded env (calls ++ [call]) (Runs.final _ _ (calls ++ [call]))
      rw [Runs.final_append]
      exact recorded_step ih call
  have huni : Runs.Always (serviceStep env) Db.Unique (.noConnections likes passes messages)
      calls := by
    refine Runs.always_of_step (fun db call h => unique_serviceStep h call) ?_
    intro i j a b ha
    cases ha
  exact ⟨fun id c hf => (hrec id c hf).mutual_, huni.last⟩

end SexySelfies.Connections
