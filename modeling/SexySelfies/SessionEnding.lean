import SexySelfies.SessionModel

/-!
# An ended session stays ended

`isActive` is written in three places, each time with `false`. A request that loaded the session
before it ended holds a copy that is still active, and saves that copy later; but the flag was not
modified on the copy, so that the save leaves the stored one alone.
-/

namespace SexySelfies.Sessions

open Interleave Runs

/-! ## The flag -/

/-- No session of this id is active. -/
def Ended (sessionId : String) (db : Db) : Prop :=
  ∀ s ∈ db, s.sessionId = sessionId → s.isActive = false

instance (sessionId : String) (db : Db) : Decidable (Ended sessionId db) :=
  inferInstanceAs (Decidable (∀ s ∈ db, s.sessionId = sessionId → s.isActive = false))

/-- The operation stores no `isActive = true`. -/
def Op.Ends : Op → Prop
  | .save _ changes => changes.isActive ≠ some true
  | _ => True

/-- A session that is changed in place, without becoming active. -/
def Follows (s s' : Session) : Prop :=
  s'.sessionId = s.sessionId ∧ (s.isActive = false → s'.isActive = false)

variable {s : Session}

theorem follows_refl : Follows s s := ⟨rfl, id⟩

theorem follows_write {ch : Changes} (h : ch.isActive ≠ some true) (s : Session) :
    Follows s (s.write ch) := by
  refine ⟨rfl, fun hs => ?_⟩
  change ch.isActive.getD s.isActive = false
  cases hch : ch.isActive with
  | none => exact hs
  | some b =>
    cases b with
    | false => rfl
    | true => exact absurd hch h

variable {now : Nat}

variable {sessionId : String}

theorem Ended.of_follows {db db' : Db} (h : Ended sessionId db)
    (hdb : ∀ s' ∈ db', ∃ s ∈ db, Follows s s') : Ended sessionId db' := by
  intro s' hs' hid
  obtain ⟨s, hs, hsm, hfl⟩ := hdb s' hs'
  exact hfl (h s hs (hsm.symm.trans hid))

variable {db : Db}

theorem follows_endWhere (test : Session → Bool) (reason : String) :
    ∀ s' ∈ (db.endWhere test now reason).1, ∃ s ∈ db, Follows s s' := by
  intro s' hs'
  obtain ⟨s, hs, rfl⟩ := List.mem_map.mp hs'
  refine ⟨s, hs, ?_⟩
  split
  · exact ⟨rfl, fun _ => rfl⟩
  · exact follows_refl

theorem follows_modify {f : Session → Session} (hf : ∀ s, Follows s (f s)) (id : Nat) :
    ∀ s' ∈ db.modify id f, ∃ s ∈ db, Follows s s' := by
  intro s' hs'
  obtain ⟨i, hi⟩ := List.mem_iff_getElem?.mp hs'
  rw [List.getElem?_modify] at hi
  obtain ⟨s, hs, rfl⟩ := Option.map_eq_some_iff.mp hi
  refine ⟨s, List.mem_of_getElem? hs, ?_⟩
  split
  · exact hf s
  · exact follows_refl

theorem ended_exec (db : Db) (o : Op) (h : Ended sessionId db) (ho : o.Ends) :
    Ended sessionId (exec o db).1 := by
  cases o with
  | find => exact h
  | save id ch =>
    simp only [exec]
    split
    · exact h.of_follows (follows_modify (follows_write ho) id)
    · exact h
  | endOfUser user now reason => exact h.of_follows (follows_endWhere _ reason)
  | endExpired => exact h.of_follows (follows_endWhere _ "expired")

/-! ## What the handlers store -/

variable {env : Env}

/-- Every operation of the program, whatever its results, stores no `true`. -/
abbrev NeverActivates (p : Handler) : Prop :=
  ∀ db, Keeps exec (fun _ _ => True) (fun _ _ => True) (fun _ o => o.Ends) db p

theorem modified_false_ne (b : Bool) : modified b false ≠ some true := by
  cases b with
  | false | true => decide

variable {origin : Origin}

theorem isActive_ipChanged (session : Session) :
    (ipChanged env session origin now).1.isActive = none := by
  simp only [ipChanged]
  split
  · rfl
  · rfl

theorem neverActivates_find {user now : Option Nat} {f : Option (Nat × Session) → Handler}
    (h : ∀ x, NeverActivates (f x)) : NeverActivates (findSession sessionId user now >>= f) :=
  fun _ => keeps_perform_of trivial fun db x => h x db

variable {ch : Changes} {id : Nat}

theorem neverActivates_save {f : Bool → Handler} (hch : ch.isActive ≠ some true)
    (h : ∀ x, NeverActivates (f x)) : NeverActivates (save id ch >>= f) :=
  fun _ => keeps_perform_of (o := Op.save id ch) hch fun db x => h x db

theorem neverActivates_save_of_none {f : Bool → Handler} (hch : ch.isActive = none)
    (h : ∀ x, NeverActivates (f x)) : NeverActivates (save id ch >>= f) := by
  refine neverActivates_save ?_ h
  rw [hch]
  exact (Option.some_ne_none true).symm

theorem neverActivates_ret (r : Answer) : NeverActivates (.ret r) := fun _ => trivial

theorem neverActivates_refresh {sessionId : String} {session : Session} (hch : ch.isActive = none)
    (r : Nat) : NeverActivates (refresh sessionId id session ch r now) :=
  neverActivates_save_of_none hch fun _ => neverActivates_ret _

theorem neverActivates_validateSession (user : Nat) :
    NeverActivates (validateSession env sessionId user origin now) := by
  refine neverActivates_find fun found => ?_
  match found with
  | none => exact neverActivates_ret _
  | some (id, session) =>
    have hch : (ipChanged env session origin now).1.isActive = none := isActive_ipChanged session
    dsimp only
    generalize ipChanged env session origin now = x at hch
    obtain ⟨ch, l⟩ := x
    cases l with
    | none => exact neverActivates_refresh hch session.riskScore
    | some =>
      refine neverActivates_save_of_none hch fun saved => ?_
      cases saved with
      | true => exact neverActivates_refresh rfl _
      | false => exact neverActivates_ret _

theorem neverActivates_trackActivity (a : String) (amount : Js.Value) :
    NeverActivates (trackActivity env sessionId a amount now) := by
  refine neverActivates_find fun found => ?_
  match found with
  | none => exact neverActivates_ret _
  | some (id, session) => exact neverActivates_save_of_none rfl fun saved => neverActivates_ret _

theorem neverActivates_endSession (reason : String) (now : Nat) :
    NeverActivates (endSession env sessionId reason now) := by
  refine neverActivates_find fun found => ?_
  match found with
  | none => exact neverActivates_ret _
  | some (id, session) =>
    refine neverActivates_save_of_none rfl fun saved => ?_
    cases saved with
    | false => exact neverActivates_ret _
    | true =>
      exact neverActivates_save (modified_false_ne session.isActive) fun ended =>
        neverActivates_ret _

theorem neverActivates_handle (r : Request) : NeverActivates (handle env r) := by
  cases r with
  | validateSession sessionId user origin now => exact neverActivates_validateSession user
  | trackActivity sessionId a amount now => exact neverActivates_trackActivity a amount
  | endSession sessionId reason now => exact neverActivates_endSession reason now
  | endAllUserSessions user reason now | cleanupExpiredSessions now =>
    exact fun _ => keeps_perform_of trivial fun db n => neverActivates_ret _ db

/-! ## Runs -/

/-- A pool of session requests: any of the five, started at any point, their
database steps interleaved in any order. -/
abbrev next (env : Env) := Pool.next exec (handle env)

theorem every_ends (ls : List (Label Request)) :
    Every (next env) (Fires fun _ o => o.Ends) ⟨db, []⟩ ls :=
  every_of_keeps_true fun r db => neverActivates_handle r db

theorem always_ended {db : Db} {before : List (Label Request)} (after : List (Label Request))
    (h : Ended sessionId (final (next env) ⟨db, []⟩ before).store) :
    Always (next env) (fun c => Ended sessionId c.store) (final (next env) ⟨db, []⟩ before) after :=
  always_store_of_fires ended_exec h (Every.append.mp (every_ends (before ++ after))).2

theorem find_ended {db : Db} (h : Ended sessionId db) (user now : Option Nat) :
    (exec (.find sessionId user now) db).2 = none := by
  have hn : db.findIdx? (fun s => s.matches sessionId user now) = none := by
    rw [List.findIdx?_eq_none_iff]
    intro s hs
    by_cases hid : s.sessionId = sessionId
    · simp [Session.matches, h s hs hid]
    · simp only [Session.matches, decide_eq_false hid, Bool.false_and]
  simp [exec, hn]

/-- From any point at which the session has ended, it stays so in every store, and a call of
`validateSession` that looks it up then answers that it is not valid. -/
theorem ended_session_stays_ended (env : Env) (db : Db) (sessionId : String)
    (before after : List (Label Request))
    (h : Ended sessionId (Runs.final (next env) ⟨db, []⟩ before).store) :
    Runs.Always (next env) (fun c => Ended sessionId c.store)
        (Runs.final (next env) ⟨db, []⟩ before) after ∧
      ∀ started rest, after = started ++ rest → ∀ j user origin now,
        (Runs.final (next env) ⟨db, []⟩ (before ++ started)).threads[j]? =
            some (handle env (.validateSession sessionId user origin now)) →
          .step j ∈ rest →
            (Runs.final (next env) ⟨db, []⟩ (before ++ after)).threads[j]? =
              some (.ret (.invalid sessionId "session_not_found")) := by
  refine ⟨always_ended after h, ?_⟩
  rintro started rest rfl j user origin now hj hst
  have hsta : Ended sessionId (final (next env) ⟨db, []⟩ (before ++ started)).store := by
    rw [final_append]
    exact (always_ended started h).last
  rw [← List.append_assoc, final_append]
  refine answered_of_step (fun s hs => ?_) hj (always_ended rest hsta) hst
  rw [find_ended hs (some user) (some now)]
  rfl

def overtaken : List (Label Request) :=
  [.start (.validateSession "s" 1 (.of "10.0.0.1") 5), .step 0,
   .start (.endAllUserSessions 1 "security" 6), .step 1]

theorem overtaken_stays_ended :
    let env : Env := ⟨fun _ => none, fun _ => ""⟩
    let db := [createSession env "s" 1 .member .mobile (.of "10.0.0.1") 0 168]
    let later := [.start (.validateSession "s" 1 (.of "10.0.0.1") 7), .step 0, .step 2]
    Always (next env) (fun c => Ended "s" c.store) (final (next env) ⟨db, []⟩ overtaken) later ∧
      (final (next env) ⟨db, []⟩ (overtaken ++ later)).threads[2]? =
        some (.ret (.invalid "s" "session_not_found")) := by
  intro env db later
  have h : Ended "s" (final (next env) ⟨db, []⟩ overtaken).store := by decide +kernel
  obtain ⟨halw, ha⟩ := ended_session_stays_ended env db "s" overtaken later h
  have hmem : Label.step 2 ∈ [Label.step 0, (Label.step 2 : Label Request)] :=
    List.mem_cons_of_mem _ List.mem_cons_self
  exact ⟨halw, ha [.start (.validateSession "s" 1 (.of "10.0.0.1") 7)] [.step 0, .step 2]
    rfl 2 1 (.of "10.0.0.1") 7 rfl hmem⟩

end SexySelfies.Sessions
