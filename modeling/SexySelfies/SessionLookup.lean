import SexySelfies.SessionCountries
import SexySelfies.SessionEnding

/-!
# Looking up a session

What the methods of `session.service.js` leave of the stored sessions when they run alone. With
distinct ids, `validateSession` accepts exactly a session that is live: active, of the user, not
expired, and requested from its own address or country.
-/

namespace SexySelfies.Sessions

open Interleave List

/-! ## What the methods keep -/

variable {env : Env} {db : Db}

theorem sessionIds_modify {f : Session → Session} (hf : ∀ s, (f s).sessionId = s.sessionId)
    (id : Nat) : (db.modify id f).map Session.sessionId = db.map Session.sessionId := by
  refine ext_getElem? fun i => ?_
  rw [List.getElem?_map, List.getElem?_map, getElem?_modify]
  cases db[i]? with
  | none => rfl
  | some =>
    simp only [Option.map_eq_map, Option.map_some]
    split
    · rw [hf]
    · rfl

theorem sessionIds_exec (o : Op) : (exec o db).1.map Session.sessionId
    = db.map Session.sessionId := by
  have hend : ∀ test now reason, (db.endWhere test now reason).1.map Session.sessionId
      = db.map Session.sessionId := by
    intro test now reason
    rw [Db.endWhere, map_map]
    refine map_congr_left fun s _ => ?_
    simp only [Function.comp_apply]
    split <;> rfl
  cases o with
  | find => rfl
  | save id ch =>
    simp only [exec]
    split
    · exact sessionIds_modify (fun s => (rfl : (s.write ch).sessionId = s.sessionId)) id
    · rfl
  | endOfUser user now reason => exact hend _ now reason
  | endExpired now => exact hend _ now "expired"

theorem sessionIds_run {p : Handler} (h : NeverActivates p) :
    (p.run exec db).1.map Session.sessionId = db.map Session.sessionId := by
  have hop : ∀ (s : Db) (o : Op), s.map Session.sessionId = db.map Session.sessionId → o.Ends →
        (exec o s).1.map Session.sessionId = db.map Session.sessionId :=
    fun s o hs _ => (sessionIds_exec o).trans hs
  exact run_of_keeps hop rfl ((h db).alone fun _ => trivial)

variable {sessionId : String}

theorem ended_run {p : Handler} (h : NeverActivates p) (hend : Ended sessionId db) :
    Ended sessionId (p.run exec db).1 :=
  run_of_keeps (fun s o hs ho => ended_exec s o hs ho) hend ((h db).alone fun _ => trivial)

variable {id : Nat} {s : Session}

theorem find_eq_some {user now : Option Nat}
    (h : (exec (.find sessionId user now) db).2 = some (id, s)) :
    db[id]? = some s ∧ s.matches sessionId user now := by
  simp only [exec, Option.bind_eq_some_iff, Option.map_eq_some_iff, Prod.mk.injEq] at h
  obtain ⟨i, hi, s', hs', rfl, rfl⟩ := h
  obtain ⟨hlt, hmat, -⟩ := findIdx?_eq_some_iff_getElem.mp hi
  refine ⟨hs', ?_⟩
  rw [getElem?_eq_getElem hlt] at hs'
  exact Option.some.inj hs' ▸ hmat

theorem sessionId_of_matches {user now : Option Nat} (h : s.matches sessionId user now) :
    s.sessionId = sessionId ∧ s.isActive := by
  simp only [Session.matches, Bool.and_eq_true, decide_eq_true_eq] at h
  exact ⟨h.1.1.1, h.1.2⟩

theorem eq_of_sessionId (hdi : (db.map Session.sessionId).Nodup) {i j : Nat} {t : Session}
    (hi : db[i]? = some s) (hj : db[j]? = some t) (h : s.sessionId = t.sessionId) : i = j := by
  have hlt : i < (db.map Session.sessionId).length := by
    rw [length_map]
    exact (List.getElem?_eq_some_iff.mp hi).1
  refine (List.getElem?_inj hlt hdi).mp ?_
  rw [List.getElem?_map, List.getElem?_map, hi, hj, Option.map_some, Option.map_some, h]

theorem ended_modify (hdi : (db.map Session.sessionId).Nodup) (hs : db[id]? = some s)
    (hid : s.sessionId = sessionId) {f : Session → Session} (hen : ∀ t, (f t).isActive = false) :
    Ended sessionId (db.modify id f) := by
  intro t ht htid
  obtain ⟨j, hj⟩ := mem_iff_getElem?.mp ht
  rcases Collection.getElem?_modify_cases hs hj with ⟨-, rfl⟩ | ⟨hne, hj'⟩
  · exact hen s
  · exact absurd (eq_of_sessionId hdi hj' hs (htid.trans hid.symm)) hne

theorem ended_endSession (hdi : (db.map Session.sessionId).Nodup) {reason : String}
    {now : Nat} (h : ((endSession env sessionId reason now).run exec db).2 = .done true) :
    Ended sessionId ((endSession env sessionId reason now).run exec db).1 := by
  simp only [endSession, findSession, perform_bind, run_call] at h ⊢
  cases hf : (exec (.find sessionId none none) db).2 with
  | none =>
    rw [hf] at h
    cases h
  | some x =>
    obtain ⟨id, s⟩ := x
    obtain ⟨hs, hmat⟩ := find_eq_some hf
    obtain ⟨hid, hact⟩ := sessionId_of_matches hmat
    rw [hf] at h
    simp only [save, perform_bind, run_call] at h ⊢
    generalize addActivity env s (some .logout) .undefined now = logout at h ⊢
    have hfl : modified s.isActive false = some false := by
      rw [hact]
      rfl
    rw [hfl] at h ⊢
    cases hlo : logout.valid with
    | false =>
      rw [save_invalid hlo] at h
      cases h
    | true =>
      have hfst : exec (.save id logout) (exec (.find sessionId none none) db).1
          = (db.modify id fun s => s.write logout, true) := by simp [exec, hlo]
      rw [hfst] at h ⊢
      simp only [if_true, run_call, run_ret, pure_eq_ret] at h ⊢
      simp only [exec] at h ⊢
      split at h
      · rename_i hv
        simp only [hv, if_true]
        have hdi' : ((db.modify id fun s => s.write logout).map Session.sessionId).Nodup := by
          rwa [sessionIds_modify fun s => (rfl : (s.write logout).sessionId = s.sessionId)]
        exact ended_modify hdi' (Collection.getElem?_modify_self hs _) hid fun _ => rfl
      · cases h

/-- The request comes from the address of the session, or from the same
country. -/
def SamePlace (env : Env) (s : Session) (origin : Origin) : Prop :=
  s.location.ipAddress = getClientIp origin
    ∨ (extractLocationInfo env origin).country = s.location.country

variable {origin : Origin} {now : Nat}

theorem ipChanged_eq_none_iff : (ipChanged env s origin now).2 = none ↔ SamePlace env s origin := by
  unfold ipChanged SamePlace
  by_cases hip : s.location.ipAddress = getClientIp origin
  · simp [hip]
  · by_cases hct : (extractLocationInfo env origin).country = s.location.country
    · simp [hip, hct]
    · simp [hip, hct]

/-- A session for which the request is valid. -/
def Live (env : Env) (db : Db) (sessionId : String) (user : Nat)
    (origin : Origin) (now : Nat) : Prop :=
  ∃ s ∈ db, s.matches sessionId (some user) (some now) = true ∧ SamePlace env s origin

theorem valid_ipChanged : (ipChanged env s origin now).1.valid := by
  unfold ipChanged
  dsimp only
  split <;> rfl

theorem isValid_of_found {user : Nat} {origin : Origin} {now : Nat}
    (hf : (exec (.find sessionId (some user) (some now)) db).2 = some (id, s)) :
    ((validateSession env sessionId user origin now).run exec db).2.isValid ↔
      SamePlace env s origin := by
  rw [← ipChanged_eq_none_iff]
  simp only [validateSession, findSession, perform_bind, run_call, hf]
  have hv : (ipChanged env s origin now).1.valid := valid_ipChanged
  generalize ipChanged env s origin now = x at hv
  obtain ⟨ch, lo⟩ := x
  cases lo with
  | none =>
    have hs : ({ ch with lastActiveAt := modified s.lastActiveAt now } : Changes).valid := hv
    simp only [refresh, save, perform_bind, run_call, exec, hs, if_true]
    exact iff_of_true rfl trivial
  | some lo =>
    simp only [save, perform_bind, run_call, save_invalid (valid_flagSuspiciousActivity s lo now)]
    exact iff_of_false Bool.false_ne_true (Option.some_ne_none lo)

theorem isValid_validateSession (hdi : (db.map Session.sessionId).Nodup) (user : Nat) :
    ((validateSession env sessionId user origin now).run exec db).2.isValid ↔
      Live env db sessionId user origin now := by
  cases hf : (exec (.find sessionId (some user) (some now)) db).2 with
  | none =>
    have hn : ∀ s ∈ db, s.matches sessionId (some user) (some now) = false := by
      simp only [exec] at hf
      cases hind : db.findIdx? fun s => s.matches sessionId (some user) (some now) with
      | none => exact findIdx?_eq_none_iff.mp hind
      | some i =>
        obtain ⟨hlt, -⟩ := findIdx?_eq_some_iff_getElem.mp hind
        rw [hind, Option.bind_some, getElem?_eq_getElem hlt] at hf
        cases hf
    refine iff_of_false ?_ ?_
    · simp only [validateSession, findSession, perform_bind, run_call, hf]
      exact Bool.false_ne_true
    · rintro ⟨s, hs, hmat, -⟩
      cases (hn s hs).symm.trans hmat
  | some x =>
    obtain ⟨id, s⟩ := x
    obtain ⟨hs, hmat⟩ := find_eq_some hf
    rw [isValid_of_found hf]
    constructor
    · exact fun hpla => ⟨s, mem_of_getElem? hs, hmat, hpla⟩
    · rintro ⟨t, ht, htm, hpla⟩
      obtain ⟨j, hj⟩ := mem_iff_getElem?.mp ht
      have hid : s.sessionId = t.sessionId :=
        (sessionId_of_matches hmat).1.trans (sessionId_of_matches htm).1.symm
      obtain rfl := eq_of_sessionId hdi hs hj hid
      obtain rfl := Option.mem_unique hs hj
      exact hpla

theorem not_live_of_ended (h : Ended sessionId db) (user : Nat) :
    ¬ Live env db sessionId user origin now := by
  rintro ⟨s, hs, hmat, -⟩
  obtain ⟨hid, hact⟩ := sessionId_of_matches hmat
  cases (h s hs hid).symm.trans hact

end SexySelfies.Sessions
