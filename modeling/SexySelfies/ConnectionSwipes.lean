import SexySelfies.Runs
import SexySelfies.ConnectionWrites

/-!
# Swipes and declines

A swipe should count once, and a declined request should be gone. A stored swipe refuses all later
ones. But a left swipe and a decline assign the status `rejected`, which the schema does not have,
and are not stored; the member can swipe again, and the declined request stays pending.
-/

namespace SexySelfies.Connections

open Js Platform Runs

structure Pair (env : Env) where
  memberUser : Nat
  creatorUser : Nat
  member : Nat
  creator : Nat
  memberOf_eq : env.memberOf memberUser = some member
  creatorOf_eq : env.creatorOf creatorUser = some creator

inductive PairCall where
  | swipe (action : Value) (saved memberSaved : Bool)
  | accept (connectionId : Ref) (now : ℤ) (notified saved : Bool)
  | decline (connectionId : Ref) (now : ℤ) (notified saved : Bool)

variable {env : Env}

def PairCall.call (p : Pair env) : PairCall → Call
  | .swipe action saved memberSaved =>
    ⟨⟨p.memberUser, .member⟩, .swipeAction (.id p.creator) action saved memberSaved⟩
  | .accept connectionId now notified saved =>
    ⟨⟨p.creatorUser, .creator⟩, .acceptCreatorConnection connectionId now notified saved⟩
  | .decline connectionId now notified saved =>
    ⟨⟨p.creatorUser, .creator⟩, .declineCreatorConnection connectionId now notified saved⟩

def Connection.isBetween (p : Pair env) (c : Connection) : Prop :=
  c.member = p.member ∧ c.creator = p.creator

instance (p : Pair env) (c : Connection) : Decidable (c.isBetween p) :=
  inferInstanceAs (Decidable (_ ∧ _))

def PairCall.swipe? : PairCall → Option Swipe
  | .swipe action _ _ => Swipe.ofValue (swipeDirection action)
  | .accept .. => none
  | .decline .. => none

def PairCall.declines (p : Pair env) (db : Db) : PairCall → Bool
  | .decline (.id id) _ _ _ =>
    (db.find? id).any fun c => c.isBetween p ∧ c.status = .pending
  | _ => false

structure Tracked where
  db : Db
  swiped : Bool
  declined : Bool

def Tracked.step (p : Pair env) (s : Tracked) (c : PairCall) : Tracked :=
  ⟨Connections.step env s.db (c.call p), s.swiped || c.swipe?.isSome,
    s.declined || c.declines p s.db⟩

/-- The first swipe is stored with its direction, a later one is refused; a
declined request is not pending any more. -/
structure Kept (p : Pair env) (s : Tracked) (c : PairCall) : Prop where
  first : ∀ swipe ∈ c.swipe?, s.swiped = false → ∃ id stored,
    (s.step p c).db.pair? p.member p.creator = some (id, stored)
      ∧ stored.memberSwiped = some swipe.direction
  later : ∀ swipe ∈ c.swipe?, s.swiped = true →
    ((c.call p).run env s.db).2 = .failure 400 "Already swiped on this creator"
  declined : c.declines p s.db = true → ∀ id stored, (s.step p c).db.find? id = some stored →
    stored.isBetween p → stored.status ≠ .pending

def NotAccepted (p : Pair env) (s : Tracked) : Prop :=
  s.declined = true → ∀ id c, s.db.find? id = some c → c.isBetween p → c.status ≠ .connected

def PairCall.saved : PairCall → Bool
  | .swipe _ saved _ => saved
  | .accept _ _ _ saved => saved
  | .decline _ _ _ saved => saved

/-- The first swipe is one to the right, and is saved; no pending request is
declined. -/
structure Storable (p : Pair env) (s : Tracked) (c : PairCall) : Prop where
  first : ∀ swipe ∈ c.swipe?, s.swiped = false → swipe ≠ .left ∧ c.saved = true
  declined : c.declines p s.db = false

/-- A swipe of the member is stored, and nothing was declined. -/
structure Tracked.Faithful (p : Pair env) (s : Tracked) : Prop where
  unique : s.db.Unique
  stored : s.swiped = true → ∃ id c, s.db.find? id = some c ∧ c.isBetween p
    ∧ c.memberSwiped.isSome = true
  none_yet : s.swiped = false → ∀ id c, s.db.find? id = some c → ¬ c.isBetween p
  declined : s.declined = false

variable {p : Pair env} {s : Tracked} {c : PairCall}

theorem Tracked.Faithful.pair?_eq_none (h : s.Faithful p) (hsw : s.swiped = false) :
    s.db.pair? p.member p.creator = none := by
  cases hp : s.db.pair? p.member p.creator with
  | none => rfl
  | some found =>
    obtain ⟨id, c⟩ := found
    obtain ⟨hf, hbtw⟩ := pair?_some hp
    exact absurd hbtw (h.none_yet hsw id c hf)

theorem Tracked.Faithful.hasSwiped (h : s.Faithful p) :
    s.db.hasSwiped p.member p.creator = s.swiped := by
  unfold Db.hasSwiped
  cases hsw : s.swiped with
  | true =>
    obtain ⟨id, c, hf, ⟨hmb, hcr⟩, hs⟩ := h.stored hsw
    rwa [← hmb, ← hcr, pair?_of_find? h.unique hf]
  | false =>
    rw [h.pair?_eq_none hsw]
    rfl

variable {saved memberSaved : Bool}

theorem write_swipe (db : Db) (a : Value) :
    ((PairCall.swipe a saved memberSaved).call p).write env db =
      match Swipe.ofValue (swipeDirection a) with
      | some swipe =>
        if db.hasSwiped p.member p.creator = false ∧ saved ∧ swipe ≠ .left then
          .swipe p.member p.creator
        else .keep
      | none => .keep := by
  simp only [PairCall.call, Call.write, swipeWrite, p.memberOf_eq]
  cases Swipe.ofValue (swipeDirection a) with
  | none => rfl
  | some => simp

variable {id : Nat}

theorem find?_swipe_call (h : s.Faithful p) {a : Value} {saved memberSaved : Bool}
    (hnot : ∀ swipe ∈ Swipe.ofValue (swipeDirection a),
      s.swiped ∨ saved = false ∨ swipe = .left) :
    (s.step p (.swipe a saved memberSaved)).db.find? id = s.db.find? id := by
  rw [Tracked.step, find?_step, write_swipe, h.hasSwiped]
  cases hsw : Swipe.ofValue (swipeDirection a) with
  | none => rfl
  | some swipe =>
    have hblk : ¬ (s.swiped = false ∧ saved ∧ swipe ≠ .left) := by
      rintro ⟨hf, hs, hr⟩
      rcases hnot swipe hsw with hswi | hs' | hle
      · cases hf.symm.trans hswi
      · cases hs'.symm.trans hs
      · exact hr hle
    dsimp only
    rw [if_neg hblk]
    rfl

theorem find?_first_swipe (h : s.Faithful p) {a : Value} (memberSaved : Bool) {swipe : Swipe}
    (hsw : Swipe.ofValue (swipeDirection a) = some swipe) (hf : s.swiped = false)
    (hr : swipe ≠ .left) (id : Nat) : (s.step p (.swipe a true memberSaved)).db.find? id
    = if id = s.db.connections.length then
    some (Connection.swiped { member := p.member, creator := p.creator })
        else s.db.find? id := by
  rw [Tracked.step, find?_step, write_swipe, h.hasSwiped, hsw]
  dsimp only
  rw [if_pos ⟨hf, rfl, hr⟩, Write.run, Db.swipe, Db.upsert, h.pair?_eq_none hf]
  exact find?_insert ..

variable {connectionId : Ref} {now : ℤ} {notified : Bool}

theorem find?_accept :
    (s.step p (.accept connectionId now notified saved)).db.find? id = s.db.find? id
      ∨ (s.step p (.accept connectionId now notified saved)).db.find? id
        = (s.db.find? id).map (Connection.accepted now) := by
  rw [Tracked.step, find?_step]
  simp only [PairCall.call, Call.write, acceptWrite]
  cases connectionId with
  | malformed | absent => exact .inl rfl
  | id =>
    dsimp only
    split
    · rw [Write.run, find?_rewrite]
      split
      · rename_i hid
        exact .inr (by rw [hid])
      · exact .inl rfl
    · exact .inl rfl

theorem find?_decline :
    (s.step p (.decline connectionId now notified saved)).db.find? id = s.db.find? id := by
  rw [Tracked.step, find?_step]
  rfl

theorem Tracked.Faithful.rewritten (h : s.Faithful p)
    (hf : ∀ id, (s.step p c).db.find? id = s.db.find? id
    ∨ ∃ now, (s.step p c).db.find? id = (s.db.find? id).map (Connection.accepted now))
    (hsw : (s.step p c).swiped = s.swiped) (hde : c.declines p s.db = false) :
    (s.step p c).Faithful p where
  unique := unique_step env h.unique (c.call p)
  stored hyes := by
    obtain ⟨id, stored, hst, hbtw, hsm⟩ := h.stored (hsw ▸ hyes)
    rcases hf id with hs | ⟨now, hacc⟩
    · exact ⟨id, stored, hs.trans hst, hbtw, hsm⟩
    · exact ⟨id, stored.accepted now, by rw [hacc, hst]; rfl, hbtw, hsm⟩
  none_yet hno id stored hst hbtw := by
    have hn := h.none_yet (hsw ▸ hno) id
    rcases hf id with hs | ⟨now, hacc⟩
    · exact hn stored (hs ▸ hst) hbtw
    · rw [hacc, Option.map_eq_some_iff] at hst
      obtain ⟨c₀, hc₀, rfl⟩ := hst
      exact hn c₀ hc₀ hbtw
  declined := by
    show (s.declined || c.declines p s.db) = false
    rw [h.declined, hde]
    rfl

theorem faithful_step (h : s.Faithful p) (hc : Storable p s c) : (s.step p c).Faithful p := by
  cases c with
  | accept connectionId now notified saved =>
    refine h.rewritten (fun id => ?_) (Bool.or_false _) hc.declined
    exact find?_accept.imp_right fun heq => ⟨now, heq⟩
  | decline => exact h.rewritten (fun id => .inl find?_decline) (Bool.or_false _) hc.declined
  | swipe a saved memberSaved =>
    by_cases hf : (Swipe.ofValue (swipeDirection a)).isSome = true ∧ s.swiped = false
    · obtain ⟨swipe, hsw⟩ := Option.isSome_iff_exists.mp hf.1
      obtain ⟨hr, hs⟩ := hc.first swipe hsw hf.2
      obtain rfl : saved = true := hs
      have hfi := find?_first_swipe h memberSaved hsw hf.2 hr
      refine ⟨unique_step env h.unique _, fun _ => ?_, fun hno => ?_, ?_⟩
      · exact ⟨s.db.connections.length, _, (hfi _).trans (if_pos rfl), ⟨rfl, rfl⟩, rfl⟩
      · have hyes : (s.swiped || (Swipe.ofValue (swipeDirection a)).isSome) = true := by
          rw [hf.1, Bool.or_true]
        exact absurd (hno.symm.trans hyes) Bool.false_ne_true
      · exact (Bool.or_false _).trans h.declined
    · have hnot : ∀ swipe ∈ Swipe.ofValue (swipeDirection a), s.swiped := by
        intro swipe hsw
        by_contra hno
        rw [Bool.not_eq_true] at hno
        exact hf ⟨Option.isSome_iff_exists.mpr ⟨swipe, hsw⟩, hno⟩
      refine h.rewritten (fun id => .inl ?_) ?_ hc.declined
      · exact find?_swipe_call h (fun swipe hsw => .inl (hnot swipe hsw))
      · show (s.swiped || (Swipe.ofValue (swipeDirection a)).isSome) = s.swiped
        cases hsw : Swipe.ofValue (swipeDirection a) with
        | none => exact Bool.or_false _
        | some swipe =>
          rw [hnot swipe hsw]
          rfl

theorem swipe_refused (h : s.Faithful p) (hswi : s.swiped) {swipe : Swipe}
    (hsw : swipe ∈ c.swipe?) :
    ((c.call p).run env s.db).2 = .failure 400 "Already swiped on this creator" := by
  cases c with
  | accept connectionId now notified saved | decline connectionId now notified saved => cases hsw
  | swipe a saved memberSaved =>
    have hv : Swipe.ofValue (swipeDirection a) = some swipe := hsw
    simp [PairCall.call, Call.run, swipeAction, p.memberOf_eq, processSwipe_id, hv,
      h.hasSwiped, hswi]

theorem declines_keeps (hde : c.declines p s.db) :
    ∃ id stored, (s.step p c).db.find? id = some stored ∧ stored.isBetween p
      ∧ stored.status = .pending := by
  cases c with
  | swipe a saved memberSaved | accept connectionId now notified saved => cases hde
  | decline connectionId now notified saved =>
    cases connectionId with
    | malformed | absent => cases hde
    | id id =>
      rw [PairCall.declines, Option.any_eq_true] at hde
      obtain ⟨stored, hf, hp⟩ := hde
      rw [decide_eq_true_eq] at hp
      exact ⟨id, stored, find?_decline.trans hf, hp⟩

theorem storable_of_kept (h : s.Faithful p) (hk : Kept p s c) : Storable p s c := by
  refine ⟨fun swipe hsw hfst => ?_, ?_⟩
  · obtain ⟨id, stored, hp, -⟩ := hk.first swipe hsw hfst
    obtain ⟨hf, hbtw⟩ := pair?_some hp
    cases c with
    | accept connectionId now notified saved | decline connectionId now notified saved =>
      cases hsw
    | swipe a saved memberSaved =>
      by_contra hno
      have hnot : ∀ swipe ∈ Swipe.ofValue (swipeDirection a),
          s.swiped ∨ saved = false ∨ swipe = .left := by
        intro swipe' hsw'
        obtain rfl : swipe = swipe' := Option.mem_unique hsw hsw'
        by_contra ho
        push Not at ho
        obtain ⟨-, hs, hr⟩ := ho
        exact hno ⟨hr, (Bool.not_eq_false saved).mp hs⟩
      rw [find?_swipe_call h hnot] at hf
      exact h.none_yet hfst id stored hf hbtw
  · by_contra hde
    rw [Bool.not_eq_false] at hde
    obtain ⟨id, stored, hf, hbtw, hpe⟩ := declines_keeps hde
    exact hk.declined hde id stored hf hbtw hpe

theorem kept_of_storable (h : s.Faithful p) (hst : Storable p s c) : Kept p s c := by
  refine ⟨fun swipe hsw hf => ?_, fun swipe hsw hswi => ?_, fun hde => ?_⟩
  · cases c with
    | accept connectionId now notified saved | decline connectionId now notified saved =>
      cases hsw
    | swipe a saved memberSaved =>
      obtain ⟨hr, hs⟩ := hst.first swipe hsw hf
      obtain rfl : saved = true := hs
      have hfi := find?_first_swipe h memberSaved hsw hf hr s.db.connections.length
      rw [if_pos rfl] at hfi
      have hun := unique_step env h.unique ((PairCall.swipe a true memberSaved).call p)
      refine ⟨s.db.connections.length, _, pair?_of_find? hun hfi, ?_⟩
      cases swipe with
      | left => exact absurd rfl hr
      | right | super => rfl
  · exact swipe_refused h hswi hsw
  · rw [hst.declined] at hde
    cases hde

theorem kept_iff_storable (h : s.Faithful p) : Kept p s c ↔ Storable p s c :=
  ⟨storable_of_kept h, kept_of_storable h⟩

/-! ## Sequences of calls -/

/-- Swipes count once and declined requests are gone exactly when the first swipe is one to the
right and no pending request is declined. -/
theorem swipes_and_declines_kept_iff (p : Pair env) (db : Db) (hunique : db.Unique)
    (hnone : db.pair? p.member p.creator = none) (calls : List PairCall) :
    (Runs.Every (Tracked.step p) (Kept p) ⟨db, false, false⟩ calls
        ∧ Runs.Always (Tracked.step p) (NotAccepted p) ⟨db, false, false⟩ calls)
      ↔ Runs.Every (Tracked.step p) (Storable p) ⟨db, false, false⟩ calls := by
  have hst : Tracked.Faithful p ⟨db, false, false⟩ :=
    ⟨hunique, nofun, fun _ _ _ hf => pair?_none hnone hf, rfl⟩
  have hcal : Every (Tracked.step p) (Storable p) ⟨db, false, false⟩ calls
      ↔ Every (Tracked.step p) (Kept p) ⟨db, false, false⟩ calls :=
    every_iff_within (I := Tracked.Faithful p) (fun _ _ h hc => faithful_step h hc)
      (fun _ _ h => (kept_iff_storable h).symm) hst
  rw [← hcal]
  refine ⟨And.left, fun h => ⟨h, ?_⟩⟩
  have hfai : Always (Tracked.step p) (Tracked.Faithful p) ⟨db, false, false⟩ calls :=
    always_of_every (fun _ _ h hc => faithful_step h hc) hst h
  refine always_mono (fun s hs hdec => ?_) hfai
  exact absurd (hs.declined.symm.trans hdec) Bool.false_ne_true

def twoUsers : Env where
  memberOf user := if user = 0 then some 10 else none
  creatorOf user := if user = 1 then some 20 else none
  isCreator creator := creator = 20

def onePair : Pair twoUsers := ⟨0, 1, 10, 20, rfl, rfl⟩

def emptyDb : Db := .noConnections (fun _ => []) (fun _ => []) []

theorem unique_emptyDb : emptyDb.Unique := by
  intro i j a b ha
  cases ha

def swipeOf (action : String) : PairCall := .swipe (.str action) true true

theorem like_counts_once :
    emptyDb.pair? onePair.member onePair.creator = none
      ∧ Runs.Every (Tracked.step onePair) (Kept onePair) ⟨emptyDb, false, false⟩
        [swipeOf "like", swipeOf "pass", .accept (.id 0) 0 true true] := by
  refine ⟨rfl, ((swipes_and_declines_kept_iff onePair emptyDb unique_emptyDb rfl
    [swipeOf "like", swipeOf "pass", .accept (.id 0) 0 true true]).mpr ⟨?_, ?_, ?_, trivial⟩).1⟩
  · refine ⟨?_, rfl⟩
    rintro swipe ⟨⟩ _
    exact ⟨by decide, rfl⟩
  · exact ⟨fun swipe _ hno => absurd hno (by decide +kernel), rfl⟩
  · refine ⟨?_, rfl⟩
    rintro swipe ⟨⟩

/-- A pass is not stored, and the like after it is taken; the request is
declined, stays pending, and is accepted. -/
theorem declined_request_accepted : let calls : List PairCall :=
      [swipeOf "pass", swipeOf "like", .decline (.id 0) 0 true true, .accept (.id 0) 0 true true]
    (states (Tracked.step onePair) ⟨emptyDb, false, false⟩ calls).map
        (fun s => (s.swiped, s.declined, (s.db.find? 0).map (·.status)))
      = [(false, false, none), (true, false, none), (true, false, some .pending),
         (true, true, some .pending), (true, true, some .connected)]
      ∧ ¬ Every (Tracked.step onePair) (Kept onePair) ⟨emptyDb, false, false⟩ calls
      ∧ ¬ Always (Tracked.step onePair) (NotAccepted onePair) ⟨emptyDb, false, false⟩ calls := by
  refine ⟨by decide +kernel, fun h => ?_, fun h => ?_⟩
  · obtain ⟨id, stored, hp, -⟩ := h.1.first .left rfl rfl
    revert hp
    exact Option.some_ne_none (id, stored) ∘ Eq.symm
  · have hcon : ((final (Tracked.step onePair) ⟨emptyDb, false, false⟩
        [swipeOf "pass", swipeOf "like", .decline (.id 0) 0 true true,
         .accept (.id 0) 0 true true]).db.find? 0).any
          (fun c => decide (c.isBetween onePair ∧ c.status = .connected)) = true := by
      decide +kernel
    obtain ⟨c, hf, hc⟩ := (Option.any_eq_true ..).mp hcon
    obtain ⟨hbet, hsta⟩ := of_decide_eq_true hc
    exact h.last (by decide +kernel) 0 c hf hbet hsta

end SexySelfies.Connections
