import SexySelfies.MessagingModel

/-!
# One conversation for a member and a creator

`createOrGetConversation` looks for a conversation of the caller's *account* with the target it was
given, and otherwise stores the two as its participants. The target is the id of the other's
*profile*, but whoever joins a chat or sends a message is recognised by account.
-/

namespace SexySelfies.Messaging

open Js Platform Interleave Runs List

/-! ## A member and a creator -/

def Role.other : Role → Role
  | .member => .creator
  | .creator => .member

theorem Role.other_other (role : Role) : role.other.other = role := by cases role <;> rfl

def Role.model : Role → UserModel
  | .member => .member
  | .creator => .creator

def Role.modelName : Role → String
  | .member => "Member"
  | .creator => "Creator"

def Role.account : Role → AccountRole
  | .member => .member
  | .creator => .creator

theorem role_cases (role role' : Role) : role' = role ∨ role' = role.other := by
  cases role <;> cases role' <;> decide

structure Pair where
  member : Member
  creator : Creator

namespace Pair

variable (w : Pair)

def user : Role → Nat
  | .member => w.member.user
  | .creator => w.creator.user

def profile : Role → Nat
  | .member => w.member.id
  | .creator => w.creator.id

def username : Role → Option String
  | .member => some w.member.username
  | .creator => w.creator.username

variable (role : Role)

def account : Account := ⟨w.user role, role.account⟩

theorem account_id : (w.account role).id = w.user role := rfl

def participant : Participant := ⟨w.user role, role.model, role⟩

def takesPart (c : Conversation) (role : Role) : Bool :=
  c.has (w.user role) || c.has (w.profile role)

def between (c : Conversation) : Bool := w.takesPart c .member && w.takesPart c .creator

end Pair

/-- The pair as registered users: the creator can be written to, the usernames
of members are unique, and documents of different people have different ids. -/
structure Site extends Pair where
  env : Env
  member_mem : member ∈ env.members
  creator_mem : creator ∈ env.creators
  available : creator.available = true
  usernames : ∀ m ∈ env.members, m.username = member.username → m = member
  apart : ∀ x ∈ [member.user, member.id], ∀ y ∈ [creator.user, creator.id], x ≠ y
  others : ∀ c ∈ env.creators, c.id = creator.id ∨ c.id ∉ [member.user, creator.user]
  text : ∀ id : Nat, ∃ text : String, env.castId text = some id
  socket : ∀ role, ∃ k, env.account k = toPair.account role

namespace Site

variable (w : Site)

def Names (role : Role) : Option String → Option String → Prop
  | some text, _ => text ≠ "" ∧ w.env.castId text = some (w.profile role)
  | none, some name => w.username role = some name
  | none, none => False

structure Ask where
  caller : Role
  userId : Option String
  username : Option String
  names : w.Names caller.other userId username

variable {w}

def Ask.request (a : w.Ask) : Request :=
  .call (w.account a.caller)
    (.createOrGetConversation a.userId a.username (some a.caller.other.modelName))

def Ask.target (a : w.Ask) : Except Answer Nat :=
  w.env.target a.userId a.username (some a.caller.other.modelName)

variable (w) (s : Server)

def run (a : w.Ask) : Server × Answer := (handle w.env a.request).run exec s

def step (a : w.Ask) : Server := (w.run s a).1

/-! ## What a call is for -/

/-- The person of that role can enter the chat and send messages both ways. -/
structure CanUse (s : Server) (id : Nat) (role : Role) : Prop where
  join : ∀ text k, w.env.castId text = some id → w.env.account k = w.account role →
    ((handle w.env (.event k (.joinChat text))).run exec s).2 = .emit "chat_joined" ""
  send : ∀ text k, w.env.castId text = some id → w.env.account k = w.account role →
    ∀ content replyTo now, acceptsMessage w.env.castId content replyTo = true →
      ((handle w.env (.event k (.sendMessage text content replyTo now))).run exec s).2 =
        .emit "message_sent" ""
  post : ∀ text, w.env.castId text = some id →
    ∀ content media now body, textToSend content media = .ok (some body) →
      utf16Length body ≤ 1000 →
      ((handle w.env (.call (w.account role)
        (.sendMessageToConversation text content media now))).run exec s).2 = .http 201 ""

/-- After the call one conversation is stored between the two, the call answered
it, it has one participant of each role, and both can use it. -/
def Served (a : w.Ask) : Prop :=
  (w.step s a).conversations.countP w.between ≤ 1 ∧
  ∃ id c, (w.run s a).2 = .conversation id ∧ (w.step s a).conversations[id]? = some c ∧
    w.between c = true ∧
    (∀ role, c.participants.countP (fun p => p.role = role) = 1) ∧
    ∀ role, w.CanUse (w.step s a) id role

/-- The call resolves to the other's profile, whose id is that of the account. -/
def Recognises (a : w.Ask) : Prop :=
  a.target = .ok (w.profile a.caller.other) ∧
    w.profile a.caller.other = w.user a.caller.other

end Site

/-! ## What the handlers answer -/

variable {env : Env} {s : Server} {text : String} {id : Nat} {c : Conversation}

theorem run_joinChat (hid : env.castId text = some id) (hc : s.conversations[id]? = some c)
    (k : Nat) : ((joinChat env k text).run exec s).2 =
      if c.has (env.account k).id then .emit "chat_joined" ""
      else .emit "error" "Access denied to this chat" := by
  rw [joinChat, hid]
  dsimp only
  rw [run_findConversation, hc]
  dsimp only
  split <;> rfl

section

variable {recipient sender : Participant}

theorem run_deliver {media : Bool} {now : Nat} {rest : Handler} {answer : Answer}
    (hr : ∀ s, (rest.run exec s).2 = answer) :
    ((deliver id c sender recipient media now rest).run exec s).2 = answer := hr _

theorem run_sendMessage (hid : env.castId text = some id) (hc : s.conversations[id]? = some c)
    {k : Nat} (hsnd : c.sender (env.account k).id = some sender)
    (hrec : c.recipient (env.account k).id = some recipient) {content r : Value}
    (hok : acceptsMessage env.castId content r) (now : Nat) :
    ((sendMessage env k text content r now).run exec s).2 = .emit "message_sent" "" := by
  rw [sendMessage, hid]
  dsimp only
  rw [run_findConversation, hc]
  dsimp only
  rw [hsnd, hrec]
  dsimp only
  rw [if_pos hok]
  exact run_deliver (fun _ => rfl)

theorem run_sendMessageToConversation (hid : env.castId text = some id)
    (hc : s.conversations[id]? = some c) {account : Account}
    (hsnd : c.sender account.id = some sender)
    (hrec : c.recipient account.id = some recipient) {content : Value} {media : Nat}
    {body : String} (hb : textToSend content media = .ok (some body))
    (hlen : utf16Length body ≤ 1000) (now : Nat) :
    ((sendMessageToConversation env account text content media now).run exec s).2 =
      .http 201 "" := by
  rw [sendMessageToConversation, hb, hid]
  dsimp only
  rw [run_findConversation, hc]
  dsimp only
  rw [hsnd, hrec]
  dsimp only
  rw [if_pos hlen]
  exact run_deliver (fun _ => rfl)

end

/-! ## Whom a call is about -/

variable {username userModel : Option String} {t : Nat}

theorem target_error {u : Option String} {e : Answer}
    (h : env.target u username userModel = .error e) : e ≠ .conversation id := by
  rintro rfl
  rw [Env.target] at h
  split at h
  · cases h
  · split at h
    · split at h <;> cases h
    · split at h <;> cases h
    · cases h
  · split at h
    · cases h
    · split at h
      · split at h <;> cases h
      · split at h <;> cases h
      · cases h

theorem target_of_id (hte : text ≠ "") (hid : env.castId text = some id)
    (h : env.target (some text) username userModel = .ok t) : t = id := by
  have hfi : (some text).filter (· ≠ "") = some text := by simp [hte]
  rw [Env.target, hfi] at h
  dsimp only at h
  rw [hid] at h
  dsimp only at h
  split at h
  · split at h
    · exact (Except.ok.inj h).symm
    · cases h
  · split at h
    · exact (Except.ok.inj h).symm
    · cases h
  · exact (Except.ok.inj h).symm

theorem target_of_name {name : String} (h : env.target none (some name) userModel = .ok t) :
    (∃ c ∈ env.creators, c.id = t ∧ userModel = some "Creator") ∨
      ∃ m ∈ env.members, m.username = name ∧ m.id = t ∧ userModel = some "Member" := by
  rw [Env.target] at h
  split at h
  · cases h
  · rename_i name' _ hn
    obtain ⟨-, rfl⟩ : name ≠ "" ∧ name = name' := by simpa [Option.filter] using hn
    split at h
    · split at h
      · rename_i c hc
        exact .inl ⟨c, mem_of_find?_eq_some hc, Except.ok.inj h, rfl⟩
      · cases h
    · split at h
      · rename_i m hm
        have hu := find?_some hm
        exact .inr ⟨m, mem_of_find?_eq_some hm, of_decide_eq_true hu, Except.ok.inj h, rfl⟩
      · cases h
    · cases h
  · rename_i h' 
    cases h'

namespace Site

variable {w : Site} {role : Role}

theorem user_ne : w.user role ≠ w.user role.other := by
  have h : w.member.user ≠ w.creator.user := w.apart _ mem_cons_self _ mem_cons_self
  cases role with
  | member => exact h
  | creator => exact h.symm

theorem profile_ne : w.profile role.other ≠ w.user role := by
  have hmb : w.member.user ≠ w.creator.id := w.apart _ (by simp) _ (by simp)
  have hcr : w.member.id ≠ w.creator.user := w.apart _ (by simp) _ (by simp)
  cases role with
  | member => exact hmb.symm
  | creator => exact hcr

theorem modelName_inj {role role' : Role} (h : role.modelName = role'.modelName) :
    role = role' := by
  cases role <;> cases role' <;> first | rfl | exact absurd h (by decide)

variable {a : w.Ask}

theorem target_cases (ht : a.target = .ok t) :
    t = w.profile a.caller.other ∨ ∀ role, t ≠ w.user role := by
  obtain ⟨caller, u, username, names⟩ := a
  cases u with
  | some => exact .inl (target_of_id names.1 names.2 ht)
  | none =>
    cases username with
    | none => cases names
    | some name =>
      rcases target_of_name ht with ⟨c, hc, rfl, hmod⟩ | ⟨m, hm, hn, rfl, hmod⟩
      · have hr : caller.other = .creator := modelName_inj (Option.some.inj hmod)
        rw [hr]
        rcases w.others c hc with h | h
        · exact .inl h
        · refine .inr fun role hr => h ?_
          cases role with
          | member => exact hr ▸ mem_cons_self
          | creator => exact hr ▸ mem_cons_of_mem _ mem_cons_self
      · have hr : caller.other = .member := modelName_inj (Option.some.inj hmod)
        rw [hr] at names ⊢
        have hmb : w.member.username = name := Option.some.inj names
        rw [w.usernames m hm (hn.trans hmb.symm)]
        exact .inl rfl

theorem handle_request :
    handle w.env a.request = createOrGetConversation w.env (w.account a.caller) a.userId
    a.username (some a.caller.other.modelName) := rfl

theorem run_of_error {e : Answer} (h : a.target = .error e) : w.run s a = (s, e) := by
  rw [Ask.target] at h
  rw [run, handle_request, createOrGetConversation, h]
  rfl

def Ask.participants (a : w.Ask) (t : Nat) : List Participant :=
  [w.participant a.caller, ⟨t, a.caller.other.model, a.caller.other⟩]

theorem not_both_creators :
    ¬((w.account role).role.model = .creator ∧ some role.other.modelName = some "Creator") := by
  cases role with
  | member => exact fun h => absurd h.1 UserModel.noConfusion
  | creator => exact fun h => absurd (Option.some.inj h.2) (by decide)

theorem not_both_members :
    ¬((w.account role).role.model = .member ∧ some role.other.modelName = some "Member") := by
  cases role with
  | member => exact fun h => absurd (Option.some.inj h.2) (by decide)
  | creator => exact fun h => absurd h.1 UserModel.noConfusion

theorem newParticipants_ask :
    newParticipants (w.account a.caller) t (some a.caller.other.modelName) =
      some (a.participants t) := by
  obtain ⟨caller, u, username, names⟩ := a
  cases caller <;> rfl

theorem run_findBetween (user user' : Nat) (f : Option Nat → Handler) :
    (findBetween user user' >>= f).run exec s =
    (f (s.conversations.findIdx? fun c => c.has user && c.has user')).run exec s := rfl

theorem run_of_found (h : a.target = .ok t)
    (hf : s.conversations.findIdx? (fun c => c.has (w.user a.caller) && c.has t) = some id) :
    w.run s a = (s, .conversation id) := by
  rw [Ask.target] at h
  rw [run, handle_request, createOrGetConversation, h]
  dsimp only
  rw [if_neg not_both_creators, if_neg not_both_members, run_findBetween, Pair.account_id, hf]
  rfl

theorem run_of_missing (h : a.target = .ok t)
    (hn : s.conversations.findIdx? (fun c => c.has (w.user a.caller) && c.has t) = none) :
    w.run s a =
    ({ s with conversations := s.conversations ++ [Conversation.new (a.participants t)] },
        .conversation s.conversations.length) := by
  rw [Ask.target] at h
  rw [run, handle_request, createOrGetConversation, h]
  dsimp only
  rw [if_neg not_both_creators, if_neg not_both_members, run_findBetween, Pair.account_id, hn]
  dsimp only
  rw [newParticipants_ask]
  rfl

/-! ## Conversations both accounts recognise -/

def Sound (w : Site) (c : Conversation) : Prop :=
  ∃ role : Role, c.participants = [w.participant role, w.participant role.other]

theorem has_pair {p q : Participant} (h : c.participants = [p, q]) (u : Nat) :
    c.has u ↔ p.user = u ∨ q.user = u := by
  rw [Conversation.has, h]
  simp

theorem Sound.has_iff (h : w.Sound c) (u : Nat) : c.has u ↔ ∃ role, w.user role = u := by
  obtain ⟨r, hp⟩ := h
  rw [has_pair hp]
  constructor
  · rintro (h | h)
    · exact ⟨r, h⟩
    · exact ⟨r.other, h⟩
  · rintro ⟨role, h⟩
    rcases role_cases r role with rfl | rfl
    · exact .inl h
    · exact .inr h

theorem between_of_has (role : Role) (h : c.has (w.user role))
    (h' : c.has (w.user role.other)) : w.between c := by
  have ht : ∀ r, c.has (w.user r) → w.takesPart c r :=
    fun r hr => Bool.or_eq_true_iff.mpr (.inl hr)
  cases role with
  | member => exact Bool.and_eq_true_iff.mpr ⟨ht _ h, ht _ h'⟩
  | creator => exact Bool.and_eq_true_iff.mpr ⟨ht _ h', ht _ h⟩

theorem Sound.between (h : w.Sound c) : w.between c :=
  between_of_has .member ((h.has_iff _).mpr ⟨_, rfl⟩) ((h.has_iff _).mpr ⟨_, rfl⟩)

theorem Sound.count (h : w.Sound c) (role : Role) :
    c.participants.countP (fun p => p.role = role) = 1 := by
  obtain ⟨r, hp⟩ := h
  rw [hp]
  cases r <;> cases role <;> rfl

theorem Sound.sender (h : w.Sound c) (role : Role) :
    c.sender (w.user role) = some (w.participant role) := by
  obtain ⟨r, hp⟩ := h
  rw [Conversation.sender, hp]
  rcases role_cases r role with rfl | rfl
  · exact find?_cons_of_pos (decide_eq_true rfl)
  · refine (find?_cons_of_neg ?_).trans (find?_cons_of_pos (decide_eq_true rfl))
    exact ne_true_of_eq_false (decide_eq_false user_ne)

theorem Sound.recipient (h : w.Sound c) (role : Role) :
    c.recipient (w.user role) = some (w.participant role.other) := by
  obtain ⟨r, hp⟩ := h
  rw [Conversation.recipient, hp]
  rcases role_cases r role with rfl | rfl
  · rw [find?_cons_of_neg (by simp [Pair.participant])]
    exact find?_cons_of_pos (decide_eq_true user_ne.symm)
  · rw [Role.other_other]
    exact find?_cons_of_pos (decide_eq_true user_ne)

theorem Sound.canUse (h : w.Sound c) (hc : s.conversations[id]? = some c) (role : Role) :
    w.CanUse s id role where
  join text k hid hk := by
    have hhas : c.has (w.env.account k).id := by
      rw [hk]
      exact (h.has_iff _).mpr ⟨role, rfl⟩
    exact (run_joinChat hid hc k).trans (if_pos hhas)
  send text k hid hk content replyTo now hok := by
    have hsnd := h.sender role
    have hrec := h.recipient role
    rw [← Pair.account_id, ← hk] at hsnd hrec
    exact run_sendMessage hid hc hsnd hrec hok now
  post text hid content media now body hb hlen :=
    run_sendMessageToConversation hid hc (h.sender role) (h.recipient role) hb hlen now

theorem CanUse.has {role : Role} (h : w.CanUse s id role) (hc : s.conversations[id]? = some c) :
    c.has (w.user role) := by
  obtain ⟨text, hte⟩ := w.text id
  obtain ⟨k, hk⟩ := w.socket role
  have hjo := (run_joinChat hte hc k).symm.trans (h.join text k hte hk)
  rw [hk] at hjo
  by_contra hhas
  rw [Pair.account_id, if_neg hhas] at hjo
  exact absurd hjo (by decide)

/-- At most one conversation of the pair, and a sound one. -/
def Ready (w : Site) (s : Server) : Prop :=
  s.conversations.countP w.between ≤ 1 ∧
    ∀ c ∈ s.conversations, w.between c = true → w.Sound c

theorem served_of_sound (hone : (w.step s a).conversations.countP w.between ≤ 1)
    (hans : (w.run s a).2 = .conversation id) (hc : (w.step s a).conversations[id]? = some c)
    (hs : w.Sound c) : w.Served s a := ⟨hone, id, c, hans, hc, hs.between, hs.count, hs.canUse hc⟩

theorem found_of_findIdx? {xs : List Conversation} {p : Conversation → Bool}
    (h : xs.findIdx? p = some id) : ∃ c, xs[id]? = some c ∧ p c := by
  obtain ⟨hlt, hp, -⟩ := findIdx?_eq_some_iff_getElem.mp h
  exact ⟨xs[id], getElem?_eq_getElem hlt, hp⟩

theorem ready_step_found {s : Server} {id : Nat} (hs : w.Ready s)
    (htgt : a.target = .ok (w.user a.caller.other)) (hf : (s.conversations.findIdx? fun c =>
      c.has (w.user a.caller) && c.has (w.user a.caller.other)) = some id) :
    w.Ready (w.step s a) ∧ w.Served s a := by
  obtain ⟨hone, hsd⟩ := hs
  have hrun := run_of_found htgt hf
  have hst : w.step s a = s := congrArg Prod.fst hrun
  obtain ⟨c, hc, hhas⟩ := found_of_findIdx? hf
  obtain ⟨h, h'⟩ := Bool.and_eq_true_iff.mp hhas
  have hbtw := between_of_has _ h h'
  refine ⟨?_, served_of_sound ?_ (congrArg Prod.snd hrun) ?_ (hsd c (mem_of_getElem? hc) hbtw)⟩
  · rw [hst]
    exact ⟨hone, hsd⟩
  · rwa [hst]
  · rwa [hst]

theorem not_between_of_missing {s : Server} (hs : w.Ready s)
    (hf : (s.conversations.findIdx? fun c =>
      c.has (w.user a.caller) && c.has (w.user a.caller.other)) = none) :
    ∀ c ∈ s.conversations, ¬w.between c := by
  intro c hc hbtw
  have hc' := hs.2 c hc hbtw
  have hbo := Bool.and_eq_true_iff.mpr ⟨(hc'.has_iff (w.user a.caller)).mpr ⟨_, rfl⟩,
      (hc'.has_iff (w.user a.caller.other)).mpr ⟨_, rfl⟩⟩
  exact absurd hbo (ne_true_of_eq_false (findIdx?_eq_none_iff.mp hf c hc))

theorem ready_step_missing {s : Server} (hs : w.Ready s)
    (htgt : a.target = .ok (w.user a.caller.other)) (hf : (s.conversations.findIdx? fun c =>
      c.has (w.user a.caller) && c.has (w.user a.caller.other)) = none) :
    w.Ready (w.step s a) ∧ w.Served s a := by
  have hrun := run_of_missing htgt hf
  have hst : (w.step s a).conversations =
      s.conversations ++ [Conversation.new (a.participants (w.user a.caller.other))] :=
    congrArg (fun x => x.1.conversations) hrun
  have hn := not_between_of_missing hs hf
  have hnew : w.Sound (Conversation.new (a.participants (w.user a.caller.other))) := ⟨a.caller, rfl⟩
  have hcnt : (w.step s a).conversations.countP w.between ≤ 1 := by
    rw [hst, countP_append, countP_eq_zero.mpr hn, Nat.zero_add]
    exact countP_le_length
  refine ⟨⟨hcnt, ?_⟩, served_of_sound hcnt (congrArg Prod.snd hrun) ?_ hnew⟩
  · intro c hc hbtw
    rw [hst] at hc
    rcases mem_append.mp hc with hc | hc
    · exact absurd hbtw (hn c hc)
    · rwa [mem_singleton.mp hc]
  · rw [hst]
    exact getElem?_concat_length

theorem ready_step (hs : w.Ready s) (ha : w.Recognises a) :
    w.Ready (w.step s a) ∧ w.Served s a := by
  obtain ⟨htgt, hsm⟩ := ha
  rw [hsm] at htgt
  cases hf : s.conversations.findIdx? fun c =>
      c.has (w.user a.caller) && c.has (w.user a.caller.other) with
  | some id => exact ready_step_found hs htgt hf
  | none => exact ready_step_missing hs htgt hf

theorem not_served {s : Server} {t : Nat} (hs : w.Ready s) (htgt : a.target = .ok t)
    (hnob : ∀ role, t ≠ w.user role) : ¬w.Served s a := by
  rintro ⟨-, id, c, hans, hc, hbtw, -, huse⟩
  cases hf : s.conversations.findIdx? fun c => c.has (w.user a.caller) && c.has t with
  | some found =>
    have hrun := run_of_found htgt hf
    have hst : w.step s a = s := congrArg Prod.fst hrun
    obtain rfl : found = id := Answer.conversation.inj ((congrArg Prod.snd hrun).symm.trans hans)
    obtain ⟨c', hc', hhas⟩ := found_of_findIdx? hf
    rw [hst, hc'] at hc
    obtain rfl := Option.some.inj hc
    obtain ⟨role, hr⟩ := ((hs.2 c' (mem_of_getElem? hc') hbtw).has_iff t).mp
      (Bool.and_eq_true_iff.mp hhas).2
    exact hnob role hr.symm
  | none =>
    have hrun := run_of_missing htgt hf
    have hst : (w.step s a).conversations =
        s.conversations ++ [Conversation.new (a.participants t)] :=
      congrArg (fun x => x.1.conversations) hrun
    obtain rfl : s.conversations.length = id :=
      Answer.conversation.inj ((congrArg Prod.snd hrun).symm.trans hans)
    have ho := (huse a.caller.other).has hc
    rw [hst, getElem?_concat_length] at hc
    cases hc
    rcases (has_pair rfl _).mp ho with h | h
    · exact user_ne h
    · exact hnob _ h

theorem recognises_of_served (hs : w.Ready s) (h : w.Served s a) : w.Recognises a := by
  cases htgt : a.target with
  | error =>
    obtain ⟨-, id, -, hans, -⟩ := h
    rw [run_of_error htgt] at hans
    exact absurd hans (target_error htgt)
  | ok =>
    rcases target_cases htgt with rfl | hnob
    · refine ⟨htgt, ?_⟩
      by_contra hne
      refine not_served hs htgt (fun role => ?_) h
      rcases role_cases a.caller role with rfl | rfl
      · exact profile_ne
      · exact hne
    · exact absurd h (not_served hs htgt hnob)

/-- The pair has no conversation yet. -/
def Strangers (w : Site) (s : Server) : Prop := ∀ c ∈ s.conversations, w.between c = false

theorem Strangers.ready (h : w.Strangers s) : w.Ready s := by
  constructor
  · rw [countP_eq_zero.mpr fun c hc => ne_true_of_eq_false (h c hc)]
    exact Nat.zero_le 1
  · intro c hc hbtw
    exact absurd hbtw (ne_true_of_eq_false (h c hc))

end Site

/-- Between strangers, every call is served exactly when every call resolves to
the other's profile and the profile's id is that of the account. -/
theorem calls_served_iff (w : Site) (s : Server) (hs : w.Strangers s) (asks : List w.Ask) :
    Every w.step w.Served s asks ↔ ∀ a ∈ asks, w.Recognises a := by
  have hiff : Every w.step w.Served s asks ↔ Every w.step (fun _ a => w.Recognises a) s asks :=
    every_iff_within (I := w.Ready)
      (fun s a hr h => (Site.ready_step hr (Site.recognises_of_served hr h)).1)
      (fun s a hr => ⟨Site.recognises_of_served hr, fun h => (Site.ready_step hr h).2⟩) hs.ready
  exact hiff.trans every_iff_forall

def Site.alone (w : Pair) (available : w.creator.available = true)
    (apart : ∀ x ∈ [w.member.user, w.member.id], ∀ y ∈ [w.creator.user, w.creator.id], x ≠ y) :
    Site where
  toPair := w
  env :=
    { castId := fun text => some text.toList.length
      account := fun k => w.account (if k = 0 then .member else .creator)
      members := [w.member]
      creators := [w.creator] }
  member_mem := List.mem_singleton.mpr rfl
  creator_mem := List.mem_singleton.mpr rfl
  available := available
  usernames m hm _ := List.mem_singleton.mp hm
  apart := apart
  others c hc := .inl (congrArg Creator.id (List.mem_singleton.mp hc))
  text id := ⟨String.ofList (List.replicate id 'x'), by simp⟩
  socket role := by
    cases role with
    | member => exact ⟨0, rfl⟩
    | creator => exact ⟨1, rfl⟩

theorem calls_served_same_ids :
    let w := Site.alone ⟨⟨1, 1, "mia"⟩, ⟨3, 3, some "cora", true, false⟩⟩ rfl (by decide)
    w.Strangers (.start [] [] [] 2) ∧ Every w.step w.Served (.start [] [] [] 2)
        [⟨.member, none, some "cora", rfl⟩, ⟨.creator, none, some "mia", rfl⟩] := by
  intro w
  have hs : w.Strangers (.start [] [] [] 2) := fun c hc => absurd hc not_mem_nil
  refine ⟨hs, (calls_served_iff w _ hs _).mpr fun a ha => ?_⟩
  rcases mem_cons.mp ha with rfl | ha
  · exact ⟨rfl, rfl⟩
  · obtain rfl := mem_singleton.mp ha
    exact ⟨rfl, rfl⟩

def Site.sample : Site :=
  .alone ⟨⟨2, 1, "mia"⟩, ⟨4, 3, some "cora", true, false⟩⟩ rfl (by decide)

def Site.askCora : Site.sample.Ask := ⟨.member, none, some "cora", rfl⟩

def Site.askMia : Site.sample.Ask := ⟨.creator, none, some "mia", rfl⟩

/-- The member calls about the creator, then the creator about the member: there
are two conversations, and the creator cannot enter the first. -/
theorem second_conversation_created :
    Site.sample.Strangers (.start [] [] [] 2) ∧
    ¬Every Site.sample.step Site.sample.Served (.start [] [] [] 2) [Site.askCora, Site.askMia] ∧
    (final Site.sample.step (.start [] [] [] 2) [Site.askCora, Site.askMia]).conversations.countP
      Site.sample.between = 2 ∧
    ((handle Site.sample.env (.event 1 (.joinChat ""))).run exec
      (final Site.sample.step (.start [] [] [] 2) [Site.askCora])).2 =
        .emit "error" "Access denied to this chat" := by
  have htwo : (final Site.sample.step (.start [] [] [] 2)
      [Site.askCora, Site.askMia]).conversations.countP Site.sample.between = 2 := by
    decide +kernel
  refine ⟨fun c hc => absurd hc not_mem_nil, fun h => ?_, htwo, by decide +kernel⟩
  obtain ⟨-, ⟨hone, -⟩, -⟩ := h
  exact absurd (htwo.symm.trans_le hone) (by decide)

end SexySelfies.Messaging
