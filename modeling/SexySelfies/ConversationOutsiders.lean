import SexySelfies.MessagingRequests

/-!
# What an outsider can change

Sending a message and entering a chat check that the caller takes part in the conversation. The
other requests make no such check: `mark_messages_read` resets a counter of any conversation,
`pinMessage` stamps any message and `clearConversation` removes all messages of any conversation.
-/

namespace SexySelfies.Messaging

open Platform Interleave Runs List

variable (s : Server)

def Server.view (id : Nat) : Option Conversation × List (Nat × Message) :=
  (s.conversations[id]?, s.messages.filter fun m => m.2.conversation = id)

def Server.NoneUnread (id user : Nat) : Prop :=
  ∀ m ∈ s.messages, m.2.unreadBy id user = false

def Server.Unaltered (id n : Nat) (f : Message → Message) : Prop :=
  ∀ m ∈ s.messages, m.1 = n → m.2.conversation = id → f m.2 = m.2

/-- The request meets nothing of the conversation to change. -/
def Harmless (env : Env) (id : Nat) (s : Server) : Request → Prop
  | .event k (.markMessagesRead text _) => env.castId text = some id →
      (∀ c : Conversation, s.conversations[id]? = some c →
        c.unread (env.account k).role.counter = 0) ∧ s.NoneUnread id (env.account k).id
  | .event k (.deleteMessage text now) => ∀ n m, env.castId text = some n →
      s.message? n = some m → m.sender = (env.account k).id → s.Unaltered id n (m.delete now)
  | .call a (.markAllAsRead text _) => env.castId text = some id → s.NoneUnread id a.id
  | .call a (.deleteMessage text now) => ∀ n m, env.castId text = some n →
      s.message? n = some m → m.sender = a.id → s.Unaltered id n (Message.stampDeleted now)
  | .call _ (.pinMessage text now) => ∀ n, env.castId text = some n →
      s.Unaltered id n (Message.touch now)
  | .call _ (.clearConversation text) => env.castId text = some id →
      ∀ m ∈ s.messages, m.2.conversation ≠ id
  | _ => True

/-! ## Operations on other conversations -/

def Op.spares (id : Nat) : Op → Prop
  | .createMessage m => m.conversation ≠ id
  | .saveSent n _ _ _ => n ≠ id
  | .saveRead n _ _ => n ≠ id
  | .markRead n _ _ _ => n ≠ id
  | .deleteMany n => n ≠ id
  | .saveDeleted _ _ _ => False
  | .saveDeletedAt _ _ => False
  | .touch _ _ => False
  | _ => True

variable {s : Server} {id : Nat}

def SameMessages (id : Nat) (s s' : Server) : Prop :=
  s'.messages.filter (fun m => m.2.conversation = id) =
    s.messages.filter fun m => m.2.conversation = id

variable {s' : Server}

theorem view_eq_iff : s'.view id = s.view id ↔
    s'.conversations[id]? = s.conversations[id]? ∧ SameMessages id s s' := Prod.ext_iff

theorem view_eq_iff_messages (s s' : Server) (h : s'.conversations = s.conversations) :
    s'.view id = s.view id ↔ SameMessages id s s' := by
  rw [view_eq_iff, h]
  exact and_iff_right rfl

theorem sameMessages_map_iff {f : Nat × Message → Nat × Message}
    (hms : s'.messages = s.messages.map f) (hf : ∀ m, (f m).2.conversation = m.2.conversation) :
    SameMessages id s s' ↔ ∀ m ∈ s.messages, m.2.conversation = id → f m = m := by
  rw [SameMessages, hms]
  induction s.messages with
  | nil => simp
  | cons m ms ih =>
    rw [map_cons, filter_cons, filter_cons, hf, forall_mem_cons, ← ih]
    by_cases hm : m.2.conversation = id
    · simp [hm]
    · simp [hm]

variable {n : Nat}

theorem view_modifyMessage_iff {f : Message → Message}
    (hf : ∀ m, (f m).conversation = m.conversation) :
    (s.modifyMessage n f).view id = s.view id ↔ s.Unaltered id n f := by
  refine (view_eq_iff_messages s (s.modifyMessage n f) rfl).trans ?_
  refine (sameMessages_map_iff rfl fun m => ?_).trans ⟨?_, ?_⟩
  · split
    · exact hf m.2
    · rfl
  · intro h m hm hn hid
    have heq := h m hm hid
    rw [if_pos hn] at heq
    exact congrArg Prod.snd heq
  · intro h m hm hid
    split
    · rename_i hn
      exact Prod.ext rfl (h m hm hn hid)
    · rfl

theorem unreadBy_iff {m : Message} {user : Nat} : m.unreadBy n user ↔
    m.conversation = n ∧ m.recipient = user ∧ m.read = false := by
  simp [Message.unreadBy, and_assoc]

theorem sameMessages_markRead_iff {user now : Nat} (hms : s'.messages = s.messages.map fun m =>
      if m.2.unreadBy n user then (m.1, m.2.markRead now) else m) :
    SameMessages id s s' ↔ (n = id → s.NoneUnread id user) := by
  refine (sameMessages_map_iff hms fun m => ?_).trans ⟨?_, ?_⟩
  · split <;> rfl
  · rintro h rfl m hm
    refine Bool.eq_false_iff.mpr fun hunr => ?_
    obtain ⟨hid, -, hr⟩ := unreadBy_iff.mp hunr
    have heq := h m hm hid
    rw [if_pos hunr] at heq
    have hr' : true = m.2.read := congrArg (fun m => m.2.read) heq
    cases hr.symm.trans hr'.symm
  · intro h m hm hid
    split
    · rename_i hunr
      obtain rfl : n = id := (unreadBy_iff.mp hunr).1.symm.trans hid
      exact absurd hunr (ne_true_of_eq_false (h rfl m hm))
    · rfl

theorem view_markRead_iff (user now : Nat) (cleared : Role → Nat) :
    (exec (.markRead n user now cleared) s).1.view id = s.view id ↔
    (n = id → s.NoneUnread id user) :=
  (view_eq_iff_messages s (exec (.markRead n user now cleared) s).1 rfl).trans
    (sameMessages_markRead_iff rfl)

theorem view_deleteMany_iff : (exec (.deleteMany n) s).1.view id = s.view id ↔
      (n = id → ∀ m ∈ s.messages, m.2.conversation ≠ id) := by
  have hms : (exec (.deleteMany n) s).1.messages =
      s.messages.filter fun m => m.2.conversation ≠ n := rfl
  rw [view_eq_iff_messages s (exec (.deleteMany n) s).1 rfl, SameMessages, hms, filter_filter]
  constructor
  · rintro h rfl m hm hid
    have hmem : m ∈ s.messages.filter fun m => m.2.conversation = n :=
      mem_filter.mpr ⟨hm, decide_eq_true hid⟩
    rw [← h] at hmem
    simp at hmem
  · intro h
    refine filter_congr fun m hm => ?_
    by_cases hid : m.2.conversation = id
    · have hn : ¬id = n := fun heq => h heq.symm m hm hid
      simp [hid, hn]
    · simp [hid]

theorem view_eq_of_conversation (h : s'.conversations[id]? = s.conversations[id]?)
    (hms : s'.messages = s.messages) : s'.view id = s.view id := by
  rw [view_eq_iff, SameMessages, hms]
  exact ⟨h, rfl⟩

theorem view_spares {o : Op} (ho : o.spares id) (hlt : id < s.conversations.length) :
    (exec o s).1.view id = s.view id := by
  cases o with
  | createMessage m =>
    have hm : m.conversation ≠ id := ho
    refine (view_eq_iff_messages s (exec (.createMessage m) s).1 rfl).mpr ?_
    rw [SameMessages, exec, filter_append]
    simp [hm]
  | insertConversation => exact view_eq_of_conversation (getElem?_append_left hlt) rfl
  | saveSent => exact view_eq_of_conversation (getElem?_modify_ne _ _ ho) rfl
  | saveRead => exact view_eq_of_conversation (getElem?_modify_ne _ _ ho) rfl
  | markRead n user now cleared =>
    exact (view_markRead_iff user now cleared).mpr fun h => absurd h ho
  | deleteMany => exact view_deleteMany_iff.mpr fun h => absurd h ho
  | saveDeleted n loaded now | saveDeletedAt n now | touch n now => exact ho.elim
  | _ => rfl

/-! ## Requests that check -/

variable {env : Env} {user : Nat} {c : Conversation}

abbrev Spares (id : Nat) (s : Server) (p : Handler) : Prop :=
  Keeps exec Eq (fun _ _ => True) (fun _ o => o.spares id) s p

variable {p : Handler}

theorem view_of_spares (hc : s.conversations[id]? = some c) (h : Spares id s p) :
    (p.run exec s).1.view id = s.view id := by
  refine run_of_keeps (I := fun s' => s'.view id = s.view id) (fun s' o hs' ho => ?_) rfl h
  have hc' : s'.conversations[id]? = some c := (congrArg Prod.fst hs').trans hc
  exact (view_spares ho (List.getElem?_eq_some_iff.mp hc').1).trans hs'

theorem spares_deliver (hn : n ≠ id) {sender recipient : Participant} {media : Bool} {now : Nat}
    {rest : Handler} (hr : ∀ s, Spares id s rest) :
    Spares id s (deliver n c sender recipient media now rest) :=
  fun _ _ _ => ⟨hn, fun _ _ _ => ⟨hn, hr _⟩⟩

theorem spares_sends {found : Option Conversation}
    (hf : n = id → ∀ c, found = some c → c.sender user = none) (h : Sends env user n found p) :
    Spares id s p := by
  have hn : ∀ {c : Conversation} {sender : Participant}, found = some c →
      c.sender user = some sender → n ≠ id := by
    intro c sender hc hsnd hid
    rw [hf hid c hc] at hsnd
    cases hsnd
  cases h with
  | refused => trivial
  | post media now x hsnd hrec =>
    refine spares_deliver (hn rfl hsnd) (fun s => ?_)
    trivial
  | broadcast now x hr hsnd hrec =>
    refine spares_deliver (hn rfl hsnd) (fun s => ?_)
    exact fun _ _ _ => ⟨trivial, trivial⟩

theorem spares_opens (h : Opens p) : Spares id s p := by
  cases h with
  | found => trivial
  | create => exact fun _ _ _ => ⟨trivial, trivial⟩

theorem spares_joins {so : Nat} {room : String} {found : Option Conversation}
    (h : Joins user so room found p) : Spares id s p := by
  cases h with
  | refused => trivial
  | join => exact fun _ _ _ => ⟨trivial, trivial⟩

theorem spares_departs {o : Op} (h : o.departs) : o.spares id := by
  cases o with
  | leaveRoom so room | disconnect so => trivial
  | _ => cases h

theorem spares_guarded {a : Account} (hc : s.conversations[id]? = some c) (hu : c.has a.id = false)
    (h : Guarded env a p) : Spares id s p := by
  cases h with
  | answer => trivial
  | create a t hope => exact fun _ _ _ => ⟨trivial, spares_opens (hope _)⟩
  | send a n hsen =>
    rintro s' rfl _
    refine ⟨trivial, spares_sends (fun hn c' hc' => ?_) (hsen _)⟩
    subst hn
    obtain rfl : c = c' := Option.mem_unique hc hc'
    rw [Conversation.sender, find?_eq_none]
    rwa [Conversation.has, any_eq_false] at hu
  | join so n hid hjoi => exact fun _ _ _ => ⟨trivial, spares_joins (hjoi _)⟩
  | depart a ho f => exact fun _ _ _ => ⟨spares_departs ho, trivial⟩

theorem view_guarded {a : Account} (hc : s.conversations[id]? = some c) (hu : c.has a.id = false)
    (h : Guarded env a p) : (p.run exec s).1.view id = s.view id :=
  view_of_spares hc (spares_guarded hc hu h)

/-! ## Every request -/

def step (env : Env) (s : Server) (r : Request) : Server := ((handle env r).run exec s).1

theorem resetUnread_eq_iff (role : Role) : c.resetUnread role c = c ↔ c.unread role = 0 := by
  rw [Conversation.resetUnread, assign_self]
  constructor
  · intro h
    rw [← h]
    cases role <;> rfl
  · intro h
    obtain ⟨participants, l, um, u, total⟩ := c
    cases role <;> cases h <;> rfl

def Server.rewriteOwn (s : Server) (n : Option Nat) (user : Nat) (f : Message → Message → Message) :
    Server :=
  match n with
  | none => s
  | some n =>
    match s.message? n with
    | none => s
    | some m => if m.sender = user then s.modifyMessage n (f m) else s

theorem view_rewriteOwn_iff {n : Option Nat} {f : Message → Message → Message}
    (hf : ∀ m m', (f m m').conversation = m'.conversation) :
    (s.rewriteOwn n user f).view id = s.view id ↔
      ∀ n' m, n = some n' → s.message? n' = some m → m.sender = user → s.Unaltered id n' (f m) := by
  cases n with
  | none => exact iff_of_true rfl fun n m h => by cases h
  | some n =>
    cases hm : s.message? n with
    | none =>
      rw [Server.rewriteOwn, hm]
      refine iff_of_true rfl fun n' m h hm' => ?_
      cases h
      rw [hm] at hm'
      cases hm'
    | some m =>
      have ho : (∀ n' m', some n = some n' → s.message? n' = some m' → m'.sender = user →
          s.Unaltered id n' (f m')) ↔ (m.sender = user → s.Unaltered id n (f m)) := by
        constructor
        · exact fun h => h n m rfl hm
        · intro h n' m' hn hm'
          cases hn
          obtain rfl := Option.mem_unique hm hm'
          exact h
      rw [ho, Server.rewriteOwn, hm]
      dsimp only
      split
      · rename_i hsnd
        exact (view_modifyMessage_iff (hf m)).trans (imp_iff_right hsnd).symm
      · rename_i hsnd
        exact iff_of_true rfl fun h => absurd h hsnd

variable {text : String} {now : Nat} {k : Nat}

theorem run_deleteSocketMessage : ((deleteSocketMessage env k text now).run exec s).1 =
      s.rewriteOwn (env.castId text) (env.account k).id fun m => m.delete now := by
  rw [deleteSocketMessage]
  cases env.castId text with
  | none => rfl
  | some n =>
    dsimp only
    rw [run_findMessage, Server.rewriteOwn]
    cases s.message? n with
    | none => rfl
    | some =>
      dsimp only
      split <;> rfl

variable {a : Account}

theorem run_deleteMessage : ((deleteMessage env a text now).run exec s).1 =
      s.rewriteOwn (env.castId text) a.id fun _ => Message.stampDeleted now := by
  rw [deleteMessage]
  cases env.castId text with
  | none => rfl
  | some n =>
    dsimp only
    rw [run_findMessage, Server.rewriteOwn]
    cases s.message? n with
    | none => rfl
    | some =>
      dsimp only
      split <;> rfl

theorem view_markAllAsRead_iff : ((markAllAsRead env a text now).run exec s).1.view id = s.view id ↔
      (env.castId text = some id → s.NoneUnread id a.id) := by
  rw [markAllAsRead]
  cases env.castId text with
  | none => exact iff_of_true rfl fun h => by cases h
  | some =>
    refine (view_markRead_iff a.id now fun _ => 0).trans ?_
    exact imp_congr_left Option.some_inj.symm

theorem view_pinMessage_iff : ((pinMessage env text now).run exec s).1.view id = s.view id ↔
      ∀ n, env.castId text = some n → s.Unaltered id n (Message.touch now) := by
  rw [pinMessage]
  cases env.castId text with
  | none => exact iff_of_true rfl fun n h => by cases h
  | some n =>
    refine (view_modifyMessage_iff (f := Message.touch now) fun _ => rfl).trans ?_
    exact ⟨fun h n' hn' => Option.some.inj hn' ▸ h, fun h => h n rfl⟩

theorem view_clearConversation_iff :
    ((clearConversation env text).run exec s).1.view id = s.view id ↔
      (env.castId text = some id → ∀ m ∈ s.messages, m.2.conversation ≠ id) := by
  rw [clearConversation]
  cases env.castId text with
  | none => exact iff_of_true rfl fun h => by cases h
  | some => exact view_deleteMany_iff.trans (imp_congr_left Option.some_inj.symm)

theorem view_markMessagesRead_iff (hc : s.conversations[id]? = some c) :
    ((markMessagesRead env k text now).run exec s).1.view id = s.view id ↔
      (env.castId text = some id →
        c.unread (env.account k).role.counter = 0 ∧ s.NoneUnread id (env.account k).id) := by
  rw [markMessagesRead]
  cases hid : env.castId text with
  | none => exact iff_of_true rfl fun h => by cases h
  | some n =>
    by_cases hn : n = id
    · subst hn
      dsimp only
      rw [run_findConversation, hc, imp_iff_right rfl, view_eq_iff, ← resetUnread_eq_iff]
      refine and_congr ?_ ((sameMessages_markRead_iff rfl).trans (imp_iff_right rfl))
      have hs : (s.conversations.modify n (c.resetUnread (env.account k).role.counter))[n]? =
            some (c.resetUnread (env.account k).role.counter c) :=
        Collection.getElem?_modify_self hc _
      exact (Eq.congr hs hc).trans (Option.some_inj)
    · refine iff_of_true (view_of_spares hc ?_) fun h => absurd (Option.some.inj h) hn
      intro s' _ _
      refine ⟨trivial, ?_⟩
      generalize (exec (.findConversation n) s').2 = found
      cases found with
      | none => exact fun _ _ _ => ⟨hn, trivial⟩
      | some => exact fun _ _ _ => ⟨hn, fun _ _ _ => ⟨hn, trivial⟩⟩

theorem view_step_iff (hc : s.conversations[id]? = some c) {r : Request}
    (hu : c.has (r.account env).id = false) :
    (step env s r).view id = s.view id ↔ Harmless env id s r := by
  cases r with
  | event k e =>
    cases e with
    | joinChat text => exact iff_of_true (view_guarded hc hu (guarded_joinChat env k text)) trivial
    | leaveChat => exact iff_of_true rfl trivial
    | sendMessage text content rt now =>
      exact iff_of_true (view_guarded hc hu (guarded_sendMessage env k text content rt now)) trivial
    | markMessagesRead =>
      refine (view_markMessagesRead_iff hc).trans ?_
      refine imp_congr_right fun _ => and_congr_left fun _ => ?_
      rw [hc]
      exact ⟨fun h c' hc' => Option.some.inj hc' ▸ h, fun h => h c rfl⟩
    | deleteMessage =>
      rw [step, handle, run_deleteSocketMessage]
      exact view_rewriteOwn_iff fun _ _ => rfl
    | typing text | disconnect => exact iff_of_true rfl trivial
  | call a call =>
    cases call with
    | createOrGetConversation ui username u =>
      exact iff_of_true (view_guarded hc hu
        (guarded_createOrGetConversation env a ui username u)) trivial
    | sendMessageToConversation text content media now =>
      exact iff_of_true (view_guarded hc hu
        (guarded_sendMessageToConversation env a text content media now)) trivial
    | markAllAsRead => exact view_markAllAsRead_iff
    | deleteMessage =>
      rw [step, handle, run_deleteMessage]
      exact view_rewriteOwn_iff fun _ _ => rfl
    | pinMessage => exact view_pinMessage_iff
    | clearConversation => exact view_clearConversation_iff

/-- Whoever takes no part in the conversation leaves it and its messages as they were exactly when
every request is harmless. -/
theorem outsider_changes_nothing_iff (env : Env) (s : Server) (id user : Nat) (c : Conversation)
    (hc : s.conversations[id]? = some c) (hu : c.has user = false)
    (rs : List { r : Request // (r.account env).id = user }) :
    Always (fun s r => step env s r.1) (fun s' => s'.view id = s.view id) s rs ↔
      Every (fun s r => step env s r.1) (fun s r => Harmless env id s r.1) s rs := by
  refine always_iff_every (fun s' r hs' => ?_) rfl
  have hc' : s'.conversations[id]? = some c := (congrArg Prod.fst hs').trans hc
  have hus : c.has (r.1.account env).id = false := by
    rw [r.2]
    exact hu
  rw [← hs']
  exact view_step_iff hc' hus

def Env.watched : Env where
  castId text := some (if text = "first" then 0 else 1)
  account _ := ⟨3, .creator⟩
  members := []
  creators := []

def Server.watched : Server :=
  .start
    [⟨[⟨1, .member, .member⟩, ⟨2, .creator, .creator⟩], some 0, 0, 1, 1⟩,
      .new [⟨1, .member, .member⟩, ⟨3, .creator, .creator⟩]]
    [(0, ⟨0, 1, .member, 2, .creator, false, false, false, none, 5⟩)] [0] 1

theorem outsider_refused :
    Always (fun s (r : { r : Request // (r.account .watched).id = 3 }) => step .watched s r.1)
      (fun s' => s'.view 0 = Server.watched.view 0) .watched
      [⟨.event 0 (.joinChat "first"), rfl⟩,
        ⟨.event 0 (.sendMessage "first" (.str "hi") .null 6), rfl⟩,
        ⟨.call ⟨3, .creator⟩ (.clearConversation "second"), rfl⟩] := by
  refine (outsider_changes_nothing_iff .watched .watched 0 3 _ rfl rfl _).mpr
    ⟨trivial, trivial, fun h => ?_, trivial⟩
  exact absurd h (by decide)

theorem outsider_clears_conversation :
    (∃ c, Server.watched.conversations[0]? = some c ∧ c.has 3 = false) ∧
    (step .watched .watched (.event 0 (.markMessagesRead "first" 6))).conversations.map
      (·.unreadCreator) = [0, 0] ∧
    (step .watched .watched (.call ⟨3, .creator⟩ (.pinMessage "first" 6))).messages.map
      (·.2.updatedAt) = [6] ∧
    (step .watched .watched (.call ⟨3, .creator⟩ (.clearConversation "first"))).messages = [] ∧
    ¬Always (fun s (r : { r : Request // (r.account .watched).id = 3 }) => step .watched s r.1)
      (fun s' => s'.view 0 = Server.watched.view 0) .watched
      [⟨.call ⟨3, .creator⟩ (.clearConversation "first"), rfl⟩] := by
  refine ⟨⟨_, rfl, rfl⟩, by decide +kernel, by decide +kernel, by decide +kernel, fun h => ?_⟩
  exact absurd h.last (by decide +kernel)

end SexySelfies.Messaging
