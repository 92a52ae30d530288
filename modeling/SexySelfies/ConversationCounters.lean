import SexySelfies.MessagingRequests

/-!
# The counters of a conversation

A conversation stores for each role how many messages are unread, and how many were ever sent. Each
counter differs from what it should count by its `gap`, and a handler whose operations are `Careful`
moves no gap.
-/

namespace SexySelfies.Messaging

open Platform Interleave Runs List

def Message.deleted (m : Message) : Bool := m.isDeleted || m.deletedAt.isSome

def Message.counts (m : Message) (id user : Nat) : Bool :=
  m.unreadBy id user && !m.deleted

def Server.unreadFor (s : Server) (id user : Nat) : Nat :=
  s.messages.countP fun m => m.2.counts id user

inductive Counter where
  | unread (role : Role)
  | total

def Conversation.counter (c : Conversation) : Counter → Nat
  | .unread role => c.unread role
  | .total => c.totalMessages

structure Chat where
  id : Nat
  user : Role → Nat
  distinct : user .member ≠ user .creator

namespace Chat

variable (t : Chat) (s : Server)

def actual : Counter → Nat
  | .unread role => s.unreadFor t.id (t.user role)
  | .total => s.sent.count t.id

def Has : Prop :=
  ∃ c : Conversation, s.conversations[t.id]? = some c ∧ ∀ p ∈ c.participants, p.user = t.user p.role

/-- Every counter is the number of the unread messages. -/
def Exact : Prop :=
  ∃ c : Conversation, s.conversations[t.id]? = some c ∧
    (∀ p ∈ c.participants, p.user = t.user p.role) ∧ ∀ k, c.counter k = t.actual s k

def stored (k : Counter) : ℤ :=
  ((s.conversations[t.id]?).map fun c => (c.counter k : ℤ)).getD 0

def gap (k : Counter) (s : Server) : ℤ := t.stored s k - t.actual s k

def marked (user : Nat) (role : Role) : Nat :=
  if user = t.user role then s.unreadFor t.id user else 0

/-- A conversation is saved with counters that are still the stored ones; an update marks as many
messages as were subtracted; no unread message is deleted. -/
def Careful : Op → Prop
  | .saveSent id loaded role _ => id = t.id →
      (s.conversations[id]?).all (fun c =>
        loaded.unread role = c.unread role && loaded.totalMessages = c.totalMessages) = true
  | .saveRead id loaded role => id = t.id →
      (s.conversations[id]?).all (fun c => loaded.unread role = c.unread role) = true
  | .markRead id user _ cleared => id = t.id → ∀ role, t.marked s user role = cleared role
  | .saveDeleted id _ _ | .saveDeletedAt id _ =>
    ∀ m ∈ s.messages, m.1 = id → ∀ role, m.2.counts t.id (t.user role) = false
  | .deleteMany id => id = t.id → ∀ role, s.unreadFor t.id (t.user role) = 0
  | _ => True

end Chat

instance decidableForallRole {P : Role → Prop} [∀ role, Decidable (P role)] :
    Decidable (∀ role, P role) :=
  decidable_of_iff (P .member ∧ P .creator)
    ⟨fun h role => by cases role with
      | member => exact h.1
      | creator => exact h.2, fun h => ⟨h .member, h .creator⟩⟩

instance (t : Chat) (s : Server) : ∀ o, Decidable (t.Careful s o)
  | .saveSent _ _ _ _ | .saveRead _ _ _ | .markRead _ _ _ _ => inferInstanceAs (Decidable (_ → _))
  | .saveDeleted _ _ _ | .saveDeletedAt _ _ => inferInstanceAs (Decidable (∀ m ∈ s.messages, _))
  | .deleteMany _ => inferInstanceAs (Decidable (_ → _))
  | .findConversation _ | .findBetween _ _ | .insertConversation _ | .createMessage _
  | .findMessage _ | .touch _ _ | .joinRoom _ _ | .leaveRoom _ _ | .broadcast _ _
  | .disconnect _ => .isTrue trivial

/-! ## What an operation moves -/

variable {t : Chat} {s s' : Server} {k : Counter}

theorem gap_eq (hco : s'.conversations[t.id]? = s.conversations[t.id]?)
    (hac : t.actual s' k = t.actual s k) : t.gap k s' = t.gap k s := by
  rw [Chat.gap, Chat.gap, Chat.stored, Chat.stored, hco, hac]

theorem actual_eq (hunr : ∀ role, s'.unreadFor t.id (t.user role) = s.unreadFor t.id (t.user role))
    (hse : s'.sent = s.sent) : t.actual s' k = t.actual s k := by
  cases k with
  | unread role => exact hunr role
  | total => exact congrArg (List.count t.id) hse

variable {id user : Nat}

theorem unreadFor_map {f : Nat × Message → Nat × Message} (hs : s'.messages = s.messages.map f)
    (hf : ∀ m ∈ s.messages, (f m).2.counts id user = m.2.counts id user) :
    s'.unreadFor id user = s.unreadFor id user := by
  rw [Server.unreadFor, hs, countP_map]
  exact countP_congr fun m hm => by simp [hf m hm]

variable {role : Role}

theorem user_inj {role' : Role} (h : t.user role = t.user role') : role = role' := by
  cases role <;> cases role'
  · rfl
  · exact absurd h t.distinct
  · exact absurd h.symm t.distinct
  · rfl

def Counter.bump (role : Role) : Counter → ℤ
  | .unread role' => if role' = role then 1 else 0
  | .total => 1

def Counter.amount (cleared : Role → Nat) : Counter → ℤ
  | .unread role => cleared role
  | .total => 0

theorem counts_iff {m : Message} : m.counts id user ↔
    m.conversation = id ∧ m.recipient = user ∧ m.read = false ∧ m.deleted = false := by
  simp [Message.counts, Message.unreadBy, and_assoc]

variable {media : Bool} {now : Nat} {recipient sender : Participant}

theorem counts_newMessage {id' : Nat} :
    (newMessage id' sender recipient media now).counts id user ↔
    id' = id ∧ recipient.user = user := by simp [counts_iff, newMessage, Message.deleted]

variable {m : Message}

theorem unreadFor_createMessage : (exec (.createMessage m) s).1.unreadFor id user =
      s.unreadFor id user + if m.counts id user then 1 else 0 := by
  rw [Server.unreadFor, exec, countP_append, countP_singleton]
  rfl

theorem count_sent_createMessage : (exec (.createMessage m) s).1.sent.count id =
      s.sent.count id + if m.conversation = id then 1 else 0 := by
  rw [exec, count_append, count_singleton]
  simp

theorem gap_createMessage (hrec : recipient.user = t.user recipient.role) :
    t.gap k (exec (.createMessage (newMessage t.id sender recipient media now)) s).1 =
      t.gap k s + -k.bump recipient.role := by
  have hac : (t.actual (exec (.createMessage
      (newMessage t.id sender recipient media now)) s).1 k : ℤ) =
        t.actual s k + k.bump recipient.role := by
    cases k with
    | unread role =>
      rw [Chat.actual, unreadFor_createMessage, Counter.bump]
      have hiff : (newMessage t.id sender recipient media now).counts t.id (t.user role) ↔
          role = recipient.role := by
        rw [counts_newMessage, hrec]
        exact ⟨fun h => (user_inj h.2).symm, fun h => ⟨rfl, congrArg t.user h.symm⟩⟩
      simp only [hiff, Chat.actual]
      split <;> simp
    | total =>
      rw [Chat.actual, count_sent_createMessage]
      simp [newMessage, Chat.actual, Counter.bump]
  rw [Chat.gap, hac, Chat.gap]
  change t.stored s k - _ = _
  ring

theorem gap_createMessage_other (hid : id ≠ t.id) :
    t.gap k (exec (.createMessage (newMessage id sender recipient media now)) s).1 = t.gap k s := by
  refine gap_eq rfl ?_
  cases k with
  | unread =>
    rw [Chat.actual, unreadFor_createMessage, if_neg fun h => hid (counts_newMessage.mp h).1]
    rfl
  | total =>
    rw [Chat.actual, count_sent_createMessage]
    simp [newMessage, Chat.actual, hid]

theorem stored_of_some {c : Conversation} (hc : s.conversations[t.id]? = some c) :
    t.stored s k = c.counter k := by
  rw [Chat.stored, hc]
  rfl

theorem gap_modify {c : Conversation} {f : Conversation → Conversation} {x : ℤ}
    (hc : s.conversations[t.id]? = some c) (hs : s'.conversations = s.conversations.modify t.id f)
    (hms : s'.messages = s.messages) (hse : s'.sent = s.sent)
    (hf : ((f c).counter k : ℤ) = c.counter k + x) : t.gap k s' = t.gap k s + x := by
  have hc' : s'.conversations[t.id]? = some (f c) := by
    rw [hs]
    exact Collection.getElem?_modify_self hc f
  have hac : t.actual s' k = t.actual s k :=
    actual_eq (fun role => congrArg (List.countP _) hms) hse
  rw [Chat.gap, Chat.gap, stored_of_some hc', stored_of_some hc, hf, hac]
  ring

theorem gap_modify_other (hid : id ≠ t.id) {f : Conversation → Conversation}
    (hs : s'.conversations = s.conversations.modify id f) (hms : s'.messages = s.messages)
    (hse : s'.sent = s.sent) : t.gap k s' = t.gap k s := by
  refine gap_eq ?_ (actual_eq (fun role => congrArg (List.countP _) hms) hse)
  rw [hs, getElem?_modify_ne _ _ hid]

theorem gap_saveSent {loaded : Conversation} {message : Nat} (hhas : t.Has s)
    (h : t.Careful s (.saveSent t.id loaded role message)) :
    t.gap k (exec (.saveSent t.id loaded role message) s).1 = t.gap k s + k.bump role := by
  obtain ⟨c, hc, -⟩ := hhas
  have hf := h rfl
  rw [hc, Option.all_some, Bool.and_eq_true_iff, decide_eq_true_iff, decide_eq_true_iff] at hf
  obtain ⟨hunr, ht⟩ := hf
  refine gap_modify hc rfl rfl rfl ?_
  cases k with
  | unread role' =>
    have hctr : (loaded.countSent role message c).counter (.unread role') =
        if role' = role then loaded.unread role + 1 else c.unread role' := by
      cases role <;> cases role' <;> rfl
    rw [hctr, hunr, Counter.bump]
    split
    · rename_i heq
      subst heq
      rfl
    · rw [add_zero]
      rfl
  | total =>
    have hctr : (loaded.countSent role message c).counter .total = loaded.totalMessages + 1 := rfl
    rw [hctr, ht]
    rfl

theorem gap_saveRead {loaded : Conversation} (hhas : t.Has s)
    (h : t.Careful s (.saveRead t.id loaded role)) :
    t.gap k (exec (.saveRead t.id loaded role) s).1 = t.gap k s +
      -k.amount fun r => if r = role then loaded.unread r else 0 := by
  obtain ⟨c, hc, -⟩ := hhas
  have hf := h rfl
  rw [hc, Option.all_some, decide_eq_true_iff] at hf
  refine gap_modify hc rfl rfl rfl ?_
  cases k with
  | unread role' =>
    have hctr : (loaded.resetUnread role c).counter (.unread role') =
        if role' = role then assign (loaded.unread role) 0 (c.unread role)
        else c.unread role' := by
      cases role <;> cases role' <;> rfl
    rw [hctr, hf, assign_self, Counter.amount]
    split
    · rename_i heq
      subst heq
      rw [hf]
      simp [Conversation.counter]
    · simp [Conversation.counter]
  | total =>
    have hctr : (loaded.resetUnread role c).counter .total = c.totalMessages := by
      cases role <;> rfl
    rw [hctr]
    simp [Conversation.counter, Counter.amount]

theorem counts_markRead : (m.markRead now).counts id user = false := by
  simp [Message.counts, Message.unreadBy, Message.markRead]

theorem unreadFor_markRead (id' user' : Nat) (cleared : Role → Nat) :
    (exec (.markRead id' user' now cleared) s).1.unreadFor id user =
      if id' = id ∧ user' = user then 0 else s.unreadFor id user := by
  split
  · rename_i heq
    obtain ⟨rfl, rfl⟩ := heq
    rw [Server.unreadFor, exec, countP_map]
    refine countP_eq_zero.mpr fun m _ => ?_
    simp only [Function.comp_apply]
    split
    · rw [counts_markRead]
      exact Bool.false_ne_true
    · rename_i hr
      exact fun h => hr (Bool.and_eq_true_iff.mp h).1
  · rename_i hne
    refine unreadFor_map rfl fun m _ => ?_
    split
    · rename_i hr
      rw [counts_markRead]
      refine (Bool.eq_false_iff.mpr fun h => hne ?_).symm
      simp only [Message.unreadBy, Bool.and_eq_true, decide_eq_true_iff] at hr
      obtain ⟨hid, hu, -, -⟩ := counts_iff.mp h
      exact ⟨hr.1.1.symm.trans hid, hr.1.2.symm.trans hu⟩
    · rfl

theorem gap_markRead {cleared : Role → Nat} (h : t.Careful s (.markRead t.id user now cleared)) :
    t.gap k (exec (.markRead t.id user now cleared) s).1 = t.gap k s + k.amount cleared := by
  cases k with
  | unread role =>
    have hma := h rfl role
    rw [Chat.gap, Chat.gap, Chat.actual, Chat.actual, unreadFor_markRead, Counter.amount,
      ← hma, Chat.marked]
    change t.stored s _ - _ = _
    split
    · rename_i heq
      rw [if_pos heq.2, heq.2]
      simp
    · rename_i hne
      rw [if_neg fun heq => hne ⟨rfl, heq⟩]
      simp
  | total =>
    rw [Counter.amount, add_zero]
    exact gap_eq rfl rfl

theorem gap_markRead_other (hid : id ≠ t.id) {cleared : Role → Nat} :
    t.gap k (exec (.markRead id user now cleared) s).1 = t.gap k s := by
  refine gap_eq rfl (actual_eq (fun role => ?_) rfl)
  rw [unreadFor_markRead, if_neg fun h => hid h.1]

theorem gap_delete {f : Message → Message} (hf : ∀ m, (f m).deleted)
    (h : ∀ m ∈ s.messages, m.1 = id → ∀ role, m.2.counts t.id (t.user role) = false) :
    t.gap k (s.modifyMessage id f) = t.gap k s := by
  refine gap_eq rfl (actual_eq (fun role => unreadFor_map rfl fun m hm => ?_) rfl)
  split
  · rename_i hid
    rw [h m hm hid role]
    simp [Message.counts, hf]
  · rfl

theorem gap_touch : t.gap k (exec (.touch id now) s).1 = t.gap k s := by
  refine gap_eq rfl (actual_eq (fun role => unreadFor_map rfl fun m hm => ?_) rfl)
  split <;> rfl

theorem gap_deleteMany (h : t.Careful s (.deleteMany id)) :
    t.gap k (exec (.deleteMany id) s).1 = t.gap k s := by
  refine gap_eq rfl (actual_eq (fun role => ?_) rfl)
  have hms : (exec (.deleteMany id) s).1.messages =
      s.messages.filter fun m => m.2.conversation ≠ id := rfl
  rw [Server.unreadFor, hms, countP_filter]
  by_cases hid : id = t.id
  · have hn := h hid role
    rw [hn]
    refine countP_eq_zero.mpr fun m hm hc => ?_
    exact countP_eq_zero.mp hn m hm (Bool.and_eq_true_iff.mp hc).1
  · refine countP_congr fun m hm => ?_
    rw [Bool.and_eq_true_iff, decide_eq_true_iff]
    refine ⟨And.left, fun hc => ⟨hc, fun heq => ?_⟩⟩
    exact hid (heq.symm.trans (counts_iff.mp hc).1)

theorem gap_insertConversation (participants : List Participant) (hhas : t.Has s) :
    t.gap k (exec (.insertConversation participants) s).1 = t.gap k s := by
  obtain ⟨c, hc, -⟩ := hhas
  refine gap_eq ?_ rfl
  exact List.getElem?_append_left (List.getElem?_eq_some_iff.mp hc).1

/-! ## The handlers -/

variable {env : Env}

abbrev Neutral (t : Chat) (k : Counter) (s : Server) (p : Handler) : Prop :=
  Moves exec (fun _ _ => True) (fun s o => t.Has s ∧ t.Careful s o) (t.gap k) 0 s p

theorem neutral_perform {o : Op} {f : o.Res → Handler}
    (hgap : ∀ s, t.Has s → t.Careful s o → t.gap k (exec o s).1 = t.gap k s)
    (h : ∀ s, t.Has s → Neutral t k (exec o s).1 (f (exec o s).2)) :
    Neutral t k s (perform o >>= f) := by
  refine moves_perform (y := 0) (fun s' _ hG => ?_) fun s' _ hG => ?_
  · rw [add_zero]
    exact hgap s' hG.1 hG.2
  · rw [sub_zero]
    exact h s' hG.1

theorem neutral_deliver {c : Conversation} {rest : Handler}
    (hrec : id = t.id → recipient.user = t.user recipient.role) (hr : ∀ s, Neutral t k s rest) :
    Neutral t k s (deliver id c sender recipient media now rest) := by
  by_cases hid : id = t.id
  · subst hid
    refine moves_perform (fun s' _ _ => gap_createMessage (hrec rfl)) fun s' _ _ => ?_
    refine moves_perform (fun s'' _ hG => gap_saveSent hG.1 hG.2) fun s'' _ _ => ?_
    rw [zero_sub, neg_neg, sub_self]
    exact hr _
  · refine neutral_perform (fun s' _ _ => gap_createMessage_other hid) fun s' _ => ?_
    exact neutral_perform (fun s'' _ _ => gap_modify_other hid rfl rfl rfl) fun s'' _ => hr _

variable {found : Option Conversation} {p : Handler}

theorem neutral_sends
    (hrol : ∀ c, found = some c → id = t.id → ∀ p ∈ c.participants, p.user = t.user p.role)
    (h : Sends env user id found p) : Neutral t k s p := by
  cases h with
  | refused => rfl
  | @post c sender recipient media now x hsnd hrec =>
    refine neutral_deliver (fun hid => ?_) (fun s => ?_)
    · exact hrol c rfl hid recipient (mem_of_find?_eq_some hrec)
    · rfl
  | @broadcast c sender recipient room now x hr hsnd hrec =>
    refine neutral_deliver (fun hid => ?_) (fun s => ?_)
    · exact hrol c rfl hid recipient (mem_of_find?_eq_some hrec)
    · exact neutral_perform (fun s' _ _ => gap_eq rfl rfl) fun s' _ => rfl

theorem neutral_markRead (x : Answer) : Neutral t k s (do
      let _ ← perform (.markRead id user now fun _ => 0) return x) := by
  refine neutral_perform (fun s' _ hca => ?_) fun s' _ => rfl
  by_cases hid : id = t.id
  · subst hid
    rw [gap_markRead hca]
    cases k <;> simp [Counter.amount]
  · exact gap_markRead_other hid

variable {a : Account}

theorem neutral_reads (h : Reads a id now found p) : Neutral t k s p := by
  cases h with
  | missing x => exact neutral_markRead x
  | reset =>
    by_cases hid : id = t.id
    · subst hid
      refine moves_perform (fun s' _ hG => gap_saveRead hG.1 hG.2) fun s' _ _ => ?_
      refine moves_perform (fun s'' _ hG => gap_markRead hG.2) fun s'' _ _ => ?_
      rw [zero_sub, neg_neg, sub_self]
      rfl
    · refine neutral_perform (fun s' _ _ => gap_modify_other hid rfl rfl rfl) fun s' _ => ?_
      exact neutral_perform (fun s'' _ _ => gap_markRead_other hid) fun s'' _ => rfl

theorem neutral_deletes {found : Option Message} (h : Deletes user id found p) :
    Neutral t k s p := by
  cases h with
  | refused => rfl
  | flag now f hsnd | stamp now f hsnd =>
    refine neutral_perform (fun s' _ h => gap_delete (fun m => ?_) h) fun s' _ => rfl
    exact Bool.or_true _

theorem neutral_opens (h : Opens p) : Neutral t k s p := by
  cases h with
  | found => rfl
  | create participants f =>
    exact neutral_perform (fun s' hhas _ => gap_insertConversation participants hhas)
      fun s' _ => rfl

theorem neutral_joins {so : Nat} {room : String} (h : Joins user so room found p) :
    Neutral t k s p := by
  cases h with
  | refused => rfl
  | join => exact neutral_perform (fun s' _ _ => gap_eq rfl rfl) fun s' _ => rfl

theorem gap_departs {o : Op} (h : o.departs) : t.gap k (exec o s).1 = t.gap k s := by
  cases o with
  | leaveRoom so room | disconnect so => exact gap_eq rfl rfl
  | _ => cases h

theorem neutral_guarded (h : Guarded env a p) : Neutral t k s p := by
  cases h with
  | answer => rfl
  | create a u hope => exact neutral_perform (fun _ _ _ => rfl) fun _ _ => neutral_opens (hope _)
  | send a id hsen =>
    refine neutral_perform (fun _ _ _ => rfl) fun s' hhas =>
      neutral_sends (fun c hc hid => ?_) (hsen _)
    obtain ⟨c', hc', hrol⟩ := hhas
    subst hid
    obtain rfl : c' = c := Option.mem_unique hc' hc
    exact hrol
  | join so id hid hjoi =>
    exact neutral_perform (fun _ _ _ => rfl) fun _ _ => neutral_joins (hjoi _)
  | depart a ho f => exact neutral_perform (fun s' _ _ => gap_departs ho) fun _ _ => rfl

theorem neutral_does (h : Does env a p) (s : Server) : Neutral t k s p := by
  cases h with
  | guarded hp => exact neutral_guarded hp
  | read id now hrea => exact neutral_perform (fun _ _ _ => rfl) fun _ _ => neutral_reads (hrea _)
  | delete id hde => exact neutral_perform (fun _ _ _ => rfl) fun _ _ => neutral_deletes (hde _)
  | readAll id now x => exact neutral_markRead x
  | pin => exact neutral_perform (fun _ _ _ => gap_touch) fun _ _ => rfl
  | clear => exact neutral_perform (fun _ _ h => gap_deleteMany h) fun _ _ => rfl

/-! ## Every interleaving -/

theorem has_modify {f : Conversation → Conversation}
    (hs : s'.conversations = s.conversations.modify id f)
    (hf : ∀ c, (f c).participants = c.participants) (h : t.Has s) : t.Has s' := by
  obtain ⟨c, hc, hrol⟩ := h
  rw [Chat.Has, hs, getElem?_modify, hc]
  refine ⟨_, rfl, ?_⟩
  split
  · rwa [hf]
  · exact hrol

theorem participants_setUnread (c : Conversation) (n : Nat) :
    (c.setUnread n role).participants = c.participants := by
  cases role <;> rfl

theorem has_exec (s : Server) (o : Op) (h : t.Has s) : t.Has (exec o s).1 := by
  cases o with
  | insertConversation =>
    obtain ⟨c, hc, hrol⟩ := h
    exact ⟨c, (List.getElem?_append_left (List.getElem?_eq_some_iff.mp hc).1).trans hc, hrol⟩
  | saveSent id loaded role message | saveRead id loaded role =>
    exact has_modify rfl (fun c => participants_setUnread c _) h
  | _ => exact h

theorem exact_iff : t.Exact s ↔ t.Has s ∧ ∀ k, t.gap k s = 0 := by
  constructor
  · rintro ⟨c, hc, hrol, hct⟩
    refine ⟨⟨c, hc, hrol⟩, fun k => ?_⟩
    rw [Chat.gap, stored_of_some hc, hct, sub_self]
  · rintro ⟨⟨c, hc, hrol⟩, hgap⟩
    refine ⟨c, hc, hrol, fun k => ?_⟩
    have hk := hgap k
    rw [Chat.gap, stored_of_some hc] at hk
    omega

/-- From exact counters, and as long as every operation is careful, the counters
are exact whenever no handler is in flight. -/
theorem counters_exact_of_careful (env : Env) (t : Chat) (s : Server) (hs : t.Exact s)
    (labels : List (Label Request))
    (h : Every (Pool.next exec (handle env)) (Fires t.Careful) ⟨s, []⟩ labels) :
    Always (Pool.next exec (handle env)) (fun c => c.Idle → t.Exact c.store) ⟨s, []⟩ labels := by
  obtain ⟨hhas, hgap⟩ := exact_iff.mp hs
  have hop : ∀ s o, t.Has s → t.Careful s o → t.Has (exec o s).1 := fun s o hs _ => has_exec s o hs
  refine always_of_prefixes fun ls ms heq hidle => ?_
  rw [heq] at h
  have hrun := (Every.append.mp h).1
  refine exact_iff.mpr ⟨(always_store_of_fires hop hhas hrun).last, fun k => ?_⟩
  have hmov := idle_of_moves (fun _ => trivial) (fun _ _ _ _ _ => trivial)
    (fun _ _ _ => trivial) (fun r s => neutral_does (t := t) (k := k) (does_handle env r) s)
    (every_fires_within hop hhas hrun) hidle
  exact hmov.trans (hgap k)

/-! ## Two messages, and messages read -/

def Env.pair : Env where
  castId text := [("a", 0), ("b", 1)].lookup text
  account k := if k = 0 then ⟨1, .member⟩ else ⟨2, .creator⟩
  members := []
  creators := []

def Chat.sample : Chat := ⟨0, fun role => if role = .member then 1 else 2, by decide⟩

def Server.sample : Server :=
  .start [.new [⟨1, .member, .member⟩, ⟨2, .creator, .creator⟩]] [] [] 2

theorem exact_sample : Chat.sample.Exact .sample :=
  ⟨_, rfl, by decide, fun k => by
    cases k with
    | unread role => cases role <;> rfl
    | total => rfl⟩

theorem counters_exact_one_by_one :
    Always (Pool.next exec (handle .pair)) (fun c => c.Idle → Chat.sample.Exact c.store)
      ⟨.sample, []⟩
      (oneByOne [(.event 0 (.sendMessage "a" (.str "hi") .null 1), 4),
        (.call ⟨2, .creator⟩ (.sendMessageToConversation "a" (.str "hello") 0 2), 3),
        (.event 1 (.markMessagesRead "a" 3), 3), (.event 0 (.deleteMessage "a" 4), 2)]) :=
  counters_exact_of_careful .pair .sample .sample exact_sample _ (by decide +kernel)

def overlapping : List (Label Request) :=
  [.start (.call ⟨1, .member⟩ (.sendMessageToConversation "a" (.str "hi") 0 1)),
    .start (.call ⟨1, .member⟩ (.sendMessageToConversation "a" (.str "you") 0 1)),
    .step 0, .step 1, .step 0, .step 0, .step 1, .step 1]

def readLater : List (Label Request) :=
  oneByOne [(.call ⟨1, .member⟩ (.sendMessageToConversation "a" (.str "hi") 0 1), 3),
    (.call ⟨2, .creator⟩ (.markAllAsRead "a" 2), 1)]

def Server.after (labels : List (Label Request)) : Server :=
  (final (Pool.next exec (handle .pair)) ⟨.sample, []⟩ labels).store

theorem counters_drift :
    Chat.sample.Exact .sample ∧
    (Server.after overlapping).conversations.map (·.totalMessages) = [1] ∧
    (Server.after overlapping).sent = [0, 0] ∧
    ¬Always (Pool.next exec (handle .pair)) (fun c => c.Idle → Chat.sample.Exact c.store)
      ⟨.sample, []⟩ overlapping ∧
    (Server.after readLater).conversations.map (·.unreadCreator) = [1] ∧
    (Server.after readLater).unreadFor 0 2 = 0 ∧
    ¬Always (Pool.next exec (handle .pair)) (fun c => c.Idle → Chat.sample.Exact c.store)
      ⟨.sample, []⟩ readLater := by
  have ht : (Server.after overlapping).conversations.map (·.totalMessages) = [1] := by
    decide +kernel
  have hsent : (Server.after overlapping).sent = [0, 0] := by decide +kernel
  have hunr : (Server.after readLater).conversations.map (·.unreadCreator) = [1] := by
    decide +kernel
  have hr : (Server.after readLater).unreadFor 0 2 = 0 := by decide +kernel
  refine ⟨exact_sample, ht, hsent, fun h => ?_, hunr, hr, fun h => ?_⟩
  · obtain ⟨c, hc, -, hcou⟩ := h.last (by decide +kernel)
    have hone : c.totalMessages = 1 := by
      have hmem := mem_map_of_mem (f := Conversation.totalMessages) (mem_of_getElem? hc)
      change _ ∈ (Server.after overlapping).conversations.map (·.totalMessages) at hmem
      rw [ht] at hmem
      exact mem_singleton.mp hmem
    have htwo : c.totalMessages = (Server.after overlapping).sent.count 0 := hcou .total
    rw [hsent, hone] at htwo
    exact absurd htwo (by decide)
  · obtain ⟨c, hc, -, hcou⟩ := h.last (by decide +kernel)
    have hone : c.unreadCreator = 1 := by
      have hmem := mem_map_of_mem (f := Conversation.unreadCreator) (mem_of_getElem? hc)
      change _ ∈ (Server.after readLater).conversations.map (·.unreadCreator) at hmem
      rw [hunr] at hmem
      exact mem_singleton.mp hmem
    have hz : c.unreadCreator = (Server.after readLater).unreadFor 0 2 := hcou (.unread .creator)
    rw [hr, hone] at hz
    exact absurd hz (by decide)

end SexySelfies.Messaging
