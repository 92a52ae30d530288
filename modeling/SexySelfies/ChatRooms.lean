import SexySelfies.MessagingRequests

/-!
# Who receives a message

A chat room is named by the text a client sends. `join_chat` checks the conversation that this text
stands for, some time before the socket enters the room, and `send_message` broadcasts to the room
of the same text. So every socket in a room is one of a participant (`Admitted`).
-/

namespace SexySelfies.Messaging

open Interleave Runs List

/-- Whoever takes part in a conversation stays in it. -/
def ParticipantsKept (s s' : Server) : Prop :=
  ∀ (id : Nat) (c : Conversation) (user : Nat), s.conversations[id]? = some c →
    c.has user = true → ∃ c', s'.conversations[id]? = some c' ∧ Conversation.has c' user = true

theorem ParticipantsKept.refl (s : Server) : ParticipantsKept s s := fun _ c _ hc hu => ⟨c, hc, hu⟩

theorem ParticipantsKept.trans (s s' s'' : Server) (h : ParticipantsKept s s')
    (h' : ParticipantsKept s' s'') : ParticipantsKept s s'' := by
  intro id c user hc hu
  obtain ⟨c', hc', hu'⟩ := h id c user hc hu
  exact h' id c' user hc' hu'

variable {c : Conversation} {n user : Nat} {role : Role}

theorem has_setUnread : (c.setUnread n role).has user = c.has user := by
  cases role <;> rfl

theorem participantsKept_modify {s s' : Server} {id : Nat} {f : Conversation → Conversation}
    (hs : s'.conversations = s.conversations.modify id f) (hf : ∀ c u, (f c).has u = c.has u) :
    ParticipantsKept s s' := by
  intro id' c user hc hu
  rw [hs, getElem?_modify, hc]
  refine ⟨_, rfl, ?_⟩
  split
  · rwa [hf]
  · exact hu

theorem participantsKept_of_eq {s s' : Server} (h : s'.conversations = s.conversations) :
    ParticipantsKept s s' := by
  intro id c user hc hu
  rw [h]
  exact ⟨c, hc, hu⟩

theorem participantsKept_exec (o : Op) (s : Server) : ParticipantsKept s (exec o s).1 := by
  cases o with
  | insertConversation =>
    intro id c user hc hu
    have hlt : id < s.conversations.length := (List.getElem?_eq_some_iff.mp hc).1
    exact ⟨c, (List.getElem?_append_left hlt).trans hc, hu⟩
  | saveSent id loaded role message => exact participantsKept_modify rfl fun c u => has_setUnread
  | saveRead => exact participantsKept_modify rfl fun c u => has_setUnread
  | _ => exact participantsKept_of_eq rfl

/-! ## What the handlers do with rooms -/

variable {env : Env}

/-- The user of the socket takes part in the room's conversation. -/
def Admits (env : Env) (s : Server) (socket : Nat) (room : String) : Prop :=
  ∃ id c, env.castId room = some id ∧ s.conversations[id]? = some c ∧
    c.has (env.account socket).id = true

variable {room : String} {s : Server}

theorem Admits.mono {s' : Server} (h : ParticipantsKept s s') {so : Nat}
    (ha : Admits env s so room) : Admits env s' so room := by
  obtain ⟨id, c, hid, hc, hu⟩ := ha
  obtain ⟨c', hc', hu'⟩ := h id c _ hc hu
  exact ⟨id, c', hid, hc', hu'⟩

/-- Only participants join, and a message goes to its own room. -/
def RoomSafe (env : Env) (s : Server) : Op → Prop
  | .joinRoom socket room => Admits env s socket room
  | .broadcast room conversation => env.castId room = some conversation
  | _ => True

abbrev RoomsKept (env : Env) (s : Server) (p : Handler) : Prop :=
  Keeps exec ParticipantsKept (fun _ _ => True) (RoomSafe env) s p

variable {id : Nat}

theorem roomsKept_deliver {c : Conversation} {sender recipient : Participant} {media : Bool}
    {now : Nat} {rest : Handler} (h : ∀ s, RoomsKept env s rest) :
    RoomsKept env s (deliver id c sender recipient media now rest) := by
  intro s' _ _
  refine ⟨trivial, ?_⟩
  intro s'' _ _
  exact ⟨trivial, h _⟩

variable {p : Handler}

theorem roomsKept_sends {user : Nat} {found : Option Conversation} (h : Sends env user id found p) :
    RoomsKept env s p := by
  cases h with
  | refused => trivial
  | post =>
    refine roomsKept_deliver (fun s => ?_)
    trivial
  | broadcast now x hr hsnd hrec =>
    refine roomsKept_deliver (fun s => ?_)
    intro s' _ _
    exact ⟨hr, trivial⟩

theorem roomsKept_joins {so : Nat} (hid : env.castId room = some id)
    (h : Joins (env.account so).id so room s.conversations[id]? p) : RoomsKept env s p := by
  cases hc : s.conversations[id]? with
  | none =>
    rw [hc] at h
    cases h with
    | refused => trivial
  | some c =>
    rw [hc] at h
    cases h with
    | refused => trivial
    | join x hhas =>
      intro s' hk _
      exact ⟨Admits.mono hk ⟨id, c, hid, hc, hhas⟩, trivial⟩

theorem roomsKept_opens (h : Opens p) : RoomsKept env s p := by
  cases h with
  | found => trivial
  | create => exact fun _ _ _ => ⟨trivial, trivial⟩

theorem roomsKept_deletes {user : Nat} {found : Option Message} (h : Deletes user id found p) :
    RoomsKept env s p := by
  cases h with
  | refused => trivial
  | flag now f hsnd | stamp now f hsnd => exact fun _ _ _ => ⟨trivial, trivial⟩

variable {a : Account}

theorem roomsKept_reads {now : Nat} {found : Option Conversation} (h : Reads a id now found p) :
    RoomsKept env s p := by
  cases h with
  | missing => exact fun _ _ _ => ⟨trivial, trivial⟩
  | reset => exact fun _ _ _ => ⟨trivial, fun _ _ _ => ⟨trivial, trivial⟩⟩

theorem roomSafe_departs {o : Op} (h : o.departs) : RoomSafe env s o := by
  cases o with
  | leaveRoom so room | disconnect so => trivial
  | _ => cases h

theorem roomsKept_guarded (h : Guarded env a p) : RoomsKept env s p := by
  cases h with
  | answer => trivial
  | create a t hope => exact fun _ _ _ => ⟨trivial, roomsKept_opens (hope _)⟩
  | send a id hsen => exact fun _ _ _ => ⟨trivial, roomsKept_sends (hsen _)⟩
  | join so id hid hjoi => exact fun _ _ _ => ⟨trivial, roomsKept_joins hid (hjoi _)⟩
  | depart a ho f => exact fun s' _ _ => ⟨roomSafe_departs ho, trivial⟩

theorem roomsKept_does (h : Does env a p) : RoomsKept env s p := by
  cases h with
  | guarded hp => exact roomsKept_guarded hp
  | read id now hrea => exact fun _ _ _ => ⟨trivial, roomsKept_reads (hrea _)⟩
  | delete id hde => exact fun _ _ _ => ⟨trivial, roomsKept_deletes (hde _)⟩
  | readAll id now x | pin id now x | clear id x => exact fun _ _ _ => ⟨trivial, trivial⟩

theorem roomsKept_handle (r : Request) (s : Server) : RoomsKept env s (handle env r) :=
  roomsKept_does (does_handle env r)

/-! ## Every interleaving -/

/-- Every socket in a room is admitted to it, and every message went to sockets
of participants of its conversation. -/
structure Admitted (env : Env) (s : Server) : Prop where
  rooms : ∀ (k : Nat) (x : Socket), s.sockets[k]? = some x →
    ∀ room ∈ x.rooms, Admits env s k room
  delivered : ∀ k id, (k, id) ∈ s.delivered →
    ∃ c, s.conversations[id]? = some c ∧ Conversation.has c (env.account k).id = true

theorem Admitted.of_kept {s' : Server} (h : Admitted env s) (hkp : ParticipantsKept s s')
    (hso : s'.sockets = s.sockets) (hdel : s'.delivered = s.delivered) : Admitted env s' where
  rooms k x hx room hr := by
    rw [hso] at hx
    exact (h.rooms k x hx room hr).mono hkp
  delivered k id hk := by
    rw [hdel] at hk
    obtain ⟨c, hc, hu⟩ := h.delivered k id hk
    exact hkp id c _ hc hu

theorem Admitted.of_sockets (h : Admitted env s) (soc : Nat) (f : Socket → Socket)
    (hf : ∀ (x : Socket) (room : String), room ∈ (f x).rooms →
    room ∈ x.rooms ∨ Admits env s soc room) :
    Admitted env { s with sockets := s.sockets.modify soc f } where
  rooms k x hx room hr := by
    rw [getElem?_modify] at hx
    split at hx
    · rename_i hk
      subst hk
      obtain ⟨y, hy, rfl⟩ := Option.map_eq_some_iff.mp hx
      rcases hf y room hr with hold | hnew
      · exact h.rooms soc y hy room hold
      · exact hnew
    · exact h.rooms k x (by simpa using hx) room hr
  delivered := h.delivered

theorem admits_of_mem_receivers (h : Admitted env s) {k : Nat} (hk : k ∈ s.receivers room) :
    Admits env s k room := by
  obtain ⟨-, hany⟩ := mem_filter.mp hk
  cases hx : s.sockets[k]? with
  | none =>
    rw [hx] at hany
    cases hany
  | some x =>
    rw [hx] at hany
    obtain ⟨-, hin⟩ := (Bool.and_eq_true _ _).mp hany
    exact h.rooms k x hx room (of_decide_eq_true hin)

theorem mem_rooms_leave {x : Socket} {room' : String} (h : room' ∈ (x.leave room).rooms) :
    room' ∈ x.rooms := by
  rw [Socket.leave] at h
  split at h
  · exact mem_of_mem_filter h
  · exact h

theorem admitted_exec (s : Server) (o : Op) (h : Admitted env s) (ho : RoomSafe env s o) :
    Admitted env (exec o s).1 := by
  cases o with
  | joinRoom so room =>
    refine h.of_sockets so _ fun x room' hr => ?_
    rcases mem_cons.mp hr with rfl | hr
    · exact .inr ho
    · exact .inl hr
  | leaveRoom so room => exact h.of_sockets so _ fun x room' hr => .inl (mem_rooms_leave hr)
  | disconnect so => exact h.of_sockets so _ fun x room' hr => absurd hr not_mem_nil
  | broadcast room conversation =>
    refine ⟨h.rooms, fun k id hk => ?_⟩
    rcases mem_append.mp hk with hk | hk
    · exact h.delivered k id hk
    · obtain ⟨k', hk', heq⟩ := mem_map.mp hk
      obtain ⟨rfl, rfl⟩ := Prod.mk.inj heq
      obtain ⟨id', c, hid, hc, hu⟩ := admits_of_mem_receivers h hk'
      obtain rfl : id' = conversation := Option.mem_unique hid ho
      exact ⟨c, hc, hu⟩
  | _ => exact h.of_kept (participantsKept_exec _ s) rfl rfl

theorem admitted_start (co : List Conversation) (messages : List (Nat × Message))
    (sent : List Nat) : Admitted env (.start co messages sent n) where
  rooms k x hx room hr := by
    obtain rfl : x = Socket.new := eq_of_mem_replicate (mem_of_getElem? hx)
    cases hr
  delivered k id hk := by cases hk

/-- Every message was delivered to participants only. -/
def OnlyToParticipants (env : Env) (s : Server) : Prop :=
  ∀ k id, (k, id) ∈ s.delivered →
    ∃ c, s.conversations[id]? = some c ∧ ∃ p ∈ c.participants, p.user = (env.account k).id

/-- Whatever the sockets and the other requests do, and however their handlers
interleave, a new message reaches sockets of participants only. -/
theorem messages_reach_participants_only (env : Env) (conversations : List Conversation)
    (messages : List (Nat × Message)) (sent : List Nat) (n : Nat) (labels : List (Label Request)) :
    Always (Pool.next exec (handle env)) (fun c => OnlyToParticipants env c.store)
      ⟨.start conversations messages sent n, []⟩ labels := by
  have hsafe : Every (Pool.next exec (handle env)) (Fires (RoomSafe env))
      ⟨.start conversations messages sent n, []⟩ labels :=
    every_of_keeps ParticipantsKept.refl ParticipantsKept.trans
      (fun s o _ _ => participantsKept_exec o s) roomsKept_handle (by simp)
      (every_fires_of_forall fun _ _ => trivial)
  refine always_mono (fun c hc k id hk => ?_)
    (always_store_of_fires admitted_exec (admitted_start conversations messages sent) hsafe)
  obtain ⟨c', hc', hu⟩ := hc.delivered k id hk
  obtain ⟨p, hp, hpu⟩ := any_eq_true.mp hu
  exact ⟨c', hc', p, hp, of_decide_eq_true hpu⟩

end SexySelfies.Messaging
