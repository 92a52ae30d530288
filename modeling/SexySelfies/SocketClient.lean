import Mathlib.Data.Set.Insert
import SexySelfies.ChatRooms

/-!
# The client's conversations and the server's rooms

The frontend `SocketService` keeps the set of the rooms it has joined over connection losses; the
messaging server keeps rooms for each connection, and one current chat. The two agree as long as
(`Careful`)

- no connection is made while conversations are joined: the client then emits `join_room`, an event
  the server has no handler for;
- a conversation is left while it is the socket's current chat, or not among its rooms: the server
  ignores every other `leave_chat`;
- no `join_chat` of the conversation waits for the database when `leave_chat` is handled.
-/

namespace SexySelfies.Messaging

open Interleave Runs List

/-! ## The service -/

inductive Emitted where
  | joinChat (conversationId : String)
  | leaveChat (conversationId : String)
  | joinRoom (room : String)

/-- The client with its `rooms` and socket, what it has emitted and the server not received, the
`join_chat` handlers that wait, and the server. `joined` is the specification. -/
structure Link where
  rooms : List String
  socket : Option Nat
  channel : List Emitted
  pending : List String
  server : Server
  joined : List String

def Link.start (server : Server) : Link := ⟨[], none, [], [], server, []⟩

inductive Action where
  | joinConversation (conversationId : String)
  | leaveConversation (conversationId : String)
  | lose
  | reconnect
  | receive
  | complete (i : Nat)

def conversationRoom (conversationId : String) : String := "conversation_" ++ conversationId

namespace Link

/-- Without a connection it returns false. -/
def joinConversation (l : Link) (id : String) : Link :=
  match l.socket with
  | none => l
  | some _ =>
    { l with
      channel := l.channel ++ [.joinChat id]
      rooms := l.rooms.insert (conversationRoom id)
      joined := l.joined.insert id }

def leaveConversation (l : Link) (id : String) : Link :=
  match l.socket with
  | none => l
  | some _ =>
    { l with
      channel := l.channel ++ [.leaveChat id]
      rooms := l.rooms.filter (· ≠ conversationRoom id)
      joined := l.joined.filter (· ≠ id) }

variable (env : Env) (l : Link)

def lose : Link :=
  match l.socket with
  | none => l
  | some k =>
    { l with
      socket := none
      channel := []
      pending := []
      server := ((handle env (.event k .disconnect)).run exec l.server).1 }

/-- The handler of `connect` asks for all rooms again. -/
def reconnect : Link :=
  match l.socket with
  | some _ => l
  | none =>
    { l with
      socket := some l.server.sockets.length
      channel := l.rooms.map .joinRoom
      pending := []
      server := { l.server with sockets := l.server.sockets ++ [Socket.new] } }

/-- The server has no handler for `join_room`. -/
def receive : Link :=
  match l.socket, l.channel with
  | some _, .joinChat id :: rest => { l with channel := rest, pending := l.pending ++ [id] }
  | some k, .leaveChat id :: rest =>
    { l with
      channel := rest
      server := ((handle env (.event k (.leaveChat id))).run exec l.server).1 }
  | some _, .joinRoom _ :: rest => { l with channel := rest }
  | _, _ => l

def complete (i : Nat) : Link :=
  match l.socket, l.pending[i]? with
  | some k, some id =>
    { l with
      pending := l.pending.eraseIdx i
      server := ((handle env (.event k (.joinChat id))).run exec l.server).1 }
  | _, _ => l

def step : Action → Link
  | .joinConversation id => l.joinConversation id
  | .leaveConversation id => l.leaveConversation id
  | .lose => l.lose env
  | .reconnect => l.reconnect
  | .receive => l.receive env
  | .complete i => l.complete env i

def serverSocket : Option Socket := l.socket.bind fun k => l.server.sockets[k]?

def serverRooms : List String := (l.serverSocket.map Socket.rooms).getD []

/-- We are connected, and everything emitted is handled. -/
def Settled : Prop := l.socket.isSome = true ∧ l.channel = [] ∧ l.pending = []

/-- The server's rooms are the conversations joined. -/
def Agrees : Prop := ∀ id, id ∈ l.serverRooms ↔ id ∈ l.joined

instance (l : Link) : Decidable l.Settled :=
  inferInstanceAs (Decidable (_ ∧ l.channel = [] ∧ l.pending = []))

/-- The actions that the server follows. -/
def Careful : Action → Prop
  | .reconnect => l.socket = none → l.joined = []
  | .receive =>
    match l.channel with
    | .leaveChat id :: _ => id ∉ l.pending ∧
        (l.serverSocket.bind Socket.currentChat = some id ∨ id ∉ l.serverRooms)
    | _ => True
  | _ => True

instance (l : Link) : ∀ a, Decidable (l.Careful a)
  | .reconnect => inferInstanceAs (Decidable (_ → _))
  | .receive =>
    match h : l.channel with
    | .leaveChat id :: rest =>
      decidable_of_iff (id ∉ l.pending ∧
        (l.serverSocket.bind Socket.currentChat = some id ∨ id ∉ l.serverRooms))
        (by simp only [Careful, h])
    | .joinChat id :: rest | .joinRoom room :: rest | [] => .isTrue (by simp only [Careful, h])
  | .joinConversation _ | .leaveConversation _ | .lose | .complete _ => .isTrue trivial

def effect (rooms : Set String) : Emitted → Set String
  | .joinChat id => insert id rooms
  | .leaveChat id => rooms \ {id}
  | .joinRoom _ => rooms

/-- The rooms once the waiting handlers have completed and the channel has been
received, if every event does what it should. -/
def promised : Set String :=
  l.channel.foldl effect { id | id ∈ l.serverRooms ∨ id ∈ l.pending }

/-- While connected, what is promised is what was joined and not left, and every
`join_chat` to come is of a conversation of the user. -/
structure Tracks (env : Env) (server : Server) (l : Link) : Prop where
  conversations : l.server.conversations = server.conversations
  socket : ∀ k, l.socket = some k → k < l.server.sockets.length
  promised : l.socket.isSome = true → l.promised = { id | id ∈ l.joined }
  channel : ∀ id, .joinChat id ∈ l.channel → ∀ k, Admits env server k id
  pending : ∀ id ∈ l.pending, ∀ k, Admits env server k id

/-! ## Every action keeps the promise -/

section

variable {env : Env} {server : Server} {l l' : Link} {id : String} {k : Nat}

theorem admits_congr {s s' : Server} (h : s'.conversations = s.conversations)
    (ha : Admits env s k id) : Admits env s' k id := by
  rwa [Admits, h]

theorem run_joinChat_admitted {s : Server} (ha : Admits env s k id) :
    ((handle env (.event k (.joinChat id))).run exec s).1 =
      { s with sockets := s.sockets.modify k (Socket.join id) } := by
  obtain ⟨n, c, hid, hc, hhas⟩ := ha
  rw [handle, joinChat, hid]
  dsimp only
  rw [run_findConversation, hc]
  dsimp only
  rw [if_pos hhas]
  rfl

theorem promised_append (e : Emitted) :
    promised { l with channel := l.channel ++ [e] } = effect l.promised e := by
  rw [promised, foldl_append]
  rfl

theorem tracks_joinConversation (h : Tracks env server l) (hid : ∀ k, Admits env server k id) :
    Tracks env server (l.joinConversation id) := by
  obtain ⟨rooms, so, c, pending, s, j⟩ := l
  cases so with
  | none => exact h
  | some =>
    refine ⟨h.conversations, h.socket, fun _ => ?_, fun id' hmem => ?_, h.pending⟩
    · refine (promised_append _).trans ?_
      rw [h.promised rfl, effect]
      ext id'
      exact mem_insert_iff.symm
    · rcases mem_append.mp hmem with hmem | hmem
      · exact h.channel id' hmem
      · obtain rfl := Emitted.joinChat.inj (mem_singleton.mp hmem)
        exact hid

theorem tracks_leaveConversation (h : Tracks env server l) :
    Tracks env server (l.leaveConversation id) := by
  obtain ⟨rooms, so, c, pending, s, j⟩ := l
  cases so with
  | none => exact h
  | some =>
    refine ⟨h.conversations, h.socket, fun _ => ?_, fun id' hmem => ?_, h.pending⟩
    · refine (promised_append _).trans ?_
      rw [h.promised rfl, effect]
      ext id'
      simp [leaveConversation]
    · rcases mem_append.mp hmem with hmem | hmem
      · exact h.channel id' hmem
      · cases mem_singleton.mp hmem

theorem tracks_lose (h : Tracks env server l) : Tracks env server (l.lose env) := by
  obtain ⟨rooms, so, c, pending, s, j⟩ := l
  cases so with
  | none => exact h
  | some =>
    refine ⟨h.conversations, fun k' hk' => ?_, fun hup => ?_, fun id hid => ?_, fun id hid => ?_⟩
    · cases hk'
    · cases hup
    · cases hid
    · cases hid

theorem foldl_joinRoom (rooms : List String) (promise : Set String) :
    (rooms.map Emitted.joinRoom).foldl effect promise = promise := by
  induction rooms with
  | nil => rfl
  | cons room rooms ih => exact ih

theorem tracks_reconnect (h : Tracks env server l) (hca : l.Careful .reconnect) :
    Tracks env server l.reconnect := by
  obtain ⟨rooms, socket, channel, pending, s, joined⟩ := l
  cases socket with
  | some => exact h
  | none =>
    have hjo : joined = [] := hca rfl
    subst hjo
    refine ⟨h.conversations, fun k' hk' => ?_, fun _ => ?_, fun id hid => ?_, ?_⟩
    · cases hk'
      change s.sockets.length < (s.sockets ++ [Socket.new]).length
      rw [length_append]
      exact Nat.lt_succ_self _
    · have hnew : (s.sockets ++ [Socket.new])[s.sockets.length]? = some Socket.new :=
        getElem?_concat_length
      have hroo : (Link.reconnect ⟨rooms, none, channel, pending, s, []⟩).serverRooms = [] := by
        change (((s.sockets ++ [Socket.new])[s.sockets.length]?).map Socket.rooms).getD [] = []
        rw [hnew]
        rfl
      refine (foldl_joinRoom rooms _).trans ?_
      rw [hroo]
      simp [reconnect]
    · obtain ⟨room, -, heq⟩ := mem_map.mp hid
      cases heq
    · exact fun id hid => absurd hid not_mem_nil

theorem tracks_received {e : Emitted} {rest : List Emitted} (h : Tracks env server l)
    (hl : l.channel = e :: rest) (hch : l'.channel = rest) (hsoc : l'.socket = l.socket)
    (hse : l'.server.conversations = l.server.conversations)
    (hso : l'.server.sockets.length = l.server.sockets.length) (hjo : l'.joined = l.joined)
    (hef : { id | id ∈ l'.serverRooms ∨ id ∈ l'.pending } =
    effect { id | id ∈ l.serverRooms ∨ id ∈ l.pending } e)
    (hp : ∀ id ∈ l'.pending, id ∈ l.pending ∨ e = .joinChat id) : Tracks env server l' where
  conversations := hse.trans h.conversations
  socket k hk := by
    rw [hsoc] at hk
    rw [hso]
    exact h.socket k hk
  promised hup := by
    rw [hsoc] at hup
    rw [hjo, ← h.promised hup, Link.promised, Link.promised, hl, hch, hef]
    rfl
  channel id hid := by
    rw [hch] at hid
    refine h.channel id ?_
    rw [hl]
    exact mem_cons_of_mem e hid
  pending id hid := by
    rcases hp id hid with hold | rfl
    · exact h.pending id hold
    · refine h.channel id ?_
      rw [hl]
      exact mem_cons_self

variable {x : Socket}

theorem serverSocket_of (hk : l.socket = some k) (hx : l.server.sockets[k]? = some x) :
    l.serverSocket = some x := by
  rwa [serverSocket, hk]

theorem serverRooms_of (hk : l.socket = some k) (hx : l.server.sockets[k]? = some x) :
    l.serverRooms = x.rooms := by
  rw [serverRooms, serverSocket_of hk hx]
  rfl

theorem mem_rooms_leave_iff {room : String} (h : x.currentChat = some id ∨ id ∉ x.rooms) :
    room ∈ (x.leave id).rooms ↔ room ∈ x.rooms ∧ room ≠ id := by
  rw [Socket.leave]
  split
  · simp
  · rename_i hch
    have hid : id ∉ x.rooms := h.resolve_left hch
    exact ⟨fun hr => ⟨hr, fun heq => hid (heq ▸ hr)⟩, And.left⟩

theorem rooms_leave {pending : List String} (hch : x.currentChat = some id ∨ id ∉ x.rooms)
    (hp : id ∉ pending) : {room | room ∈ (x.leave id).rooms ∨ room ∈ pending} =
      {room | room ∈ x.rooms ∨ room ∈ pending} \ {id} := by
  ext room
  simp only [Set.mem_ofPred_eq, Set.mem_sdiff, Set.mem_singleton_iff, mem_rooms_leave_iff hch]
  constructor
  · rintro (⟨hr, hne⟩ | hw)
    · exact ⟨.inl hr, hne⟩
    · exact ⟨.inr hw, fun heq => hp (heq ▸ hw)⟩
  · rintro ⟨hr | hw, hne⟩
    · exact .inl ⟨hr, hne⟩
    · exact .inr hw

theorem tracks_receive (h : Tracks env server l) (hca : l.Careful .receive) :
    Tracks env server (l.receive env) := by
  obtain ⟨rooms, so, c, pending, s, j⟩ := l
  cases so with
  | none => exact h
  | some k =>
    cases c with
    | nil => exact h
    | cons e rest =>
      cases e with
      | joinChat id =>
        refine tracks_received h rfl rfl rfl rfl rfl rfl ?_ fun id' hid' => ?_
        · ext id'
          simp only [effect, receive, Set.mem_ofPred_eq, Set.mem_insert_iff,
            mem_append, mem_singleton]
          rw [or_comm (a := id' = id), or_assoc]
          rfl
        · rcases mem_append.mp hid' with hold | hnew
          · exact .inl hold
          · exact .inr (congrArg Emitted.joinChat (mem_singleton.mp hnew).symm)
      | leaveChat =>
        obtain ⟨hp, hch⟩ := hca
        have hx := getElem?_eq_getElem (h.socket k rfl)
        rw [serverSocket_of rfl hx, serverRooms_of rfl hx, Option.bind_some] at hch
        refine tracks_received h rfl rfl rfl rfl (length_modify ..) rfl ?_ fun id' hid' => .inl hid'
        rw [serverRooms_of rfl hx, serverRooms_of rfl (Collection.getElem?_modify_self hx _)]
        exact rooms_leave hch hp
      | joinRoom => exact tracks_received h rfl rfl rfl rfl rfl rfl rfl fun id' hid' => .inl hid'

variable {i : Nat}

theorem complete_some (hk : l.socket = some k) (hi : l.pending[i]? = some id) : l.complete env i =
      { l with
        pending := l.pending.eraseIdx i
        server := ((handle env (.event k (.joinChat id))).run exec l.server).1 } := by
  rw [complete, hk, hi]

theorem mem_or_mem_eraseIdx {ids : List String} {room : String} (hi : ids[i]? = some id) :
    room = id ∨ room ∈ ids.eraseIdx i ↔ room ∈ ids := by
  constructor
  · rintro (rfl | hr)
    · exact mem_of_getElem? hi
    · exact mem_of_mem_eraseIdx hr
  · intro hr
    obtain ⟨j, hj⟩ := mem_iff_getElem?.mp hr
    by_cases hij : j = i
    · subst hij
      exact .inl (Option.mem_unique hj hi)
    · exact .inr (mem_eraseIdx_iff_getElem?.mpr ⟨j, hij, hj⟩)

theorem rooms_or_waiting {ids : List String} (hi : ids[i]? = some id) (rooms : List String) :
    ({ room | room ∈ id :: rooms ∨ room ∈ ids.eraseIdx i } : Set String) =
      { room | room ∈ rooms ∨ room ∈ ids } := by
  ext room
  simp only [Set.mem_ofPred_eq, mem_cons, ← mem_or_mem_eraseIdx hi]
  tauto

theorem tracks_complete (h : Tracks env server l) : Tracks env server (l.complete env i) := by
  obtain ⟨rooms, so, c, pending, s, j⟩ := l
  cases so with
  | none => exact h
  | some k =>
    cases hi : pending[i]? with
    | none =>
      simp only [complete, hi]
      exact h
    | some id =>
      have had : Admits env s k id :=
        admits_congr h.conversations (h.pending id (mem_of_getElem? hi) k)
      have hx := getElem?_eq_getElem (h.socket k rfl)
      rw [complete_some rfl hi, run_joinChat_admitted had]
      refine ⟨h.conversations, fun k' hk' => ?_, fun hup => ?_, h.channel, fun id' hid' => ?_⟩
      · rw [length_modify]
        exact h.socket k' hk'
      · rw [← h.promised hup, Link.promised, Link.promised, serverRooms_of rfl hx,
          serverRooms_of rfl (Collection.getElem?_modify_self hx _)]
        exact congrArg (c.foldl effect) (rooms_or_waiting hi _)
      · exact h.pending id' (mem_of_mem_eraseIdx hid')

theorem tracks_step {a : Action} (h : Tracks env server l) (hca : l.Careful a)
    (hpa : ∀ id, a = .joinConversation id → ∀ k, Admits env server k id) :
    Tracks env server (l.step env a) := by
  cases a with
  | joinConversation id => exact tracks_joinConversation h (hpa id rfl)
  | leaveConversation => exact tracks_leaveConversation h
  | lose => exact tracks_lose h
  | reconnect => exact tracks_reconnect h hca
  | receive => exact tracks_receive h hca
  | complete => exact tracks_complete h

theorem tracks_start : Tracks env server (.start server) where
  conversations := rfl
  socket k hk := by cases hk
  promised hup := by cases hup
  channel id hid := absurd hid not_mem_nil
  pending id hid := absurd hid not_mem_nil

theorem Tracks.agrees (h : Tracks env server l) (hl : l.Settled) : l.Agrees := by
  obtain ⟨hup, hch, hp⟩ := hl
  have hpr := h.promised hup
  rw [Link.promised, hch, hp] at hpr
  intro id
  have hid := Set.ext_iff.mp hpr id
  simpa using hid

end

end Link

/-- As long as every action is careful, the rooms of a participant's socket are
the conversations joined and not left, whenever the connection is up and
everything emitted has been handled. -/
theorem rooms_agree_of_careful (env : Env) (server : Server) (actions : List Action)
    (hpart : ∀ id, .joinConversation id ∈ actions → ∀ k, Admits env server k id)
    (h : Every (Link.step env) Link.Careful (.start server) actions) :
    Always (Link.step env) (fun l => l.Settled → l.Agrees) (.start server) actions := by
  have hjoi : Every (Link.step env)
      (fun _ a => ∀ id, a = .joinConversation id → ∀ k, Admits env server k id)
      (.start server) actions := every_of_forall fun a ha id heq => hpart id (heq ▸ ha)
  have htra : Always (Link.step env) (Link.Tracks env server) (.start server) actions :=
    always_of_every (fun l a hl hP => Link.tracks_step hl hP.1 hP.2) Link.tracks_start (h.and hjoi)
  exact always_mono (fun l hl hset => hl.agrees hset) htra

/-! ## Joining, leaving, reconnecting -/

def Env.single : Env where
  castId text := [("a", 0), ("b", 1)].lookup text
  account _ := ⟨1, .member⟩
  members := []
  creators := []

def Server.single : Server :=
  .start [.new [⟨1, .member, .member⟩, ⟨2, .creator, .creator⟩],
    .new [⟨1, .member, .member⟩, ⟨3, .creator, .creator⟩]] [] [] 0

theorem rooms_agree_single :
    Always (Link.step .single) (fun l => l.Settled → l.Agrees) (.start .single)
      [.reconnect, .joinConversation "a", .receive, .complete 0, .leaveConversation "a", .receive,
        .lose, .reconnect, .joinConversation "b", .receive, .complete 0] := by
  refine rooms_agree_of_careful .single .single _ (fun id hid k => ?_) (by decide +kernel)
  obtain rfl | rfl : id = "a" ∨ id = "b" := by simpa using hid
  · exact ⟨0, _, rfl, rfl, rfl⟩
  · exact ⟨1, _, rfl, rfl, rfl⟩

def reconnected : List Action :=
  [.reconnect, .joinConversation "a", .receive, .complete 0, .lose, .reconnect, .receive]

def leftFirst : List Action :=
  [.reconnect, .joinConversation "a", .receive, .complete 0, .joinConversation "b", .receive,
    .complete 0, .leaveConversation "a", .receive]

theorem rooms_disagree :
    (final (Link.step .single) (.start .single) reconnected).serverRooms = [] ∧
    (final (Link.step .single) (.start .single) reconnected).joined = ["a"] ∧
    ¬Always (Link.step .single) (fun l => l.Settled → l.Agrees) (.start .single) reconnected ∧
    (final (Link.step .single) (.start .single) leftFirst).serverRooms = ["b", "a"] ∧
    (final (Link.step .single) (.start .single) leftFirst).joined = ["b"] ∧
    ¬Always (Link.step .single) (fun l => l.Settled → l.Agrees) (.start .single) leftFirst := by
  have hroo : (final (Link.step .single) (.start .single) reconnected).serverRooms = [] := by
    decide +kernel
  have hjoi : (final (Link.step .single) (.start .single) reconnected).joined = ["a"] := by
    decide +kernel
  have hroo' : (final (Link.step .single) (.start .single) leftFirst).serverRooms =
      ["b", "a"] := by decide +kernel
  have hjoi' : (final (Link.step .single) (.start .single) leftFirst).joined = ["b"] := by
    decide +kernel
  refine ⟨hroo, hjoi, fun h => ?_, hroo', hjoi', fun h => ?_⟩
  · have hagr := h.last (by decide +kernel) "a"
    rw [hroo, hjoi] at hagr
    exact absurd (hagr.mpr mem_cons_self) not_mem_nil
  · have hagr := h.last (by decide +kernel) "a"
    rw [hroo', hjoi'] at hagr
    exact absurd (hagr.mp (by decide)) (by decide)

end SexySelfies.Messaging
