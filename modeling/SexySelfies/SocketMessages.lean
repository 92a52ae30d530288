import SexySelfies.JsValue
import SexySelfies.Runs

/-!
# Messages of the socket service

The frontend `SocketService` sends a message at once when it is connected, and queues it otherwise;
when a connection is made, the handler of `connect` drains the queue. Nothing in `connect` keeps the
service from making a second socket while the first is not connected.
-/

namespace SexySelfies.SocketService

open Js Runs List

/-! ## The service -/

inductive Message where
  | direct (recipient_id message type media_url reply_to : Value) (timestamp client_id : String)
  | inConversation (conversationId content replyTo : Value) (clientId : String)

inductive Emission where
  | sendMessage (m : Message)
  | joinRoom (room : String)
  | leaveRoom (room : String)

structure Socket where
  id : Nat
  connected : Bool
deriving DecidableEq

inductive Phase where
  | idle
  /-- in `connect`, before the rooms are joined again -/
  | rejoining
  /-- in `processMessageQueue` -/
  | draining
  /-- in `connect`, when the application is notified -/
  | notifyingConnected
  /-- in `disconnect`, when the application is notified -/
  | notifyingLost (reason : String)
  /-- in `disconnect`, where the reason is looked at -/
  | closing (reason : String)
deriving DecidableEq

/-- The service, with `sockets` the sockets that live, `made` the number ever
made and `emitted` what was emitted on them. `passed` is the specification: the
messages that were passed to the service. -/
structure Client where
  socket : Option Nat
  connected : Bool
  rooms : List String
  messageQueue : List Message
  sockets : List Socket
  made : Nat
  emitted : List (Nat × Emission)
  phase : Phase
  passed : List Message

def start : Client := ⟨none, false, [], [], [], 0, [], .idle, []⟩

namespace Client

variable (c : Client)

def emit (e : Emission) : Client :=
  match c.socket with
  | none => c
  | some id => { c with emitted := c.emitted ++ [(id, e)] }

def emitAll (es : List Emission) : Client := es.foldl emit c

def socketConnected : Bool :=
  match c.socket with
  | none => false
  | some id => ⟨id, true⟩ ∈ c.sockets

/-- The end of `sendMessage` and `sendConversationMessage`. -/
def send (m : Message) : Client :=
  let c := { c with passed := c.passed ++ [m] }
  if !c.connected then { c with messageQueue := c.messageQueue ++ [m] }
  else c.emit (.sendMessage m)

def orElse (a b : Value) : Value := if a.truthy then a else b

/-- Reading the text of a missing message throws. -/
def sendMessage (recipientId message : Value) (timestamp clientId : String) : Client :=
  if message.isNullish then c
  else
    c.send (.direct recipientId (message.get "text") (orElse (message.get "type") (.str "text"))
      (message.get "media_url") (message.get "reply_to") timestamp clientId)

def sendConversationMessage (conversationId content replyTo : Value)
    (clientId : String) : Client :=
  c.send (.inConversation conversationId content
    (match replyTo with
      | .undefined => .null
      | replyTo => replyTo) clientId)

/-- `token || localStorage.getItem('token')`, if it is not empty. -/
def authToken (token stored : Option String) : Option String :=
  (token.filter (· ≠ "")).or (stored.filter (· ≠ ""))

def connect (token stored : Option String) : Client :=
  if c.socketConnected then c
  else
    match authToken token stored with
    | none => c
    | some _ =>
      { c with
        socket := some c.made
        sockets := c.sockets ++ [⟨c.made, false⟩]
        made := c.made + 1 }

def joinRoom (room : String) : Client :=
  if !c.socketConnected then c
  else { c.emit (.joinRoom room) with rooms := c.rooms.insert room }

def leaveRoom (room : String) : Client :=
  if !c.socketConnected then c
  else { c.emit (.leaveRoom room) with rooms := c.rooms.erase room }

/-- When the socket is disconnected, its handler finds no application handlers
and changes nothing that is not changed here. -/
def disconnect : Client :=
  match c.socket with
  | none => c
  | some id =>
    let c := c.rooms.foldl leaveRoom c
    { c with
      socket := none
      connected := false
      sockets := c.sockets.filter fun k => k.id ≠ id }

def setConnected (id : Nat) (connected : Bool) : Client :=
  { c with sockets := c.sockets.map fun k => if k.id = id then { k with connected } else k }

end Client

inductive Call where
  | sendMessage (recipientId message : Value) (timestamp clientId : String)
  | sendConversationMessage (conversationId content replyTo : Value) (clientId : String)
  | connect (token stored : Option String)
  | disconnect
  | joinRoom (room : String)
  | leaveRoom (room : String)

variable (c : Client)

def Call.run : Call → Client
  | .sendMessage recipientId message timestamp clientId =>
    c.sendMessage recipientId message timestamp clientId
  | .sendConversationMessage conversationId content replyTo clientId =>
    c.sendConversationMessage conversationId content replyTo clientId
  | .connect token stored => c.connect token stored
  | .disconnect => c.disconnect
  | .joinRoom room => c.joinRoom room
  | .leaveRoom room => c.leaveRoom room

inductive Input where
  | call (k : Call)
  | socketConnect (id : Nat)
  | socketDisconnect (id : Nat) (reason : String)
  | socketGone (id : Nat)
  | next

/-- The application can call: no handler runs, or it is being notified. -/
def Phase.isOpen : Phase → Bool
  | .idle => true
  | .notifyingConnected => true
  | .notifyingLost _ => true
  | _ => false

/-- The handler of `connect`, up to the rooms; without a socket it throws. -/
def Client.onConnect : Client :=
  match c.socket with
  | none => c
  | some _ => { c with connected := true, phase := .rejoining }

/-- The handler of `disconnect`, up to the notification. -/
def Client.onDisconnect (reason : String) : Client :=
  { c with connected := false, phase := .notifyingLost reason }

/-- The next part of the handler. `reconnect` disconnects at once and connects
later, which is a call of its own. -/
def Client.advance : Client :=
  match c.phase with
  | .idle => c
  | .rejoining => { c.emitAll (c.rooms.map .joinRoom) with phase := .draining }
  | .draining =>
    match c.messageQueue with
    | [] => { c with phase := .notifyingConnected }
    | m :: rest => { c with messageQueue := rest }.emit (.sendMessage m)
  | .notifyingConnected => { c with phase := .idle }
  | .notifyingLost reason => { c with phase := .closing reason }
  | .closing reason =>
    if reason = "io server disconnect" then { c.disconnect with phase := .idle }
    else { c with phase := .idle }

/-- An event that cannot occur, and a call while a handler runs, change
nothing. -/
def step : Input → Client
  | .call k => if c.phase.isOpen then k.run c else c
  | .socketConnect id =>
    if c.phase = .idle ∧ ⟨id, false⟩ ∈ c.sockets then (c.setConnected id true).onConnect else c
  | .socketDisconnect id reason =>
    if c.phase = .idle ∧ ⟨id, true⟩ ∈ c.sockets then
      (c.setConnected id false).onDisconnect reason
    else c
  | .socketGone id => { c with sockets := c.sockets.filter fun k => k ≠ ⟨id, false⟩ }
  | .next => c.advance

/-! ## What is sent -/

def Emission.message? : Emission → Option Message
  | .sendMessage m => some m
  | .joinRoom _ => none
  | .leaveRoom _ => none

def Client.sent : List Message := c.emitted.filterMap fun e => e.2.message?

/-- Nothing but rooms and what is emitted about them has changed. -/
structure Quiet (c c' : Client) : Prop where
  sent : c'.sent = c.sent
  messageQueue : c'.messageQueue = c.messageQueue
  passed : c'.passed = c.passed
  connected : c'.connected = c.connected
  socket : c'.socket = c.socket
  sockets : c'.sockets = c.sockets
  phase : c'.phase = c.phase

theorem Quiet.refl : Quiet c c := ⟨rfl, rfl, rfl, rfl, rfl, rfl, rfl⟩

theorem Quiet.trans {a b c : Client} (h : Quiet a b) (h' : Quiet b c) : Quiet a c :=
  ⟨h'.sent.trans h.sent, h'.messageQueue.trans h.messageQueue, h'.passed.trans h.passed,
    h'.connected.trans h.connected, h'.socket.trans h.socket, h'.sockets.trans h.sockets,
    h'.phase.trans h.phase⟩

theorem quiet_foldl {α : Type} {f : Client → α → Client} (hf : ∀ c a, Quiet c (f c a))
    (as : List α) (c : Client) : Quiet c (as.foldl f c) := by
  induction as generalizing c with
  | nil => exact .refl c
  | cons a as ih => exact (hf c a).trans (ih (f c a))

variable {c : Client}

theorem emit_quiet {e : Emission} (he : e.message? = none) : Quiet c (c.emit e) := by
  unfold Client.emit
  split
  · exact .refl c
  · refine ⟨?_, rfl, rfl, rfl, rfl, rfl, rfl⟩
    simp [Client.sent, he]

theorem joinRoom_quiet (room : String) : Quiet c (c.joinRoom room) := by
  unfold Client.joinRoom
  split
  · exact .refl c
  · obtain ⟨h1, h2, h3, h4, h5, h6, h7⟩ := emit_quiet (e := .joinRoom room) rfl
    exact ⟨h1, h2, h3, h4, h5, h6, h7⟩

theorem leaveRoom_quiet (c : Client) (room : String) : Quiet c (c.leaveRoom room) := by
  unfold Client.leaveRoom
  split
  · exact .refl c
  · obtain ⟨h1, h2, h3, h4, h5, h6, h7⟩ := emit_quiet (e := .leaveRoom room) rfl
    exact ⟨h1, h2, h3, h4, h5, h6, h7⟩

theorem rejoin_quiet (rooms : List String) : Quiet c (c.emitAll (rooms.map .joinRoom)) := by
  rw [Client.emitAll, foldl_map]
  exact quiet_foldl (fun c room => emit_quiet rfl) rooms c

theorem sent_emit {c : Client} (h : c.socket.isSome) (m : Message) :
    (c.emit (.sendMessage m)).sent = c.sent ++ [m] := by
  obtain ⟨id, hid⟩ := Option.isSome_iff_exists.mp h
  simp [Client.emit, hid, Client.sent, Emission.message?]

variable (c : Client) (e : Emission)

@[simp] theorem emit_messageQueue : (c.emit e).messageQueue = c.messageQueue := by
  unfold Client.emit
  split <;> rfl

@[simp] theorem emit_passed : (c.emit e).passed = c.passed := by
  unfold Client.emit
  split <;> rfl

@[simp] theorem emit_connected : (c.emit e).connected = c.connected := by
  unfold Client.emit
  split <;> rfl

@[simp] theorem emit_socket : (c.emit e).socket = c.socket := by
  unfold Client.emit
  split <;> rfl

@[simp] theorem emit_sockets : (c.emit e).sockets = c.sockets := by
  unfold Client.emit
  split <;> rfl

@[simp] theorem emit_phase : (c.emit e).phase = c.phase := by
  unfold Client.emit
  split <;> rfl

/-! ## Order -/

/-- The handler of `connect` has still to drain the queue. -/
def Phase.isDraining : Phase → Bool
  | .rejoining => true
  | .draining => true
  | _ => false

/-- What was emitted and what waits are what was passed in, and nothing waits
while the service is connected, unless the queue is being drained. -/
structure Orderly (c : Client) : Prop where
  order : c.sent ++ c.messageQueue = c.passed
  drained : c.connected = true → c.phase.isDraining = false → c.messageQueue = []
  attached : c.connected = true → c.socket.isSome = true
  draining : c.phase.isDraining = true → c.connected = true
  live : ∀ k ∈ c.sockets, c.socket = some k.id

theorem Orderly.of_quiet {c c' : Client} (h : Orderly c) (hq : Quiet c c') : Orderly c' := by
  obtain ⟨h1, h2, h3, h4, h5, h6, h7⟩ := hq
  obtain ⟨ho, hdra, hatt, hdr, hl⟩ := h
  constructor
  · rwa [h1, h2, h3]
  · rwa [h2, h4, h7]
  · rwa [h4, h5]
  · rwa [h4, h7]
  · rwa [h5, h6]

theorem start_orderly : Orderly start := ⟨rfl, nofun, nofun, nofun, nofun⟩

theorem Phase.isDraining_of_isOpen {p : Phase} (h : p.isOpen) : p.isDraining = false := by
  cases p with
  | rejoining | draining => cases h
  | idle | notifyingConnected | notifyingLost reason | closing reason => rfl

section

variable {c : Client} {m : Message}

theorem send_of_not_connected (h : c.connected = false) :
    c.send m = { c with passed := c.passed ++ [m], messageQueue := c.messageQueue ++ [m] } := by
  simp [Client.send, h]

theorem send_of_connected (h : c.connected) :
    c.send m = { c with passed := c.passed ++ [m] }.emit (.sendMessage m) := by
  simp [Client.send, h]

theorem send_orderly (h : Orderly c) (hp : c.phase.isDraining = false) : Orderly (c.send m) := by
  obtain ⟨ho, hdra, hatt, hdr, hl⟩ := h
  cases hco : c.connected with
  | false =>
    rw [send_of_not_connected hco]
    refine ⟨?_, fun h => ?_, hatt, hdr, hl⟩
    · rw [← ho, append_assoc]
      rfl
    · exact absurd (hco.symm.trans h) Bool.false_ne_true
  | true =>
    have he := hdra hco hp
    rw [send_of_connected hco]
    refine ⟨?_, fun _ _ => ?_, fun _ => ?_, fun _ => ?_, fun k hk => ?_⟩
    · have hse := sent_emit (c := { c with passed := c.passed ++ [m] }) (hatt hco) m
      rw [hse, emit_messageQueue, emit_passed, he, append_nil, ← ho, he, append_nil]
      rfl
    · rw [emit_messageQueue, he]
    · rw [emit_socket]
      exact hatt hco
    · rwa [emit_connected]
    · rw [emit_sockets] at hk
      rw [emit_socket]
      exact hl k hk

theorem connect_orderly (h : Orderly c) (token stored : Option String)
    (hone : (c.connect token stored).sockets.length ≤ 1) : Orderly (c.connect token stored) := by
  unfold Client.connect at hone ⊢
  split
  · exact h
  · next hso =>
    rw [if_neg hso] at hone
    split
    · exact h
    · next heq =>
      simp only [heq, length_append, length_singleton] at hone
      have hn : c.sockets = [] := length_eq_zero_iff.mp (by omega)
      refine ⟨h.order, h.drained, fun _ => rfl, h.draining, fun k hk => ?_⟩
      rw [hn, nil_append, mem_singleton] at hk
      rw [hk]

theorem disconnect_orderly (h : Orderly c) (hp : c.phase.isDraining = false) :
    Orderly c.disconnect := by
  unfold Client.disconnect
  split
  · exact h
  · next id hid =>
    have hq := quiet_foldl leaveRoom_quiet c.rooms c
    obtain ⟨ho, -, -, hdr, hl⟩ := h.of_quiet hq
    refine ⟨ho, nofun, nofun, fun h => ?_, fun k hk => ?_⟩
    · rw [hq.phase, hp] at h
      exact absurd h Bool.false_ne_true
    · obtain ⟨hk, hne⟩ := mem_filter.mp hk
      have heq := hl k hk
      rw [hq.socket, hid] at heq
      exact absurd (Option.some.inj heq).symm (of_decide_eq_true hne)

theorem disconnect_phase (hp : c.phase.isDraining = false) :
    c.disconnect.phase.isDraining = false := by
  unfold Client.disconnect
  split
  · exact hp
  · rwa [← (quiet_foldl leaveRoom_quiet c.rooms c).phase] at hp

theorem run_orderly (h : Orderly c) (ho : c.phase.isOpen) (k : Call)
    (hone : (k.run c).sockets.length ≤ 1) : Orderly (k.run c) := by
  have hp := Phase.isDraining_of_isOpen ho
  cases k with
  | sendMessage =>
    simp only [Call.run, Client.sendMessage]
    split
    · exact h
    · exact send_orderly h hp
  | sendConversationMessage => exact send_orderly h hp
  | connect token stored => exact connect_orderly h token stored hone
  | disconnect => exact disconnect_orderly h hp
  | joinRoom room => exact h.of_quiet (joinRoom_quiet room)
  | leaveRoom room => exact h.of_quiet (leaveRoom_quiet c room)

variable {id : Nat}

theorem setConnected_live (h : Orderly c) (co : Bool) :
    ∀ k ∈ (c.setConnected id co).sockets, c.socket = some k.id := by
  intro k hk
  obtain ⟨k', hk', rfl⟩ := mem_map.mp hk
  rw [h.live k' hk']
  by_cases heq : k'.id = id
  · rw [if_pos heq]
  · rw [if_neg heq]

theorem connected_orderly (h : Orderly c) {id : Nat}
    (hl : ⟨id, false⟩ ∈ c.sockets) : Orderly (c.setConnected id true).onConnect := by
  have hso : c.socket = some id := h.live _ hl
  have heq : (c.setConnected id true).onConnect
      = { c.setConnected id true with connected := true, phase := .rejoining } := by
    simp only [Client.onConnect, Client.setConnected, hso]
  rw [heq]
  refine ⟨h.order, fun _ h => absurd h.symm Bool.false_ne_true, fun _ => ?_, fun _ => rfl,
    setConnected_live h true⟩
  exact hso ▸ rfl

theorem Orderly.to_phase (h : Orderly c) {p : Phase} (hp : p.isDraining = false)
    (he : c.connected → c.messageQueue = []) : Orderly { c with phase := p } :=
  ⟨h.order, fun hco _ => he hco, h.attached,
    fun hd => absurd (hp.symm.trans hd) Bool.false_ne_true, h.live⟩

theorem drain_orderly (h : Orderly c) (hp : c.phase = .draining) {m : Message}
    {rest : List Message} (hq : c.messageQueue = m :: rest) :
    Orderly ({ c with messageQueue := rest }.emit (.sendMessage m)) := by
  obtain ⟨ho, -, hatt, hdr, hl⟩ := h
  have hco : c.connected := hdr (by rw [hp]; rfl)
  have hse := sent_emit (c := { c with messageQueue := rest }) (hatt hco) m
  constructor
  · rw [hse, emit_messageQueue, emit_passed, ← ho, hq, append_assoc]
    rfl
  · rw [emit_phase]
    intro _ hnot
    rw [hp] at hnot
    cases hnot
  · rw [emit_socket]
    exact fun _ => hatt hco
  · rw [emit_connected]
    exact fun _ => hco
  · rwa [emit_sockets, emit_socket]

theorem advance_orderly (h : Orderly c) : Orderly c.advance := by
  unfold Client.advance
  split
  · exact h
  · next hp =>
    obtain ⟨ho, -, hatt, hdr, hl⟩ := h.of_quiet (rejoin_quiet c.rooms)
    have hco := hdr (by rw [(rejoin_quiet c.rooms).phase, hp]; rfl)
    exact ⟨ho, fun _ h => absurd h.symm Bool.false_ne_true, hatt, fun _ => hco, hl⟩
  · next hp =>
    split
    · next hq => exact h.to_phase rfl fun _ => hq
    · next hq => exact drain_orderly h hp hq
  · next hp => exact h.to_phase rfl fun hco => h.drained hco (by rw [hp]; rfl)
  · next hp => exact h.to_phase rfl fun hco => h.drained hco (by rw [hp]; rfl)
  · next hp =>
    have hnot : c.phase.isDraining = false := by rw [hp]; rfl
    split
    · have hd := disconnect_orderly h hnot
      exact hd.to_phase rfl fun hco => hd.drained hco (disconnect_phase hnot)
    · exact h.to_phase rfl fun hco => h.drained hco hnot

theorem step_orderly (h : Orderly c) (i : Input) (hone : (step c i).sockets.length ≤ 1) :
    Orderly (step c i) := by
  cases i with
  | call k =>
    simp only [step] at hone ⊢
    split
    · next ho =>
      rw [if_pos ho] at hone
      exact run_orderly h ho k hone
    · exact h
  | socketConnect =>
    simp only [step]
    split
    · next hl => exact connected_orderly h hl.2
    · exact h
  | socketDisconnect id reason =>
    simp only [step]
    split
    · exact ⟨h.order, nofun, nofun, nofun, setConnected_live h false⟩
    · exact h
  | socketGone =>
    exact ⟨h.order, h.drained, h.attached, h.draining, fun k hk => h.live k (mem_of_mem_filter hk)⟩
  | next => exact advance_orderly h

end

/-! ## Runs -/

/-- While there is at most one socket at a time, what is emitted is a prefix of the messages
passed in; the rest is the queue, empty whenever the service is connected and no handler runs. -/
theorem sent_in_order (inputs : List Input)
    (hone : Always step (fun c => c.sockets.length ≤ 1) start inputs) :
    Always step
      (fun c => c.sent <+: c.passed ∧ c.sent ++ c.messageQueue = c.passed
        ∧ (c.connected = true → c.phase = .idle → c.messageQueue = [])) start inputs := by
  have hrun : Always step Orderly start inputs :=
    always_of_every (fun _ i h hone => step_orderly h i hone) start_orderly hone.next
  refine always_mono (fun c h => ⟨⟨c.messageQueue, h.order⟩, h.order, fun hcon hidle => ?_⟩) hrun
  exact h.drained hcon (by rw [hidle]; rfl)

def sampleInputs : List Input :=
  [.call (.sendConversationMessage (.str "c") (.str "hello") .undefined "1_a"),
    .call (.connect (some "token") none), .socketConnect 0, .next, .next, .next, .next,
    .call (.sendConversationMessage (.str "c") (.str "again") .undefined "2_b")]

theorem sampleInputs_sent_in_order :
    Always step (fun c => c.sockets.length ≤ 1) start sampleInputs
      ∧ (final step start sampleInputs).sent.length = 2
      ∧ Always step
        (fun c => c.sent <+: c.passed ∧ c.sent ++ c.messageQueue = c.passed
          ∧ (c.connected = true → c.phase = .idle → c.messageQueue = [])) start sampleInputs := by
  have hone : Always step (fun c => c.sockets.length ≤ 1) start sampleInputs := by decide
  exact ⟨hone, rfl, sent_in_order sampleInputs hone⟩

end SexySelfies.SocketService
