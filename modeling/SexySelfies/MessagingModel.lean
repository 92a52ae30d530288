import SexySelfies.Collection
import SexySelfies.Interleave
import SexySelfies.Platform

/-!
# Messaging between members and creators

Conversations and their messages, and everything that reads or writes them: the socket events of
`messaging.socket.js` and the handlers of `message.controller.js`. A message is sent by loading the
conversation, creating the message and saving the conversation with the counters increased by one,
in memory: a save overwrites the counters it has set.

Ids come as texts. A chat room is named by the text the client sent, not by the id.

Specification variables are `sent`, the conversations of all messages created, `delivered`, the
sockets that got a new message, and the last argument of `markRead`.
-/

namespace SexySelfies.Messaging

open Js Platform Interleave

/-! ## Documents -/

inductive Role where
  | member
  | creator
deriving DecidableEq

inductive UserModel where
  | member
  | creator
deriving DecidableEq

inductive AccountRole where
  | member
  | creator
  | admin

structure Account where
  id : Nat
  role : AccountRole

structure Participant where
  user : Nat
  userModel : UserModel
  role : Role
deriving DecidableEq

structure Conversation where
  participants : List Participant
  lastMessage : Option Nat
  unreadMember : Nat
  unreadCreator : Nat
  totalMessages : Nat
deriving DecidableEq

def Conversation.new (participants : List Participant) : Conversation :=
  ⟨participants, none, 0, 0, 0⟩

variable (c : Conversation)

def Conversation.unread : Role → Nat
  | .member => c.unreadMember
  | .creator => c.unreadCreator

def Conversation.setUnread (n : Nat) : Role → Conversation
  | .member => { c with unreadMember := n }
  | .creator => { c with unreadCreator := n }

variable (user : Nat)

def Conversation.has : Bool :=
  c.participants.any fun p => p.user = user

def Conversation.sender : Option Participant :=
  c.participants.find? fun p => p.user = user

def Conversation.recipient : Option Participant :=
  c.participants.find? fun p => p.user ≠ user

structure Message where
  conversation : Nat
  sender : Nat
  senderModel : UserModel
  recipient : Nat
  recipientModel : UserModel
  media : Bool
  read : Bool
  isDeleted : Bool
  deletedAt : Option Nat
  updatedAt : Nat
deriving DecidableEq

/-- The profile of a creator; `id` is that of the profile, `user` that of the
account. The username is not required of creators. -/
structure Creator where
  id : Nat
  user : Nat
  username : Option String
  isVerified : Bool
  isPaused : Bool

structure Member where
  id : Nat
  user : Nat
  username : String

/-- `connected` is false once the socket has disconnected. -/
structure Socket where
  rooms : List String
  currentChat : Option String
  connected : Bool

def Socket.new : Socket := ⟨[], none, true⟩

/-! ## The store -/

structure Server where
  conversations : List Conversation
  messages : List (Nat × Message)
  sent : List Nat
  sockets : List Socket
  delivered : List (Nat × Nat)

def Server.start (conversations : List Conversation) (messages : List (Nat × Message))
    (sent : List Nat) (n : Nat) : Server :=
  ⟨conversations, messages, sent, List.replicate n Socket.new, []⟩

inductive Op where
  | findConversation (id : Nat)
  | findBetween (user user' : Nat)
  | insertConversation (participants : List Participant)
  | createMessage (m : Message)
  | saveSent (id : Nat) (loaded : Conversation) (role : Role) (message : Nat)
  | saveRead (id : Nat) (loaded : Conversation) (role : Role)
  | findMessage (id : Nat)
  | saveDeleted (id : Nat) (loaded : Message) (now : Nat)
  | saveDeletedAt (id : Nat) (now : Nat)
  | markRead (conversation user now : Nat) (cleared : Role → Nat)
  | touch (id : Nat) (now : Nat)
  | deleteMany (conversation : Nat)
  | joinRoom (socket : Nat) (room : String)
  | leaveRoom (socket : Nat) (room : String)
  | broadcast (room : String) (conversation : Nat)
  | disconnect (socket : Nat)

@[reducible] def Op.Res : Op → Type
  | .findConversation _ => Option Conversation
  | .findBetween _ _ => Option Nat
  | .insertConversation _ => Nat
  | .createMessage _ => Nat
  | .findMessage _ => Option Message
  | .saveDeleted _ _ _ => Bool
  | .saveDeletedAt _ _ => Bool
  | _ => Unit

variable (s : Server)

def Server.message? (id : Nat) : Option Message :=
  (s.messages.find? fun m => m.1 = id).map Prod.snd

def Server.modifyMessage (id : Nat) (f : Message → Message) : Server :=
  { s with messages := s.messages.map fun m => if m.1 = id then (m.1, f m.2) else m }

variable (loaded : Conversation)

/-- The new counters are those of the loaded document plus one. -/
def Conversation.countSent (role : Role) (message : Nat)
    (c : Conversation) : Conversation :=
  { c.setUnread (loaded.unread role + 1) role with
    lastMessage := some message
    totalMessages := loaded.totalMessages + 1 }

def Conversation.resetUnread (role : Role) (c : Conversation) :
    Conversation :=
  c.setUnread (assign (loaded.unread role) 0 (c.unread role)) role

def Message.delete (loaded : Message) (now : Nat) (m : Message) : Message :=
  { m with
    isDeleted := assign loaded.isDeleted true m.isDeleted
    deletedAt := some now
    updatedAt := now }

variable (now : Nat)

/-- The path `deleted` is not declared and not stored. -/
def Message.stampDeleted (m : Message) : Message :=
  { m with deletedAt := some now, updatedAt := now }

def Message.unreadBy (m : Message) (conversation user : Nat) : Bool :=
  m.conversation = conversation && m.recipient = user && !m.read

def Message.markRead (m : Message) : Message :=
  { m with read := true, updatedAt := now }

/-- The path `pinned` is not declared; the update still sets the timestamp. -/
def Message.touch (m : Message) : Message := { m with updatedAt := now }

def Socket.join (room : String) (x : Socket) : Socket :=
  { x with rooms := room :: x.rooms, currentChat := some room }

def Socket.leave (room : String) (x : Socket) : Socket :=
  if x.currentChat = some room then
    { x with rooms := x.rooms.filter (· ≠ room), currentChat := none }
  else x

def Socket.disconnect (x : Socket) : Socket := { x with rooms := [], connected := false }

def Server.receivers (room : String) : List Nat :=
  (List.range s.sockets.length).filter fun k =>
    (s.sockets[k]?).any fun x => x.connected && room ∈ x.rooms

def exec : (o : Op) → Server → Server × o.Res
  | .findConversation id, s => (s, s.conversations[id]?)
  | .findBetween user user', s =>
    (s, s.conversations.findIdx? fun c => c.has user && c.has user')
  | .insertConversation participants, s =>
    ({ s with conversations := s.conversations ++ [Conversation.new participants] },
      s.conversations.length)
  | .createMessage m, s =>
    ({ s with
        messages := s.messages ++ [(s.sent.length, m)]
        sent := s.sent ++ [m.conversation] }, s.sent.length)
  | .saveSent id loaded role message, s =>
    ({ s with conversations := s.conversations.modify id (loaded.countSent role message) }, ())
  | .saveRead id loaded role, s =>
    ({ s with conversations := s.conversations.modify id (loaded.resetUnread role) }, ())
  | .findMessage id, s => (s, s.message? id)
  | .saveDeleted id loaded now, s =>
    (s.modifyMessage id (loaded.delete now), (s.message? id).isSome)
  | .saveDeletedAt id now, s =>
    (s.modifyMessage id (Message.stampDeleted now), (s.message? id).isSome)
  | .markRead conversation user now _, s =>
    ({ s with messages := s.messages.map fun m =>
        if m.2.unreadBy conversation user then (m.1, m.2.markRead now) else m }, ())
  | .touch id now, s => (s.modifyMessage id (Message.touch now), ())
  | .deleteMany conversation, s =>
    ({ s with messages := s.messages.filter fun m => m.2.conversation ≠ conversation }, ())
  | .joinRoom socket room, s =>
    ({ s with sockets := s.sockets.modify socket (Socket.join room) }, ())
  | .leaveRoom socket room, s =>
    ({ s with sockets := s.sockets.modify socket (Socket.leave room) }, ())
  | .broadcast room conversation, s =>
    ({ s with
        delivered := s.delivered ++ (s.receivers room).map fun k => (k, conversation) }, ())
  | .disconnect socket, s =>
    ({ s with sockets := s.sockets.modify socket Socket.disconnect }, ())

/-! ## Requests -/

inductive Answer where
  | http (status : Nat) (message : String)
  | conversation (id : Nat)
  | emit (event message : String)
  | silent
deriving DecidableEq

abbrev Handler := Proc Op.Res Answer

variable (id : Nat)

def findConversation : Proc Op.Res (Option Conversation) :=
  perform (Op.findConversation id)

def findBetween (user user' : Nat) : Proc Op.Res (Option Nat) :=
  perform (Op.findBetween user user')

def insertConversation (participants : List Participant) : Proc Op.Res Nat :=
  perform (Op.insertConversation participants)

def findMessage : Proc Op.Res (Option Message) := perform (Op.findMessage id)

/-- Saving fails when the message is gone. -/
def saveDeleted (loaded : Message) (now : Nat) : Proc Op.Res Bool :=
  perform (Op.saveDeleted id loaded now)

def saveDeletedAt (now : Nat) : Proc Op.Res Bool := perform (Op.saveDeletedAt id now)

theorem run_findConversation (f : Option Conversation → Handler) (s : Server) :
    (findConversation id >>= f).run exec s = (f s.conversations[id]?).run exec s := rfl

theorem run_findMessage (f : Option Message → Handler) (s : Server) :
    (findMessage id >>= f).run exec s = (f (s.message? id)).run exec s := rfl

structure Env where
  castId : String → Option Nat
  account : Nat → Account
  members : List Member
  creators : List Creator

inductive Event where
  | joinChat (conversationId : String)
  | leaveChat (conversationId : String)
  | sendMessage (conversationId : String) (content replyTo : Value) (now : Nat)
  | markMessagesRead (conversationId : String) (now : Nat)
  | deleteMessage (messageId : String) (now : Nat)
  | typing (conversationId : String)
  | disconnect

/-- `media` is the number of uploaded files. -/
inductive Call where
  | createOrGetConversation (userId username userModel : Option String)
  | sendMessageToConversation (conversationId : String) (content : Value) (media now : Nat)
  | markAllAsRead (conversationId : String) (now : Nat)
  | deleteMessage (messageId : String) (now : Nat)
  | pinMessage (messageId : String) (now : Nat)
  | clearConversation (conversationId : String)

inductive Request where
  | event (socket : Nat) (e : Event)
  | call (account : Account) (c : Call)

variable (env : Env)

def Request.account : Request → Account
  | .event socket _ => env.account socket
  | .call account _ => account

/-! ## Starting a conversation -/

def Creator.available (c : Creator) : Bool := c.isVerified && !c.isPaused

def UserModel.names : List (String × UserModel) := [("Member", .member), ("Creator", .creator)]

def UserModel.role : UserModel → Role
  | .member => .member
  | .creator => .creator

def AccountRole.participant : AccountRole → Option Role
  | .member => some .member
  | .creator => some .creator
  | .admin => none

def AccountRole.model : AccountRole → UserModel
  | .creator => .creator
  | _ => .member

def Env.target (userId username userModel : Option String) : Except Answer Nat :=
  match userId.filter (· ≠ ""), username.filter (· ≠ "") with
  | none, none => .error (.http 400 "Either userId or username is required")
  | none, some username =>
    match userModel with
    | some "Creator" =>
      match env.creators.find? fun c => c.username = some username && c.available with
      | some creator => .ok creator.id
      | none =>
        .error (.http 404 ("Creator not found or not available for messaging. " ++
          "Creators must be verified to receive messages."))
    | some "Member" =>
      match env.members.find? fun m => m.username = username with
      | some member => .ok member.id
      | none => .error (.http 404 "Member not found")
    | _ => .error (.http 400 "Invalid userModel. Must be \"Creator\" or \"Member\"")
  | some userId, _ =>
    match env.castId userId with
    | none => .error (.http 500 "Cast to ObjectId failed")
    | some id =>
      match userModel with
      | some "Creator" =>
        if env.creators.any fun c => c.id = id && c.available then .ok id
        else .error (.http 403 "This creator is not verified and cannot receive messages")
      | some "Member" =>
        if env.members.any fun m => m.id = id then .ok id
        else .error (.http 404 "Member not found")
      | _ => .ok id

def newParticipants (account : Account) (target : Nat) (userModel : Option String) :
    Option (List Participant) := do
  let role ← account.role.participant
  let model ← userModel.bind fun name => UserModel.names.lookup name
  return [⟨account.id, account.role.model, role⟩, ⟨target, model, model.role⟩]

def createOrGetConversation (account : Account)
    (userId username userModel : Option String) : Handler :=
  match env.target userId username userModel with
  | .error answer => return answer
  | .ok target =>
    if account.role.model = .creator ∧ userModel = some "Creator" then
      return .http 403 "Creators cannot message other creators"
    else if account.role.model = .member ∧ userModel = some "Member" then
      return .http 403 "Members cannot message other members"
    else do
      match ← findBetween account.id target with
      | some id => return .conversation id
      | none =>
        match newParticipants account target userModel with
        | none => return .http 500 "Validation failed"
        | some participants =>
          let id ← insertConversation participants
          return .conversation id

/-! ## Sending -/

def newMessage (sender recipient : Participant) (media : Bool) (now : Nat) :
    Message where
  conversation := id
  sender := sender.user
  senderModel := sender.userModel
  recipient := recipient.user
  recipientModel := recipient.userModel
  media := media
  read := false
  isDeleted := false
  deletedAt := none
  updatedAt := now

def deliver (conversation : Conversation) (sender recipient : Participant)
    (media : Bool) (now : Nat) (rest : Handler) : Handler := do
  let message ← perform (.createMessage (newMessage id sender recipient media now))
  let _ ← perform (.saveSent id conversation recipient.role message)
  rest

/-- `typeof content === 'string' ? content : content.text`, `none` when it throws. -/
def contentOf : Value → Option Value
  | .str text => some (.str text)
  | .undefined => none
  | .null => none
  | v => some (v.get "text")

/-- The message passes validation: the content casts to a text of at most a
thousand characters, and what is given as `replyTo` is an object id. -/
def acceptsMessage (castId : String → Option Nat) (content replyTo : Value) : Bool :=
  (contentOf content).any (castsWithin 1000) &&
    (!replyTo.truthy ||
      match replyTo with
      | .str text => (castId text).isSome
      | _ => false)

/-- The text to store, `none` when there is neither text nor media. On what is
not a string, `trim` throws. -/
def textToSend (content : Value) (media : Nat) : Except String (Option String) :=
  if !content.truthy then .ok (if media = 0 then none else some "")
  else
    match content with
    | .str text =>
      if (trim text.toList).isEmpty then .ok (if media = 0 then none else some "")
      else .ok (some (String.ofList (trim text.toList)))
    | _ => .error "content.trim is not a function"

variable (env : Env) (socket : Nat) (conversationId : String)

def sendMessage (content replyTo : Value) (now : Nat) :
    Handler := do
  let failed : Answer := .emit "message_error" "Failed to send message"
  match env.castId conversationId with
  | none => return failed
  | some id =>
    match ← findConversation id with
    | none => return .emit "message_error" "Conversation not found"
    | some conversation =>
      match conversation.sender (env.account socket).id,
          conversation.recipient (env.account socket).id with
      | none, _ =>
        return .emit "message_error" "You are not a participant in this conversation"
      | some _, none => return failed
      | some sender, some recipient =>
        if acceptsMessage env.castId content replyTo then
          deliver id conversation sender recipient false now do
            let _ ← perform (.broadcast conversationId id)
            return .emit "message_sent" ""
        else return failed

variable (account : Account) (conversationId : String)

def sendMessageToConversation (content : Value)
    (media now : Nat) : Handler :=
  let failed : Answer := .http 500 "Failed to send message"
  match textToSend content media with
  | .error _ => return failed
  | .ok none => return .http 400 "Message must have content or media"
  | .ok (some text) =>
    match env.castId conversationId with
    | none => return failed
    | some id => do
        match ← findConversation id with
        | none => return .http 404 "Conversation not found"
        | some conversation =>
          match conversation.sender account.id, conversation.recipient account.id with
          | none, _ => return .http 403 "You are not a participant in this conversation"
          | some _, none => return .http 400 "No recipient found in conversation"
          | some sender, some recipient =>
            if utf16Length text ≤ 1000 then
              deliver id conversation sender recipient (media ≠ 0) now
                (return .http 201 "")
            else return failed

def joinChat : Handler := do
  match env.castId conversationId with
  | none => return .emit "error" "Failed to join chat"
  | some id =>
    match ← findConversation id with
    | none => return .emit "error" "Conversation not found"
    | some conversation =>
      if conversation.has (env.account socket).id then
        let _ ← perform (.joinRoom socket conversationId)
        return .emit "chat_joined" ""
      else return .emit "error" "Access denied to this chat"

def leaveChat : Handler := do
  let _ ← perform (.leaveRoom socket conversationId)
  return .silent

/-! ## Reading and deleting -/

/-- Anyone who is not a member counts as a creator. -/
def AccountRole.counter : AccountRole → Role
  | .member => .member
  | _ => .creator

def markMessagesRead (now : Nat) : Handler := do
  match env.castId conversationId with
  | none => return .silent
  | some id =>
    let account := env.account socket
    match ← findConversation id with
    | none =>
      let _ ← perform (.markRead id account.id now fun _ => 0)
      return .silent
    | some conversation =>
      let _ ← perform (.saveRead id conversation account.role.counter)
      let _ ← perform (.markRead id account.id now fun role =>
        if role = account.role.counter then conversation.unread role else 0)
      return .silent

variable (messageId : String)

def deleteSocketMessage (now : Nat) : Handler := do
  match env.castId messageId with
  | none => return .emit "error" "Failed to delete message"
  | some id =>
    match ← findMessage id with
    | none => return .emit "error" "Cannot delete this message"
    | some message =>
      if message.sender = (env.account socket).id then
        let saved ← saveDeleted id message now
        return if saved then .silent else .emit "error" "Failed to delete message"
      else return .emit "error" "Cannot delete this message"

def markAllAsRead (now : Nat) : Handler :=
  match env.castId conversationId with
  | none => return .http 500 "Cast to ObjectId failed"
  | some id => do
      let _ ← perform (.markRead id account.id now fun _ => 0)
      return .http 200 "All messages marked as read"

def deleteMessage (now : Nat) : Handler :=
  match env.castId messageId with
  | none => return .http 500 "Failed to delete message"
  | some id => do
      match ← findMessage id with
      | none => return .http 404 "Message not found"
      | some message =>
        if message.sender = account.id then
          let saved ← saveDeletedAt id now
          return if saved then .http 200 "Message deleted successfully"
            else .http 500 "Failed to delete message"
        else return .http 403 "You can only delete your own messages"

def pinMessage (now : Nat) : Handler :=
  match env.castId messageId with
  | none => return .http 500 "Cast to ObjectId failed"
  | some id => do
      let _ ← perform (.touch id now)
      return .http 200 ""

def clearConversation : Handler :=
  match env.castId conversationId with
  | none => return .http 500 "Cast to ObjectId failed"
  | some id => do
      let _ ← perform (.deleteMany id)
      return .http 200 "Conversation cleared"

def handle : Request → Handler
  | .event socket (.joinChat id) => joinChat env socket id
  | .event socket (.leaveChat id) => leaveChat socket id
  | .event socket (.sendMessage id content replyTo now) =>
    sendMessage env socket id content replyTo now
  | .event socket (.markMessagesRead id now) => markMessagesRead env socket id now
  | .event socket (.deleteMessage id now) => deleteSocketMessage env socket id now
  | .event _ (.typing _) => return .silent
  | .event socket .disconnect => do
      let _ ← perform (.disconnect socket)
      return .silent
  | .call account (.createOrGetConversation userId username userModel) =>
    createOrGetConversation env account userId username userModel
  | .call account (.sendMessageToConversation id content media now) =>
    sendMessageToConversation env account id content media now
  | .call account (.markAllAsRead id now) => markAllAsRead env account id now
  | .call account (.deleteMessage id now) => deleteMessage env account id now
  | .call _ (.pinMessage id now) => pinMessage env id now
  | .call _ (.clearConversation id) => clearConversation env id

end SexySelfies.Messaging
