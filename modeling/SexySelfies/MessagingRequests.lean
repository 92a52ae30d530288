import SexySelfies.MessagingModel

/-!
# What a request does

A messaging handler looks one document up and then performs at most three operations, in an order
that does not depend on what others do meanwhile. `Does` lists these programs with what the handler
has made sure of before each operation.
-/

namespace SexySelfies.Messaging

open Interleave

/-- What follows the lookup of the conversation a message is to be sent in. -/
inductive Sends (env : Env) (user id : Nat) : Option Conversation → Handler → Prop where
  | refused (found : Option Conversation) (x : Answer) : Sends env user id found (return x)
  | post {c : Conversation} {sender recipient : Participant} (media : Bool) (now : Nat)
      (x : Answer) (hsender : c.sender user = some sender)
      (hrecipient : c.recipient user = some recipient) :
      Sends env user id (some c) (deliver id c sender recipient media now (return x))
  | broadcast {c : Conversation} {sender recipient : Participant} {room : String} (now : Nat)
      (x : Answer) (hroom : env.castId room = some id) (hsender : c.sender user = some sender)
      (hrecipient : c.recipient user = some recipient) :
      Sends env user id (some c) (deliver id c sender recipient false now do
        let _ ← perform (.broadcast room id)
        return x)

inductive Joins (user socket : Nat) (room : String) : Option Conversation → Handler → Prop where
  | refused (found : Option Conversation) (x : Answer) : Joins user socket room found (return x)
  | join {c : Conversation} (x : Answer) (hhas : c.has user = true) :
      Joins user socket room (some c) do
        let _ ← perform (.joinRoom socket room)
        return x

inductive Reads (a : Account) (id now : Nat) : Option Conversation → Handler → Prop where
  | missing (x : Answer) : Reads a id now none do
      let _ ← perform (.markRead id a.id now fun _ => 0)
      return x
  | reset (c : Conversation) (x : Answer) : Reads a id now (some c) do
      let _ ← perform (.saveRead id c a.role.counter)
      let _ ← perform (.markRead id a.id now fun role =>
        if role = a.role.counter then c.unread role else 0)
      return x

inductive Deletes (user id : Nat) : Option Message → Handler → Prop where
  | refused (found : Option Message) (x : Answer) : Deletes user id found (return x)
  | flag {m : Message} (now : Nat) (f : Bool → Answer) (hsender : m.sender = user) :
      Deletes user id (some m) (saveDeleted id m now >>= fun b => return f b)
  | stamp {m : Message} (now : Nat) (f : Bool → Answer) (hsender : m.sender = user) :
      Deletes user id (some m) (saveDeletedAt id now >>= fun b => return f b)

inductive Opens : Handler → Prop where
  | found (x : Answer) : Opens (return x)
  | create (participants : List Participant) (f : Nat → Answer) :
      Opens (insertConversation participants >>= fun id => return f id)

def Op.departs : Op → Bool
  | .leaveRoom _ _ => true
  | .disconnect _ => true
  | _ => false

/-- The programs that write to a conversation only for its participants. -/
inductive Guarded (env : Env) : Account → Handler → Prop where
  | answer (a : Account) (x : Answer) : Guarded env a (return x)
  | create (a : Account) (t : Nat) {g : Option Nat → Handler} (h : ∀ found, Opens (g found)) :
      Guarded env a (findBetween a.id t >>= g)
  | send (a : Account) (id : Nat) {g : Option Conversation → Handler}
      (h : ∀ found, Sends env a.id id found (g found)) : Guarded env a (findConversation id >>= g)
  | join (socket id : Nat) {room : String} {g : Option Conversation → Handler}
      (hid : env.castId room = some id)
      (h : ∀ found, Joins (env.account socket).id socket room found (g found)) :
      Guarded env (env.account socket) (findConversation id >>= g)
  | depart (a : Account) {o : Op} (ho : o.departs = true) (f : o.Res → Answer) :
      Guarded env a (do let x ← perform o; return f x)

inductive Does (env : Env) (a : Account) : Handler → Prop where
  | guarded {p : Handler} (h : Guarded env a p) : Does env a p
  | read (id now : Nat) {g : Option Conversation → Handler}
      (h : ∀ found, Reads a id now found (g found)) : Does env a (findConversation id >>= g)
  | delete (id : Nat) {g : Option Message → Handler}
      (h : ∀ found, Deletes a.id id found (g found)) : Does env a (findMessage id >>= g)
  | readAll (id now : Nat) (x : Answer) : Does env a do
      let _ ← perform (.markRead id a.id now fun _ => 0)
      return x
  | pin (id now : Nat) (x : Answer) : Does env a do
      let _ ← perform (.touch id now)
      return x
  | clear (id : Nat) (x : Answer) : Does env a do
      let _ ← perform (.deleteMany id)
      return x

variable (env : Env) (a : Account)

theorem guarded_createOrGetConversation (ui username u : Option String) :
    Guarded env a (createOrGetConversation env a ui username u) := by
  rw [createOrGetConversation]
  cases env.target ui username u with
  | error x => exact .answer a x
  | ok t =>
    dsimp only
    split
    · exact .answer a _
    · split
      · exact .answer a _
      · refine .create a t fun found => ?_
        cases found with
        | some => exact .found _
        | none =>
          cases newParticipants a t u with
          | none => exact .found _
          | some participants => exact .create participants .conversation

variable (s : Nat)

theorem guarded_sendMessage (room : String) (content r : Js.Value) (now : Nat) :
    Guarded env (env.account s) (sendMessage env s room content r now) := by
  rw [sendMessage]
  cases hid : env.castId room with
  | none => exact .answer _ _
  | some id =>
    refine .send _ id fun found => ?_
    cases found with
    | none => exact .refused none _
    | some c =>
      dsimp only
      cases hsnd : c.sender (env.account s).id with
      | none => exact .refused _ _
      | some =>
        cases hrec : c.recipient (env.account s).id with
        | none => exact .refused _ _
        | some =>
          dsimp only
          split
          · exact .broadcast now _ hid hsnd hrec
          · exact .refused _ _

theorem guarded_sendMessageToConversation (text : String) (content : Js.Value)
    (media now : Nat) : Guarded env a (sendMessageToConversation env a text content media now) := by
  rw [sendMessageToConversation]
  cases textToSend content media with
  | error => exact .answer a _
  | ok body =>
    cases body with
    | none => exact .answer a _
    | some =>
      cases env.castId text with
      | none => exact .answer a _
      | some id =>
        refine .send a id fun found => ?_
        cases found with
        | none => exact .refused none _
        | some c =>
          dsimp only
          cases hsnd : c.sender a.id with
          | none => exact .refused _ _
          | some =>
            cases hrec : c.recipient a.id with
            | none => exact .refused _ _
            | some =>
              dsimp only
              split
              · exact .post _ now _ hsnd hrec
              · exact .refused _ _

theorem guarded_joinChat (room : String) :
    Guarded env (env.account s) (joinChat env s room) := by
  rw [joinChat]
  cases hid : env.castId room with
  | none => exact .answer _ _
  | some id =>
    refine .join s id hid fun found => ?_
    cases found with
    | none => exact .refused none _
    | some =>
      dsimp only
      split
      · exact .join _ ‹_›
      · exact .refused _ _

theorem does_markMessagesRead (text : String) (now : Nat) :
    Does env (env.account s) (markMessagesRead env s text now) := by
  rw [markMessagesRead]
  cases env.castId text with
  | none => exact .guarded (.answer _ _)
  | some id =>
    refine .read id now fun found => ?_
    cases found with
    | none => exact .missing .silent
    | some c => exact .reset c .silent

theorem does_deleteSocketMessage (text : String) (now : Nat) :
    Does env (env.account s) (deleteSocketMessage env s text now) := by
  rw [deleteSocketMessage]
  cases env.castId text with
  | none => exact .guarded (.answer _ _)
  | some id =>
    refine .delete id fun found => ?_
    cases found with
    | none => exact .refused none _
    | some =>
      dsimp only
      split
      · exact .flag now _ ‹_›
      · exact .refused _ _

theorem does_deleteMessage (text : String) (now : Nat) :
    Does env a (deleteMessage env a text now) := by
  rw [deleteMessage]
  cases env.castId text with
  | none => exact .guarded (.answer _ _)
  | some id =>
    refine .delete id fun found => ?_
    cases found with
    | none => exact .refused none _
    | some =>
      dsimp only
      split
      · exact .stamp now _ ‹_›
      · exact .refused _ _

theorem does_handle (r : Request) : Does env (r.account env) (handle env r) := by
  cases r with
  | event s e =>
    cases e with
    | joinChat id => exact .guarded (guarded_joinChat env s id)
    | leaveChat => exact .guarded (.depart _ rfl fun _ => .silent)
    | sendMessage id content rt now => exact .guarded (guarded_sendMessage env s id content rt now)
    | markMessagesRead id now => exact does_markMessagesRead env s id now
    | deleteMessage id now => exact does_deleteSocketMessage env s id now
    | typing => exact .guarded (.answer _ .silent)
    | disconnect => exact .guarded (.depart _ rfl fun _ => .silent)
  | call a c =>
    cases c with
    | createOrGetConversation ui username u =>
      exact .guarded (guarded_createOrGetConversation env a ui username u)
    | sendMessageToConversation id content media now =>
      exact .guarded (guarded_sendMessageToConversation env a id content media now)
    | markAllAsRead id now =>
      simp only [handle, markAllAsRead]
      cases env.castId id with
      | none => exact .guarded (.answer a _)
      | some n => exact .readAll n now _
    | deleteMessage id now => exact does_deleteMessage env a id now
    | pinMessage id now =>
      simp only [handle, pinMessage]
      cases env.castId id with
      | none => exact .guarded (.answer a _)
      | some n => exact .pin n now _
    | clearConversation id =>
      simp only [handle, clearConversation]
      cases env.castId id with
      | none => exact .guarded (.answer a _)
      | some n => exact .clear n _

end SexySelfies.Messaging
