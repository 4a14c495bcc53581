import Mathlib.Data.List.AList
import Mathlib.Logic.Function.Basic
import NestBackend.Lib.OrderedSet
import NestBackend.Ws.SessionInterface

namespace NestBackend.Ws

open NestBackend.Js
open NestBackend.Lib

/-- `built` lists every session object ever created, by `ref`: socket listeners and
timers keep them after release. -/
structure Registry where
  sessions : AList fun _ : ClientId => Session
  userClients : AList fun _ : UserId => OrderedSet ClientId
  built : List Session

namespace Registry

def empty : Registry := ⟨∅, ∅, []⟩

def getSession (r : Registry) (clientId : ClientId) : Option Session :=
  r.sessions.lookup clientId

def getSessionCount (r : Registry) : Nat := r.sessions.entries.length

def countUserSessions (r : Registry) (userId : UserId) : Nat :=
  match r.userClients.lookup userId with
  | some members => members.size
  | none => 0

def trackMembership (r : Registry) (userId : UserId) (clientId : ClientId) : Registry :=
  let members := (r.userClients.lookup userId).getD .empty
  { r with userClients := r.userClients.insert userId (members.add clientId) }

def untrackMembership (r : Registry) (userId : UserId) (clientId : ClientId) : Registry :=
  match r.userClients.lookup userId with
  | none => r
  | some members =>
    let members := members.delete clientId
    if members.size = 0 then { r with userClients := r.userClients.erase userId }
    else { r with userClients := r.userClients.insert userId members }

def addSession (r : Registry) (session : Session) : Registry :=
  { r with
    sessions := r.sessions.insert session.clientId session
    built := r.built ++ [session] }

def deleteSession (r : Registry) (clientId : ClientId) : Registry :=
  { r with sessions := r.sessions.erase clientId }

def holds (r : Registry) (session : Session) : Bool :=
  match r.sessions.lookup session.clientId with
  | some held => held.ref == session.ref
  | none => false

end Registry

def MAX_TIMER_DELAY_MS : ℚ := 2147483647

/-- A pending expiry timer of the event loop; its callback keeps the session object. -/
structure Timer where
  id : Nat
  ref : Nat
  delay : Number
  deriving DecidableEq

/-- `expiryTimer` is the field of that name of every session object, by `ref`. -/
structure Timers where
  expiryTimer : Nat → Option Nat
  pending : List Timer
  made : Nat

namespace Timers

def empty : Timers := ⟨fun _ => none, [], 0⟩

def setExpiryTimer (t : Timers) (session : Session) (remaining : Number) : Timers where
  expiryTimer := Function.update t.expiryTimer session.ref (some t.made)
  pending := t.pending ++ [⟨t.made, session.ref, remaining.min (.fin MAX_TIMER_DELAY_MS)⟩]
  made := t.made + 1

def clearExpiryTimer (t : Timers) (session : Session) : Timers :=
  match t.expiryTimer session.ref with
  | none => t
  | some id =>
    { t with
      expiryTimer := Function.update t.expiryTimer session.ref none
      pending := t.pending.filter (·.id != id) }

/-- The event loop takes a timer off its list before it calls back. -/
def take (t : Timers) (id : Nat) : Timers :=
  { t with pending := t.pending.filter (·.id != id) }

end Timers

end NestBackend.Ws
