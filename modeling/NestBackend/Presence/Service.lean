import Mathlib.Data.List.AList
import NestBackend.Lib.OrderedSet
import NestBackend.Ws.SessionInterface

/-! `PresenceService` with the tables it writes.  A request is applied to its item at once
and succeeds; requests in flight may be applied in any order. -/

namespace NestBackend.Presence

open NestBackend.Lib
open NestBackend.Ws

def EXPIRING_ITEM_TTL_SECONDS : Int := 30 * 24 * 60 * 60

def CLIENT_PRESENCE_TTL_SECONDS : Int := 24 * 60 * 60

def buildExpiresAt (ttlSeconds : Option Int) (nowEpochSeconds : Option Int) (now : ℚ) : Int :=
  let base := nowEpochSeconds.getD (now / 1000).floor
  base + ttlSeconds.getD EXPIRING_ITEM_TTL_SECONDS

structure ClientRow where
  userId : UserId
  expiresAt : Int
  presenceToken : String
  deriving DecidableEq

inductive DynamoRequest where
  | putUser (userId : UserId)
  | putClient (clientId : ClientId) (row : ClientRow)
  | deleteClient (clientId : ClientId) (token : String)
  deriving DecidableEq

structure Tables where
  user : OrderedSet UserId
  clients : AList fun _ : ClientId => ClientRow

/-- A delete whose condition fails leaves the table alone, also when there is no row. -/
def Tables.apply (t : Tables) : DynamoRequest → Tables
  | .putUser userId => { t with user := t.user.add userId }
  | .putClient clientId row => { t with clients := t.clients.insert clientId row }
  | .deleteClient clientId token =>
    match t.clients.lookup clientId with
    | some row =>
      if row.presenceToken = token then { t with clients := t.clients.erase clientId } else t
    | none => t

structure PresenceService where
  tables : Tables
  inFlight : List DynamoRequest

namespace PresenceService

def start : PresenceService := ⟨⟨.empty, ∅⟩, []⟩

def trackConnect (userId : UserId) (clientId : ClientId) (presenceToken : String) (now : ℚ)
    (w : PresenceService) : PresenceService :=
  let expiresAt := buildExpiresAt (some CLIENT_PRESENCE_TTL_SECONDS) none now
  { w with inFlight := w.inFlight ++
    [.putUser userId, .putClient clientId ⟨userId, expiresAt, presenceToken⟩] }

def trackDisconnect (clientId : ClientId) (presenceToken : String) (w : PresenceService) :
    PresenceService :=
  { w with inFlight := w.inFlight ++ [.deleteClient clientId presenceToken] }

def tracker : SessionTracker PresenceService where
  handleConnect event now w :=
    (w.trackConnect event.userId event.clientId event.token now, .ok .fulfilled)
  handleDisconnect event w := (w.trackDisconnect event.clientId event.token, .ok .fulfilled)

def perform (w : PresenceService) (i : Nat) : PresenceService :=
  match w.inFlight[i]? with
  | none => w
  | some request => ⟨w.tables.apply request, w.inFlight.eraseIdx i⟩

end PresenceService

end NestBackend.Presence
