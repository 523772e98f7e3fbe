import RoadFetch.World.Error
import RoadFetch.World.Players
import RoadFetch.Session.Basic
import RoadFetch.Schedule.Scheduler
import RoadFetch.Random.Seed
import RoadFetch.Text.Blank

/-!
# The world

The world holds the catalog of maps, at most one session per map (created when the first
player joins it), the token bindings of the players, the tick scheduler, and the autosave
timer. Sessions and dogs draw their keys from one counter, so no dog key is ever a session
key. A player joins a map by name and gets a token; every later request names the player by
that token, and a token is honoured only while it is bound to a dog that is still in its
session. A request runs in place: it gives the world as it stands after the request, whatever
the answer, and its plain form answers with that world only when the request succeeds.
-/

namespace RoadFetch

/-- What the scheduler ticks: a session by key, or the autosave timer. -/
inductive Target where
  | session (key : UInt64)
  | persistence
  deriving Repr, DecidableEq

/-- The settings of a world: the session tuning defaults, the loot spawning and the seed
from which each session's seed is derived. -/
structure GameSettings where
  defaults : Tuning
  loot : SpawnConfig
  seed : UInt64
  deriving Repr

/-- The autosave timer: the period and the time since the last save. -/
structure Autosave where
  period : Duration
  since : Duration
  deriving Repr

/-- The outcome of a join: the player's token, the dog's id in its session, the dog's key
and the session's key. -/
structure Joined where
  token : Token
  dogId : UInt64
  dog : UInt64
  session : UInt64
  deriving Repr

/-- What a player sees of a dog. -/
structure DogView where
  id : UInt64
  name : String
  position : Vec2
  velocity : Vec2
  direction : Direction
  bag : List BagItem
  score : UInt64
  deriving Repr

/-- What a dog looks like to players. -/
def DogView.ofDog (d : Dog) : DogView :=
  ⟨d.id, d.name, d.position, d.velocity, d.direction, d.bag.items, d.score⟩

/-- What a player sees of a session. -/
structure SessionView where
  dogs : List DogView
  loot : List LootItem
  deriving Repr

structure World where
  maps : List Map
  sessions : List Session
  sessionByMap : List (String × UInt64)
  players : Bindings
  scheduler : Scheduler Target
  settings : GameSettings
  autosave : Option Autosave
  nextKey : UInt64
  nextToken : Nat
  tokenKey : ByteArray

namespace World

/-- The priority of sessions on the scheduler: they tick before the autosave timer. -/
def sessionPriority : Int := 10

/-- The priority of the autosave timer. -/
def persistencePriority : Int := 0

/-! ### Building -/

/-- Adds a map to the catalog; a second map of one id is refused. -/
def addMap (w : World) (m : Map) : Except GameError World :=
  if w.maps.any (·.id == m.id) then .error (.duplicateMap m.id)
  else .ok { w with maps := w.maps ++ [m] }

/-- A world with no sessions over a catalog of maps. -/
def new (maps : List Map) (settings : GameSettings) : Except GameError World :=
  maps.foldlM addMap
    { maps := [], sessions := [], sessionByMap := [], players := {}, scheduler := {},
      settings, autosave := none, nextKey := 0, nextToken := 0, tokenKey := ByteArray.empty }

/-- The world drawing its tokens with a secret key. -/
def withTokenKey (w : World) (key : ByteArray) : World := { w with tokenKey := key }

def map? (w : World) (id : String) : Option Map := w.maps.find? (·.id == id)

def session? (w : World) (key : UInt64) : Option Session := w.sessions.find? (·.key == key)

/-- The key of the session on a map. -/
def sessionKeyOf? (w : World) (mapId : String) : Option UInt64 :=
  (w.sessionByMap.find? (·.1 == mapId)).map (·.2)

/-- Inserts a session in key order, replacing one of the same key. -/
def insertSession (s : Session) : List Session → List Session
  | [] => [s]
  | t :: rest =>
    if s.key < t.key then s :: t :: rest
    else if s.key == t.key then s :: rest
    else t :: insertSession s rest

/-- Replaces the session of the given key. -/
def putSession (w : World) (s : Session) : World := { w with sessions := insertSession s w.sessions }

/-- Takes the next key; taking the largest word is a fault. -/
def allocateKey (w : World) : Except Fault (World × UInt64) := do
  let nextKey ← Checked.succ w.nextKey
  return ({ w with nextKey }, w.nextKey)

/-! ### Autosave -/

/-- Starts the autosave timer with a period, from zero. -/
def enableAutosave (w : World) (period : Duration) : World :=
  let (scheduler, _) := w.scheduler.unsubscribe .persistence
  { w with autosave := some ⟨period, Duration.zero⟩,
           scheduler := scheduler.subscribe .persistence persistencePriority }

def disableAutosave (w : World) : World :=
  { w with autosave := none, scheduler := (w.scheduler.unsubscribe .persistence).1 }

/-! ### Players -/

/-- The tuning of a new session on a map: the map's dog speed and bag capacity where it
sets them, the defaults otherwise. -/
def tuningFor (w : World) (m : Map) : Tuning :=
  let d := w.settings.defaults
  { d with dogSpeed := m.dogSpeed.getD d.dogSpeed,
           bagCapacity := (m.bagCapacity.map Nat.toUInt64).getD d.bagCapacity }

/-- A new session with a key on a map. -/
def newSession (w : World) (key : UInt64) (m : Map) : Session :=
  Session.new key m (w.tuningFor m) w.settings.loot (sessionSeed w.settings.seed key m.id)

/-- A token bound to nothing, drawn with `key` from the token counter from `n` on: the first
of `fuel` draws that is not bound, else a text longer than every bound token. -/
def freshToken (players : Bindings) (key : ByteArray) : Nat → Nat → Token × Nat
  | 0, n =>
    let longest := (players.list.map (·.token.text.length)).foldl max 0
    (⟨String.ofList (List.replicate (longest + 1) 'f')⟩, n)
  | fuel + 1, n =>
    let t := Token.draw key n
    if players.hasToken t then freshToken players key fuel (n + 1) else (t, n + 1)

/-- Binds a new token to a dog in a session. -/
def bind (w : World) (dog session : UInt64) : World × Token :=
  let (token, nextToken) := freshToken w.players w.tokenKey (w.players.size + 1) w.nextToken
  ({ w with players := ⟨Bindings.insertSorted ⟨token, dog, session⟩ w.players.list⟩, nextToken },
    token)

/-- The session on a map, created (and subscribed to ticks) if the map has none yet. -/
def sessionFor (w : World) (m : Map) : Except Fault (World × UInt64) :=
  match w.sessionKeyOf? m.id with
  | some key => pure (w, key)
  | none => do
    let (w, key) ← w.allocateKey
    let w := w.putSession (w.newSession key m)
    return ({ w with sessionByMap := w.sessionByMap ++ [(m.id, key)],
                     scheduler := w.scheduler.subscribe (.session key) sessionPriority }, key)

/-- A player joins a map under a name, which must not be blank: the world after the request,
and the answer. The name and the map are checked before anything changes; the session found
for the map is looked up again once the keys are taken. The outer layer is a fault. -/
def joinInPlace (w : World) (mapId name : String) : Except Fault (World × Except GameError Joined) := do
  if Text.isAllBlank name then return (w, .error .invalidName)
  let some m := w.map? mapId | return (w, .error (.mapNotFound mapId))
  let (w, sessionKey) ← w.sessionFor m
  let (w, dogKey) ← w.allocateKey
  let some s := w.session? sessionKey | return (w, .error (.mapNotFound mapId))
  let (s, dog) ← s.join dogKey name
  let (w, token) := (w.putSession s).bind dogKey sessionKey
  return (w, .ok ⟨token, dog.id, dogKey, sessionKey⟩)

/-- The answer of a request, with the world after it when it succeeds. -/
def settle {ε α : Type} : World × Except ε α → Except ε (World × α)
  | (w, r) => r.map (w, ·)

/-- A join, answered with the world after it when it succeeds. -/
def join (w : World) (mapId name : String) : Except Fault (Except GameError (World × Joined)) :=
  (w.joinInPlace mapId name).map settle

/-- The binding of a token and its session, if the token is bound to a dog still there. -/
def resolve (w : World) (token : Token) : Except GameError (Binding × Session) := do
  let some b := w.players.find? token | throw .unknownToken
  match w.session? b.session with
  | some s => if (s.dog? b.dog).isSome then return (b, s) else throw .unknownToken
  | none => throw .unknownToken

/-- Steers the dog of a token: the world after the request, and the answer. The token is
checked before the command, and the session is written back whether its dog was found or not. -/
def movePlayerInPlace (w : World) (token : Token) (dir : String) : World × Except GameError Unit :=
  match w.players.find? token with
  | none => (w, .error .unknownToken)
  | some b =>
    match Command.parse dir with
    | .error e => (w, .error (.invalidDirection e))
    | .ok c =>
      match w.session? b.session with
      | none => (w, .error .unknownToken)
      | some s =>
        let (s, found) := s.moveDog b.dog c
        (w.putSession s, if found then .ok () else .error .unknownToken)

/-- Steering, answered with the world after it when it succeeds. -/
def movePlayer (w : World) (token : Token) (dir : String) : Except GameError World :=
  (settle (w.movePlayerInPlace token dir)).map (·.1)

/-- The ids and names of the dogs in the session of a token. -/
def playersOf (w : World) (token : Token) : Except GameError (List (UInt64 × String)) := do
  let (_, s) ← w.resolve token
  return s.dogs.map fun d => (d.id, d.name)

/-- The session of a token as players see it. -/
def sessionState (w : World) (token : Token) : Except GameError SessionView := do
  let (_, s) ← w.resolve token
  return ⟨s.dogs.map DogView.ofDog, s.loot⟩

end World

end RoadFetch
