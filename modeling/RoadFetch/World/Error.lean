import RoadFetch.Dog.Basic

/-!
# Game errors

Why a request to the world was refused: an empty player name, an unknown steering command, a
map the catalog does not have, a token bound to no live dog, or a catalog with two maps of
one id.
-/

namespace RoadFetch

/-- Why the world refused a request. -/
inductive GameError where
  | invalidName
  | invalidDirection (e : InvalidDirection)
  | mapNotFound (id : String)
  | unknownToken
  | duplicateMap (id : String)
  deriving Repr

namespace GameError

def kind : GameError → String
  | .invalidName => "InvalidName"
  | .invalidDirection _ => "InvalidDirection"
  | .mapNotFound _ => "MapNotFound"
  | .unknownToken => "UnknownToken"
  | .duplicateMap _ => "DuplicateMap"

def message : GameError → String
  | .invalidName => "invalid player name"
  | .invalidDirection e => e.message
  | .mapNotFound id => "map '" ++ id ++ "' not found"
  | .unknownToken => "unknown token"
  | .duplicateMap id => "duplicate map id '" ++ id ++ "'"

end GameError

end RoadFetch
