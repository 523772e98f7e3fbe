import RoadFetch.Wire.Decode

/-!
# Persistence errors

Why saving or restoring a snapshot failed: the file could not be read or written, the bytes
are not a sound snapshot, the snapshot has a version this program does not read, or it names
a map the catalog does not have.
-/

namespace RoadFetch

/-- Why the bytes are not a sound snapshot. -/
inductive Corruption where
  /-- The envelope around the payload could not be read. -/
  | envelope (e : Wire.WireError)
  | badMagic
  | digestMismatch
  /-- The payload could not be read as a snapshot. -/
  | payload (e : Wire.WireError)
  deriving Repr, DecidableEq

def Corruption.message : Corruption → String
  | .envelope e => "envelope: " ++ e.message
  | .badMagic => "bad magic"
  | .digestMismatch => "digest mismatch"
  | .payload e => "payload: " ++ e.message

/-- Why saving or restoring failed. -/
inductive PersistenceError where
  /-- A file operation on a path failed, for the given reason. -/
  | io (path reason : String)
  | corrupt (c : Corruption)
  | unsupportedVersion (version : UInt16)
  | unknownMap (id : String)
  deriving Repr, DecidableEq

namespace PersistenceError

def kind : PersistenceError → String
  | .io .. => "Io"
  | .corrupt _ => "Corrupt"
  | .unsupportedVersion _ => "UnsupportedVersion"
  | .unknownMap _ => "UnknownMap"

def message : PersistenceError → String
  | .io path reason => "snapshot I/O on " ++ path ++ ": " ++ reason
  | .corrupt c => "corrupt snapshot: " ++ c.message
  | .unsupportedVersion v => "unsupported snapshot version " ++ Decimal.natText v.toNat
  | .unknownMap id => "snapshot references unknown map '" ++ id ++ "'"

end PersistenceError

end RoadFetch
