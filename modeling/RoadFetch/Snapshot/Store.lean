import RoadFetch.World.Restore

/-!
# The snapshot file

One snapshot file per server. A save writes the sealed snapshot to the file's name with ".tmp"
appended, forces it to the disk and renames it over the file, so that a crash in the middle of a
write leaves the previous snapshot in place. Loading reads the file back; a file that does not
exist is no snapshot yet.

The store is written over the file operations it performs, so that the same definitions run on
the process's file system and on a model of one.
-/

namespace RoadFetch

/-- Why a file operation failed: there was no file, or another reason. -/
inductive IoError where
  | notFound (reason : String)
  | other (reason : String)
  deriving Repr, DecidableEq

def IoError.reason : IoError → String
  | .notFound r | .other r => r

/-- The file operations of a snapshot store, in a monad `m`, with open files of type `H`. -/
structure FileOps (m : Type → Type) (H : Type) where
  /-- Creates a file, emptying one already there, and opens it for writing. -/
  create : String → m (Except IoError H)
  writeAll : H → List UInt8 → m (Except IoError Unit)
  /-- Forces what was written to an open file onto the disk. -/
  syncAll : H → m (Except IoError Unit)
  /-- Gives a file a new name, replacing whatever had that name. -/
  rename : String → String → m (Except IoError Unit)
  read : String → m (Except IoError (List UInt8))

/-- Where the snapshot file is. -/
structure SnapshotStore where
  path : String
  deriving Repr, DecidableEq

namespace SnapshotStore

/-- The file a save writes before renaming it over the snapshot file. -/
def tempPath (st : SnapshotStore) : String := st.path ++ ".tmp"

variable {m : Type → Type} [Monad m] {H : Type}

/-- A file operation, its failure reported as an I/O failure on `path`. -/
def ioAt {α : Type} (path : String) (act : m (Except IoError α)) : ExceptT PersistenceError m α :=
  ExceptT.mk ((·.mapError fun e => .io path e.reason) <$> act)

/-- Writes sealed bytes to the snapshot file through the temporary file. -/
def saveBytes (fs : FileOps m H) (st : SnapshotStore) (bytes : List UInt8) :
    ExceptT PersistenceError m Unit := do
  let file ← ioAt st.tempPath (fs.create st.tempPath)
  ioAt st.tempPath (fs.writeAll file bytes)
  ioAt st.tempPath (fs.syncAll file)
  ioAt st.path (fs.rename st.tempPath st.path)

/-- Captures, seals and writes the world. -/
def save (fs : FileOps m H) (st : SnapshotStore) (w : World) : ExceptT PersistenceError m Unit :=
  st.saveBytes fs w.snapshot

/-- The bytes of the snapshot file, none when there is no file yet. -/
def loadBytes (fs : FileOps m H) (st : SnapshotStore) :
    ExceptT PersistenceError m (Option (List UInt8)) :=
  ExceptT.mk do
    match ← fs.read st.path with
    | .ok bytes => return .ok (some bytes)
    | .error (.notFound _) => return .ok none
    | .error e => return .error (.io st.path e.reason)

/-- The snapshot in the file, none when there is no file yet. -/
def load (fs : FileOps m H) (st : SnapshotStore) : ExceptT PersistenceError m (Option WorldSnapshot) := do
  match ← st.loadBytes fs with
  | some bytes => some <$> ExceptT.mk (pure (WorldSnapshot.decode bytes))
  | none => return none

end SnapshotStore

end RoadFetch
