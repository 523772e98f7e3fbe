import RoadFetch.Server.Setup
import RoadFetch.Server.Strand
import RoadFetch.Snapshot.Store

/-!
# The server process

The process reads its settings from the environment, loads the map catalog, restores the
last snapshot if a state file is set and exists, and starts the strand: with a tick period a
ticker advances the world in real time, and with a save period and a state file the world is
written every period. The process runs until its standard input closes; it then shuts the
strand down, which writes a final snapshot.

Snapshots are written atomically: first to the state file's name with ".tmp" appended, then
renamed over the state file, so a crash in the middle of a write leaves the previous
snapshot in place.
-/

namespace RoadFetch.Process

/-- The environment variables the settings read. -/
def settingNames : List String :=
  ["GAME_CONFIG_FILE", "GAME_TICK_PERIOD_MS", "GAME_SAVE_PERIOD_MS", "GAME_STATE_FILE",
   "GAME_RANDOMIZE_SPAWN", "GAME_SEED"]

/-- Writes a log line to the standard error. -/
def logLine (msg : String) : IO Unit := do
  let err ← IO.getStderr
  err.putStrLn msg
  err.flush

/-- A file operation of the process, its failure told apart by whether there was no file. -/
def attempt {α : Type} (act : IO α) : IO (Except IoError α) := do
  try
    return .ok (← act)
  catch e =>
    match e with
    | .noFileOrDirectory .. => return .error (.notFound (toString e))
    | other => return .error (.other (toString other))

/-- The process's file system. -/
def processFiles : FileOps IO IO.FS.Handle where
  create path := attempt (IO.FS.Handle.mk path .write)
  writeAll h bytes := attempt (h.write (ByteArray.mk bytes.toArray))
  syncAll h := attempt h.flush
  rename src dst := attempt (IO.FS.rename src dst)
  read path := attempt (return (← IO.FS.readBinFile path).toList)

/-- Writes sealed snapshot bytes to the state file, through a temporary file. -/
def writeSnapshot (path : String) (bytes : List UInt8) : IO (Except PersistenceError Unit) :=
  (SnapshotStore.saveBytes processFiles ⟨path⟩ bytes).run

/-- Reads the state file; none when it does not exist. -/
def readSnapshot (path : String) : IO (Except PersistenceError (Option (List UInt8))) :=
  (SnapshotStore.loadBytes processFiles ⟨path⟩).run

/-- Writes the world to the state file if there is one. -/
def saveWorld (stateFile : Option String) (w : World) : IO (Except PersistenceError Unit) :=
  match stateFile with
  | some path => writeSnapshot path w.snapshot
  | none => return .ok ()

/-- Advances the strand every `period` until it stops, saving when a snapshot is due. -/
partial def tickLoop (strand : IO.Ref Strand) (stateFile : Option String) (period : Duration) :
    IO Unit := do
  let before ← IO.monoNanosNow
  IO.sleep (period.toMillis.toUInt32)
  let elapsed := Duration.ofNanos ((← IO.monoNanosNow) - before)
  let (s, due) ← strand.modifyGet fun s =>
    let (s, due) := s.timerTick elapsed
    ((s, due), s)
  if due then
    if let .error e := ← saveWorld stateFile s.world then logLine ("Auto-save failed: " ++ e.message)
  if s.running then tickLoop strand stateFile period

/-- A secret for drawing player tokens: random bytes from the system, or the clock when the
system has none to give. -/
def tokenKey : IO ByteArray := do
  try IO.getRandomBytes 16
  catch _ => return (Decimal.natText (← IO.monoNanosNow)).toUTF8

/-- Reads the standard input until it closes. -/
partial def waitForEnd (stdin : IO.FS.Stream) : IO Unit := do
  let line ← stdin.getLine
  if line.isEmpty then return
  waitForEnd stdin

end RoadFetch.Process

open RoadFetch RoadFetch.Process

def main : IO UInt32 := do
  let mut env : List (String × String) := []
  for name in settingNames do
    if let some v ← IO.getEnv name then env := env ++ [(name, v)]
  let lookup := fun (name : String) => (env.find? (·.1 == name)).map (·.2)
  let settings ← match ServerSettings.ofLookup lookup with
    | .ok s => pure s
    | .error e => logLine ("Error: " ++ e.message); return 1
  let seed ← match settings.seed with
    | some s => pure s
    | none => do
      let clock ← IO.monoNanosNow
      let noise ← IO.rand 0 (Nat.pow 2 30)
      pure (clock.toUInt64 ^^^ (noise.toUInt64 <<< 32))
  let settings := { settings with seed := some seed }
  let text ← try IO.FS.readFile settings.configFile
    catch e => logLine ("Error: loading " ++ settings.configFile ++ ": " ++ toString e); return 1
  let catalog ← match Catalog.parse text with
    | .ok c => pure c
    | .error e => logLine ("Error: loading " ++ settings.configFile ++ ": " ++ e.message); return 1
  logLine ("Loaded map catalog from " ++ settings.configFile ++ " (" ++
    Decimal.natText catalog.maps.length ++ " maps, seed " ++ Decimal.natText seed.toNat ++ ")")
  let key ← tokenKey
  let mut world ← match World.ofCatalog catalog settings with
    | .ok w => pure (w.withTokenKey key)
    | .error e => logLine ("Error: " ++ e.message); return 1
  if let some path := settings.stateFile then
    match world.loadInto (← readSnapshot path) with
    | .ok (.ok (w, loaded)) =>
      world := w
      logLine (if loaded then "Snapshot restored" else "No snapshot found, starting fresh")
    | .ok (.error e) => logLine ("Error: restoring " ++ path ++ ": " ++ e.message); return 1
    | .error f => logLine ("panicked: " ++ f.message); return 101
  match settings.savePeriod, settings.stateFile with
  | some period, some _ => world := world.enableAutosave period
  | some _, none => logLine "GAME_SAVE_PERIOD_MS is set without GAME_STATE_FILE, auto-save disabled"
  | none, _ => pure ()
  let strand ← IO.mkRef (Strand.start world settings.tickPeriod)
  let ticker ← match settings.tickPeriod with
    | some period => do
      logLine ("Ticking every " ++ Decimal.natText period.toMillis ++ " ms")
      some <$> IO.asTask (tickLoop strand settings.stateFile period) .dedicated
    | none => do
      logLine "Periodic tick disabled, waiting for manual ticks"
      pure none
  waitForEnd (← IO.getStdin)
  logLine "Shutdown signal received"
  let h ← strand.modifyGet fun s =>
    let h := s.handle .shutdown
    (h, h.strand)
  if let some t := ticker then
    let _ ← IO.wait t
  match h.reply with
  | .error e => logLine ("Error: " ++ e.message); return 1
  | .ok _ =>
    if let .error e := ← saveWorld settings.stateFile h.strand.world then
      logLine ("Final snapshot failed: " ++ e.message)
    logLine "Game strand stopped"
    return 0
