import RoadFetch.Catalog.Basic
import RoadFetch.Text.Blank

/-!
# Server settings

The process settings, looked up by name: `GAME_CONFIG_FILE` (the catalog path, by default
`data/config.json`), `GAME_TICK_PERIOD_MS` and `GAME_SAVE_PERIOD_MS` (milliseconds, blanks
around allowed, zero meaning off), `GAME_STATE_FILE` (empty meaning none),
`GAME_RANDOMIZE_SPAWN` (`true` or `1`) and `GAME_SEED` (a 64-bit number, no blanks). They are
read in this order and the first bad value is the error. Without `GAME_SEED` the seed is
left open for the caller to draw.
-/

namespace RoadFetch

/-- The process settings. -/
structure ServerSettings where
  configFile : String
  tickPeriod : Option Duration
  savePeriod : Option Duration
  stateFile : Option String
  randomizeSpawn : Bool
  seed : Option UInt64
  deriving Repr

namespace ServerSettings

/-- The catalog path when none is set. -/
def defaultConfigFile : String := "data/config.json"

/-- Reads an unsigned 64-bit decimal number, with an optional plus sign. -/
def parseWord? (s : String) : Option UInt64 :=
  let digits := match s.toList with
    | '+' :: rest => rest
    | l => l
  if digits.isEmpty || !digits.all Char.isDigit then none
  else
    let n : Nat := digits.foldl (fun acc c => acc * 10 + (c.toNat - 48)) 0
    if n < Nat.pow 2 64 then some n.toUInt64 else none

/-- A period in milliseconds; zero turns it off. -/
def millis (lookup : String → Option String) (name : String) :
    Except ConfigError (Option Duration) :=
  match lookup name with
  | none => .ok none
  | some raw =>
    match parseWord? (Text.trim raw) with
    | none => .error (.invalidEnv name raw)
    | some ms => .ok (if ms > 0 then some (Duration.ofMillis ms.toNat) else none)

/-- The settings of a lookup. -/
def ofLookup (lookup : String → Option String) : Except ConfigError ServerSettings := do
  let configFile := (lookup "GAME_CONFIG_FILE").getD defaultConfigFile
  let tickPeriod ← millis lookup "GAME_TICK_PERIOD_MS"
  let savePeriod ← millis lookup "GAME_SAVE_PERIOD_MS"
  let stateFile := (lookup "GAME_STATE_FILE").filter (· != "")
  let randomizeSpawn := match lookup "GAME_RANDOMIZE_SPAWN" with
    | some v => v == "true" || v == "1"
    | none => false
  let seed ← match lookup "GAME_SEED" with
    | some raw => match parseWord? raw with
      | some s => pure (some s)
      | none => throw (.invalidEnv "GAME_SEED" raw)
    | none => pure none
  pure { configFile, tickPeriod, savePeriod, stateFile, randomizeSpawn, seed }

end ServerSettings

end RoadFetch
