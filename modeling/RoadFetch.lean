import RoadFetch.Bytes.Hex
import RoadFetch.Bytes.Word
import RoadFetch.Catalog.Basic
import RoadFetch.Catalog.Reader
import RoadFetch.Catalog.Spec
import RoadFetch.Decimal.Binary
import RoadFetch.Decimal.Shortest
import RoadFetch.Decimal.Text
import RoadFetch.Digest.Sha256
import RoadFetch.Dog.Basic
import RoadFetch.Double
import RoadFetch.Fault
import RoadFetch.Geometry.Scalar
import RoadFetch.Geometry.Vec
import RoadFetch.Json.Error
import RoadFetch.Json.Reader
import RoadFetch.Json.Scan
import RoadFetch.Json.Text
import RoadFetch.Json.Value
import RoadFetch.Loot.Spawner
import RoadFetch.Main
import RoadFetch.Map.Basic
import RoadFetch.Proofs.Random.NonZero
import RoadFetch.Proofs.Schedule.Subscriptions
import RoadFetch.Proofs.Session.Counters
import RoadFetch.Proofs.World.Bindings
import RoadFetch.Random.Seed
import RoadFetch.Random.Xorshift
import RoadFetch.Road.Grid
import RoadFetch.Road.Pickup
import RoadFetch.Schedule.Scheduler
import RoadFetch.Server.Leaderboard
import RoadFetch.Server.Settings
import RoadFetch.Server.Setup
import RoadFetch.Server.Strand
import RoadFetch.Session.Basic
import RoadFetch.Session.Event
import RoadFetch.Session.Tick
import RoadFetch.Session.Tuning
import RoadFetch.Snapshot.Codec
import RoadFetch.Snapshot.Envelope
import RoadFetch.Snapshot.Error
import RoadFetch.Snapshot.Record
import RoadFetch.Snapshot.Store
import RoadFetch.Text.Blank
import RoadFetch.Text.Printable
import RoadFetch.Time.Duration
import RoadFetch.Wire.Decode
import RoadFetch.Wire.Encode
import RoadFetch.Wire.Utf8
import RoadFetch.World.Basic
import RoadFetch.World.Error
import RoadFetch.World.Players
import RoadFetch.World.Restore
import RoadFetch.World.Tick
import RoadFetch.Proofs.Session.Tick
import RoadFetch.Proofs.World.Sessions
import RoadFetch.Proofs.World.Coherent
import RoadFetch.Proofs.World.Ticks
import RoadFetch.Proofs.World.Restore
import RoadFetch.Proofs.World.Reachable
import RoadFetch.Proofs.Session.Standing
import RoadFetch.Proofs.World.RoundTrip
import RoadFetch.Proofs.Session.Reachable
import RoadFetch.Proofs.Schedule.Contract
import RoadFetch.Proofs.Wire.Read
import RoadFetch.Proofs.Snapshot.Codec
import RoadFetch.Proofs.Snapshot.Tamper
import RoadFetch.Proofs.World.Refusals
import RoadFetch.Proofs.Server.Ranking
import RoadFetch.Proofs.World.Overflow
import RoadFetch.Proofs.Session.Retirements
import RoadFetch.Proofs.World.DogKeys
import RoadFetch.Proofs.Server.Retirements
import RoadFetch.Proofs.Session.Gathering
import RoadFetch.Proofs.Session.Idle
import RoadFetch.Proofs.World.Identities
import RoadFetch.Proofs.World.TickOrder
import RoadFetch.Proofs.World.FanOut
import RoadFetch.Proofs.Wire.Written
import RoadFetch.Proofs.Snapshot.Canonical
import RoadFetch.Proofs.Snapshot.AtomicSave
import RoadFetch.Proofs.Road.ExactPickup
import RoadFetch.Proofs.Time.Nanos
import RoadFetch.Proofs.Loot.ExactChance
import RoadFetch.Proofs.Loot.Spawning
import RoadFetch.Proofs.Catalog.Validation
import RoadFetch.Proofs.Road.ExactExit
import RoadFetch.Proofs.Road.ExactGrid
import RoadFetch.Proofs.Road.ExactClip
