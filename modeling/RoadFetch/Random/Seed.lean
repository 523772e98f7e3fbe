import RoadFetch.Random.Xorshift
import RoadFetch.Digest.Sha256
import RoadFetch.Bytes.Word

/-!
# Session seeds

Each session draws its loot from its own generator. Its seed is derived from the world seed,
the session key and the map id: the first eight bytes, read little-endian, of the SHA-256
digest of a fixed tag followed by the two words (little-endian) and the map id (UTF-8).
-/

namespace RoadFetch

/-- The tag that opens the digest of a session seed. -/
def sessionSeedTag : String := "LOOT_HOUND_SESSION_SEED_V1"

/-- The seed of the session with key `key` on map `mapId` in a world seeded with `world`. -/
def sessionSeed (world key : UInt64) (mapId : String) : UInt64 :=
  let msg := sessionSeedTag.toUTF8 ++ ByteArray.mk (Bytes.le64 world ++ Bytes.le64 key).toArray ++
    mapId.toUTF8
  (Bytes.ofLe ((Sha256.digest msg).toList.take 8)).toUInt64

end RoadFetch
