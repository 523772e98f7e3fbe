import RoadFetch.Snapshot.Codec
import RoadFetch.Snapshot.Error
import RoadFetch.Digest.Sha256

/-!
# The snapshot envelope

A sealed snapshot is the magic bytes "LHWS", the format version (a 16-bit word, now 1), the
32-byte digest of the payload, and the payload behind its length. Opening checks, in this
order, that the envelope can be read, the magic, the version and the digest, and only then
reads the payload. Bytes after the envelope, or after the snapshot inside the payload, are
ignored. Sealing and opening take the digest as a parameter; snapshots are sealed with the
SHA-256 digest of a fixed tag followed by the payload.
-/

namespace RoadFetch

namespace Envelope

/-- The magic bytes that open a sealed snapshot. -/
def magic : List UInt8 := [0x4C, 0x48, 0x57, 0x53]

/-- The format version written and read. -/
def version : UInt16 := 1

/-- The tag that opens the digested text. -/
def digestTag : ByteArray := "LOOT_HOUND_SNAPSHOT_V1".toUTF8

def digest (payload : List UInt8) : List UInt8 :=
  (Sha256.digestTagged digestTag (ByteArray.mk payload.toArray)).toList

/-- The parts of an envelope as read, before any check. -/
structure Parts where
  magic : List UInt8
  version : UInt16
  digest : List UInt8
  payload : List UInt8

/-- Reads the parts of an envelope. -/
def parts : Wire.Reader Parts := do
  return ⟨← Wire.Reader.take 4, ← Wire.Reader.u16, ← Wire.Reader.take 32, ← Wire.Reader.byteSeq⟩

end Envelope

/-- Seals a payload with a digest function: magic, version, digest, then the payload behind
its length. -/
def sealPayload (digest : List UInt8 → List UInt8) (payload : List UInt8) : List UInt8 :=
  Envelope.magic ++ Wire.u16 Envelope.version ++ digest payload ++ Wire.bytes payload

/-- Opens a sealed payload, checking magic, version and the digest under `digest`. -/
def openPayload (digest : List UInt8 → List UInt8) (bs : List UInt8) :
    Except PersistenceError (List UInt8) :=
  match Wire.Reader.run Envelope.parts bs with
  | .error e => .error (.corrupt (.envelope e))
  | .ok (p, _) =>
    if p.magic != Envelope.magic then .error (.corrupt .badMagic)
    else if p.version != Envelope.version then .error (.unsupportedVersion p.version)
    else if digest p.payload != p.digest then .error (.corrupt .digestMismatch)
    else .ok p.payload

namespace WorldSnapshot

/-- The snapshot sealed with a digest function. -/
def encodeWith (digest : List UInt8 → List UInt8) (w : WorldSnapshot) : List UInt8 :=
  sealPayload digest (Wire.snapshot w)

def encode (w : WorldSnapshot) : List UInt8 := encodeWith Envelope.digest w

/-- The snapshot sealed in some bytes, its digest checked with a digest function. -/
def decodeWith (digest : List UInt8 → List UInt8) (bs : List UInt8) :
    Except PersistenceError WorldSnapshot := do
  let payload ← openPayload digest bs
  match Wire.Reader.run Wire.Reader.snapshot payload with
  | .error e => throw (.corrupt (.payload e))
  | .ok (w, _) => pure w

/-- The snapshot sealed in some bytes. -/
def decode (bs : List UInt8) : Except PersistenceError WorldSnapshot := decodeWith Envelope.digest bs

end WorldSnapshot

end RoadFetch
