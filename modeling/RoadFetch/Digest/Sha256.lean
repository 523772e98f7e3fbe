/-!
# SHA-256

The FIPS 180-4 hash on byte arrays: the message is padded with a one bit, zeros and its bit
length to whole 64-byte blocks, and each block runs the 64 compression rounds on the eight
working words. Also the tagged form `digestTagged tag data`, which hashes the tag followed
by the data.
-/

namespace RoadFetch.Sha256

/-- The round constants. -/
def roundConstants : Array UInt32 := #[
  0x428a2f98, 0x71374491, 0xb5c0fbcf, 0xe9b5dba5, 0x3956c25b, 0x59f111f1, 0x923f82a4, 0xab1c5ed5,
  0xd807aa98, 0x12835b01, 0x243185be, 0x550c7dc3, 0x72be5d74, 0x80deb1fe, 0x9bdc06a7, 0xc19bf174,
  0xe49b69c1, 0xefbe4786, 0x0fc19dc6, 0x240ca1cc, 0x2de92c6f, 0x4a7484aa, 0x5cb0a9dc, 0x76f988da,
  0x983e5152, 0xa831c66d, 0xb00327c8, 0xbf597fc7, 0xc6e00bf3, 0xd5a79147, 0x06ca6351, 0x14292967,
  0x27b70a85, 0x2e1b2138, 0x4d2c6dfc, 0x53380d13, 0x650a7354, 0x766a0abb, 0x81c2c92e, 0x92722c85,
  0xa2bfe8a1, 0xa81a664b, 0xc24b8b70, 0xc76c51a3, 0xd192e819, 0xd6990624, 0xf40e3585, 0x106aa070,
  0x19a4c116, 0x1e376c08, 0x2748774c, 0x34b0bcb5, 0x391c0cb3, 0x4ed8aa4a, 0x5b9cca4f, 0x682e6ff3,
  0x748f82ee, 0x78a5636f, 0x84c87814, 0x8cc70208, 0x90befffa, 0xa4506ceb, 0xbef9a3f7, 0xc67178f2]

/-- Rotation of a word to the right. -/
def rotr (w : UInt32) (k : UInt32) : UInt32 := (w >>> k) ||| (w <<< (32 - k))

/-- The padded message: a one bit, zeros up to 56 modulo 64, and the bit length (big-endian). -/
def pad (msg : ByteArray) : ByteArray :=
  let len := msg.size
  let zeroCount := (119 - len % 64) % 64
  let lenBytes := (List.range 8).reverse.map fun i => ((len * 8) / Nat.pow 2 (8 * i) % 256).toUInt8
  (msg.push 0x80) ++ ByteArray.mk (Array.replicate zeroCount 0) ++ ByteArray.mk lenBytes.toArray

/-- The big-endian word at byte offset `i`. -/
def wordAt (b : ByteArray) (i : Nat) : UInt32 :=
  (b.data.getD i 0).toUInt32 <<< 24 ||| (b.data.getD (i + 1) 0).toUInt32 <<< 16 |||
    (b.data.getD (i + 2) 0).toUInt32 <<< 8 ||| (b.data.getD (i + 3) 0).toUInt32

/-- The 64-word message schedule of the block at byte offset `off`. -/
def schedule (b : ByteArray) (off : Nat) : Array UInt32 :=
  let first := (List.range 16).toArray.map fun i => wordAt b (off + 4 * i)
  (List.range 48).foldl (fun w j =>
    let i := j + 16
    let w15 := w.getD (i - 15) 0
    let w2 := w.getD (i - 2) 0
    let s0 := rotr w15 7 ^^^ rotr w15 18 ^^^ (w15 >>> 3)
    let s1 := rotr w2 17 ^^^ rotr w2 19 ^^^ (w2 >>> 10)
    w.push (w.getD (i - 16) 0 + s0 + w.getD (i - 7) 0 + s1)) first

/-- The eight working words. -/
structure Working where
  a : UInt32
  b : UInt32
  c : UInt32
  d : UInt32
  e : UInt32
  f : UInt32
  g : UInt32
  h : UInt32

/-- One compression round with constant `k` and schedule word `w`. -/
def round (s : Working) (k w : UInt32) : Working :=
  let s1 := rotr s.e 6 ^^^ rotr s.e 11 ^^^ rotr s.e 25
  let ch := (s.e &&& s.f) ^^^ ((~~~ s.e) &&& s.g)
  let t1 := s.h + s1 + ch + k + w
  let s0 := rotr s.a 2 ^^^ rotr s.a 13 ^^^ rotr s.a 22
  let maj := (s.a &&& s.b) ^^^ (s.a &&& s.c) ^^^ (s.b &&& s.c)
  let t2 := s0 + maj
  ⟨t1 + t2, s.a, s.b, s.c, s.d + t1, s.e, s.f, s.g⟩

/-- The initial hash words. -/
def initial : Working :=
  ⟨0x6a09e667, 0xbb67ae85, 0x3c6ef372, 0xa54ff53a, 0x510e527f, 0x9b05688c, 0x1f83d9ab, 0x5be0cd19⟩

/-- Word-wise sum of two sets of working words. -/
def Working.add (s t : Working) : Working :=
  ⟨s.a + t.a, s.b + t.b, s.c + t.c, s.d + t.d, s.e + t.e, s.f + t.f, s.g + t.g, s.h + t.h⟩

/-- The hash words after the block at byte offset `off`. -/
def compress (hs : Working) (b : ByteArray) (off : Nat) : Working :=
  let w := schedule b off
  let s := (List.range 64).foldl
    (fun s i => round s (roundConstants.getD i 0) (w.getD i 0)) hs
  hs.add s

/-- The 32-byte digest of a message. -/
def digest (msg : ByteArray) : ByteArray :=
  let p := pad msg
  let hs := (List.range (p.size / 64)).foldl (fun hs i => compress hs p (64 * i)) initial
  let words := [hs.a, hs.b, hs.c, hs.d, hs.e, hs.f, hs.g, hs.h]
  ByteArray.mk (words.flatMap fun (w : UInt32) =>
    [(w >>> 24).toUInt8, (w >>> 16).toUInt8, (w >>> 8).toUInt8, w.toUInt8]).toArray

/-- The digest of a tag followed by the data, which keeps hashes of different uses apart. -/
def digestTagged (tag data : ByteArray) : ByteArray := digest (tag ++ data)

end RoadFetch.Sha256
