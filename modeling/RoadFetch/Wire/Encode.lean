import RoadFetch.Bytes.Word
import RoadFetch.Time.Duration
import RoadFetch.Double

/-!
# The wire format: writing

Values are written as fixed-width little-endian integers, doubles by their bits, booleans as
one byte, texts and sequences behind a 64-bit length, and records as their fields one after
another with nothing between them. Every writer returns the bytes of one value.
-/

namespace RoadFetch.Wire

def u8 (b : UInt8) : List UInt8 := [b]

/-- A 16-bit word. -/
def u16 (w : UInt16) : List UInt8 := Bytes.le 2 w.toNat

/-- A 32-bit word. -/
def u32 (w : UInt32) : List UInt8 := Bytes.le 4 w.toNat

/-- A 64-bit word. -/
def u64 (w : UInt64) : List UInt8 := Bytes.le64 w

/-- A double, by its bits. -/
def f64 (x : Double) : List UInt8 := u64 x.word

/-- A boolean: one for true, zero for false. -/
def bool (b : Bool) : List UInt8 := [if b then 1 else 0]

def len (n : Nat) : List UInt8 := u64 n.toUInt64

/-- Bytes behind their length. -/
def bytes (bs : List UInt8) : List UInt8 := len bs.length ++ bs

/-- A text as its UTF-8 bytes behind their length. -/
def text (s : String) : List UInt8 := bytes s.toUTF8.toList

/-- A sequence: its length, then its items. -/
def seq {α : Type} (item : α → List UInt8) (xs : List α) : List UInt8 :=
  len xs.length ++ xs.flatMap item

/-- A duration: whole seconds, then nanoseconds. -/
def duration (d : Duration) : List UInt8 := u64 d.secs ++ u32 d.nanos

end RoadFetch.Wire
