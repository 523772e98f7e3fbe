import RoadFetch.Wire.Utf8
import RoadFetch.Bytes.Word
import RoadFetch.Time.Duration
import RoadFetch.Double

/-!
# The wire format: reading

A reader consumes bytes from the front of its input. Reading fails when the input ends too
early, when a text is not UTF-8, when a boolean byte is neither zero nor one, when an
enumeration index is out of range, and when a duration overflows. Bytes left over after a
value are not an error; the caller decides about them.
-/

namespace RoadFetch.Wire

/-- Why reading failed. -/
inductive WireError where
  /-- The input ended inside a fixed-width value or a sequence. -/
  | unexpectedEnd
  /-- The input ended inside the bytes of a text. -/
  | truncatedText
  | invalidUtf8 (f : Utf8.Failure)
  | invalidBool (found : UInt8)
  | invalidVariant (found : Nat) (count : Nat)
  | durationOverflow
  deriving Repr, DecidableEq

def WireError.message : WireError → String
  | .unexpectedEnd => "io error: unexpected end of file"
  | .truncatedText => "io error: "
  | .invalidUtf8 f => "string is not valid utf8: " ++ f.message
  | .invalidBool b =>
    "invalid u8 while decoding bool, expected 0 or 1, found " ++ Decimal.natText b.toNat
  | .invalidVariant n count =>
    "invalid value: integer \x60" ++ Decimal.natText n ++ "\x60, expected variant index 0 <= i < " ++
      Decimal.natText count
  | .durationOverflow => "overflow deserializing Duration"

/-- A reader of values of type `α`. -/
abbrev Reader (α : Type) := StateT (List UInt8) (Except WireError) α

namespace Reader

/-- Reads `n` bytes of a fixed-width value. -/
def take (n : Nat) : Reader (List UInt8) := do
  let bs ← get
  let front := bs.take n
  if front.length < n then throw .unexpectedEnd
  set (bs.drop n)
  return front

def u8 : Reader UInt8 := do
  match ← take 1 with
  | [b] => return b
  | _ => throw .unexpectedEnd

/-- A 16-bit word. -/
def u16 : Reader UInt16 := do return (Bytes.ofLe (← take 2)).toUInt16

/-- A 32-bit word. -/
def u32 : Reader UInt32 := do return (Bytes.ofLe (← take 4)).toUInt32

/-- A 64-bit word. -/
def u64 : Reader UInt64 := do return (Bytes.ofLe (← take 8)).toUInt64

/-- A double, by its bits. -/
def f64 : Reader Double := do return ⟨← u64⟩

/-- A boolean byte. -/
def bool : Reader Bool := do
  match ← u8 with
  | 0 => return false
  | 1 => return true
  | b => throw (.invalidBool b)

def len : Reader Nat := do return (← u64).toNat

/-- Bytes behind their length, taken as one slice. -/
def slice : Reader (List UInt8) := do
  let n ← len
  let bs ← get
  let front := bs.take n
  if front.length < n then throw .truncatedText
  set (bs.drop n)
  return front

/-- A sequence of bytes read one by one: its length, then its bytes. -/
def byteSeq : Reader (List UInt8) := do take (← len)

/-- A text: UTF-8 bytes behind their length. -/
def text : Reader String := do
  match Utf8.decode (← slice) with
  | .ok s => return s
  | .error f => throw (.invalidUtf8 f)

/-- Reads `n` items after those in `acc` (kept in reverse). -/
def items {α : Type} (item : Reader α) : Nat → List α → Reader (List α)
  | 0, acc => return acc.reverse
  | n + 1, acc => do items item n ((← item) :: acc)

/-- A sequence: its length, then its items. -/
def seq {α : Type} (item : Reader α) : Reader (List α) := do items item (← len) []

/-- An enumeration index below `count`. -/
def variant (count : Nat) : Reader Nat := do
  let i := (← u32).toNat
  if i < count then return i else throw (.invalidVariant i count)

/-- A duration: whole seconds, then nanoseconds; nanoseconds past a second carry into the
seconds, and a carry past the largest word is an error. -/
def duration : Reader Duration := do
  let secs ← u64
  let nanos ← u32
  let total := secs.toNat + nanos.toNat / Duration.nanosPerSec
  if total ≥ Nat.pow 2 64 then throw .durationOverflow
  return ⟨total.toUInt64, (nanos.toNat % Duration.nanosPerSec).toUInt32⟩

/-- Runs a reader on bytes; returns the value and the bytes left over. -/
def run {α : Type} (r : Reader α) (bs : List UInt8) : Except WireError (α × List UInt8) :=
  StateT.run r bs

end Reader

end RoadFetch.Wire
