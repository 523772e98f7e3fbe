import RoadFetch.Json.Error
import RoadFetch.Json.Value

/-!
# Scanning JSON text

The scanner walks the UTF-8 bytes of a text with an index. It knows the lexical rules:
blanks are space, tab, newline and return; a string ends at an unescaped quote and refuses
raw control characters; escapes are the JSON ones, with surrogate pairs joined and lone
surrogates refused; numbers are an optional minus, digits without a leading zero, an optional
fraction and an optional exponent.

A number becomes a 64-bit integer when it is written without fraction and exponent and fits
(a negative one must not be zero), and a double otherwise. The double is computed as the
reader of the served catalogs computes it: the first digits that fit 64 bits form an integer
significand, later digits only move the decimal exponent, and the significand (rounded to a
double) is then multiplied or divided by the double nearest to the power of ten; an exponent
beyond the doubles is out of range when the value grows and zero when it shrinks.
-/

namespace RoadFetch.Json

/-- Reading a text: the text, the index of the next byte, and failure by a `ReadError`.
The index survives a failure, so a caller can still see where reading stopped. -/
abbrev Scan := ExceptT ReadError (ReaderT ByteArray (StateM Nat))

namespace Scan

/-- The next byte, if any, without consuming it. -/
def peek : Scan (Option UInt8) := do
  let b ← read
  let i ← get
  pure b[i]?

def bump : Scan Unit := modify (· + 1)

/-- Consumes and returns the next byte, if any. -/
def next : Scan (Option UInt8) := do
  let c ← peek
  if c.isSome then bump
  pure c

/-- Fails with a problem placed at the current index. -/
def fail {α : Type} (p : Problem) : Scan α := do
  let i ← get
  throw ⟨p, some i⟩

/-- Fails with a problem placed one byte further (at the byte just looked at). -/
def failAhead {α : Type} (p : Problem) : Scan α := do
  let b ← read
  let i ← get
  throw ⟨p, some (min b.size (i + 1))⟩

/-- Gives an error that has no place yet the current index. -/
def place (e : ReadError) : Scan ReadError := do
  match e.offset with
  | some _ => pure e
  | none =>
    let i ← get
    pure { e with offset := some i }

/-- Runs a step; an error without a place gets the index where the step stopped. -/
def placed {α : Type} (s : Scan α) : Scan α :=
  tryCatch s fun e => do throw (← place e)

/-- Runs a step and keeps its failure as a value. -/
def attempt {α : Type} (s : Scan α) : Scan (Except ReadError α) :=
  tryCatch (Except.ok <$> s) fun e => pure (.error e)

/-- Runs a text reader from index `i`: the outcome and the index where it stopped. -/
def runAt {α : Type} (s : Scan α) (b : ByteArray) (i : Nat) : Except ReadError α × Nat :=
  (s.run.run b).run i

/-- A problem of meaning, to be placed by `placed`. -/
def reject {α : Type} (p : Problem) : Scan α := throw ⟨p, none⟩

def isBlank (c : UInt8) : Bool := c == 32 || c == 10 || c == 9 || c == 13

/-- Whether a byte is a decimal digit. -/
def isDigit (c : UInt8) : Bool := 48 ≤ c && c ≤ 57

/-- The index of the first non-blank byte from `i` on. -/
def blankEnd (b : ByteArray) (i : Nat) : Nat :=
  if h : i < b.size then
    if isBlank b[i] then blankEnd b (i + 1) else i
  else i
termination_by b.size - i

/-- Skips blanks and looks at the next byte. -/
def skipBlank : Scan (Option UInt8) := do
  let b ← read
  let i ← get
  let j := blankEnd b i
  set j
  pure b[j]?

/-- The index of the first non-digit byte from `i` on. -/
def digitEnd (b : ByteArray) (i : Nat) : Nat :=
  if h : i < b.size then
    if isDigit b[i] then digitEnd b (i + 1) else i
  else i
termination_by b.size - i

def skipDigits : Scan Unit := do
  let b ← read
  let i ← get
  set (digitEnd b i)

/-- Reads the exact letters of a keyword whose first letter is already consumed. -/
def keyword (rest : List UInt8) : Scan Unit :=
  rest.forM fun expected => do
    match ← next with
    | none => fail .eofInValue
    | some c => if c != expected then fail .expectedIdent

end Scan

/-! ### Strings -/

/-- The UTF-8 bytes of a code point. -/
def utf8 (n : Nat) : List UInt8 := (String.singleton (Char.ofNat n)).toUTF8.toList

/-- The value of four hex digits. -/
def hexValue (ds : List UInt8) : Option Nat :=
  ds.foldlM (fun acc c =>
    if 48 ≤ c ∧ c ≤ 57 then some (acc * 16 + (c.toNat - 48))
    else if 97 ≤ c ∧ c ≤ 102 then some (acc * 16 + (c.toNat - 87))
    else if 65 ≤ c ∧ c ≤ 70 then some (acc * 16 + (c.toNat - 55))
    else none) 0

namespace Scan

/-- Reads the four hex digits of a `\u` escape. -/
def hexEscape : Scan Nat := do
  let b ← read
  let i ← get
  if i + 4 ≤ b.size then
    set (i + 4)
    match hexValue ((b.extract i (i + 4)).toList) with
    | some n => pure n
    | none => fail .invalidEscape
  else
    set b.size
    fail .eofInString

/-- The next byte, failing at the end of the text inside a string. -/
def nextInString : Scan UInt8 := do
  match ← next with
  | some c => pure c
  | none => fail .eofInString

/-- The byte ahead, failing at the end of the text inside a string. -/
def peekInString : Scan UInt8 := do
  match ← peek with
  | some c => pure c
  | none => fail .eofInString

/-- Reads a `\u` escape (the `u` consumed) and returns the bytes of its code point:
a trailing surrogate alone is refused, a leading one must be followed by `\u` and a
trailing one. -/
def unicodeEscape : Scan (List UInt8) := do
  let n ← hexEscape
  if 0xDC00 ≤ n ∧ n ≤ 0xDFFF then fail .loneLeadingSurrogate
  else if n < 0xD800 ∨ 0xDBFF < n then pure (utf8 n)
  else
    for expected in [92, 117] do
      if (← peekInString) == expected then bump
      else
        bump
        fail .unexpectedEndOfHexEscape
    let n2 ← hexEscape
    if n2 < 0xDC00 ∨ 0xDFFF < n2 then fail .loneLeadingSurrogate
    else pure (utf8 ((((n - 0xD800) <<< 10) ||| (n2 - 0xDC00)) + 0x10000))

/-- Reads an escape (the backslash consumed) and returns its bytes. -/
def escape : Scan (List UInt8) := do
  let c ← nextInString
  match c with
  | 34 => pure [34]
  | 92 => pure [92]
  | 47 => pure [47]
  | 98 => pure [8]
  | 102 => pure [12]
  | 110 => pure [10]
  | 114 => pure [13]
  | 116 => pure [9]
  | 117 => unicodeEscape
  | _ => fail .invalidEscape

/-- The index of the first quote, backslash or control byte from `i` on. -/
def plainEnd (b : ByteArray) (i : Nat) : Nat :=
  if h : i < b.size then
    let c := b[i]
    if c == 34 || c == 92 || c < 32 then i else plainEnd b (i + 1)
  else i
termination_by b.size - i

/-- Reads the rest of a string whose opening quote is consumed (fuel: one step per run of
plain bytes or escape). -/
def stringBody : Nat → ByteArray → Scan String
  | 0, _ => fail .eofInString
  | fuel + 1, acc => do
    let b ← read
    let i ← get
    let j := plainEnd b i
    set j
    let acc := acc ++ b.extract i j
    match b[j]? with
    | none => fail .eofInString
    | some 34 =>
      bump
      pure ((String.fromUTF8? acc).getD "")
    | some 92 =>
      bump
      let bytes ← escape
      stringBody fuel (acc ++ ByteArray.mk bytes.toArray)
    | some _ =>
      bump
      fail .controlCharInString

/-- Reads a string whose opening quote is consumed. -/
def string : Scan String := do
  let b ← read
  stringBody (b.size + 1) ByteArray.empty

/-- Skips an escape (the backslash consumed) without checking what a `\u` escape denotes. -/
def skipEscape : Scan Unit := do
  let c ← nextInString
  if c == 34 || c == 92 || c == 47 || c == 98 || c == 102 || c == 110 || c == 114 || c == 116 then
    pure ()
  else if c == 117 then
    discard hexEscape
  else fail .invalidEscape

/-- Skips the rest of a string whose opening quote is consumed. -/
def skipStringBody : Nat → Scan Unit
  | 0 => fail .eofInString
  | fuel + 1 => do
    let b ← read
    let i ← get
    let j := plainEnd b i
    set j
    match b[j]? with
    | none => fail .eofInString
    | some 34 => bump
    | some 92 =>
      bump
      skipEscape
      skipStringBody fuel
    | some _ => fail .controlCharInString

/-- Skips a string whose opening quote is consumed. -/
def skipString : Scan Unit := do
  let b ← read
  skipStringBody (b.size + 1)

end Scan

/-! ### Numbers -/

/-- A number as read: a 64-bit nonnegative integer, a 64-bit negative integer, or a double. -/
abbrev Parsed := Number

namespace Scan

/-- The largest 64-bit word plus one. -/
def wordLimit : Nat := Nat.pow 2 64

/-- The largest 32-bit signed integer plus one. -/
def int32Limit : Int := Int.ofNat (Nat.pow 2 31)

/-- Clamps an exponent to the 32-bit signed range. -/
def clampExponent (e : Int) : Int := max (-int32Limit) (min (int32Limit - 1) e)

/-- The value `significand * 10 ^ exponent` computed in doubles: the significand rounded to a double,
then multiplied or divided by the double nearest to the power of ten; beyond `10 ^ 308` the
division is repeated with `10 ^ 308` (fuel: a few steps suffice, the value reaches zero). -/
def fromParts (positive : Bool) (significand : Nat) (exponent : Int) : Scan Float := do
  let rec go : Nat → Float → Int → Scan Float
    | 0, f, _ => pure f
    | fuel + 1, f, e =>
      let k := e.natAbs
      if k ≤ 308 then
        if e ≥ 0 then
          let g := f * Decimal.powTen k
          if g.isInf then fail .numberOutOfRange else pure g
        else pure (f / Decimal.powTen k)
      else if f == 0.0 then pure f
      else if e ≥ 0 then fail .numberOutOfRange
      else go fuel (f / Decimal.powTen 308) (e + 308)
  let f ← go 8 (Decimal.ofNatNearest significand) exponent
  pure (if positive then f else -f)

/-- Skips the digits of an exponent that does not fit 32 bits: zero when the value shrinks
or is zero, out of range when it grows. -/
def exponentOverflow (positive zeroSignificand positiveExp : Bool) : Scan Float := do
  if !zeroSignificand && positiveExp then fail .numberOutOfRange
  else
    skipDigits
    pure (if positive then 0.0 else -0.0)

/-- Reads exponent digits into `exp` (fuel: one step per digit). -/
def exponentDigits (positive zeroSignificand positiveExp : Bool) :
    Nat → Nat → Scan (Option Nat)
  | 0, exp => pure (some exp)
  | fuel + 1, exp => do
    match ← peek with
    | some c =>
      if isDigit c then
        bump
        let exp' := exp * 10 + (c.toNat - 48)
        if exp' > Nat.pow 2 31 - 1 then pure none
        else exponentDigits positive zeroSignificand positiveExp fuel exp'
      else pure (some exp)
    | none => pure (some exp)

/-- Reads an exponent (at the `e`) and finishes the double. -/
def exponentPart (positive : Bool) (significand : Nat) (startExp : Int) : Scan Float := do
  bump
  let positiveExp ← do
    match ← peek with
    | some 43 => bump; pure true
    | some 45 => bump; pure false
    | _ => pure true
  match ← next with
  | none => fail .eofInValue
  | some c =>
    if !isDigit c then fail .invalidNumber
    else
      let b ← read
      match ← exponentDigits positive (significand == 0) positiveExp (b.size + 1) (c.toNat - 48) with
      | none => exponentOverflow positive (significand == 0) positiveExp
      | some exp =>
        let e := if positiveExp then startExp + exp else startExp - exp
        fromParts positive significand (clampExponent e)

/-- Reads fraction digits while the significand fits 64 bits; stops at the first digit that
would not fit (fuel: one step per digit). Returns the significand, the digits read, and
whether it stopped for size. -/
def fractionDigits : Nat → Nat → Nat → Scan (Nat × Nat × Bool)
  | 0, sig, n => pure (sig, n, false)
  | fuel + 1, sig, n => do
    match ← peek with
    | some c =>
      if isDigit c then
        let sig' := sig * 10 + (c.toNat - 48)
        if sig' ≥ wordLimit then pure (sig, n, true)
        else
          bump
          fractionDigits fuel sig' (n + 1)
      else pure (sig, n, false)
    | none => pure (sig, n, false)

/-- Reads a fraction (at the point) and finishes the double. -/
def fractionPart (positive : Bool) (significand : Nat) (expBefore : Int) : Scan Float := do
  bump
  let b ← read
  let (sig, count, overflowed) ← fractionDigits (b.size + 1) significand 0
  let exponent := expBefore - count
  if overflowed then
    skipDigits
    match ← peek with
    | some 101 | some 69 => exponentPart positive sig exponent
    | _ => fromParts positive sig exponent
  else
    if count = 0 then
      match ← peek with
      | some _ => failAhead .invalidNumber
      | none => failAhead .eofInValue
    else
      match ← peek with
      | some 101 | some 69 => exponentPart positive sig exponent
      | _ => fromParts positive sig exponent

/-- Reads the digits of an integer part beyond 64 bits (each one raises the exponent) and
finishes the double. -/
def longInteger (positive : Bool) (significand : Nat) : Scan Float := do
  let b ← read
  let i ← get
  let j := digitEnd b i
  set j
  let exponent : Int := j - i
  match ← peek with
  | some 46 => fractionPart positive significand exponent
  | some 101 | some 69 => exponentPart positive significand exponent
  | _ => fromParts positive significand exponent

/-- Finishes a number after its integer part. -/
def afterInteger (positive : Bool) (significand : Nat) : Scan Parsed := do
  match ← peek with
  | some 46 => return .float (← fractionPart positive significand 0)
  | some 101 | some 69 => return .float (← exponentPart positive significand 0)
  | _ =>
    if positive then pure (.posInt significand.toUInt64)
    else if significand = 0 ∨ significand > Nat.pow 2 63 then
      pure (.float (-(Decimal.ofNatNearest significand)))
    else pure (.negInt (Int64.ofInt (-(significand : Int))))

/-- Reads integer digits while they fit 64 bits (fuel: one step per digit). -/
def integerDigits (positive : Bool) : Nat → Nat → Scan Parsed
  | 0, sig => afterInteger positive sig
  | fuel + 1, sig => do
    match ← peek with
    | some c =>
      if isDigit c then
        let sig' := sig * 10 + (c.toNat - 48)
        if sig' ≥ wordLimit then return .float (← longInteger positive sig)
        else
          bump
          integerDigits positive fuel sig'
      else afterInteger positive sig
    | none => afterInteger positive sig

/-- Reads a number after its sign (the minus, if any, consumed). -/
def number (positive : Bool) : Scan Parsed := do
  match ← next with
  | none => fail .eofInValue
  | some 48 =>
    match ← peek with
    | some c => if isDigit c then failAhead .invalidNumber else afterInteger positive 0
    | none => afterInteger positive 0
  | some c =>
    if isDigit c then
      let b ← read
      integerDigits positive (b.size + 1) (c.toNat - 48)
    else fail .invalidNumber

/-- Skips an exponent (at the `e`) without computing it. -/
def skipExponent : Scan Unit := do
  bump
  match ← peek with
  | some 43 | some 45 => bump
  | _ => pure ()
  match ← peek with
  | some c =>
    bump
    if isDigit c then skipDigits else fail .invalidNumber
  | none => fail .invalidNumber

/-- Skips a number after its sign without computing it. -/
def skipNumber : Scan Unit := do
  match ← peek with
  | some 48 =>
    bump
    match ← peek with
    | some c => if isDigit c then failAhead .invalidNumber
    | none => pure ()
  | some c =>
    bump
    if isDigit c then skipDigits else fail .invalidNumber
  | none => fail .invalidNumber
  match ← peek with
  | some 46 =>
    bump
    match ← peek with
    | some c =>
      if isDigit c then skipDigits else failAhead .invalidNumber
    | none => failAhead .invalidNumber
    match ← peek with
    | some 101 | some 69 => skipExponent
    | _ => pure ()
  | some 101 | some 69 => skipExponent
  | _ => pure ()

end Scan

end RoadFetch.Json
