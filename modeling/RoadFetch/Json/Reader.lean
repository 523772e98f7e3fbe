import RoadFetch.Json.Scan

/-!
# Reading JSON values and typed records

On top of the scanner this module reads whole values into `Value`, skips values it does not
need, and reads typed data: numbers of a given range, strings, optional values, arrays and
records with named fields. A record may be written as an object (members by name, in any
order, unknown names skipped) or as an array (fields by position).

Errors follow the order of the text: the first thing that is wrong, in reading order, is
reported. A problem of meaning found inside a container is placed after the container's
closing bracket when that bracket comes next, and where the reader stands otherwise.
Containers may nest 127 deep.
-/

namespace RoadFetch.Json

namespace Scan

/-- The whole text being read. -/
def bytes : Scan ByteArray := read

/-- The nesting allowance of a fresh reader. -/
def depthLimit : Nat := 128

/-- Enters a container at the bracket (not yet consumed): the allowance left inside. -/
def enter (depth : Nat) : Scan Nat :=
  if depth ≤ 1 then failAhead .recursionLimit else pure (depth - 1)

/-- Moves to the next array element: `false` at the closing bracket. `first` tells whether
no element was read yet. -/
def nextElement (first : Bool) : Scan Bool := do
  match ← skipBlank with
  | some 93 => pure false
  | some 44 =>
    if first then pure true
    else
      bump
      match ← skipBlank with
      | some 93 => failAhead .trailingComma
      | some _ => pure true
      | none => failAhead .eofInValue
  | some _ => if first then pure true else failAhead .expectedListCommaOrEnd
  | none => failAhead .eofInList

/-- Reads the next member name of an object: none at the closing brace. -/
def nextKey (first : Bool) : Scan (Option String) := do
  let look ← do
    match ← skipBlank with
    | some 125 => pure none
    | some 44 =>
      if first then pure (some 44)
      else
        bump
        match ← skipBlank with
        | some c => pure (some c)
        | none => failAhead .eofInValue
    | some c => if first then pure (some c) else failAhead .expectedObjectCommaOrEnd
    | none => failAhead .eofInObject
  match look with
  | none => pure none
  | some 34 =>
    bump
    return some (← string)
  | some 125 => failAhead .trailingComma
  | some _ => failAhead .keyMustBeString

/-- Reads the colon between a member name and its value. -/
def colon : Scan Unit := do
  match ← skipBlank with
  | some 58 => bump
  | some _ => failAhead .expectedColon
  | none => failAhead .eofInObject

def endArray : Scan Unit := do
  match ← skipBlank with
  | some 93 => bump
  | some 44 =>
    bump
    match ← skipBlank with
    | some 93 => failAhead .trailingComma
    | _ => failAhead .trailingCharacters
  | some _ => failAhead .trailingCharacters
  | none => failAhead .eofInList

def endObject : Scan Unit := do
  match ← skipBlank with
  | some 125 => bump
  | some 44 => failAhead .trailingComma
  | some _ => failAhead .trailingCharacters
  | none => failAhead .eofInObject

/-- Reads a container's content and then its end. The end is read even when the content
failed; the content's failure wins and is placed where the end left the reader. -/
def closing {α : Type} (content : Scan α) (close : Scan Unit) : Scan α := do
  let r ← attempt content
  let c ← attempt close
  match r, c with
  | .ok v, .ok () => pure v
  | .error e, _ => throw (← place e)
  | .ok _, .error e => throw (← place e)

/-! ### Whole values -/

mutual

/-- Reads any value; `depth` is the nesting allowance. -/
def value : Nat → Scan Value
  | 0 => failAhead .recursionLimit
  | d + 1 => do
    match ← skipBlank with
    | none => failAhead .eofInValue
    | some 110 => bump; keyword [117, 108, 108]; pure .null
    | some 116 => bump; keyword [114, 117, 101]; pure (.bool true)
    | some 102 => bump; keyword [97, 108, 115, 101]; pure (.bool false)
    | some 45 => bump; return .num (← number false)
    | some 34 => bump; return .str (← string)
    | some 91 =>
      if d = 0 then failAhead .recursionLimit
      else
        bump
        let b ← read
        let items ← closing (elements d (b.size + 1) true []) endArray
        pure (.arr items)
    | some 123 =>
      if d = 0 then failAhead .recursionLimit
      else
        bump
        let b ← read
        let members ← closing (members d (b.size + 1) true []) endObject
        pure (.obj members)
    | some c =>
      if isDigit c then return .num (← number true)
      else failAhead .expectedValue
termination_by d => (d, 0)

/-- Reads array elements up to the closing bracket (fuel: one step per element). -/
def elements : Nat → Nat → Bool → List Value → Scan (List Value)
  | _, 0, _, acc => pure acc.reverse
  | d, fuel + 1, first, acc => do
    if ← nextElement first then
      let v ← value d
      elements d fuel false (v :: acc)
    else pure acc.reverse
termination_by d fuel _ _ => (d, fuel + 1)

/-- Reads object members up to the closing brace, a later equal name replacing an earlier
one (fuel: one step per member). -/
def members : Nat → Nat → Bool → List (String × Value) → Scan (List (String × Value))
  | _, 0, _, acc => pure acc
  | d, fuel + 1, first, acc => do
    match ← nextKey first with
    | none => pure acc
    | some k =>
      colon
      let v ← value d
      members d fuel false (Value.insertMember k v acc)
termination_by d fuel _ _ => (d, fuel + 1)

end

/-! ### Skipping values -/

/-- Skips the rest of the containers open on `stack` after a value (fuel: one step per
closing bracket or comma). Returns whether a new value follows, and the stack. -/
def closeFrames : Nat → Bool → UInt8 → List UInt8 → Scan (Option (UInt8 × List UInt8))
  | 0, _, _, _ => pure none
  | fuel + 1, acceptComma, frame, stack => do
    let c ← skipBlank
    let closer : UInt8 := if frame == 91 then 93 else 125
    match c with
    | some 44 =>
      if acceptComma then
        bump
        pure (some (frame, stack))
      else pure (some (frame, stack))
    | some x =>
      if x == closer then
        bump
        match stack with
        | [] => pure none
        | f :: rest => closeFrames fuel true f rest
      else if acceptComma then
        failAhead (if frame == 91 then .expectedListCommaOrEnd else .expectedObjectCommaOrEnd)
      else pure (some (frame, stack))
    | none => failAhead (if frame == 91 then .eofInList else .eofInObject)

/-- Skips a value of any depth without building it (fuel: one step per value). -/
def skipLoop : Nat → Option UInt8 → List UInt8 → Scan Unit
  | 0, _, _ => pure ()
  | fuel + 1, enclosing, stack => do
    let opened ← do
      match ← skipBlank with
      | none => failAhead .eofInValue
      | some 110 => bump; keyword [117, 108, 108]; pure none
      | some 116 => bump; keyword [114, 117, 101]; pure none
      | some 102 => bump; keyword [97, 108, 115, 101]; pure none
      | some 45 => bump; skipNumber; pure none
      | some 34 => bump; skipString; pure none
      | some 91 => bump; pure (some (91 : UInt8))
      | some 123 => bump; pure (some (123 : UInt8))
      | some c => if isDigit c then (do skipNumber; pure none) else failAhead .expectedValue
    -- the stack holds the containers around the current one
    let (acceptComma, frame, stack) :=
      match opened with
      | some f => (false, some f, (match enclosing with | some e => e :: stack | none => stack))
      | none =>
        match enclosing with
        | some e => (true, some e, stack)
        | none =>
          match stack with
          | f :: rest => (true, some f, rest)
          | [] => (true, none, [])
    match frame with
    | none => pure ()
    | some frame =>
      let b ← read
      match ← closeFrames (b.size + 1) acceptComma frame stack with
      | none => pure ()
      | some (frame, stack) =>
        if frame == 123 then
          match ← skipBlank with
          | some 34 => bump
          | some _ => failAhead .keyMustBeString
          | none => failAhead .eofInObject
          skipString
          match ← skipBlank with
          | some 58 => bump
          | some _ => failAhead .expectedColon
          | none => failAhead .eofInObject
        skipLoop fuel (some frame) stack

def skipValue : Scan Unit := do
  let b ← read
  skipLoop (b.size + 1) none []

/-! ### Typed values -/

/-- Fails because the value ahead is not of the expected kind: scalars are read first so
that the message can show them, containers are only looked at. -/
def wrongKind {α : Type} (expected : String) : Scan α := placed do
  match ← peek with
  | some 110 => bump; keyword [117, 108, 108]; reject (.invalidType .null expected)
  | some 116 => bump; keyword [114, 117, 101]; reject (.invalidType (.bool true) expected)
  | some 102 => bump; keyword [97, 108, 115, 101]; reject (.invalidType (.bool false) expected)
  | some 45 => bump; reject (.invalidType (numberFound (← number false)) expected)
  | some 34 => bump; reject (.invalidType (.str (← string)) expected)
  | some 91 => reject (.invalidType .seq expected)
  | some 123 => reject (.invalidType .map expected)
  | some c =>
    if isDigit c then reject (.invalidType (numberFound (← number true)) expected)
    else failAhead .expectedValue
  | none => failAhead .expectedValue
where
  /-- How a number read is shown in a message. -/
  numberFound : Number → Unexpected
    | .posInt n => .unsigned n.toNat
    | .negInt n => .signed n.toInt
    | .float x => .float x

/-- Reads a number and hands it to `visit`, whose refusals are placed after the number. -/
def numberAs {α : Type} (expected : String) (visit : Number → Scan α) : Scan α := placed do
  match ← skipBlank with
  | none => failAhead .eofInValue
  | some 45 => bump; visit (← number false)
  | some c =>
    if isDigit c then visit (← number true) else wrongKind expected

/-- A double; integers are rounded to the nearest double. -/
def float : Scan Float :=
  numberAs "f64" fun
    | .posInt n => pure (Decimal.ofNatNearest n.toNat)
    | .negInt n => pure (Decimal.roundBinary true n.toInt.natAbs 0)
    | .float x => pure x

/-- A nonnegative integer below `bound`, named `name` in messages. -/
def natBelow (name : String) (bound : Nat) : Scan Nat :=
  numberAs name fun
    | .posInt n =>
      if n.toNat < bound then pure n.toNat else reject (.invalidValue (.unsigned n.toNat) name)
    | .negInt n => reject (.invalidValue (.signed n.toInt) name)
    | .float x => reject (.invalidType (.float x) name)

/-- An integer in `[lo, hi]`, named `name` in messages. -/
def intWithin (name : String) (lo hi : Int) : Scan Int :=
  numberAs name fun
    | .posInt n =>
      if (n.toNat : Int) ≤ hi then pure n.toNat else reject (.invalidValue (.unsigned n.toNat) name)
    | .negInt n =>
      if lo ≤ n.toInt then pure n.toInt else reject (.invalidValue (.signed n.toInt) name)
    | .float x => reject (.invalidType (.float x) name)

/-- A 32-bit unsigned integer. -/
def word32 : Scan Nat := natBelow "u32" (Nat.pow 2 32)

/-- A 64-bit unsigned count. -/
def count : Scan Nat := natBelow "usize" (Nat.pow 2 64)

/-- A 32-bit signed integer. -/
def int32 : Scan Int := intWithin "i32" (-Scan.int32Limit) (Scan.int32Limit - 1)

def text : Scan String := placed do
  match ← skipBlank with
  | none => failAhead .eofInValue
  | some 34 =>
    bump
    string
  | some _ => wrongKind "a string"

/-- A value that may be `null`. -/
def optional {α : Type} (inner : Scan α) : Scan (Option α) := do
  match ← skipBlank with
  | some 110 =>
    bump
    keyword [117, 108, 108]
    pure none
  | _ => some <$> inner

/-- Array elements read by `item` (fuel: one step per element). -/
def items {α : Type} (item : Scan α) : Nat → Bool → List α → Scan (List α)
  | 0, _, acc => pure acc.reverse
  | fuel + 1, first, acc => do
    if ← nextElement first then
      let v ← item
      items item fuel false (v :: acc)
    else pure acc.reverse

/-- An array whose elements are read by `item`, given the nesting allowance inside. -/
def array {α : Type} (depth : Nat) (item : Nat → Scan α) : Scan (List α) := placed do
  match ← skipBlank with
  | none => failAhead .eofInValue
  | some 91 =>
    let d ← enter depth
    bump
    let b ← read
    closing (items (item d) (b.size + 1) true []) endArray
  | some _ => wrongKind "a sequence"

end Scan

/-! ### Records -/

/-- How one named field of a record is read into the collection `σ` of fields read so far. -/
structure Field (σ : Type) where
  name : String
  /-- Reads the field's value (given the nesting allowance) into the collection. -/
  read : Nat → σ → Scan σ
  /-- Whether the field was read already. -/
  seen : σ → Bool
  /-- What a missing member of an object gives: none when the field is required. -/
  whenAbsent : Option (σ → σ)
  /-- What a missing element of an array gives: none when the field is required. -/
  whenShort : Option (σ → σ)

/-- A record type: its name in messages, its fields in order, the empty collection, how the
record is made from a complete collection, and what becomes of members with other names
(skipped when `other` is none). A record that collects other members is read from objects
only. -/
structure Record (σ α : Type) where
  name : String
  fields : List (Field σ)
  empty : σ
  finish : σ → α
  other : Option (String → Nat → σ → Scan σ)

namespace Field

variable {σ β : Type}

/-- A field that must be present. -/
def required (name : String) (reader : Nat → Scan β) (get : σ → Option β) (put : σ → β → σ) :
    Field σ :=
  { name, read := fun d acc => do return put acc (← reader d), seen := fun acc => (get acc).isSome,
    whenAbsent := none, whenShort := none }

/-- A field that takes `dflt` when it is left out. -/
def withDefault (name : String) (reader : Nat → Scan β) (get : σ → Option β) (put : σ → β → σ)
    (dflt : β) : Field σ :=
  { name, read := fun d acc => do return put acc (← reader d), seen := fun acc => (get acc).isSome,
    whenAbsent := some (put · dflt), whenShort := some (put · dflt) }

/-- A field that may be `null` or left out of an object (but not cut from an array). -/
def optional (name : String) (reader : Nat → Scan β) (get : σ → Option (Option β))
    (put : σ → Option β → σ) : Field σ :=
  { name, read := fun d acc => do return put acc (← Scan.optional (reader d)),
    seen := fun acc => (get acc).isSome, whenAbsent := some (put · none), whenShort := none }

end Field

namespace Record

variable {σ α : Type}

def field? (r : Record σ α) (k : String) : Option (Field σ) := r.fields.find? (·.name == k)

/-- Fills the fields that an object left out, or refuses the first required one. -/
def complete (r : Record σ α) (acc : σ) : Scan σ :=
  r.fields.foldlM (fun acc f =>
    if f.seen acc then pure acc
    else match f.whenAbsent with
      | some fill => pure (fill acc)
      | none => Scan.reject (.missingField f.name)) acc

/-- Reads the members of an object (fuel: one step per member). -/
def members (r : Record σ α) (depth : Nat) : Nat → Bool → σ → Scan σ
  | 0, _, acc => pure acc
  | fuel + 1, first, acc => do
    match ← Scan.nextKey first with
    | none => pure acc
    | some k =>
      match r.field? k with
      | some f =>
        if f.seen acc then Scan.reject (.duplicateField f.name)
        else
          Scan.colon
          let acc ← f.read depth acc
          members r depth fuel false acc
      | none =>
        Scan.colon
        let acc ← match r.other with
          | some keep => keep k depth acc
          | none => do Scan.skipValue; pure acc
        members r depth fuel false acc

/-- Reads the fields from array elements in order. -/
def positional (r : Record σ α) (depth : Nat) : Scan σ := do
  let count := r.fields.length
  let expected := r.name ++ " with " ++ Decimal.natText count ++ " elements"
  let (acc, _, _) ← r.fields.foldlM (fun (acc, i, first) f => do
    if ← Scan.nextElement first then
      let acc ← f.read depth acc
      pure (acc, i + 1, false)
    else match f.whenShort with
      | some fill => pure (fill acc, i + 1, false)
      | none => Scan.reject (.invalidLength i expected)) (r.empty, 0, true)
  pure acc

/-- Reads a record from an object, or (when it collects no other members) from an array. -/
def read (r : Record σ α) (depth : Nat) : Scan α := Scan.placed do
  match ← Scan.skipBlank with
  | none => Scan.failAhead .eofInValue
  | some 123 =>
    let d ← Scan.enter depth
    Scan.bump
    let b ← Scan.bytes
    let acc ← Scan.closing (do
      let acc ← r.members d (b.size + 1) true r.empty
      r.complete acc) Scan.endObject
    pure (r.finish acc)
  | some 91 =>
    if r.other.isSome then Scan.wrongKind r.name
    else
      let d ← Scan.enter depth
      Scan.bump
      let acc ← Scan.closing (r.positional d) Scan.endArray
      pure (r.finish acc)
  | some _ => Scan.wrongKind r.name

end Record

/-! ### Whole texts -/

/-- Reads a whole text with `reader`: only blanks may follow the value. -/
def parseWith {α : Type} (reader : Nat → Scan α) (text : String) : Except ReadError α :=
  let b := text.toUTF8
  let whole : Scan α := do
    let v ← reader Scan.depthLimit
    match ← Scan.skipBlank with
    | some _ => Scan.failAhead .trailingCharacters
    | none => pure v
  (Scan.runAt whole b 0).1

/-- Reads a JSON text into a value. -/
def Value.parse (text : String) : Except ReadError Value := parseWith Scan.value text

end RoadFetch.Json
