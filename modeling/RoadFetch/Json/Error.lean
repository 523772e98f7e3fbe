import RoadFetch.Decimal.Text
import RoadFetch.Text.Printable

/-!
# Errors of the JSON reader

A reading error is a problem and the byte offset where it is reported. The offset is turned
into a line (counted from 1) and a column (bytes since the last newline) only when the error
is written. Problems of the text itself (a missing colon, an unfinished string) are placed
where they are found; problems of meaning (a missing field, a value of the wrong type) are
placed where the reader stands when it notices them.
-/

namespace RoadFetch.Json

/-- The value that a reader found where it expected something else. -/
inductive Unexpected where
  | bool (b : Bool)
  | unsigned (n : Nat)
  | signed (i : Int)
  | float (x : Float)
  | str (s : String)
  | null
  | seq
  | map
  deriving Repr, Inhabited

/-- What went wrong while reading a JSON text. -/
inductive Problem where
  | eofInList
  | eofInObject
  | eofInString
  | eofInValue
  | expectedColon
  | expectedListCommaOrEnd
  | expectedObjectCommaOrEnd
  | expectedIdent
  | expectedValue
  | invalidEscape
  | invalidNumber
  | numberOutOfRange
  | controlCharInString
  | keyMustBeString
  | loneLeadingSurrogate
  | trailingComma
  | trailingCharacters
  | unexpectedEndOfHexEscape
  | recursionLimit
  | missingField (name : String)
  | duplicateField (name : String)
  | invalidType (found : Unexpected) (expected : String)
  | invalidValue (found : Unexpected) (expected : String)
  | invalidLength (len : Nat) (expected : String)
  deriving Repr, Inhabited

/-- A problem and the byte offset where it is reported (none while not yet placed). -/
structure ReadError where
  problem : Problem
  offset : Option Nat
  deriving Repr, Inhabited

/-- A string in double quotes as messages show it: backslash escapes for NUL, tab, return,
newline, the backslash and the quote; `\u{hex}` for characters that extend a grapheme or are
not printable; every other character as itself. -/
def messageQuote (s : String) : String :=
  let esc (c : Char) : String :=
    if c.toNat = 0 then "\\0"
    else if c = '\t' then "\\t"
    else if c = '\r' then "\\r"
    else if c = '\n' then "\\n"
    else if c = '\\' then "\\\\"
    else if c = '"' then "\\\""
    else if Text.isGraphemeExtend c || !Text.isPrintable c then
      "\\u\x7b" ++ String.ofList (Nat.toDigits 16 c.toNat) ++ "\x7d"
    else String.singleton c
  "\"" ++ String.join (s.toList.map esc) ++ "\""

/-- How a found value is named in messages. -/
def Unexpected.describe : Unexpected → String
  | .bool b => "boolean " ++ tick (if b then "true" else "false")
  | .unsigned n => "integer " ++ tick (Decimal.natText n)
  | .signed i => "integer " ++ tick (Decimal.intText i)
  | .float x => "floating point " ++ tick (Decimal.Layout.typed.format x)
  | .str s => "string " ++ messageQuote s
  | .null => "null"
  | .seq => "sequence"
  | .map => "map"
where
  /-- A text between grave accents. -/
  tick (s : String) : String := "`" ++ s ++ "`"

/-- A name between grave accents. -/
def ticked (s : String) : String := Unexpected.describe.tick s

def Problem.message : Problem → String
  | .eofInList => "EOF while parsing a list"
  | .eofInObject => "EOF while parsing an object"
  | .eofInString => "EOF while parsing a string"
  | .eofInValue => "EOF while parsing a value"
  | .expectedColon => "expected " ++ ticked ":"
  | .expectedListCommaOrEnd => "expected " ++ ticked "," ++ " or " ++ ticked "]"
  | .expectedObjectCommaOrEnd => "expected " ++ ticked "," ++ " or " ++ ticked "\x7d"
  | .expectedIdent => "expected ident"
  | .expectedValue => "expected value"
  | .invalidEscape => "invalid escape"
  | .invalidNumber => "invalid number"
  | .numberOutOfRange => "number out of range"
  | .controlCharInString => "control character (\\u0000-\\u001F) found while parsing a string"
  | .keyMustBeString => "key must be a string"
  | .loneLeadingSurrogate => "lone leading surrogate in hex escape"
  | .trailingComma => "trailing comma"
  | .trailingCharacters => "trailing characters"
  | .unexpectedEndOfHexEscape => "unexpected end of hex escape"
  | .recursionLimit => "recursion limit exceeded"
  | .missingField name => "missing field " ++ ticked name
  | .duplicateField name => "duplicate field " ++ ticked name
  | .invalidType found expected => "invalid type: " ++ found.describe ++ ", expected " ++ expected
  | .invalidValue found expected => "invalid value: " ++ found.describe ++ ", expected " ++ expected
  | .invalidLength len expected => "invalid length " ++ Decimal.natText len ++ ", expected " ++ expected

/-- Line (from 1) and column (bytes since the last newline) of a byte offset. -/
def lineColumn (text : ByteArray) (offset : Nat) : Nat × Nat :=
  let before := (text.toList.take offset)
  let lineStart := before.length - (before.reverse.takeWhile (· != 10)).length
  let lines := (before.take lineStart).filter (· == 10)
  (lines.length + 1, offset - lineStart)

/-- The message of an error in a text, with its line and column when it has a place. -/
def ReadError.message (text : ByteArray) (e : ReadError) : String :=
  match e.offset with
  | none => e.problem.message
  | some i =>
    let (line, col) := lineColumn text i
    e.problem.message ++ " at line " ++ Decimal.natText line ++ " column " ++ Decimal.natText col

end RoadFetch.Json
