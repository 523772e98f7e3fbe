import RoadFetch.Digest.Sha256
import RoadFetch.Bytes.Hex
import RoadFetch.Decimal.Text

/-!
# Player tokens and bindings

A player holds a token: 32 hex digits, compared in lowercase. Each token is bound to one
dog in one session, and each dog to at most one token. Bindings are kept in token order;
binding a token or a dog a second time is refused.

Tokens handed out by the world are drawn from a secret key and a counter: the first 16 bytes
of the SHA-256 digest of the key followed by the counter's decimal text, as hex. Without the
key the tokens cannot be told in advance; their text is of no further meaning, and a token
that is already bound is passed over.
-/

namespace RoadFetch

/-- A player's token: 32 lowercase hex digits. -/
structure Token where
  text : String
  deriving Repr, DecidableEq, Inhabited

namespace Token

/-- The number of characters of a token. -/
def length : Nat := 32

/-- Whether a character is an ASCII hex digit of either case. -/
def isHexDigit (c : Char) : Bool :=
  ('0' ≤ c && c ≤ '9') || ('a' ≤ c && c ≤ 'f') || ('A' ≤ c && c ≤ 'F')

/-- Reads a token: exactly 32 bytes, all hex digits; the text is kept in lowercase. -/
def parse? (raw : String) : Option Token :=
  if raw.utf8ByteSize = length ∧ raw.toList.all isHexDigit then
    some ⟨String.ofList (raw.toList.map Char.toLower)⟩
  else none

/-- The token drawn with secret `key` at counter value `n`. -/
def draw (key : ByteArray) (n : Nat) : Token :=
  ⟨Hex.encode ((Sha256.digest (key ++ (Decimal.natText n).toUTF8)).extract 0 16)⟩

/-- Token order: by text. -/
def lt (a b : Token) : Bool := decide (a.text < b.text)

end Token

/-- A token's binding to a dog (by key) in a session (by key). -/
structure Binding where
  token : Token
  dog : UInt64
  session : UInt64
  deriving Repr, DecidableEq, Inhabited

/-- The bindings of a world, in token order, no token and no dog twice. -/
structure Bindings where
  list : List Binding := []
  deriving Repr, Inhabited

namespace Bindings

def find? (bs : Bindings) (t : Token) : Option Binding := bs.list.find? (·.token == t)

def hasToken (bs : Bindings) (t : Token) : Bool := bs.list.any (·.token == t)

def hasDog (bs : Bindings) (dog : UInt64) : Bool := bs.list.any (·.dog == dog)

/-- Inserts into a token-sorted list. -/
def insertSorted (b : Binding) : List Binding → List Binding
  | [] => [b]
  | c :: rest => if Token.lt b.token c.token then b :: c :: rest else c :: insertSorted b rest

/-- Binds unless the token or the dog is bound already; tells whether it bound. -/
def insert (bs : Bindings) (b : Binding) : Bindings × Bool :=
  if bs.hasToken b.token || bs.hasDog b.dog then (bs, false)
  else (⟨insertSorted b bs.list⟩, true)

/-- Removes the binding of a dog, if any. -/
def removeDog (bs : Bindings) (dog : UInt64) : Bindings := ⟨bs.list.filter (·.dog != dog)⟩

def size (bs : Bindings) : Nat := bs.list.length

end Bindings

end RoadFetch
