/-!
# JSON values

A JSON document as a tree. Numbers keep the kind the text gave them: a nonnegative integer
that fits 64 bits, a negative integer that fits 64 bits, or a double for everything else.
Objects are maps: their members are kept sorted by key, and inserting a key that is already
present replaces its value, so a later duplicate in a text wins.
-/

namespace RoadFetch.Json

/-- A JSON number: a 64-bit nonnegative integer, a 64-bit negative integer, or a double. -/
inductive Number where
  | posInt (n : UInt64)
  | negInt (n : Int64)
  | float (x : Float)
  deriving Repr, Inhabited

/-- A JSON value. Object members are sorted by key with no key twice. -/
inductive Value where
  | null
  | bool (b : Bool)
  | num (n : Number)
  | str (s : String)
  | arr (items : List Value)
  | obj (members : List (String × Value))
  deriving Repr, Inhabited

namespace Value

/-- Inserts a member into a key-sorted member list, replacing the value of an equal key. -/
def insertMember (k : String) (v : Value) : List (String × Value) → List (String × Value)
  | [] => [(k, v)]
  | (k', v') :: rest =>
    if k = k' then (k, v) :: rest
    else if k < k' then (k, v) :: (k', v') :: rest
    else (k', v') :: insertMember k v rest

/-- The object of members given in any order, a later key replacing an earlier one. -/
def objOf (members : List (String × Value)) : Value :=
  .obj (members.foldl (fun acc (k, v) => insertMember k v acc) [])

/-- The member of an object with a given key. -/
def field? (v : Value) (k : String) : Option Value :=
  match v with
  | .obj ms => (ms.find? (·.1 == k)).map (·.2)
  | _ => none

/-- A natural number as a JSON integer (cut to 64 bits). -/
def nat (n : Nat) : Value := .num (.posInt n.toUInt64)

/-- An integer as a JSON integer. -/
def int (i : Int) : Value :=
  if i < 0 then .num (.negInt (Int64.ofInt i)) else .num (.posInt i.toNat.toUInt64)

/-- A double as a JSON number. -/
def float (x : Float) : Value := .num (.float x)

end Value

end RoadFetch.Json
