import RoadFetch.Json.Value
import RoadFetch.Decimal.Text
import RoadFetch.Bytes.Hex

/-!
# Compact JSON text

Writes a value with no blanks: members in their (sorted) order, integers in decimal, doubles
as their shortest JSON number text (`Decimal.Layout.json`), and strings with a backslash
before the quote and the backslash, the short escapes `\b \f \n \r \t`, and `\u00xx`
(lowercase hex) for the other control characters. Everything else, non-ASCII included, is
written as it is. A double that is not finite has no JSON text and is written `null`.
-/

namespace RoadFetch.Json

/-- The escaped form of one character inside a string. -/
def escapeChar (c : Char) : String :=
  if c = '"' then "\\\""
  else if c = '\\' then "\\\\"
  else if c = '\n' then "\\n"
  else if c = '\r' then "\\r"
  else if c = '\t' then "\\t"
  else if c.toNat = 8 then "\\b"
  else if c.toNat = 12 then "\\f"
  else if c.toNat < 32 then
    "\\u00" ++ String.singleton (Hex.digitChar (c.toNat / 16)) ++
      String.singleton (Hex.digitChar (c.toNat % 16))
  else String.singleton c

/-- A string in quotes with its escapes. -/
def quote (s : String) : String :=
  "\"" ++ String.join (s.toList.map escapeChar) ++ "\""

def Number.render : Number → String
  | .posInt n => Decimal.natText n.toNat
  | .negInt n => Decimal.intText n.toInt
  | .float x =>
    if (Decimal.Binary64.ofFloat x).isFinite then Decimal.Layout.json.format x else "null"

mutual

/-- Compact text of a value. -/
def Value.render : Value → String
  | .null => "null"
  | .bool true => "true"
  | .bool false => "false"
  | .num n => n.render
  | .str s => quote s
  | .arr items => "[" ++ renderItems items ++ "]"
  | .obj members => "\x7b" ++ renderMembers members ++ "\x7d"

/-- Array items separated by commas. -/
def renderItems : List Value → String
  | [] => ""
  | [v] => v.render
  | v :: rest => v.render ++ "," ++ renderItems rest

/-- Object members `"key":value` separated by commas. -/
def renderMembers : List (String × Value) → String
  | [] => ""
  | [(k, v)] => quote k ++ ":" ++ v.render
  | (k, v) :: rest => quote k ++ ":" ++ v.render ++ "," ++ renderMembers rest

end

end RoadFetch.Json
