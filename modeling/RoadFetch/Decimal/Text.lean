import RoadFetch.Decimal.Shortest

/-!
# Decimal text of doubles

Three printers share the exact decimal of a double:

* `Layout.json`, the number text of JSON documents: shortest digits, positional while the
  decimal point sits between five places left of the first digit and sixteen places right of
  it, scientific (`1e30`, `1.5e-7`) outside, and `.0` after whole numbers; of two shortest
  decimals equally near, the even one;
* `Layout.typed`, a found number in a message about a value of the wrong type: as
  `Layout.json`, but with a plus sign on positive exponents (`1e+30`);
* `Layout.plain`, the plain text of a number in messages: shortest digits, always positional,
  no `.0`, and of two shortest decimals equally near, the upper one;
* `fixed`, a fixed number of places: the exact binary value rounded, a tie going to the even
  last digit, the sign of a negative value kept even when it rounds to zero.
-/

namespace RoadFetch.Decimal

/-- How a printer writes a shortest decimal: which point positions are written positionally,
what follows a whole number, the sign written before a positive exponent, and whether an
exact tie between two shortest decimals goes to the upper one (else to the even one). -/
structure Layout where
  positional : Int → Bool
  wholeSuffix : String
  exponentPlus : String
  tieUp : Bool

namespace Layout

/-- JSON number text: positional for point positions `-4 .. 16`, `.0` after whole numbers. -/
def json : Layout := ⟨fun kk => decide (-5 < kk ∧ kk ≤ 16), ".0", "", false⟩

/-- A found number in a type error: as JSON text, with `+` before positive exponents. -/
def typed : Layout := ⟨json.positional, ".0", "+", false⟩

/-- Message text: always positional, nothing after whole numbers, ties to the upper decimal. -/
def plain : Layout := ⟨fun _ => true, "", "", true⟩

end Layout

/-- A text of `n` zeros. -/
def zeros (n : Nat) : String := String.ofList (List.replicate n '0')

/-- Decimal digits of a natural number. -/
def natText (n : Nat) : String := String.ofList (Nat.toDigits 10 n)

/-- Text of an integer with a minus sign when negative. -/
def intText (i : Int) : String :=
  if i < 0 then "-" ++ natText i.natAbs else natText i.natAbs

/-- Writes a decimal (digits without trailing zeros) in a layout. -/
def Layout.render (l : Layout) (d : Scaled) : String :=
  let s := natText d.digits
  let len := s.length
  let kk := d.point
  if l.positional kk then
    if d.exponent ≥ 0 then
      s ++ zeros d.exponent.toNat ++ l.wholeSuffix
    else if kk > 0 then
      String.ofList (s.toList.take kk.toNat) ++ "." ++ String.ofList (s.toList.drop kk.toNat)
    else
      "0." ++ zeros (-kk).toNat ++ s
  else
    let mant :=
      if len = 1 then s
      else String.ofList (s.toList.take 1) ++ "." ++ String.ofList (s.toList.drop 1)
    mant ++ "e" ++ (if kk - 1 ≥ 0 then l.exponentPlus else "") ++ intText (kk - 1)

/-- Text of a double in a layout; non-finite values are `NaN`, `inf` and `-inf`. -/
def Layout.format (l : Layout) (x : Float) : String :=
  let b := Binary64.ofFloat x
  let sign := if b.negative then "-" else ""
  if !b.isFinite then
    if b.fraction != 0 then "NaN" else sign ++ "inf"
  else if b.isZero then
    sign ++ l.render ⟨0, 0⟩
  else
    sign ++ l.render (shortest b l.tieUp)

/-- Text of a double with `places` digits after the point: the exact value rounded to the
nearest multiple of `10 ^ -places`, a tie going to the even last digit. -/
def fixed (places : Nat) (x : Float) : String :=
  let b := Binary64.ofFloat x
  let sign := if b.negative then "-" else ""
  if !b.isFinite then
    if b.fraction != 0 then "NaN" else sign ++ "inf"
  else
    let m := b.significand
    let e := b.exponent
    -- value * 10^places = m * 10^places * 2^e
    let num := m * Nat.pow 10 places * Nat.pow 2 e.toNat
    let q := shiftRoundEven num (-e).toNat
    let whole := q / Nat.pow 10 places
    let frac := natText (q % Nat.pow 10 places)
    let frac := zeros (places - frac.length) ++ frac
    if places = 0 then sign ++ natText whole
    else sign ++ natText whole ++ "." ++ frac

end RoadFetch.Decimal
