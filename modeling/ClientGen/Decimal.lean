/-!
# Decimals as text

A decimal is a sign, digits and a power of ten. Numbers of a moderate size are written out in full,
with a point in every case; all others with the point behind the first digit and a power of ten. A
layout says which sizes are moderate.
-/

namespace ClientGen

/-- The number `± digits · 10 ^ exponent`. -/
structure Decimal where
  negative : Bool
  digits : Nat
  exponent : Int

namespace Decimal

/-! ## The two ways of writing -/

/-- The number without its sign, written out, with at least one digit on either side of the
point. -/
def positional (d : Decimal) : String :=
  let digits := toString d.digits
  if 0 ≤ d.exponent then digits ++ "".pushn '0' d.exponent.toNat ++ ".0"
  else
    let places := (-d.exponent).toNat
    let padded := "".pushn '0' (places + 1 - digits.length) ++ digits
    let whole := padded.length - places
    String.ofList (padded.toList.take whole) ++ "." ++ String.ofList (padded.toList.drop whole)

/-- The power of ten of the first digit. -/
def magnitude (d : Decimal) : Int :=
  d.exponent + (toString d.digits).length - 1

/-- The number without its sign: the first digit, the others behind a point if there are any, and
the power of ten with its own sign. -/
def scientific (d : Decimal) : String :=
  let digits := (toString d.digits).toList
  let fraction := if digits.length = 1 then [] else '.' :: digits.drop 1
  let sign := if d.magnitude < 0 then "-" else "+"
  String.ofList (digits.take 1 ++ fraction) ++ "e" ++ sign ++ toString d.magnitude.natAbs

/-! ## Layouts -/

/-- The sizes that are written out: from `10 ^ least` up to, but not including, `10 ^ bound`. -/
structure Layout where
  least : Int
  bound : Int

/-- The text of the number. -/
def write (d : Decimal) (layout : Layout) : String :=
  let moderate := layout.least ≤ d.magnitude ∧ d.magnitude < layout.bound
  (if d.negative then "-" else "") ++ if moderate then d.positional else d.scientific

end Decimal

end ClientGen
