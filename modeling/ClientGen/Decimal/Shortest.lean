import ClientGen.Decimal

/-!
# The shortest decimal of a binary fraction

A finite double-precision number stands for every real number that rounds to it. Its shortest
decimal is the one with the fewest significant digits among those, and of several with that many
digits the nearest to the number itself, the one with the even last digit if two are equally near.
It is found by trying one digit, two digits, and so on: of each grid of decimals only the two
neighbours of the number can be the nearest.
-/

namespace ClientGen.Decimal

/-! ## The numbers that round to a double -/

/-- A positive double-precision number and the ends of the interval that rounds to it, all over the
common denominator `den`. -/
structure Interval where
  low : Nat
  value : Nat
  high : Nat
  den : Nat
  /-- The ends themselves round to the number. -/
  closed : Bool

/-- The interval of the number `m · 2 ^ (e - 1074)`. The gap below a power of two is half the gap
above it. -/
def Interval.ofParts (m e : Nat) : Interval :=
  let below := if m = Nat.pow 2 52 ∧ 0 < e then 1 else 2
  let up := Nat.pow 2 (e - 1076)
  let down := Nat.pow 2 (1076 - e)
  ⟨(4 * m - below) * up, 4 * m * up, (4 * m + 2) * up, down, m % 2 = 0⟩

/-- The decimal `d · 10 ^ k` lies in the interval. -/
def Interval.contains (i : Interval) (d : Nat) (k : Int) : Bool :=
  let x := d * Nat.pow 10 k.toNat * i.den
  let scale := Nat.pow 10 (-k).toNat
  if i.closed then i.low * scale ≤ x && x ≤ i.high * scale
  else i.low * scale < x && x < i.high * scale

/-- How far the decimal `d · 10 ^ k` is from the number, in a unit that depends on `k` alone. -/
def Interval.distance (i : Interval) (d : Nat) (k : Int) : Nat :=
  let x := d * Nat.pow 10 k.toNat * i.den
  let v := i.value * Nat.pow 10 (-k).toNat
  (x - v) + (v - x)

/-- The digit before which the number lies on the grid of multiples of `10 ^ k`. -/
def Interval.floor (i : Interval) (k : Int) : Nat :=
  i.value * Nat.pow 10 (-k).toNat / (i.den * Nat.pow 10 k.toNat)

/-- The nearer to the number of `d · 10 ^ k` and `(d + 1) · 10 ^ k`; the even one of two equally
near. -/
def Interval.nearer (i : Interval) (d : Nat) (k : Int) : Nat :=
  let below := i.distance d k
  let above := i.distance (d + 1) k
  if below < above ∨ below = above ∧ d % 2 = 0 then d else d + 1

/-- The better of the number's two neighbours on the grid of multiples of `10 ^ k`, if one of them
rounds to it. -/
def Interval.onGrid? (i : Interval) (k : Int) : Option Nat :=
  let d := i.floor k
  match i.contains d k, i.contains (d + 1) k with
  | true, true => some (i.nearer d k)
  | true, false => some d
  | false, true => some (d + 1)
  | false, false => none

/-- The first decimal found on `tries` ever finer grids, from the multiples of `10 ^ k` on. -/
def Interval.search (i : Interval) (k : Int) : Nat → Nat × Int
  | 0 => (i.floor k, k)
  | tries + 1 =>
    match i.onGrid? k with
    | some d => (d, k)
    | none => i.search (k - 1) tries

/-! ## The decimal of a double -/

/-- The decimal with as few digits as identify a double-precision number. -/
def shortest (x : Float) : Decimal :=
  let bits := x.toBits.toNat
  let negative : Bool := bits / Nat.pow 2 63 = 1
  let exponent := bits / Nat.pow 2 52 % Nat.pow 2 11
  let fraction := bits % Nat.pow 2 52
  if exponent = 0 ∧ fraction = 0 then ⟨negative, 0, 0⟩
  else
    let i := if exponent = 0 then Interval.ofParts fraction 0
      else Interval.ofParts (fraction + Nat.pow 2 52) (exponent - 1)
    let top := (toString (i.value / i.den)).length
    let bottom := (toString (i.den / i.value)).length
    let (d, k) := i.search ((top : Int) - bottom + 1) 360
    ⟨negative, d, k⟩

end ClientGen.Decimal
