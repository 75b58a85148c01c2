import ClientGen.Decimal.Shortest
import ClientGen.Text.Printable

/-!
# JSON documents

A JSON document as a tree. A text need not hold a whole document: it may end early, or break the
grammar somewhere. The tree then goes as far as the text makes sense, and a *fault* stands where it
stops. Whoever walks the tree in the order of the text meets the same trouble at the same point as
somebody who reads the text itself.

A value can be *read*, to use what it says, or *skipped*, when nobody asks for it. Skipping is more
lenient: it accepts numbers that are out of range and surrogate escapes that stand alone. So some
values are whole for one purpose and not for the other.
-/

namespace ClientGen

/-! ## Trouble with the text -/

/-- How a text fails to be a JSON document: it breaks the grammar, or ends too early. -/
inductive Json.Break
  | malformed
  | truncated
deriving DecidableEq, Repr

/-- A place where a text stops making sense, for one who reads and for one who skips it. -/
structure Json.Fault where
  read : Json.Break
  skipped : Json.Break
deriving DecidableEq, Repr

/-- A break of the grammar that is the same for everyone. -/
def Json.Fault.malformed : Json.Fault := ⟨.malformed, .malformed⟩

/-- An early end that is the same for everyone. -/
def Json.Fault.truncated : Json.Fault := ⟨.truncated, .truncated⟩

/-! ## Numbers -/

/-- The exponent of a number, as written: the letter before it, its sign if it has one, and its
digits. -/
structure Json.Exponent where
  mark : Char
  sign : Option Char
  digits : List Char

/-- The exponent has a minus sign. -/
def Json.Exponent.negative (e : Json.Exponent) : Bool :=
  e.sign == some '-'

/-- A number as written. A number without a decimal point has no digits after it. -/
structure Json.Numeral where
  negative : Bool
  whole : List Char
  fraction : List Char
  exponent : Option Json.Exponent

/-- The characters of a number. -/
def Json.Numeral.chars (n : Json.Numeral) : List Char :=
  (if n.negative then ['-'] else []) ++ n.whole ++
    (if n.fraction.isEmpty then [] else '.' :: n.fraction) ++
    match n.exponent with
    | none => []
    | some e => e.mark :: e.sign.toList ++ e.digits

/-- The value of a number: an integer of 64 bits, or a double-precision number. -/
inductive Json.Quantity
  | integer (value : Int)
  | float (value : Float)

namespace Json.Numeral

/-- The largest significand that is kept exactly. -/
def maxSignificand : Nat := 0xffffffffffffffff

/-- The largest exponent that is taken as written. -/
def maxExponent : Nat := 0x7fffffff

/-- Appends digits to a number as long as it stays within `limit`; gives the number and how many
digits were appended. -/
def absorb (limit : Nat) (value : Nat) : List Char → Nat × Nat
  | [] => (value, 0)
  | d :: rest =>
    let next := 10 * value + (d.toNat - '0'.toNat)
    if next ≤ limit then
      let (total, count) := absorb limit next rest
      (total, count + 1)
    else (value, 0)

/-- The double nearest to a significand. -/
def significand (n : Nat) : Float :=
  n.toUInt64.toFloat

/-- The double `10 ^ k`, for `k` up to 308. -/
def power (k : Nat) : Float :=
  Float.ofScientific 1 false k

/-- The product of a significand and a power of ten, rounded after each of its at most three steps;
nothing if it is too large. -/
def scale (n : Nat) (exponent : Int) : Option Float :=
  let k := exponent.natAbs
  if 0 ≤ exponent then
    if k ≤ 308 then
      let x := significand n * power k
      if x.isInf then none else some x
    else if n = 0 then some 0 else none
  else if k ≤ 308 then some (significand n / power k)
  else if k ≤ 616 then some (significand n / power 308 / power (k - 308))
  else some 0

/-- The value of a number; nothing if it is too large for a double. Digits beyond the largest
significand count with their place value only. -/
def quantity? (n : Numeral) : Option Quantity :=
  let (whole, used) := absorb maxSignificand 0 n.whole
  let signed (x : Option Float) : Option Quantity :=
    x.map fun x => .float (if n.negative then -x else x)
  if n.fraction = [] ∧ n.exponent.isNone ∧ used = n.whole.length then
    if !n.negative then some (.integer whole)
    else if 0 < whole ∧ whole ≤ 0x8000000000000000 then some (.integer (-whole))
    else signed (some (significand whole))
  else
    let (digits, places) := absorb maxSignificand whole n.fraction
    let shift : Int := (n.whole.length - used : Nat) - (places : Int)
    match n.exponent with
    | none => signed (scale digits shift)
    | some e =>
      let (exponent, kept) := absorb maxExponent 0 e.digits
      if kept = e.digits.length then
        signed (scale digits (if e.negative then shift - exponent else shift + exponent))
      else if digits = 0 ∨ e.negative then signed (some 0)
      else none

end Json.Numeral

/-! ## The tree -/

/-- A JSON document, as far as its text makes sense. A text holds what reading it gives. An array or
object is `broken` when the text stops making sense after its last whole item or member. -/
inductive Json
  | null
  | bool (value : Bool)
  | number (value : Json.Numeral)
  | text (value : Except Json.Break String)
  | array (items : List Json) (broken : Option Json.Fault)
  | object (members : List (Except Json.Break String × Json)) (broken : Option Json.Fault)
  | fault (trouble : Json.Fault)

namespace Json

instance : Inhabited Json := ⟨.null⟩

/-! ## Skipping -/

mutual

/-- The trouble met by one who skips the value. -/
def skipBreak? : Json → Option Break
  | .fault trouble => some trouble.skipped
  | .array items broken => (skipItems? items).or (broken.map (·.skipped))
  | .object members broken => (skipMembers? members).or (broken.map (·.skipped))
  | _ => none

/-- The trouble met by one who skips items. -/
def skipItems? : List Json → Option Break
  | [] => none
  | item :: rest => (skipBreak? item).or (skipItems? rest)

/-- The trouble met by one who skips members. -/
def skipMembers? : List (Except Break String × Json) → Option Break
  | [] => none
  | (_, value) :: rest => (skipBreak? value).or (skipMembers? rest)

end

/-! ## What a value is -/

/-- What is found where something else was wanted. -/
inductive Found
  | null
  | bool (value : Bool)
  | number (value : Quantity)
  | text (value : String)
  | array
  | object

/-- The value as far as it is looked at when it cannot be used: not into arrays and objects. -/
def found : Json → Except Break Found
  | .null => .ok .null
  | .bool value => .ok (.bool value)
  | .number value =>
    match value.quantity? with
    | some quantity => .ok (.number quantity)
    | none => .error .malformed
  | .text value => value.map .text
  | .array _ _ => .ok .array
  | .object _ _ => .ok .object
  | .fault trouble => .error trouble.read

/-- Numbers in a message are written out from `0.00001` up to, but not including, `10 ^ 16`. -/
def numberLayout : Decimal.Layout :=
  ⟨-5, 16⟩

/-- The words for a value in a message. -/
def Found.describe : Found → String
  | .null => "null"
  | .bool value => s!"boolean `{value}`"
  | .number (.integer value) => s!"integer `{value}`"
  | .number (.float value) => s!"floating point `{(Decimal.shortest value).write numberLayout}`"
  | .text value => s!"string {Text.quoted value}"
  | .array => "sequence"
  | .object => "map"

end Json

end ClientGen
