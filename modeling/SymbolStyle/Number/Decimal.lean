import SymbolStyle.Number.Double

/-! # Shortest decimals

    The decimal that stands for a double in text: of all decimals that read
    back as the double, one on the coarsest decimal grid.

    * A finite double is the nearest one to every real in an interval around
      it, bounded by the midpoints to its neighbours. The midpoints belong to
      the interval exactly if the significand is even.
    * `Magnitude.gridPoint?` finds the multiple of a power of ten that lies
      in the interval and is nearest to the double.
    * `Magnitude.shortest` takes the largest power of ten that has one. Its
      coefficient is then not a multiple of ten, so no digit is superfluous.

    `Decimal.positional` and `Decimal.compact` are the two ways in which a
    decimal is laid out as text.
-/

namespace SymbolStyle

/-- The decimal `coefficient * 10 ^ exponent`. -/
structure Decimal where
  /-- The digits, read as one whole number. -/
  coefficient : Nat
  /-- The power of ten by which the coefficient is scaled. -/
  exponent : Int
  deriving DecidableEq

/-! ### Search for the shortest decimal -/

namespace Magnitude

/-- The bounds of the interval of reals that round to a positive magnitude, in
    units of `2 ^ -1075`, in which also the magnitude itself is a whole
    number. -/
def interval (m : Magnitude) : Nat × Nat :=
  let units := BinaryFormat.double.units
  (units (m.rank - 1) + units m.rank, units m.rank + units (m.rank + 1))

/-- Whether the real `num / den`, in the units of `interval`, rounds to the
    magnitude. -/
def covers (m : Magnitude) (num den : Nat) : Bool :=
  let (low, high) := m.interval
  if BinaryFormat.double.significand m.rank % 2 = 0 then
    decide (low * den ≤ num) && decide (num ≤ high * den)
  else decide (low * den < num) && decide (num < high * den)

/-- The coefficient of the multiple of `10 ^ exponent` that rounds to the
    magnitude, if there is one. Only the two multiples next to the magnitude
    come into question. If both do, it is the nearer one, and the one with
    an even coefficient if they are equally near. -/
def gridPoint? (m : Magnitude) (exponent : Int) : Option Nat :=
  let up := Nat.pow 10 (-exponent).toNat
  let step := Nat.pow 10 exponent.toNat * (2 * BinaryFormat.double.one)
  let exact := 2 * m.units * up
  let below := exact / step
  let above := below + 1
  match m.covers (below * step) up, m.covers (above * step) up with
  | true, true => some (roundQuotient exact step)
  | true, false => some below
  | false, true => some above
  | false, false => none

/-- A power of ten from which on no multiple lies in the interval: a multiple
    is at least as large as the power, and `2 ^ 3 < 10` bounds large powers
    while `2 ^ 10 > 10 ^ 3` bounds small ones. -/
def topExponent (m : Magnitude) : Int :=
  let bits := m.interval.2.log2
  if 1074 ≤ bits then (bits - 1074) / 3 else -((1074 - bits) * 3 / 10 : Nat)

/-- Goes down the powers of ten to the first one with a grid point. Every
    magnitude is itself a multiple of `10 ^ -1074`, which ends the search. -/
def searchGrid (m : Magnitude) : Nat → Int → Decimal
  | 0, _ => ⟨m.units * Nat.pow 5 1074, -1074⟩
  | steps + 1, exponent =>
    match m.gridPoint? exponent with
    | some coefficient => ⟨coefficient, exponent⟩
    | none => m.searchGrid steps (exponent - 1)

/-- The shortest decimal that reads back as the magnitude, and of several the
    nearest one. -/
def shortest (m : Magnitude) : Decimal :=
  if m.rank = 0 then ⟨0, 0⟩
  else m.searchGrid (m.topExponent + 1074).toNat m.topExponent

end Magnitude

/-! ### Layout of digits -/

namespace Decimal

/-- The decimal digits of a whole number, most significant first. -/
def digits (n : Nat) : List Char := Nat.toDigits 10 n

/-- Digits with a point that leaves `places` of them behind it. Zeros are
    filled in so that at least one digit stands before the point. -/
def insertPoint (ds : List Char) (places : Nat) : List Char :=
  let padded := List.replicate (places + 1 - ds.length) '0' ++ ds
  let whole := padded.length - places
  padded.take whole ++ '.' :: padded.drop whole

/-- Positional layout, whatever the exponent: `0.0000001`, `120000.0`. There
    is always a point with a digit on either side. -/
def positional (d : Decimal) : List Char :=
  if d.exponent < 0 then insertPoint (digits d.coefficient) d.exponent.natAbs
  else digits d.coefficient ++ List.replicate d.exponent.toNat '0' ++ ['.', '0']

/-- The exponent of the leading digit. -/
def leadExponent (d : Decimal) : Int := d.exponent + (digits d.coefficient).length - 1

/-- Layout with one digit before the point and an exponent of at least two
    digits: `1.5e-07`, `1e+16`. -/
def exponential (d : Decimal) : List Char :=
  let lead := d.leadExponent
  let power := digits lead.natAbs
  let mantissa := match digits d.coefficient with
    | first :: second :: rest => first :: '.' :: second :: rest
    | single => single
  mantissa ++ 'e' :: (if lead < 0 then '-' else '+')
    :: (List.replicate (2 - power.length) '0' ++ power)

/-- Positional layout while the leading digit's exponent is from -4 to 15, and
    exponential layout outside. -/
def compact (d : Decimal) : List Char :=
  if -4 ≤ d.leadExponent ∧ d.leadExponent ≤ 15 then d.positional else d.exponential

end Decimal

/-! ### The text of a double -/

/-- The words for what is not a number, or not a finite one. -/
structure SpecialWords where
  /-- Stands for NaN, which has no sign. -/
  nan : String
  /-- Stands for the positive infinity; the negative one adds a minus. -/
  infinity : String

namespace Double

/-- A text under a sign: negative numbers, negative zero among them, start
    with a minus. -/
def signed (negative : Bool) (text : List Char) : List Char :=
  if negative then '-' :: text else text

/-- The compact text of a double, with the given words for NaN and the
    infinities. -/
def compact (words : SpecialWords) : Double → List Char
  | .nan => words.nan.toList
  | .infinite negative => signed negative words.infinity.toList
  | .finite negative m => signed negative m.shortest.compact

end Double

end SymbolStyle
