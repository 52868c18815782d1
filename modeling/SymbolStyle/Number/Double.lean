import SymbolStyle.Number.Rounding

/-! # Double-precision numbers

    Double-precision numbers as exact data: a sign and a rank, so that every
    operation below is whole-number arithmetic and equality is equality of
    the number that is meant. Only what styles need is here:

    * conversion of whole numbers and quotients, rounded once;
    * division by a whole number and clamping to a range that starts at zero;
    * rounding to single precision.
-/

namespace SymbolStyle

/-- A finite non-negative double. -/
structure Magnitude where
  /-- The place of the number among all non-negative doubles. -/
  rank : Nat
  /-- The number is finite. -/
  rank_lt : rank < BinaryFormat.double.infinityRank
  deriving DecidableEq

namespace Magnitude

/-- Zero. -/
def zero : Magnitude := ⟨0, by decide⟩

/-- One. -/
def one : Magnitude := ⟨1023 * Nat.pow 2 52, by decide⟩

/-- The number in units of `2 ^ -1074`. -/
def units (m : Magnitude) : Nat := BinaryFormat.double.units m.rank

theorem units_one : one.units = BinaryFormat.double.one := by decide +kernel

/-- The smaller of two magnitudes. Ranks increase with the numbers. -/
def min (a b : Magnitude) : Magnitude := if b.rank < a.rank then b else a

end Magnitude

/-- A double-precision number. Zero has two signs; NaN has none. -/
inductive Double where
  /-- The result of an undefined operation. -/
  | nan
  /-- One of the two infinities. -/
  | infinite (negative : Bool)
  /-- A finite number: its sign and its magnitude. -/
  | finite (negative : Bool) (magnitude : Magnitude)
  deriving DecidableEq

namespace Double

/-- Zero with a positive sign. -/
def zero : Double := .finite false .zero

/-- One. -/
def one : Double := .finite false .one

instance : Inhabited Double := ⟨zero⟩

/-- The double of a rank, infinite from the rank of infinity on. -/
def ofRank (negative : Bool) (rank : Nat) : Double :=
  if h : rank < BinaryFormat.double.infinityRank then .finite negative ⟨rank, h⟩
  else .infinite negative

/-- The double nearest to `num / den` under the given sign. -/
def ofQuotient (negative : Bool) (num den : Nat) : Double :=
  ofRank negative (BinaryFormat.double.nearest num den)

/-- The double nearest to a whole number. -/
def ofInt (n : Int) : Double := ofQuotient (n < 0) n.natAbs 1

/-- Whether the number is neither infinite nor NaN. -/
def isFinite : Double → Bool
  | .finite .. => true
  | _ => false

/-- Whether the number is a zero of either sign. -/
def isZero : Double → Bool
  | .finite _ m => m.rank == 0
  | _ => false

/-- Division by a positive whole number, rounded once. -/
def divNat (x : Double) (den : Nat) : Double :=
  match x with
  | .finite negative m => ofQuotient negative m.units (den * BinaryFormat.double.one)
  | other => other

/-- Brings a number into the range from zero to `upper`. What is below the
    range, either zero included, becomes positive zero; what is above it
    becomes `upper`, and so does NaN, since it is not smaller than `upper`. -/
def clamp (upper : Magnitude) : Double → Magnitude
  | .nan => upper
  | .infinite true => .zero
  | .infinite false => upper
  | .finite true _ => .zero
  | .finite false m => m.min upper

/-- The single-precision number nearest to `num / den` under the given sign, as a
    double. Every single-precision number is also a double, so nothing is lost
    on the way back. -/
def singleOfQuotient (negative : Bool) (num den : Nat) : Double :=
  let rank := BinaryFormat.single.nearest num den
  if rank < BinaryFormat.single.infinityRank then
    ofQuotient negative (BinaryFormat.single.units rank) BinaryFormat.single.one
  else .infinite negative

/-- The single-precision number nearest to `x`, as a double. -/
def toSingle (x : Double) : Double :=
  match x with
  | .finite negative m => singleOfQuotient negative m.units BinaryFormat.double.one
  | other => other

end Double

end SymbolStyle
