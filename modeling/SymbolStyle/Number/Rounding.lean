/-! # Rounding to a binary format

    Exact rounding of non-negative quotients, in `Nat` arithmetic only:

    * `roundQuotient` rounds a quotient to the nearest whole number, a half
      going to the even neighbour.
    * A `BinaryFormat` lists its non-negative numbers in increasing order and
      calls the place of a number in that list its *rank*. Consecutive ranks
      are consecutive numbers, so neighbours and midpoints need no case
      distinction at powers of two.
    * `BinaryFormat.nearest` is the rank of the number nearest to a quotient.
      A quotient is rounded once, whatever its size.
-/

namespace SymbolStyle

/-- The whole number nearest to `num / den`; a half goes to the even one. -/
def roundQuotient (num den : Nat) : Nat :=
  let below := num / den
  let rest := num % den
  if 2 * rest < den then below
  else if den < 2 * rest then below + 1
  else below + below % 2

theorem roundQuotient_mul (n : Nat) {den : Nat} (h : 0 < den) :
    roundQuotient (n * den) den = n := by
  simp [roundQuotient, Nat.mul_div_cancel _ h, h]

/-- A binary floating-point format, as far as its non-negative numbers go. -/
structure BinaryFormat where
  /-- The number of bits of a significand, the leading one included. -/
  precision : Nat
  /-- The least positive number is `2 ^ -depth`; every number is a whole
      multiple of it. -/
  depth : Nat
  /-- The rank at which infinity stands, just after the largest number. -/
  infinityRank : Nat

namespace BinaryFormat

/-- Double precision: 64 bits in all. -/
def double : BinaryFormat := ⟨53, 1074, 2047 * Nat.pow 2 52⟩

/-- Single precision: 32 bits in all. -/
def single : BinaryFormat := ⟨24, 149, 255 * Nat.pow 2 23⟩

/-- The number one, counted in units of the least positive number. -/
def one (f : BinaryFormat) : Nat := Nat.pow 2 f.depth

/-- How many numbers stand between two powers of two. -/
def binade (f : BinaryFormat) : Nat := Nat.pow 2 (f.precision - 1)

/-- The significand of the number of a rank. In the lowest binade the leading
    bit may be missing; above it the leading bit is always there. -/
def significand (f : BinaryFormat) (rank : Nat) : Nat :=
  if rank < f.binade then rank else rank % f.binade + f.binade

/-- The power of two that scales the significand of a rank. The two lowest
    binades share the scale 0. -/
def scale (f : BinaryFormat) (rank : Nat) : Nat := rank / f.binade - 1

/-- The number of a rank, counted in units of the least positive number. The
    rank of infinity, read this way, is the number that would follow the
    largest one. -/
def units (f : BinaryFormat) (rank : Nat) : Nat := f.significand rank * Nat.pow 2 (f.scale rank)

/-- The rank of the number nearest to `num / den`, or one from
    `infinityRank` on if the quotient is too large. The quotient is scaled so
    that its whole part has `precision` bits and is rounded there; when that
    carries into a further bit, the sum of binade and significand is already
    the right rank. -/
def nearest (f : BinaryFormat) (num den : Nat) : Nat :=
  let units := num * f.one
  let scale := (units / den).log2 + 1 - f.precision
  scale * f.binade + roundQuotient units (den * Nat.pow 2 scale)

end BinaryFormat

end SymbolStyle
