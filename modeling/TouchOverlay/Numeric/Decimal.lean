import TouchOverlay.Numeric.Format

/-!
# Decimal numbers

A decimal is a sign, an integer of digits and a power of ten. `magnitude` reads one as a binary
number by a single correct rounding, and `toSingle` rounds to double precision first and then to
single precision. `scaledMagnitude` computes with doubles instead: the digits are rounded, then
multiplied or divided by a power of ten, and each step is rounded. It is exact where the digits and
the power of ten are.
-/

namespace TouchOverlay.Numeric

/-- The number `± digits * 10 ^ exponent`. -/
structure Decimal where
  negative : Bool := false
  digits : Nat
  exponent : Int
deriving DecidableEq, Inhabited, Repr

namespace Decimal

def ofInt (n : Int) : Decimal := ⟨n < 0, n.natAbs, 0⟩

/-- Beyond this power of ten every nonzero number overflows both formats, and below its negative
every number is zero. -/
def cutoff : Int := 400

/-- Magnitude bits of the nearest number of `f`. -/
def magnitude (f : Format) (d : Decimal) : Nat :=
  if d.digits = 0 then 0
  else
    let top := d.exponent + (d.digits.log2 / 3 : Nat)
    if cutoff < d.exponent then f.infinityBits
    else if top < -cutoff then 0
    else f.roundBits (d.digits * Nat.pow 10 d.exponent.toNat) (Nat.pow 10 (-d.exponent).toNat)

/-- Magnitude bits of the nearest double precision number. -/
def doubleMagnitude (d : Decimal) : Nat := d.magnitude binary64

/-- Whether the number is within the range of double precision. -/
def fitsDouble (d : Decimal) : Bool := d.doubleMagnitude < binary64.infinityBits

/-- The single precision number nearest to the nearest double precision number. -/
def toSingle (d : Decimal) : Float32 :=
  single d.negative (binary32.ofFormat binary64 d.doubleMagnitude)

/-- The double precision number nearest to a power of ten. -/
def powerOfTen (n : Nat) : Nat := binary64.roundBits (Nat.pow 10 n) 1

/-- The greatest power of ten within double precision. -/
def greatestPower : Nat := 308

/-- Magnitude bits of the double precision number that is computed from digits of 64 bits by one
multiplication, or by at most two divisions, after which nothing is left of any digits. -/
def scaledMagnitude (d : Decimal) : Nat :=
  let x := binary64.roundBits d.digits 1
  if d.digits = 0 then 0
  else if 0 ≤ d.exponent then
    if d.exponent ≤ greatestPower then binary64.mulBits x (powerOfTen d.exponent.toNat)
    else binary64.infinityBits
  else
    let n := (-d.exponent).toNat
    if n ≤ greatestPower then binary64.divBits x (powerOfTen n)
    else if n ≤ 2 * greatestPower then
      binary64.divBits (binary64.divBits x (powerOfTen greatestPower))
        (powerOfTen (n - greatestPower))
    else 0

/-- The single precision number nearest to the computed double precision number. -/
def scaledSingle (d : Decimal) : Float32 :=
  single d.negative (binary32.ofFormat binary64 d.scaledMagnitude)

/-- The single precision number nearest to an integer. -/
def singleOfInt (n : Int) : Float32 := single (n < 0) (binary32.roundBits n.natAbs 1)

end Decimal

end TouchOverlay.Numeric
