/-!
# Binary floating-point formats

A nonnegative finite number of a binary format is a mantissa times a power of two. `encode` packs
the two into the magnitude bits of the IEEE interchange layout, `decode` takes them apart, and
`roundBits` is the nearest magnitude to a quotient of natural numbers, a tie going to the even
mantissa. A result beyond the largest finite number is the infinity pattern `infinityBits`.
-/

namespace TouchOverlay.Numeric

/-- A binary format: its numbers are `m * 2 ^ e` with `m < 2 ^ precision` and
`minExponent ≤ e ≤ maxExponent`. -/
structure Format where
  precision : Nat
  minExponent : Int
  maxExponent : Int

def binary32 : Format := ⟨24, -149, 104⟩

def binary64 : Format := ⟨53, -1074, 971⟩

/-- `a / b` rounded to the nearest natural number, a tie going to the even neighbour. -/
def divNearestEven (a b : Nat) : Nat :=
  let q := a / b
  let r := a % b
  if 2 * r < b then q else if b < 2 * r then q + 1 else q + q % 2

/-- Numerator and denominator of `num / den / 2 ^ e`. -/
def scaleDown (num den : Nat) (e : Int) : Nat × Nat :=
  (num <<< (-e).toNat, den <<< e.toNat)

namespace Format

variable (f : Format)

/-- Magnitude bits of infinity: the least pattern above every finite number. -/
def infinityBits : Nat := (f.maxExponent - f.minExponent + 2).toNat <<< (f.precision - 1)

/-- Magnitude bits of `m * 2 ^ e`. A mantissa of `2 ^ precision` carries into the exponent. -/
def encode (m : Nat) (e : Int) : Nat :=
  min ((e - f.minExponent).toNat <<< (f.precision - 1) + m) f.infinityBits

/-- Mantissa and exponent of a finite magnitude. -/
def decode (bits : Nat) : Nat × Int :=
  let half := 1 <<< (f.precision - 1)
  if bits < half then (bits, f.minExponent)
  else (bits % half + half, f.minExponent + (bits / half : Nat) - 1)

/-- Exponent of the last mantissa bit with which `num / den` is written. -/
def lastExponent (num den : Nat) : Int :=
  let e := (num.log2 : Int) - den.log2 - f.precision
  let (a, b) := scaleDown num den e
  max f.minExponent (if 1 <<< f.precision ≤ a / b then e + 1 else e)

/-- Magnitude bits of the number of the format nearest to `num / den`. -/
def roundBits (num den : Nat) : Nat :=
  if num = 0 then 0
  else
    let e := f.lastExponent num den
    let (a, b) := scaleDown num den e
    f.encode (divNearestEven a b) e

/-- Magnitude bits, in this format, of the number nearest to `m * 2 ^ e`. -/
def roundScaled (m : Nat) (e : Int) : Nat :=
  f.roundBits (m <<< e.toNat) (1 <<< (-e).toNat)

/-- Magnitude bits of the number nearest to the product of two finite ones. -/
def mulBits (x y : Nat) : Nat :=
  let (m, e) := f.decode x
  let (n, k) := f.decode y
  f.roundScaled (m * n) (e + k)

/-- Magnitude bits of the number nearest to the quotient of two finite ones. -/
def divBits (x y : Nat) : Nat :=
  let (m, e) := f.decode x
  let (n, k) := f.decode y
  let (a, b) := scaleDown m n (k - e)
  f.roundBits a b

/-- Magnitude bits, in this format, of the number nearest to one of the format `src`. -/
def ofFormat (src : Format) (bits : Nat) : Nat :=
  if src.infinityBits ≤ bits then f.infinityBits
  else
    let (m, e) := src.decode bits
    f.roundScaled m e

end Format

/-! ## Single and double precision values -/

/-- The single precision number with a sign and magnitude bits. -/
def single (negative : Bool) (magnitude : Nat) : Float32 :=
  Float32.ofBits (UInt32.ofNat (magnitude + if negative then 0x80000000 else 0))

/-- The double precision number with a sign and magnitude bits. -/
def double (negative : Bool) (magnitude : Nat) : Float :=
  Float.ofBits (UInt64.ofNat (magnitude + if negative then 0x8000000000000000 else 0))

end TouchOverlay.Numeric

namespace Float32

open TouchOverlay.Numeric

/-- Magnitude bits, without the sign. -/
def magnitude (x : Float32) : Nat := x.toBits.toNat % 0x80000000

def signBit (x : Float32) : Bool := 0x80000000 ≤ x.toBits.toNat

/-- Magnitude bits of the equal double precision number. -/
def doubleMagnitude (x : Float32) : Nat := binary64.ofFormat binary32 x.magnitude

/-- The equal double precision number. -/
def widened (x : Float32) : Float :=
  if x.isNaN then Float.ofBits 0x7ff8000000000000 else double x.signBit x.doubleMagnitude

end Float32

namespace Float

open TouchOverlay.Numeric

/-- The nearest single precision number. -/
def narrowed (x : Float) : Float32 :=
  if x.isNaN then Float32.ofBits 0x7fc00000
  else
    single (0x8000000000000000 ≤ x.toBits.toNat)
      (binary32.ofFormat binary64 (x.toBits.toNat % 0x8000000000000000))

end Float
