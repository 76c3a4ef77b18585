import TouchOverlay.Numeric.Shortest
import TouchOverlay.Text.Number

/-!
# Decimal text

A decimal is written plainly, with at least one digit on each side of the point, or as a digit, a
fraction and a power of ten. A `NumberStyle` says which numbers are written plainly.
-/

namespace TouchOverlay.Numeric

/-- How decimals are written. A number in `[10 ^ (p - 1), 10 ^ p)` has the position `p`. -/
structure NumberStyle where
  /-- The positions that are written plainly; `none` for all of them. -/
  plain : Option (Int × Int)
  /-- Whether a nonnegative power of ten has a plus sign. -/
  plusSign : Bool := false
  /-- Which of two equally near shortest decimals is written. -/
  tie : Tie := .up

namespace NumberStyle

/-- Numbers from 0.0001 to below 10^16 are plain; of two shortest decimals the larger. -/
def messages : NumberStyle := { plain := some (-3, 16) }

/-- Every number is plain. -/
def settings : NumberStyle := { plain := none }

/-- Numbers from 0.000001 to below 10^13 are plain; of two shortest decimals the even one. -/
def documents : NumberStyle := { plain := some (-5, 13), plusSign := true, tie := .toEven }

end NumberStyle

/-- Plain digits: the point stands after `position` of them, with zeros filled in where it lies
beyond either end. -/
def plainDigits (digits : List Char) (position : Int) : List Char :=
  if position ≤ 0 then '0' :: '.' :: List.replicate (-position).toNat '0' ++ digits
  else
    let whole := position.toNat
    if digits.length ≤ whole then
      digits ++ List.replicate (whole - digits.length) '0' ++ ['.', '0']
    else digits.take whole ++ '.' :: digits.drop whole

/-- One digit, a fraction if there are more digits, and the power of ten. -/
def scientificDigits (plusSign : Bool) (digits : List Char) (position : Int) : List Char :=
  let power := position - 1
  digits.take 1 ++ (if digits.length ≤ 1 then [] else '.' :: digits.drop 1) ++
    'e' :: (if plusSign && 0 ≤ power then ['+'] else []) ++ Text.intDigits power

/-- A decimal without trailing zeros, in a style. -/
def Decimal.text (style : NumberStyle) (d : Decimal) : List Char :=
  let sign := if d.negative then ['-'] else []
  let digits := Text.natDigits d.digits
  let position := digits.length + d.exponent
  if d.digits = 0 then sign ++ ['0', '.', '0']
  else if style.plain.all fun (least, greatest) => least ≤ position && position ≤ greatest then
    sign ++ plainDigits digits position
  else sign ++ scientificDigits style.plusSign digits position

example : Decimal.text .messages ⟨false, 1, 16⟩ = ['1', 'e', '1', '6'] := by decide

example : Decimal.text .documents ⟨false, 15, 19⟩ = ['1', '.', '5', 'e', '+', '2', '0'] := by decide

example : Decimal.text .settings ⟨true, 25, -3⟩ = ['-', '0', '.', '0', '2', '5'] := by decide

/-- The shortest decimal of a finite single precision number. -/
def singleDecimal (tie : Tie) (x : Float32) : Decimal :=
  { shortest binary32 tie x.magnitude with negative := x.signBit }

/-- The shortest double precision decimal of a finite single precision number. -/
def wideDecimal (tie : Tie) (x : Float32) : Decimal :=
  { shortest binary64 tie x.doubleMagnitude with negative := x.signBit }

end TouchOverlay.Numeric
