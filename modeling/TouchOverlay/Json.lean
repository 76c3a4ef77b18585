import TouchOverlay.Numeric.Style

/-!
# JSON values

A value keeps what a typed reading of it can ask for: whether a number was written as an integer,
the order of the members of an object with repetitions, and strings whose escapes name half of a
surrogate pair (`none`). Where a text stops being JSON there is `malformed`, and nothing after it;
so a reader that goes through a value in order meets faults in the order of the text.
-/

namespace TouchOverlay

/-- A number as it is written. -/
structure Numeral where
  decimal : Numeric.Decimal
  /-- Whether there is neither a fraction nor a power of ten. -/
  integral : Bool
  /-- The decimal that a typed reading computes with, if the number is no integer: its digits fit
  64 bits. -/
  kept : Numeric.Decimal := decimal
deriving DecidableEq, Inhabited

namespace Numeral

/-- The integer, if it is written as one and fits 64 bits with or without a sign. Minus zero is not
an integer. -/
def int? (n : Numeral) : Option Int :=
  let d := n.decimal.digits
  if !n.integral then none
  else if n.decimal.negative then if d ≠ 0 ∧ d ≤ 0x8000000000000000 then some (-(d : Int)) else none
  else if d < 0x10000000000000000 then some d else none

/-- Whether the number is an integer of 64 bits or is computed within double precision. -/
def isInRange (n : Numeral) : Bool :=
  n.int?.isSome || n.kept.scaledMagnitude < Numeric.binary64.infinityBits

/-- The number in single precision: an integer is rounded once, any other number is computed in
double precision first. -/
def toSingle (n : Numeral) : Float32 :=
  match n.int? with
  | some i => Numeric.Decimal.singleOfInt i
  | none => n.kept.scaledSingle

def ofInt (i : Int) : Numeral := { decimal := .ofInt i, integral := true }

end Numeral

/-- A JSON value. -/
inductive Json
  | null
  | bool (b : Bool)
  | number (n : Numeral)
  | string (s : Option String)
  | array (items : List Json)
  | object (members : List (Option String × Json))
  | malformed
deriving Inhabited

namespace Json

def str (s : String) : Json := string (some s)

def int (i : Int) : Json := number (.ofInt i)

/-- A single precision number by its shortest decimal; one that is not finite is `null`. -/
def single (x : Float32) : Json :=
  if x.isFinite then
    number { decimal := Numeric.singleDecimal Numeric.NumberStyle.documents.tie x, integral := false }
  else null

/-- An object with well-formed names. -/
def obj (members : List (String × Json)) : Json := object (members.map fun (k, v) => (some k, v))

mutual

/-- Whether the text went wrong within the value. -/
def isMalformed : Json → Bool
  | malformed => true
  | array items => anyMalformed items
  | object members => anyMalformedMember members
  | _ => false

/-- Whether the text went wrong within one of the values. -/
def anyMalformed : List Json → Bool
  | [] => false
  | v :: vs => v.isMalformed || anyMalformed vs

/-- Whether the text went wrong within one of the members. -/
def anyMalformedMember : List (Option String × Json) → Bool
  | [] => false
  | (_, v) :: ms => v.isMalformed || anyMalformedMember ms

end

mutual

/-- Whether a value can be held for later: every number is in range, every string well formed, and
containers are nested to at most the given depth. -/
def isHoldable (depth : Nat) : Json → Bool
  | malformed => false
  | number n => n.isInRange
  | string s => s.isSome
  | array items => depth != 0 && allHoldable (depth - 1) items
  | object members => depth != 0 && allHoldableMembers (depth - 1) members
  | _ => true

/-- Whether every value can be held. -/
def allHoldable (depth : Nat) : List Json → Bool
  | [] => true
  | v :: vs => v.isHoldable depth && allHoldable depth vs

/-- Whether every member can be held. -/
def allHoldableMembers (depth : Nat) : List (Option String × Json) → Bool
  | [] => true
  | (k, v) :: ms => k.isSome && v.isHoldable depth && allHoldableMembers depth ms

end

end Json

end TouchOverlay
