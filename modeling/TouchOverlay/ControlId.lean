import TouchOverlay.Text.Number

/-!
# Control identifiers

A control is named by a 128-bit identifier, written as five hyphenated groups of lowercase
hexadecimal digits. Reading also takes the digits without hyphens, in braces, or after `urn:uuid:`,
all in any case. Identifiers that a layout leaves out are taken from an `IdSource`.
-/

namespace TouchOverlay

/-- The 128-bit name of a control. -/
structure ControlId where
  bits : BitVec 128
deriving DecidableEq, Inhabited

namespace ControlId

def ofNat (n : Nat) : ControlId := ⟨BitVec.ofNat 128 n⟩

/-- The five hyphenated groups of 32 digits. -/
def hyphenate (cs : List Char) : List Char :=
  cs.take 8 ++ '-' :: (cs.drop 8).take 4 ++ '-' :: (cs.drop 12).take 4 ++
    '-' :: (cs.drop 16).take 4 ++ '-' :: cs.drop 20

def digits (id : ControlId) : List Char := Text.fixedHex 32 id.bits.toNat

def text (id : ControlId) : String :=
  String.ofList (hyphenate id.digits)

instance : ToString ControlId := ⟨text⟩

/-- The version digit: the first digit of the third group. -/
def version (id : ControlId) : Nat := id.bits.toNat >>> 76 % 16

/-- The identifier that 32 hexadecimal digits name. -/
def ofDigits? (cs : List Char) : Option ControlId :=
  if cs.length = 32 then (Text.readHex? cs).map ofNat else none

/-- Reads five hyphenated groups of the right lengths. -/
def ofHyphenated? (cs : List Char) : Option ControlId :=
  let digits := cs.filter (· ≠ '-')
  if hyphenate digits = cs then ofDigits? digits else none

/-- Reads any of the four written forms. Braces and the `urn:uuid:` mark go with hyphens. -/
def parse? (s : String) : Option ControlId :=
  let cs := s.toList
  let urn := "urn:uuid:".toList
  if cs.length = 32 then ofDigits? cs
  else if cs.length = 36 then ofHyphenated? cs
  else if cs.length = 38 ∧ cs.head? = some '{' ∧ cs.getLast? = some '}' then
    ofHyphenated? (cs.drop 1).dropLast
  else if cs.length = 45 ∧ (cs.take 9).map Char.toLower = urn then ofHyphenated? (cs.drop 9)
  else none

/-- The version 4 identifier with the given random bits. -/
def random (bits : Nat) : ControlId :=
  let high := bits >>> 74 % 0x1000000000000
  let middle := bits >>> 62 % 0x1000
  let low := bits % 0x4000000000000000
  ofNat (high <<< 80 + 4 <<< 76 + middle <<< 64 + 2 <<< 62 + low)

end ControlId

/-- Where identifiers for controls without one come from: the random bits of each in turn. -/
structure IdSource where
  bits : Nat → Nat := id
  next : Nat := 0

/-- The next identifier, and the source after it. -/
def IdSource.fresh (s : IdSource) : ControlId × IdSource :=
  (ControlId.random (s.bits s.next), { s with next := s.next + 1 })

end TouchOverlay
