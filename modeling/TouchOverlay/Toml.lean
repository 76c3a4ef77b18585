import TouchOverlay.Numeric.Style

/-!
# TOML values

A document is one table. Each table remembers how it came about, because that decides what may
still be added to it: a table of a header or between braces is closed to dotted keys, one that only
names another table's path may still get its own header, and one of dotted keys may not.
-/

namespace TouchOverlay

/-- A floating-point number as it is written. -/
inductive TomlFloat
  | decimal (d : Numeric.Decimal)
  | infinite (negative : Bool)
  | nan
deriving DecidableEq, Inhabited

/-- The number in single precision, by way of double precision. -/
def TomlFloat.toSingle : TomlFloat → Float32
  | decimal d => d.toSingle
  | infinite negative => Numeric.single negative Numeric.binary32.infinityBits
  | nan => Float32.ofBits 0x7fc00000

/-- A finite or infinite single precision number as the equal double precision number. -/
def TomlFloat.ofSingle (x : Float32) : TomlFloat :=
  if x.isNaN then nan
  else if x.isInf then infinite x.signBit
  else decimal (Numeric.wideDecimal Numeric.NumberStyle.settings.tie x)

/-- How a table came about. -/
inductive TableForm
  /-- By its own header. -/
  | header
  /-- By the header of a table within it. -/
  | implicit
  /-- By dotted keys. -/
  | dotted
  /-- Between braces. -/
  | inline
deriving DecidableEq, Inhabited

/-- A TOML value. -/
inductive Toml
  | string (s : String)
  | integer (i : Int)
  | float (x : TomlFloat)
  | boolean (b : Bool)
  | dateTime
  | array (items : List Toml)
  | table (form : TableForm) (entries : List (String × Toml))
  /-- Tables under one repeated header. -/
  | tables (items : List Toml)
deriving Inhabited

namespace Toml

/-! ## Typed readings -/

def boolean? : Toml → Option Bool
  | boolean b => some b
  | _ => none

def string? : Toml → Option String
  | string s => some s
  | _ => none

/-- An integer from zero to a bound. -/
def nat? (greatest : Nat) : Toml → Option Nat
  | integer i => if 0 ≤ i ∧ i ≤ greatest then some i.toNat else none
  | _ => none

def single? : Toml → Option Float32
  | integer i => some (Numeric.Decimal.singleOfInt i)
  | float x => some x.toSingle
  | _ => none

/-- The fields of a record: the entries of a table, or the items of an array by their position. A
date has none of the fields. -/
def fields? (names : List String) : Toml → Option (List (String × Toml))
  | table _ entries => some entries
  | array items => some (names.zip items)
  | tables items => some (names.zip items)
  | dateTime => some []
  | _ => none

/-- A field that has a default. -/
def optional {α : Type} (fs : List (String × Toml)) (name : String) (default : α)
    (read : Toml → Option α) : Option α :=
  match fs.lookup name with
  | some v => read v
  | none => some default

end Toml

end TouchOverlay
