import TouchOverlay.Json

/-!
# Reading JSON

A recursive descent over the characters. Each function gives what it has read and the rest of the
text; where the text is no JSON the value is `malformed` and the rest is empty. The functions that
call each other are bounded by a number that `read` takes from the length of the text.
-/

namespace TouchOverlay.Json

/-- The blanks of JSON. -/
def isSpace (c : Char) : Bool := c = ' ' || c = '\n' || c = '\t' || c = '\r'

/-- The text after its leading blanks. -/
def skip (cs : List Char) : List Char := cs.dropWhile isSpace

/-! ## Numbers -/

/-- The leading digits, and the rest. -/
def spanDigits (cs : List Char) : List Char × List Char := cs.span Char.isDigit

/-- The integer part: a zero alone, or digits that begin with another one. -/
def readWhole (cs : List Char) : Option (List Char × List Char) :=
  match spanDigits cs with
  | ([], _) => none
  | (['0'], rest) => some (['0'], rest)
  | ('0' :: _, _) => none
  | (ds, rest) => some (ds, rest)

/-- The fraction: a point and digits, or nothing. -/
def readFraction : List Char → Option (List Char × List Char)
  | '.' :: cs =>
    match spanDigits cs with
    | ([], _) => none
    | (ds, rest) => some (ds, rest)
  | cs => some ([], cs)

/-- The digits of a power of ten, after an optional sign. -/
def readPower (cs : List Char) : Option (Int × List Char) :=
  let (negative, cs) := match cs with
    | '-' :: cs => (true, cs)
    | '+' :: cs => (false, cs)
    | cs => (false, cs)
  match spanDigits cs with
  | ([], _) => none
  | (ds, rest) =>
    let n : Int := Nat.ofDigitChars 10 ds 0
    some (if negative then -n else n, rest)

/-- The power of ten, or nothing. -/
def readExponent : List Char → Option (Option Int × List Char)
  | 'e' :: cs => (readPower cs).map fun (n, rest) => (some n, rest)
  | 'E' :: cs => (readPower cs).map fun (n, rest) => (some n, rest)
  | cs => some (none, cs)

/-- A number with digits written after it, as many as leave it below `2 ^ 64`, and the digits that
are left over. -/
def keepDigits (n : Nat) : List Char → Nat × List Char
  | [] => (n, [])
  | c :: cs =>
    let m := Nat.ofDigitChars 10 [c] n
    if m < 0x10000000000000000 then keepDigits m cs else (n, c :: cs)

/-- The decimal that is computed with. Digits before the point that do not fit count as zeros, and
those after it are dropped. -/
def keptDecimal (negative : Bool) (whole fraction : List Char) (power : Int) : Numeric.Decimal :=
  let (n, zeros) := keepDigits 0 whole
  let (digits, dropped) := keepDigits n fraction
  { negative, digits, exponent := power + zeros.length - (fraction.length - dropped.length : Nat) }

/-- A number without its sign. -/
def readUnsigned (negative : Bool) (cs : List Char) : Option (Numeral × List Char) := do
  let (whole, cs) ← readWhole cs
  let (fraction, cs) ← readFraction cs
  let (power, cs) ← readExponent cs
  some ({ decimal :=
            { negative
              digits := Nat.ofDigitChars 10 (whole ++ fraction) 0
              exponent := power.getD 0 - fraction.length }
          integral := fraction.isEmpty && power.isNone
          kept := keptDecimal negative whole fraction (power.getD 0) }, cs)

def readNumber : List Char → Option (Numeral × List Char)
  | '-' :: cs => readUnsigned true cs
  | cs => readUnsigned false cs

/-! ## Strings -/

/-- A character of a string, or the number of a `\u` escape. -/
inductive StringPiece
  | char (c : Char)
  | code (n : Nat)

/-- The character that a one-letter escape stands for. -/
def escape? : Char → Option Char
  | '"' => some '"'
  | '\\' => some '\\'
  | '/' => some '/'
  | 'b' => some '\x08'
  | 'f' => some '\x0c'
  | 'n' => some '\n'
  | 'r' => some '\r'
  | 't' => some '\t'
  | _ => none

/-- The pieces of a string up to its closing quote, and the rest. -/
def readPieces : List Char → Option (List StringPiece × List Char)
  | [] => none
  | '"' :: cs => some ([], cs)
  | '\\' :: 'u' :: a :: b :: c :: d :: cs =>
    (Text.readHex? [a, b, c, d]).bind fun n =>
      (readPieces cs).map fun (ps, rest) => (.code n :: ps, rest)
  | '\\' :: e :: cs =>
    (escape? e).bind fun c => (readPieces cs).map fun (ps, rest) => (.char c :: ps, rest)
  | c :: cs =>
    if c.toNat < 32 || c = '\\' then none
    else (readPieces cs).map fun (ps, rest) => (.char c :: ps, rest)

/-- The characters that pieces stand for. Two codes may form a surrogate pair; a code that is half
of a pair and stands alone names no character. -/
def joinPieces : List StringPiece → Option (List Char)
  | [] => some []
  | .char c :: ps => (joinPieces ps).map (c :: ·)
  | .code n :: .code m :: ps =>
    if 0xd800 ≤ n ∧ n < 0xdc00 then
      if 0xdc00 ≤ m ∧ m < 0xe000 then
        (joinPieces ps).map (Char.ofNat (0x10000 + (n - 0xd800) * 0x400 + (m - 0xdc00)) :: ·)
      else none
    else if 0xdc00 ≤ n ∧ n < 0xe000 then none
    else (joinPieces (.code m :: ps)).map (Char.ofNat n :: ·)
  | .code n :: ps =>
    if 0xd800 ≤ n ∧ n < 0xe000 then none else (joinPieces ps).map (Char.ofNat n :: ·)

/-- A string after its opening quote. -/
def readString (cs : List Char) : Option (Option String × List Char) :=
  (readPieces cs).map fun (ps, rest) => ((joinPieces ps).map String.ofList, rest)

/-! ## Values -/

/-- The rest of a keyword after its first letter. -/
def readWord (word : List Char) (v : Json) (cs : List Char) : Json × List Char :=
  if word.isPrefixOf cs then (v, cs.drop word.length) else (malformed, [])

mutual

/-- A value, with blanks before it. -/
def readValue : Nat → List Char → Json × List Char
  | 0, _ => (malformed, [])
  | n + 1, cs =>
    match skip cs with
    | 'n' :: cs => readWord ['u', 'l', 'l'] null cs
    | 't' :: cs => readWord ['r', 'u', 'e'] (bool true) cs
    | 'f' :: cs => readWord ['a', 'l', 's', 'e'] (bool false) cs
    | '"' :: cs =>
      match readString cs with
      | some (s, rest) => (string s, rest)
      | none => (malformed, [])
    | '[' :: cs =>
      match skip cs with
      | ']' :: rest => (array [], rest)
      | cs =>
        let (items, rest) := readItems n cs
        (array items, rest)
    | '{' :: cs =>
      match skip cs with
      | '}' :: rest => (object [], rest)
      | cs =>
        let (members, rest) := readMembers n cs
        (object members, rest)
    | cs =>
      match readNumber cs with
      | some (m, rest) => (number m, rest)
      | none => (malformed, [])

/-- The items of an array up to its closing bracket. -/
def readItems : Nat → List Char → List Json × List Char
  | 0, _ => ([malformed], [])
  | n + 1, cs =>
    let (v, rest) := readValue n cs
    match skip rest with
    | ',' :: rest =>
      let (vs, rest) := readItems n rest
      (v :: vs, rest)
    | ']' :: rest => ([v], rest)
    | _ => ([v, malformed], [])

/-- The members of an object up to its closing brace. -/
def readMembers : Nat → List Char → List (Option String × Json) × List Char
  | 0, _ => ([(none, malformed)], [])
  | n + 1, cs =>
    match skip cs with
    | '"' :: cs =>
      match readString cs with
      | some (k, rest) =>
        match skip rest with
        | ':' :: rest =>
          let (v, rest) := readValue n rest
          match skip rest with
          | ',' :: rest =>
            let (ms, rest) := readMembers n rest
            ((k, v) :: ms, rest)
          | '}' :: rest => ([(k, v)], rest)
          | _ => ([(k, v), (none, malformed)], [])
        | _ => ([(k, malformed)], [])
      | none => ([(none, malformed)], [])
    | _ => ([(none, malformed)], [])

end

/-- A text read as one value, and whether only blanks follow the value. -/
def read (s : String) : Json × Bool :=
  let cs := s.toList
  let (v, rest) := readValue (2 * cs.length + 2) cs
  (v, (skip rest).isEmpty)

end TouchOverlay.Json
