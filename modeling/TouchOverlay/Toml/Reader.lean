import TouchOverlay.Toml.Table

/-!
# Reading TOML

A text is a list of statements: entries, table headers, and headers of repeated tables. Each
function takes a text and gives what it has read with the rest of the text, or nothing if the text
does not begin with it.
-/

namespace TouchOverlay.Toml

/-! ## Blanks and comments -/

def isSpace (c : Char) : Bool := c = ' ' || c = '\t'

def skip (cs : List Char) : List Char := cs.dropWhile isSpace

/-- Characters that may stand in comments and strings: tabs and all that are no controls. -/
def isPlain (c : Char) : Bool := c = '\t' || (32 ≤ c.toNat && c.toNat != 127)

/-- The text after the end of a line. -/
def newline? : List Char → Option (List Char)
  | '\n' :: cs => some cs
  | '\r' :: '\n' :: cs => some cs
  | _ => none

/-- The text after a comment, if one is at its front. -/
def skipComment : List Char → List Char
  | '#' :: cs => cs.dropWhile isPlain
  | cs => cs

/-- The text after the end of a statement: blanks, a comment, and the end of the line or text. -/
def endLine? (cs : List Char) : Option (List Char) :=
  match skipComment (skip cs) with
  | [] => some []
  | cs => newline? cs

/-- The text after blanks, comments and ends of lines, at most `n` lines of them. -/
def skipLines : Nat → List Char → List Char
  | 0, cs => skip cs
  | n + 1, cs =>
    let cs := skip cs
    match newline? (skipComment cs) with
    | some cs => skipLines n cs
    | none => cs

/-! ## Strings -/

/-- The character with the given number. -/
def scalar? (n : Nat) : Option Char := if n.isValidChar then some (Char.ofNat n) else none

/-- The character that an escape stands for, after the backslash. -/
def readEscape : List Char → Option (Char × List Char)
  | 'b' :: cs => some ('\x08', cs)
  | 't' :: cs => some ('\t', cs)
  | 'n' :: cs => some ('\n', cs)
  | 'f' :: cs => some ('\x0c', cs)
  | 'r' :: cs => some ('\r', cs)
  | '"' :: cs => some ('"', cs)
  | '\\' :: cs => some ('\\', cs)
  | 'u' :: cs => hex 4 cs
  | 'U' :: cs => hex 8 cs
  | _ => none
where
  /-- A character by its number in hexadecimal digits. -/
  hex (n : Nat) (cs : List Char) : Option (Char × List Char) :=
    if (cs.take n).length = n then
      ((Text.readHex? (cs.take n)).bind scalar?).map fun c => (c, cs.drop n)
    else none

/-- The text after blanks and ends of lines, at most `n` of either. -/
def skipFolded : Nat → List Char → List Char
  | 0, cs => cs
  | n + 1, cs =>
    match newline? cs with
    | some rest => skipFolded n rest
    | none =>
      match cs with
      | c :: rest => if isSpace c then skipFolded n rest else cs
      | [] => []

/-- The rest of a text after a backslash that ends a line, with the blank lines that follow. -/
def foldLine? (cs : List Char) : Option (List Char) :=
  (newline? (skip cs)).map fun rest => skipFolded rest.length rest

/-- The rest of a string in double quotes on one line. -/
def readBasic : Nat → List Char → Option (List Char × List Char)
  | 0, _ => none
  | n + 1, cs =>
    match cs with
    | '"' :: rest => some ([], rest)
    | '\\' :: rest =>
      (readEscape rest).bind fun (c, rest) =>
        (readBasic n rest).map fun (s, rest) => (c :: s, rest)
    | c :: rest =>
      if isPlain c then (readBasic n rest).map fun (s, rest) => (c :: s, rest) else none
    | [] => none

/-- The rest of a string in single quotes on one line. -/
def readLiteral : List Char → Option (List Char × List Char)
  | '\'' :: rest => some ([], rest)
  | c :: rest =>
    if isPlain c then (readLiteral rest).map fun (s, rest) => (c :: s, rest) else none
  | [] => none

/-- The rest of a text after three quotes that end a string, with up to two more quotes that belong
to the string. -/
def closing? (q : Char) (cs : List Char) : Option (List Char × List Char) :=
  let quotes := cs.takeWhile (· = q)
  if 3 ≤ quotes.length then
    let extra := min (quotes.length - 3) 2
    some (List.replicate extra q, cs.drop (3 + extra))
  else none

/-- The rest of a string in three double quotes. -/
def readMultiBasic : Nat → List Char → Option (List Char × List Char)
  | 0, _ => none
  | n + 1, cs =>
    match closing? '"' cs with
    | some r => some r
    | none =>
      match cs with
      | '\\' :: rest =>
        match foldLine? rest with
        | some rest => readMultiBasic n rest
        | none =>
          (readEscape rest).bind fun (c, rest) =>
            (readMultiBasic n rest).map fun (s, rest) => (c :: s, rest)
      | c :: rest =>
        match newline? cs with
        | some rest => (readMultiBasic n rest).map fun (s, rest) => ('\n' :: s, rest)
        | none =>
          if isPlain c then (readMultiBasic n rest).map fun (s, rest) => (c :: s, rest) else none
      | [] => none

/-- The rest of a string in three single quotes. -/
def readMultiLiteral : Nat → List Char → Option (List Char × List Char)
  | 0, _ => none
  | n + 1, cs =>
    match closing? '\'' cs with
    | some r => some r
    | none =>
      match newline? cs with
      | some rest => (readMultiLiteral n rest).map fun (s, rest) => ('\n' :: s, rest)
      | none =>
        match cs with
        | c :: rest =>
          if isPlain c then (readMultiLiteral n rest).map fun (s, rest) => (c :: s, rest) else none
        | [] => none

/-- The text without an end of line at its front. -/
def dropNewline (cs : List Char) : List Char := (newline? cs).getD cs

/-- A string of any of the four forms. -/
def readString (cs : List Char) : Option (String × List Char) :=
  let r := match cs with
    | '"' :: '"' :: '"' :: rest => readMultiBasic (rest.length + 1) (dropNewline rest)
    | '\'' :: '\'' :: '\'' :: rest => readMultiLiteral (rest.length + 1) (dropNewline rest)
    | '"' :: rest => readBasic (rest.length + 1) rest
    | '\'' :: rest => readLiteral rest
    | _ => none
  r.map fun (s, rest) => (String.ofList s, rest)

/-! ## Keys -/

/-- Characters of a key without quotes. -/
def isBare (c : Char) : Bool := c.isAlphanum || c = '-' || c = '_'

/-- One part of a key. -/
def readSimpleKey (cs : List Char) : Option (String × List Char) :=
  match cs with
  | '"' :: rest => (readBasic (rest.length + 1) rest).map fun (s, rest) => (String.ofList s, rest)
  | '\'' :: rest => (readLiteral rest).map fun (s, rest) => (String.ofList s, rest)
  | _ =>
    match cs.span isBare with
    | ([], _) => none
    | (s, rest) => some (String.ofList s, rest)

/-- The parts of a dotted key, with blanks around each of them, at most `n` parts. -/
def readKey : Nat → List Char → Option (List String × List Char)
  | 0, _ => none
  | n + 1, cs =>
    (readSimpleKey (skip cs)).bind fun (k, rest) =>
      match skip rest with
      | '.' :: rest => (readKey n rest).map fun (ks, rest) => (k :: ks, rest)
      | rest => some ([k], rest)

/-- The most parts that a key may have, and the deepest that values may be nested. -/
def nesting : Nat := 79

/-! ## Numbers -/

/-- Digits of one kind with single underscores between them, at least one digit. -/
def readDigits (isDigit : Char → Bool) (cs : List Char) : Option (List Char × List Char) :=
  match cs with
  | c :: rest => if isDigit c then some (more [c] rest) else none
  | [] => none
where
  /-- More digits after those in `acc`. -/
  more (acc : List Char) : List Char → List Char × List Char
    | '_' :: c :: rest => if isDigit c then more (acc ++ [c]) rest else (acc, '_' :: c :: rest)
    | c :: rest => if isDigit c then more (acc ++ [c]) rest else (acc, c :: rest)
    | [] => (acc, [])

/-- An optional sign: whether it is a minus. -/
def readSign : List Char → Bool × List Char
  | '-' :: cs => (true, cs)
  | '+' :: cs => (false, cs)
  | cs => (false, cs)

/-- A decimal integer: its sign and digits. More than one digit do not begin with a zero. -/
def readDecimal (cs : List Char) : Option (Bool × List Char × List Char) :=
  let (negative, cs) := readSign cs
  match cs with
  | '0' :: rest => some (negative, ['0'], rest)
  | _ => (readDigits Char.isDigit cs).map fun (ds, rest) => (negative, ds, rest)

/-- An integer of 64 bits. -/
def bounded (i : Int) : Option Toml :=
  if -0x8000000000000000 ≤ i ∧ i < 0x8000000000000000 then some (integer i) else none

/-- The number that digits of a base write. -/
def ofDigits (base : Nat) (ds : List Char) : Int :=
  ((ds.filterMap Text.hexValue?).foldl (fun n d => base * n + d) 0 : Nat)

/-- An integer of any base. -/
def readInteger (cs : List Char) : Option (Toml × List Char) :=
  let based := fun (base : Nat) (cs : List Char) =>
    (readDigits (fun c => (Text.hexValue? c).any (· < base)) cs).bind fun (ds, rest) =>
      (bounded (ofDigits base ds)).map (·, rest)
  match cs with
  | '0' :: 'x' :: cs => based 16 cs
  | '0' :: 'o' :: cs => based 8 cs
  | '0' :: 'b' :: cs => based 2 cs
  | _ =>
    (readDecimal cs).bind fun (negative, ds, rest) =>
      (bounded (if negative then -(ofDigits 10 ds) else ofDigits 10 ds)).map (·, rest)

/-- The power of ten of a float. -/
def readPower : List Char → Option (Int × List Char)
  | 'e' :: cs => power cs
  | 'E' :: cs => power cs
  | _ => none
where
  /-- The power after its mark. -/
  power (cs : List Char) : Option (Int × List Char) :=
    let (negative, cs) := readSign cs
    (readDigits Char.isDigit cs).map fun (ds, rest) =>
      (if negative then -(ofDigits 10 ds) else ofDigits 10 ds, rest)

/-- The fraction and the power of ten of a float; at least one of them is there. -/
def readTail (cs : List Char) : Option (List Char × Int × List Char) :=
  match cs with
  | '.' :: rest =>
    (readDigits Char.isDigit rest).bind fun (ds, rest) =>
      match rest with
      | 'e' :: _ | 'E' :: _ => (readPower rest).map fun (p, rest) => (ds, p, rest)
      | _ => some (ds, 0, rest)
  | _ => (readPower cs).map fun (p, rest) => ([], p, rest)

/-- A finite float. One that rounds to positive infinity is none. -/
def readFinite (cs : List Char) : Option (Toml × List Char) :=
  (readDecimal cs).bind fun (negative, whole, rest) =>
    (readTail rest).bind fun (fraction, power, rest) =>
      let d : Numeric.Decimal :=
        { negative
          digits := (ofDigits 10 (whole ++ fraction)).toNat
          exponent := power - fraction.length }
      if d.negative || d.fitsDouble then some (float (.decimal d), rest) else none

/-- Infinity, or what is not a number. -/
def readSpecial (cs : List Char) : Option (Toml × List Char) :=
  match readSign cs with
  | (negative, 'i' :: 'n' :: 'f' :: rest) => some (float (.infinite negative), rest)
  | (_, 'n' :: 'a' :: 'n' :: rest) => some (float .nan, rest)
  | _ => none

/-! ## Dates and times -/

/-- A number of exactly `n` digits between two bounds. -/
def readField (n least greatest : Nat) (cs : List Char) : Option (Nat × List Char) :=
  let ds := cs.take n
  if ds.length = n ∧ ds.all Char.isDigit then
    let v := Nat.ofDigitChars 10 ds 0
    if least ≤ v ∧ v ≤ greatest then some (v, cs.drop n) else none
  else none

/-- The text after a character. -/
def expect? (c : Char) : List Char → Option (List Char)
  | d :: cs => if d = c then some cs else none
  | [] => none

/-- Number of days of a month. -/
def daysOf (year month : Nat) : Nat :=
  if month = 2 then
    if year % 4 = 0 ∧ (year % 100 ≠ 0 ∨ year % 400 = 0) then 29 else 28
  else if month = 4 ∨ month = 6 ∨ month = 9 ∨ month = 11 then 30 else 31

/-- The text after a date. -/
def date? (cs : List Char) : Option (List Char) := do
  let (year, cs) ← readField 4 0 9999 cs
  let cs ← expect? '-' cs
  let (month, cs) ← readField 2 1 12 cs
  let cs ← expect? '-' cs
  let (_, cs) ← readField 2 1 (daysOf year month) cs
  some cs

/-- The text after a time. -/
def time? (cs : List Char) : Option (List Char) := do
  let (_, cs) ← readField 2 0 23 cs
  let cs ← expect? ':' cs
  let (_, cs) ← readField 2 0 59 cs
  let cs ← expect? ':' cs
  let (_, cs) ← readField 2 0 60 cs
  match cs with
  | '.' :: rest => if (rest.head?.any Char.isDigit) then some (rest.dropWhile Char.isDigit) else none
  | cs => some cs

/-- The text after an offset from universal time. -/
def offset? : List Char → Option (List Char)
  | 'Z' :: cs => some cs
  | 'z' :: cs => some cs
  | '+' :: cs => hours cs
  | '-' :: cs => hours cs
  | _ => none
where
  /-- Hours and minutes. -/
  hours (cs : List Char) : Option (List Char) := do
    let (_, cs) ← readField 2 0 23 cs
    let cs ← expect? ':' cs
    let (_, cs) ← readField 2 0 59 cs
    some cs

/-- A date, a time, or both. -/
def readDateTime (cs : List Char) : Option (Toml × List Char) :=
  match date? cs with
  | some rest =>
    match rest with
    | c :: more =>
      if c = 'T' ∨ c = 't' ∨ c = ' ' then
        match time? more with
        | some rest => some (dateTime, (offset? rest).getD rest)
        | none => if c = ' ' then some (dateTime, rest) else none
      else some (dateTime, rest)
    | [] => some (dateTime, [])
  | none => (time? cs).map (dateTime, ·)

/-! ## Values -/

/-- The rest of a word. -/
def readWord (word : List Char) (v : Toml) (cs : List Char) : Option (Toml × List Char) :=
  if word.isPrefixOf cs then some (v, cs.drop word.length) else none

def readNumber (cs : List Char) : Option (Toml × List Char) :=
  (readDateTime cs).or ((readFinite cs).or ((readSpecial cs).or (readInteger cs)))

mutual

/-- A value nested at most `depth` deep. The first argument bounds the number of steps. -/
def readValue : Nat → Nat → List Char → Option (Toml × List Char)
  | 0, _, _ => none
  | n + 1, depth, cs =>
    match cs with
    | '"' :: _ | '\'' :: _ => (readString cs).map fun (s, rest) => (string s, rest)
    | 't' :: _ => readWord ['t', 'r', 'u', 'e'] (boolean true) cs
    | 'f' :: _ => readWord ['f', 'a', 'l', 's', 'e'] (boolean false) cs
    | 'i' :: _ | 'n' :: _ => readSpecial cs
    | '[' :: rest =>
      if depth = 0 then none
      else (readItems n (depth - 1) rest).map fun (vs, rest) => (array vs, rest)
    | '{' :: rest =>
      if depth = 0 then none
      else
        match skip rest with
        | '}' :: rest => some (table .inline [], rest)
        | rest =>
          (readEntries n (depth - 1) rest).bind fun (es, rest) =>
            (ofEntries es).map fun t => (table .inline t, rest)
    | _ => readNumber cs

/-- The items of an array up to its closing bracket. -/
def readItems : Nat → Nat → List Char → Option (List Toml × List Char)
  | 0, _, _ => none
  | n + 1, depth, cs =>
    match skipLines cs.length cs with
    | ']' :: rest => some ([], rest)
    | cs =>
      (readValue n depth cs).bind fun (v, rest) =>
        match skipLines rest.length rest with
        | ',' :: rest => (readItems n depth rest).map fun (vs, rest) => (v :: vs, rest)
        | ']' :: rest => some ([v], rest)
        | _ => none

/-- The entries of an inline table up to its closing brace. -/
def readEntries : Nat → Nat → List Char → Option (List (List String × Toml) × List Char)
  | 0, _, _ => none
  | n + 1, depth, cs =>
    (readKey nesting cs).bind fun (k, rest) =>
      match rest with
      | '=' :: rest =>
        (readValue n depth (skip rest)).bind fun (v, rest) =>
          match skip rest with
          | ',' :: rest => (readEntries n depth rest).map fun (es, rest) => ((k, v) :: es, rest)
          | '}' :: rest => some ([(k, v)], rest)
          | _ => none
      | _ => none

end

/-! ## Statements -/

/-- One statement, which is not blank, and the rest of the text after its line. -/
def readStatement (cs : List Char) : Option (Statement × List Char) :=
  match cs with
  | '[' :: '[' :: rest =>
    (readKey nesting rest).bind fun (k, rest) =>
      match rest with
      | ']' :: ']' :: rest => (endLine? rest).map (.tables k, ·)
      | _ => none
  | '[' :: rest =>
    (readKey nesting rest).bind fun (k, rest) =>
      match rest with
      | ']' :: rest => (endLine? rest).map (.table k, ·)
      | _ => none
  | _ =>
    (readKey nesting cs).bind fun (k, rest) =>
      match rest with
      | '=' :: rest =>
        (readValue (2 * rest.length + 2) nesting (skip rest)).bind fun (v, rest) =>
          (endLine? rest).map (.entry k v, ·)
      | _ => none

/-- The statements of a text, at most `n` of them. -/
def readStatements : Nat → List Char → Option (List Statement)
  | 0, _ => none
  | n + 1, cs =>
    match skipComment (skipLines cs.length cs) with
    | [] => some []
    | cs =>
      (readStatement cs).bind fun (s, rest) => (readStatements n rest).map (s :: ·)

/-- A text without a byte order mark at its front. -/
def dropMark : List Char → List Char
  | '\ufeff' :: cs => cs
  | cs => cs

/-- A whole document as a table. -/
def read (s : String) : Option Toml :=
  let cs := dropMark s.toList
  (readStatements (cs.length + 1) cs).bind fun ss => (ofStatements ss).map (table .header ·)

end TouchOverlay.Toml
