import TouchOverlay.Toml.Table

/-!
# Writing TOML

A string is written in the first of these forms that needs no escape: double quotes, single quotes,
three double quotes, three single quotes. If none does, it is written with escapes, in three double
quotes if it has several lines. A document is its plain entries followed by its tables.
-/

namespace TouchOverlay.Toml

/-! ## Strings -/

/-- The length of the longest run of a character. -/
def longestRun (q : Char) (cs : List Char) : Nat := go 0 0 cs
where
  /-- With the longest run so far and the run that goes on. -/
  go (best run : Nat) : List Char → Nat
    | [] => max best run
    | c :: cs => if c = q then go best (run + 1) cs else go (max best run) 0 cs

/-- Whether a character is a control that only an escape can write. -/
def needsCode (c : Char) : Bool :=
  (c.toNat < 32 && c != '\t' && c != '\n') || c.toNat = 127

/-- The written form of one character between double quotes. -/
def escapeChar (severalLines : Bool) (c : Char) : List Char :=
  if c = '\x08' then ['\\', 'b']
  else if c = '\t' then ['\\', 't']
  else if c = '\n' then if severalLines then ['\n'] else ['\\', 'n']
  else if c = '\x0c' then ['\\', 'f']
  else if c = '\r' then ['\\', 'r']
  else if c = '\\' then ['\\', '\\']
  else if c.toNat < 32 || c.toNat = 127 then
    ['\\', 'u'] ++ (Text.fixedHex 4 c.toNat).map Char.toUpper
  else [c]

/-- The written form of a string between double quotes, of which at most `room` may follow each
other without an escape; `run` of them do already. -/
def escape (severalLines : Bool) (room : Nat) : Nat → List Char → List Char
  | _, [] => []
  | run, c :: cs =>
    if c = '"' then
      if room ≤ run then '\\' :: '"' :: escape severalLines room 0 cs
      else '"' :: escape severalLines room (run + 1) cs
    else
      let e := escapeChar severalLines c
      e ++ escape severalLines room 0 cs

/-- A string in one of the four forms. -/
def renderString (s : String) : List Char :=
  let cs := s.toList
  let several := cs.any (· = '\n')
  let coded := cs.any needsCode
  let backslash := cs.any (· = '\\')
  let double := longestRun '"' cs
  let single := longestRun '\'' cs
  let start := if several then ['\n'] else []
  let quotes := ['"', '"', '"']
  let apostrophes := ['\'', '\'', '\'']
  if !coded && !backslash && double = 0 && !several then '"' :: escape false 0 0 cs ++ ['"']
  else if !coded && single = 0 && !several then '\'' :: cs ++ ['\'']
  else if !coded && !backslash && double ≤ 2 then quotes ++ start ++ escape true 2 0 cs ++ quotes
  else if !coded && single ≤ 2 then apostrophes ++ start ++ cs ++ apostrophes
  else if several then quotes ++ start ++ escape true 2 0 cs ++ quotes
  else '"' :: escape false 0 0 cs ++ ['"']

/-! ## Documents -/

def renderFloat : TomlFloat → List Char
  | .decimal d => d.text Numeric.NumberStyle.settings
  | .infinite negative => if negative then ['-', 'i', 'n', 'f'] else ['i', 'n', 'f']
  | .nan => ['n', 'a', 'n']

/-- A value that is neither a container nor a date. -/
def renderScalar : Toml → List Char
  | string s => renderString s
  | integer i => Text.intDigits i
  | float x => renderFloat x
  | boolean true => ['t', 'r', 'u', 'e']
  | boolean false => ['f', 'a', 'l', 's', 'e']
  | _ => []

/-- An entry with a plain value on its line. -/
def renderEntry (e : String × Toml) : List Char :=
  e.1.toList ++ [' ', '=', ' '] ++ renderScalar e.2 ++ ['\n']

/-- A table of plain entries after its header, with an empty line before it. -/
def renderTable (name : String) (es : Entries) : List Char :=
  ['\n', '['] ++ name.toList ++ [']', '\n'] ++ es.flatMap renderEntry

/-- A document of plain entries and of tables of plain entries. -/
def renderDocument (es : Entries) : List Char :=
  es.flatMap fun
    | (name, .table _ inner) => renderTable name inner
    | e => renderEntry e

end TouchOverlay.Toml
