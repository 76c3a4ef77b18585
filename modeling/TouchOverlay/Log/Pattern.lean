import TouchOverlay.Text.Alphanumeric
import TouchOverlay.Text.Number
import TouchOverlay.Text.Quoted

/-!
# Patterns for logged values

A filter can ask for a value by a regular expression. `Pattern.fault?` says whether one can be used;
nothing here matches one, since no value is known when a filter decides.

A pattern consists of characters, escapes, classes, groups, alternatives and repetitions. Braces have
no use, because a closing one ends the field of a filter. Characters are those of Unicode unless the
flag `u` is off. There are no tables of their properties: ignoring case and the shorthands for
digits, blanks and word characters need that flag off, and then stand for ASCII.
-/

namespace TouchOverlay

/-- Why a pattern cannot be used. -/
inductive PatternFault
  | malformed
  /-- A place is asked for at which a word of Unicode begins or ends. -/
  | wordEdge
deriving DecidableEq, Inhabited

def PatternFault.message : PatternFault → String
  | malformed => "error building NFA"
  | wordEdge => "unsupported regex feature for DFAs: cannot build DFAs for regexes with Unicode " ++
      "word boundaries; switch to ASCII word boundaries, or heuristically enable Unicode word " ++
      "boundaries or use a different regex engine"

namespace Pattern

/-- The flags that change how a pattern is read. -/
structure Mode where
  foldsCase : Bool := false
  unicode : Bool := true
  /-- Whether blanks and comments are skipped. -/
  verbose : Bool := false
deriving DecidableEq, Inhabited

namespace Mode

/-- Sets a flag by its letter; the others matter only for matching. -/
def set (m : Mode) (on : Bool) : Char → Mode
  | 'i' => { m with foldsCase := on }
  | 'u' => { m with unicode := on }
  | 'x' => { m with verbose := on }
  | _ => m

/-- Whether characters and classes are looked up in a table that there is not. -/
def needsTable (m : Mode) : Bool := m.foldsCase && m.unicode

end Mode

/-- What a part of a pattern stands for. -/
inductive Atom
  | char (c : Char)
  | set
  /-- A place between characters. -/
  | place (wordEdge : Bool)
deriving DecidableEq, Inhabited

/-! ## Escapes -/

/-- The control character that a letter stands for after a backslash. -/
def control? : Char → Option Char
  | 'a' => some '\x07'
  | 'f' => some '\x0c'
  | 'n' => some '\n'
  | 'r' => some '\r'
  | 't' => some '\t'
  | 'v' => some '\x0b'
  | _ => none

/-- A character by its hexadecimal number of a fixed width. -/
def readCode (m : Mode) (width : Nat) (cs : List Char) : Option (Atom × List Char) := do
  let n ← if width ≤ cs.length then Text.readHex? (cs.take width) else none
  if ¬ n.isValidChar ∨ width = 2 ∧ ¬ m.unicode ∧ 128 ≤ n then none
  else some (.char (Char.ofNat n), cs.drop width)

/-- What follows a backslash. -/
def readEscape (m : Mode) : List Char → Option (Atom × List Char)
  | [] => none
  | 'x' :: cs => readCode m 2 cs
  | 'u' :: cs => readCode m 4 cs
  | 'U' :: cs => readCode m 8 cs
  | c :: cs =>
    if c ∈ ['d', 's', 'w'] then if m.unicode then none else some (.set, cs)
    else if c ∈ ['b', 'B', '<', '>'] then some (.place m.unicode, cs)
    else if c ∈ ['A', 'z'] then some (.place false, cs)
    else match control? c with
      | some k => some (.char k, cs)
      | none => if c.toNat < 128 ∧ ¬ c.isAlphanum then some (.char c, cs) else none

/-! ## Classes -/

/-- The names of the classes of ASCII. -/
def asciiClasses : List String :=
  ["alnum", "alpha", "ascii", "blank", "cntrl", "digit", "graph", "lower", "print", "punct", "space",
    "upper", "word", "xdigit"]

/-- The rest after a named class, given what follows its opening bracket. -/
def readNamed? : List Char → Option (List Char)
  | ':' :: cs =>
    let cs := if cs.head? = some '^' then cs.tail else cs
    match cs.span (· ≠ ':') with
    | (name, ':' :: ']' :: rest) => if String.ofList name ∈ asciiClasses then some rest else none
    | _ => none
  | _ => none

/-- A character or an escape of a class. -/
def readItem (m : Mode) : List Char → Option (Atom × List Char)
  | [] => none
  | '\\' :: cs => readEscape m cs
  | c :: cs => if m.unicode ∨ c.toNat < 128 then some (.char c, cs) else none

/-- The rest after an item of a class that is no range. -/
def single : Atom → List Char → Option (List Char)
  | .place _, _ => none
  | _, cs => some cs

/-- The rest after an item or a range of a class. -/
def readRange (m : Mode) (cs : List Char) : Option (List Char) := do
  let (first, rest) ← readItem m cs
  match rest with
  | [] => none
  | '-' :: ']' :: _ | '-' :: '-' :: _ => single first rest
  | '-' :: rest =>
    match first, ← readItem m rest with
    | .char a, (.char b, rest) => if a ≤ b then some rest else none
    | _, _ => none
  | _ => single first rest

/-- The rest after the opening bracket of a class, its caret, and the hyphens or the closing bracket
that stand for themselves at its beginning. -/
def openClass (m : Mode) (cs : List Char) : Option (List Char) :=
  let negated := cs.head? = some '^'
  let cs := if negated then cs.tail else cs
  let items := cs.dropWhile (· = '-')
  if negated ∧ ¬ m.unicode then none
  else if items = cs ∧ cs.head? = some ']' then some cs.tail
  else some items

/-- The rest after the closing bracket of a class that lies in `depth` others. -/
def readClass (m : Mode) : Nat → Nat → List Char → Option (List Char)
  | 0, _, _ => none
  | _ + 1, _, [] => none
  | n + 1, depth, ']' :: cs =>
    match depth with
    | 0 => some cs
    | depth + 1 => readClass m n depth cs
  | n + 1, depth, '[' :: cs =>
    match readNamed? cs with
    | some rest => readClass m n depth rest
    | none => (openClass m cs).bind (readClass m n (depth + 1))
  | n + 1, depth, '&' :: '&' :: cs => readClass m n depth cs
  | n + 1, depth, '-' :: '-' :: cs => readClass m n depth cs
  | n + 1, depth, '~' :: '~' :: cs => readClass m n depth cs
  | n + 1, depth, cs => (readRange m cs).bind (readClass m n depth)

/-! ## Groups -/

/-- How far a pattern has been read. -/
structure Progress where
  mode : Mode := {}
  /-- The modes outside the groups that are open, from the innermost. -/
  outer : List Mode := []
  names : List (List Char) := []
  /-- Whether there is something that can be repeated. -/
  repeatable : Bool := false
  wordEdge : Bool := false
deriving Inhabited

/-- Flags up to the colon or parenthesis after them: the mode that they make, and their letters from
the last. A hyphen turns off those that follow it. -/
def readFlags (m : Mode) (on : Bool) (seen : List Char) :
    List Char → Option (Mode × List Char × List Char)
  | [] => none
  | c :: cs =>
    if c = ':' ∨ c = ')' then if seen.head? = some '-' then none else some (m, seen, c :: cs)
    else if c ∈ seen ∨ c ∉ ['i', 'm', 's', 'U', 'R', 'u', 'x', '-'] then none
    else if c = '-' then readFlags m false (c :: seen) cs
    else readFlags (m.set on c) on (c :: seen) cs

/-- Whether a group can have the name. -/
def isName : List Char → Bool
  | [] => false
  | c :: cs =>
    (c = '_' || Text.isAlphanumeric c && !c.isDigit) &&
      cs.all fun c => c ∈ ['_', '.', '[', ']'] || Text.isAlphanumeric c

namespace Progress

/-- Goes into a group. -/
def enter (p : Progress) (inside : Mode) : Progress :=
  { p with mode := inside, outer := p.mode :: p.outer, repeatable := false }

/-- Reads the name of a group and goes into it. -/
def enterNamed (p : Progress) (cs : List Char) : Option (Progress × List Char) :=
  match cs.span (· ≠ '>') with
  | (name, _ :: rest) =>
    if isName name ∧ name ∉ p.names then
      some ({ p.enter p.mode with names := name :: p.names }, rest)
    else none
  | _ => none

/-- Reads what follows an opening parenthesis: a name, flags for the group, flags for what follows,
or nothing. -/
def openGroup (p : Progress) : List Char → Option (Progress × List Char)
  | '?' :: 'P' :: '<' :: cs => p.enterNamed cs
  | '?' :: '<' :: cs => p.enterNamed cs
  | '?' :: cs =>
    match readFlags p.mode true [] cs with
    | some (inside, _, ':' :: rest) => some (p.enter inside, rest)
    | some (mode, _ :: _, _ :: rest) => some ({ p with mode, repeatable := false }, rest)
    | _ => none
  | cs => some (p.enter p.mode, cs)

/-- Goes on after an atom. -/
def after (p : Progress) : Atom → Option Progress
  | .char _ => if p.mode.needsTable then none else some { p with repeatable := true }
  | .set => some { p with repeatable := true }
  | .place wordEdge => some { p with repeatable := true, wordEdge := p.wordEdge || wordEdge }

/-- Reads on from a character. -/
def step (p : Progress) (c : Char) (cs : List Char) : Option (Progress × List Char) :=
  if p.mode.verbose ∧ Text.isBlank c then some (p, cs)
  else match c with
    | '(' => p.openGroup cs
    | ')' =>
      match p.outer with
      | [] => none
      | mode :: outer => some ({ p with mode, outer, repeatable := true }, cs)
    | '|' => some ({ p with repeatable := false }, cs)
    | '?' | '*' | '+' =>
      if p.repeatable then some (p, if cs.head? = some '?' then cs.tail else cs) else none
    | '{' => none
    | '[' =>
      if p.mode.needsTable then none
      else do
        let rest ← readClass p.mode (cs.length + 1) 0 (← openClass p.mode cs)
        some ({ p with repeatable := true }, rest)
    | '\\' => do
      let (atom, rest) ← readEscape p.mode cs
      some (← p.after atom, rest)
    | '.' => if p.mode.unicode then some ({ p with repeatable := true }, cs) else none
    | '^' | '$' => some ({ p with repeatable := true }, cs)
    | _ =>
      if p.mode.verbose ∧ c = '#' then some (p, cs.dropWhile (· ≠ '\n'))
      else (p.after (.char c)).map (·, cs)

/-- Reads a pattern to its end, where no group is open, in at most as many steps as given. -/
def run : Nat → Progress → List Char → Option Progress
  | _, p, [] => if p.outer.isEmpty then some p else none
  | 0, _, _ :: _ => none
  | n + 1, p, c :: cs => (p.step c cs).bind fun (p, rest) => run n p rest

end Progress

/-- Why a pattern cannot be used, if it cannot. -/
def fault? (cs : List Char) : Option PatternFault :=
  match Progress.run cs.length {} cs with
  | none => some .malformed
  | some p => if p.wordEdge then some .wordEdge else none

example : fault? ['r', 'e', 'l', '.', '*'] = none := by decide

example : fault? ['['] = some .malformed := by decide

example : fault? ['\\', 'b'] = some .wordEdge := by decide

end Pattern

end TouchOverlay
