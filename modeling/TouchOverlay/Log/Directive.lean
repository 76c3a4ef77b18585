import TouchOverlay.Log
import TouchOverlay.Log.Level
import TouchOverlay.Log.Pattern
import TouchOverlay.Text.Slice

/-!
# Log directives

A directive sets the level for a part of the log: `target[span{name=value}]=level`, where any part
but one may be missing. It is read character by character. Blanks around it are skipped, but the
parts are cut out at the same places of the text with the blanks, so a directive with blanks before
it rarely says what it seems to.
-/

namespace TouchOverlay

/-- A value by its name, and the pattern that it has to fit. -/
structure FieldFilter where
  name : String
  value : Option String := none
deriving DecidableEq, Inhabited

/-- The level for what lies in a target and a span and has a value. -/
structure LogDirective where
  target : Option String := none
  span : Option String := none
  field : Option FieldFilter := none
  level : LogLevel := .trace
deriving DecidableEq, Inhabited

/-- Why a text is no directive. -/
inductive DirectiveFault
  | malformed
  | unknownLevel
  | unusablePattern (why : PatternFault)
  /-- A part would begin or end inside a character. -/
  | splitCharacter
deriving DecidableEq, Inhabited

def DirectiveFault.message : DirectiveFault → String
  | malformed => "invalid filter directive"
  | unknownLevel => "error parsing level filter: expected one of " ++
      String.intercalate ", " (LogLevel.all.map fun l => Text.quoted l.name) ++ ", or a number 0-5"
  | unusablePattern why => "invalid field filter: " ++ why.message
  | splitCharacter => "byte index is not a character boundary"

namespace FieldFilter

/-- Whether a text is a power of ten: nothing, or a letter and digits after an optional sign. -/
def isPower : List Char → Bool
  | [] => true
  | c :: cs =>
    let digits := if cs.head? ∈ [some '+', some '-'] then cs.tail else cs
    (c = 'e' || c = 'E') && !digits.isEmpty && digits.all Char.isDigit

/-- Whether a text without a sign is a number: digits with at most one point, and a power of ten. -/
def isNumber (cs : List Char) : Bool :=
  let (whole, rest) := cs.span Char.isDigit
  let (fraction, rest) := match rest with
    | '.' :: rest => rest.span Char.isDigit
    | _ => ([], rest)
  ["inf", "infinity", "nan"].any (Text.sameIgnoringCase · (String.ofList cs)) ||
    !(whole ++ fraction).isEmpty && isPower rest

/-- Why nothing can be compared with a value: it is no number after a plus sign, and its pattern
cannot be used. -/
def valueFault? : List Char → Option PatternFault
  | '+' :: cs => if isNumber cs then none else Pattern.fault? ('+' :: cs)
  | cs => Pattern.fault? cs

/-- Reads a name and, after an equals sign, a value. What follows a second one is dropped. -/
def parse (s : String) : Except DirectiveFault FieldFilter :=
  match s.toList.span (· ≠ '=') with
  | (name, []) => .ok { name := String.ofList name }
  | (name, _ :: rest) =>
    let value := rest.takeWhile (· ≠ '=')
    match valueFault? value with
    | some why => .error (.unusablePattern why)
    | none => .ok { name := String.ofList name, value := some (String.ofList value) }

end FieldFilter

namespace LogDirective

/-- Characters that a directive without a bracket may begin with. -/
def isLeading (c : Char) : Bool := c ∈ ['-', ':', '_'] || Text.isAlphanumeric c

/-- The part of a directive that is being read, with the place where it begins. -/
inductive Part
  | start
  | word
  | span (start : Nat)
  | field (start : Nat)
  | fieldEnd
  | spanEnd
  | level (start : Nat)
deriving DecidableEq, Inhabited

/-- The text between two places. -/
def cut (text : List Char) (start stop : Nat) : Except DirectiveFault String :=
  match Text.slice? start stop text with
  | some cs => .ok (String.ofList cs)
  | none => .error .splitCharacter

/-- Reads the character at a place. -/
def step (text : List Char) (place : Nat) (c : Char) (d : LogDirective) :
    Part → Except DirectiveFault (Part × LogDirective)
  | .start =>
    if c = '[' then .ok (.span (place + 1), d)
    else if isLeading c then .ok (.word, d)
    else .error .malformed
  | .word =>
    if c = '=' then do .ok (.level (place + 1), { d with target := some (← cut text 0 place) })
    else if c = '[' then do .ok (.span (place + 1), { d with target := some (← cut text 0 place) })
    else .ok (.word, d)
  | .span start =>
    if c = ']' then do .ok (.spanEnd, { d with span := some (← cut text start place) })
    else if c = '{' then do
      let name ← cut text start place
      .ok (.field (place + 1), { d with span := if name = "" then none else some name })
    else .ok (.span start, d)
  | .field start =>
    if c = '}' then do
      let field ← cut text start place
      if field = "" then .error .malformed
      else .ok (.fieldEnd, { d with field := some (← FieldFilter.parse field) })
    else .ok (.field start, d)
  | .fieldEnd => if c = ']' then .ok (.spanEnd, d) else .error .malformed
  | .spanEnd => if c = '=' then .ok (.level (place + 1), d) else .error .malformed
  | .level start => .ok (.level start, d)

/-- What a directive says once it has been read: a word alone is a level if it names one, and else a
target. Without a level all is logged. -/
def finish (text : List Char) (d : LogDirective) : Part → Except DirectiveFault LogDirective
  | .word =>
    let word := String.ofList text
    match LogLevel.parse? word with
    | some level => .ok { d with level }
    | none => .ok { d with target := some word }
  | .level start => do
    let name ← cut text start (Text.byteLength text)
    if name = "" then .ok d
    else match LogLevel.parse? name with
      | some level => .ok { d with level }
      | none => .error .unknownLevel
  | .spanEnd => .ok d
  | _ => .error .malformed

/-- Reads on from a place. -/
def scan (text : List Char) (place : Nat) (part : Part) (d : LogDirective) :
    List Char → Except DirectiveFault LogDirective
  | [] => finish text d part
  | c :: cs => do
    let (part, d) ← step text place c d part
    scan text (place + c.utf8Size) part d cs

/-- Reads a directive. -/
def parse (s : String) : Except DirectiveFault LogDirective :=
  scan s.toList 0 .start {} (Text.trimBlanks s.toList)

/-- Whether a directive decides about lines outside all spans, by their names alone. -/
def isStatic (d : LogDirective) : Bool := d.span.isNone && d.field.all (·.value.isNone)

/-- Whether a directive is about a line: the target begins as it says, and the value is there. -/
def fits (d : LogDirective) (l : LogLine) : Bool :=
  d.isStatic && d.target.all (fun t => t.toList.isPrefixOf l.target.toList) &&
    d.field.all fun f => f.name ∈ l.entry.names

/-- How much of a target a directive asks for. -/
def reach (d : LogDirective) : Nat :=
  match d.target with
  | some t => t.length + 1
  | none => 0

/-- Whether a directive goes before another one that fits the same line: it asks for more of the
target, or else for a value, or else for one with a later name. -/
def outranks (a b : LogDirective) : Bool :=
  if a.reach = b.reach then
    match a.field, b.field with
    | some x, some y => y.name < x.name
    | some _, none => true
    | none, _ => false
  else b.reach < a.reach

end LogDirective

end TouchOverlay
