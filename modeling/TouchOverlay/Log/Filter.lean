import TouchOverlay.Log.Directive

/-!
# Log filters

A filter is a list of directives with commas between them. Of those that fit a line the one that
asks for most decides, and of equal ones the last. Without any directive only errors are logged.
-/

namespace TouchOverlay

/-- The directives in force. -/
structure LogFilter where
  directives : List LogDirective
deriving DecidableEq, Inhabited

namespace LogFilter

def pieces (s : String) : List String := (s.splitOn ",").filter (· ≠ "")

/-- A filter of directives; without any, of errors only. -/
def ofDirectives (ds : List LogDirective) : LogFilter :=
  ⟨if ds.isEmpty then [{ level := .error }] else ds⟩

/-- Reads a filter, unless one of its directives is faulty. -/
def parse (s : String) : Except DirectiveFault LogFilter :=
  ((pieces s).mapM LogDirective.parse).map ofDirectives

/-- The directives among some texts, and a complaint about each faulty one; nothing if one of them
would split a character. -/
def collect? : List String → Option (List LogDirective × List String)
  | [] => some ([], [])
  | s :: rest =>
    match LogDirective.parse s with
    | .ok d => (collect? rest).map fun (ds, complaints) => (d :: ds, complaints)
    | .error .splitCharacter => none
    | .error e =>
      (collect? rest).map fun (ds, complaints) =>
        (ds, ("ignoring `" ++ s ++ "`: " ++ e.message) :: complaints)

/-- Reads a filter without its faulty directives, and complains about them. -/
def parseLossy? (s : String) : Option (LogFilter × List String) :=
  (collect? (pieces s)).map fun (ds, complaints) => (ofDirectives ds, complaints)

/-- The directive that decides about a line. -/
def directiveFor? (f : LogFilter) (l : LogLine) : Option LogDirective :=
  let better := fun (best : Option LogDirective) (d : LogDirective) =>
    if best.any (·.outranks d) then best else some d
  (f.directives.filter (·.fits l)).foldl better none

/-- The level for a line. -/
def levelFor (f : LogFilter) (l : LogLine) : LogLevel :=
  ((f.directiveFor? l).map (·.level)).getD .off

def shows (f : LogFilter) (l : LogLine) : Bool := (f.levelFor l).showsInfo

end LogFilter

end TouchOverlay
