import TouchOverlay.Text.Number
import TouchOverlay.Text.Quoted

/-!
# Log levels

How much is logged, from nothing to everything; each level includes those before it.
-/

namespace TouchOverlay

/-- How much is logged. -/
inductive LogLevel
  | off
  | error
  | warn
  | info
  | debug
  | trace
deriving DecidableEq, Inhabited

namespace LogLevel

def all : List LogLevel := [off, error, warn, info, debug, trace]

def name : LogLevel → String
  | off => "off"
  | error => "error"
  | warn => "warn"
  | info => "info"
  | debug => "debug"
  | trace => "trace"

/-- A level by its name in any case, or by its number after an optional plus sign. -/
def parse? (s : String) : Option LogLevel :=
  let digits := match s.toList with
    | '+' :: cs => cs
    | cs => cs
  (all.find? fun l => Text.sameIgnoringCase l.name s).or
    ((Text.readNat? digits).bind fun n => all[n]?)

/-- Whether information is logged. -/
def showsInfo : LogLevel → Bool
  | info | debug | trace => true
  | _ => false

end LogLevel

end TouchOverlay
