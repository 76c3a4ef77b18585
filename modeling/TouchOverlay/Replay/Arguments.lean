/-!
# Arguments of the replay program

Two options with values, the scenario and the settings file, which the environment can give
instead, and two flags. An option may be given once, with its value after an equals sign or as the
next argument.
-/

namespace TouchOverlay.Replay

/-- What the arguments ask for. -/
inductive Command
  | run (scenario settings : String)
  | version
  | help
  /-- The arguments are not understood. -/
  | misuse
deriving DecidableEq, Inhabited

/-- The options that have been given. -/
structure Options where
  scenario : Option String := none
  settings : Option String := none
deriving DecidableEq, Inhabited

/-- Values of environment variables. -/
abbrev Environment := String → Option String

namespace Options

/-- Sets an option that has not been given yet to a value that is not empty. -/
def set? (o : Options) (name value : String) : Option Options :=
  if value = "" then none
  else if name = "scenario" ∧ o.scenario.isNone then some { o with scenario := some value }
  else if name = "config" ∧ o.settings.isNone then some { o with settings := some value }
  else none

/-- The command, once all arguments are read: the environment stands in for options that are not
given, and no value is empty. -/
def command (env : Environment) (o : Options) : Command :=
  let scenario := o.scenario.or (env "OVERLAY_SCENARIO")
  let settings := (o.settings.or (env "OVERLAY_CONFIG")).getD "overlay.toml"
  match scenario with
  | some s => if s = "" ∨ settings = "" then .misuse else .run s settings
  | none => .misuse

end Options

/-- Whether an argument can be the value of the option before it. -/
def isValue (s : String) : Bool := s = "-" || s.toList.head? != some '-'

/-- The name and value of an argument with an equals sign. -/
def assignment? (s : String) : Option (String × String) :=
  match s.toList with
  | '-' :: '-' :: cs =>
    match cs.span (· ≠ '=') with
    | (name, _ :: value) => some (String.ofList name, String.ofList value)
    | _ => none
  | _ => none

/-- Reads the arguments from left to right. -/
def scan (env : Environment) : Options → List String → Command
  | o, [] => o.command env
  | o, ["--"] => o.command env
  | o, arg :: rest =>
    match arg.toList with
    | '-' :: 'h' :: _ => .help
    | '-' :: 'V' :: _ => .version
    | _ =>
      if arg = "--help" then .help
      else if arg = "--version" then .version
      else
        match assignment? arg with
        | some (name, value) =>
          match o.set? name value with
          | some o => scan env o rest
          | none => .misuse
        | none =>
          match arg.toList, rest with
          | '-' :: '-' :: name, value :: rest =>
            if isValue value then
              match o.set? (String.ofList name) value with
              | some o => scan env o rest
              | none => .misuse
            else .misuse
          | _, _ => .misuse

/-- What the arguments ask for. -/
def Command.ofArguments (env : Environment) (args : List String) : Command := scan env {} args

end TouchOverlay.Replay
