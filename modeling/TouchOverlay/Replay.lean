import TouchOverlay.EventLoop
import TouchOverlay.Log.Filter
import TouchOverlay.Replay.Arguments
import TouchOverlay.Settings

/-!
# The replay program

Replays the touches of a scenario through a surface and logs what comes out. Files, environment and
arguments are given as values, and the answer is the lines to print with the exit code; the touches
are replayed on a clock of their own, so the answer does not depend on the machine.
-/

namespace TouchOverlay.Replay

/-- What a run prints on the standard output and on the standard error, and its exit code. -/
structure Report where
  exit : UInt8 := 0
  output : List String := []
  complaints : List String := []
deriving DecidableEq, Inhabited

/-- The parts of the program, as the log names them. -/
def programTarget : String := "overlay_replay"

/-- The surface, as the log names it. -/
def surfaceTarget : String := "overlay_client::application::surface"

/-- The event loop, as the log names it. -/
def loopTarget : String := "overlay_client::infrastructure::event_loop"

/-- The bridge, as the log names it. -/
def bridgeTarget : String := "overlay_client::infrastructure::injection::logging"

/-- What the environment gives for an option, as the help text shows it. -/
def environmentNote (env : Environment) (name : String) : String :=
  "[env: " ++ name ++ "=" ++ (env name).getD "" ++ "]"

/-- The text for a call for help. -/
def helpText (env : Environment) : List String :=
  ["Replay a recorded touch trace through the virtual control overlay",
    "",
    "Usage: overlay-replay [OPTIONS] --scenario <SCENARIO>",
    "",
    "Options:",
    "      --scenario <SCENARIO>  JSON scenario with the surface size, controls and touch events " ++
      environmentNote env "OVERLAY_SCENARIO",
    "      --config <CONFIG>      TOML configuration.  Defaults are used if the file does not exist " ++
      environmentNote env "OVERLAY_CONFIG" ++ " [default: overlay.toml]",
    "  -h, --help                 Print help",
    "  -V, --version              Print version"]

def versionText : List String := ["overlay-replay 0.1.0"]

/-- The lines for events that reach the bridge. -/
def bridgeLines (es : List OutputEvent) : List LogLine :=
  es.map fun e => ⟨bridgeTarget, Log.ofEvent e⟩

/-- The line for the state of a control at the end. -/
def statusLine (s : ControlStatus) : LogLine :=
  ⟨programTarget, "final control state", [("control", toString s.id), ("name", s.name),
    ("kind", Text.quoted s.kind), ("state", toString s.state)]⟩

/-- The line at the start. -/
def startLine (s : Scenario) : LogLine :=
  ⟨programTarget, "overlay-replay starting",
    [("controls", toString s.controls.length), ("events", toString s.events.length)]⟩

/-- The touches of a scenario as commands for the event loop. -/
def commands (s : Scenario) : List (Arrival SurfaceCommand) :=
  Arrival.inOrder 0 (s.events.map fun e => ⟨e.time, .touch e⟩)

/-- The lines of a replay on the scenario's surface. -/
def replayLines (sv : Services) (s : Scenario) (surface : Surface) : List LogLine :=
  let cs := commands s
  let l := EventLoop.run sv (fun _ => true) surface cs ((cs.getLast?.map (·.time)).getD 0)
  let replayed := sv.outputs l.issued
  let released := sv.outputs l.surface.shutdown.issued
  let injected := ((replayed ++ released).filter OutputEvent.isInput).length
  let counts := [("touches", toString l.stats.touches), ("consumed", toString l.stats.consumed),
    ("timers", toString l.stats.timersFired)]
  [⟨surfaceTarget, "layout replaced", [("controls", toString surface.controls.length)]⟩,
    ⟨loopTarget, "surface event loop started", []⟩] ++
  bridgeLines replayed ++ [⟨loopTarget, "surface event loop stopped", counts⟩] ++
  l.surface.status.map statusLine ++ bridgeLines released ++
  [⟨surfaceTarget, "control surface shut down", []⟩,
    ⟨programTarget, "overlay-replay finished", counts ++ [("injected", toString injected)]⟩]

/-- Replays a scenario with given settings, logging what the filter shows. -/
def replay (ids : IdSource) (settings : Settings) (filter : LogFilter) (path : String)
    (file : FileContent) : Report :=
  let printed := fun ls : List LogLine => (ls.filter filter.shows).map LogLine.render
  match Scenario.load ids file with
  | .error _ => { exit := 1, complaints := [s!"Error: loading scenario from {path}"] }
  | .ok s =>
    match s.buildSurface with
    | .error _ =>
      { exit := 1
        output := printed [startLine s]
        complaints := ["Error: building control surface"] }
    | .ok surface => { output := printed (startLine s :: replayLines settings.services s surface) }

/-- The filter that is in force, with complaints about it: that of the environment, if it has a
faultless one, and else what is right in that of the settings. Nothing if a directive would split a
character. -/
def filterFor? (env : Environment) (settings : Settings) : Option (LogFilter × List String) :=
  match (env "RUST_LOG").map LogFilter.parse with
  | some (.ok f) => some (f, [])
  | some (.error .splitCharacter) => none
  | _ => LogFilter.parseLossy? settings.logLevel

def run (ids : IdSource) (env : Environment) (files : String → FileContent) (args : List String) :
    Report :=
  match Command.ofArguments env args with
  | .misuse => { exit := 2 }
  | .help => { output := helpText env }
  | .version => { output := versionText }
  | .run scenario settings =>
    match Settings.load (files settings) with
    | .error _ => { exit := 1, complaints := [s!"Error: loading config from {settings}"] }
    | .ok s =>
      match filterFor? env s with
      | none => { exit := 101 }
      | some (filter, complaints) =>
        let report := replay ids s filter scenario (files scenario)
        { report with complaints := complaints ++ report.complaints }

end TouchOverlay.Replay
