import TouchOverlay.Json.Decode
import TouchOverlay.Scenario
import TouchOverlay.Services
import TouchOverlay.Toml.Reader
import TouchOverlay.Toml.Writer

/-!
# Settings

The settings of the overlay are stored as TOML. Every setting has a default, so a file that is
empty or missing gives working settings. Settings that are read from a file are validated, and the
first one out of its range is named; settings that are written are not.
-/

namespace TouchOverlay

/-- Times and distances of gestures. -/
structure GestureSettings where
  idleTimeout : Millis := 200
  clickTimeout : Millis := 50
  /-- In device-independent units. -/
  moveThreshold : Float32 := 5
  moveRatio : Float32 := 2
deriving BEq, Inhabited

structure DisplaySettings where
  /-- Pixels per device-independent unit. -/
  density : Float32 := 1
deriving BEq, Inhabited

structure HapticSettings where
  enabled : Bool := true
  milliseconds : UInt32 := 50
  amplitude : UInt8 := 30
deriving BEq, Inhabited

structure Settings where
  /-- Which messages are logged, unless the environment says otherwise. -/
  logLevel : String := "info"
  gesture : GestureSettings := {}
  display : DisplaySettings := {}
  haptics : HapticSettings := {}
deriving BEq, Inhabited

/-- A setting that is out of its range. -/
inductive InvalidSetting
  | density
  | moveRatio
  | moveThreshold
  | idleTimeout
deriving DecidableEq, Inhabited

namespace InvalidSetting

def field : InvalidSetting → String
  | density => "display.density"
  | moveRatio => "gesture.move_ratio"
  | moveThreshold => "gesture.move_threshold_dp"
  | idleTimeout => "gesture.idle_timeout_ms"

def reason : InvalidSetting → String
  | density => "must be a positive number"
  | moveRatio => "must be a positive number"
  | moveThreshold => "must not be negative"
  | idleTimeout => "must be greater than zero"

/-- The sentence that reports the setting. -/
def message (e : InvalidSetting) : String := s!"invalid config value for {e.field}: {e.reason}"

end InvalidSetting

/-- Why settings cannot be read or written. -/
inductive SettingsError
  | io
  | parse
  | serialize
  | invalid (e : InvalidSetting)
deriving DecidableEq, Inhabited

namespace Settings

/-! ## Meaning -/

/-- The first setting that is out of its range. -/
def fault? (s : Settings) : Option InvalidSetting :=
  if !(s.display.density.isFinite && 0 < s.display.density) then some .density
  else if !(s.gesture.moveRatio.isFinite && 0 < s.gesture.moveRatio) then some .moveRatio
  else if !(s.gesture.moveThreshold.isFinite && 0 ≤ s.gesture.moveThreshold) then
    some .moveThreshold
  else if s.gesture.idleTimeout = 0 then some .idleTimeout
  else none

/-- Settings that are all in range. -/
def validate (s : Settings) : Except SettingsError Settings :=
  match s.fault? with
  | some e => .error (.invalid e)
  | none => .ok s

def haptic (s : Settings) : Option HapticPulse :=
  if s.haptics.enabled then some ⟨s.haptics.milliseconds, s.haptics.amplitude⟩ else none

/-- The services of a surface with these settings. -/
def services (s : Settings) : Services :=
  { haptic := s.haptic
    density := ⟨s.display.density⟩
    tuning :=
      { idleTimeout := s.gesture.idleTimeout
        clickTimeout := s.gesture.clickTimeout
        moveThreshold := s.gesture.moveThreshold
        moveRatio := s.gesture.moveRatio } }

/-! ## Names -/

def names : List String := ["log_level", "gesture", "display", "haptics"]

def gestureNames : List String :=
  ["idle_timeout_ms", "click_timeout_ms", "move_threshold_dp", "move_ratio"]

def displayNames : List String := ["density"]

def hapticNames : List String := ["enabled", "duration_ms", "amplitude"]

/-! ## TOML -/

def millis? (v : Toml) : Option Millis := (v.nat? 0xffffffffffffffff).map UInt64.ofNat

def gestureOfToml? (v : Toml) : Option GestureSettings := do
  let fs ← v.fields? gestureNames
  let idleTimeout ← Toml.optional fs "idle_timeout_ms" 200 millis?
  let clickTimeout ← Toml.optional fs "click_timeout_ms" 50 millis?
  let moveThreshold ← Toml.optional fs "move_threshold_dp" 5 Toml.single?
  let moveRatio ← Toml.optional fs "move_ratio" 2 Toml.single?
  some { idleTimeout, clickTimeout, moveThreshold, moveRatio }

def displayOfToml? (v : Toml) : Option DisplaySettings := do
  let fs ← v.fields? displayNames
  let density ← Toml.optional fs "density" 1 Toml.single?
  some { density }

def hapticsOfToml? (v : Toml) : Option HapticSettings := do
  let fs ← v.fields? hapticNames
  let enabled ← Toml.optional fs "enabled" true Toml.boolean?
  let milliseconds ← Toml.optional fs "duration_ms" 50 fun v =>
    (v.nat? 0xffffffff).map UInt32.ofNat
  let amplitude ← Toml.optional fs "amplitude" 30 fun v => (v.nat? 255).map UInt8.ofNat
  some { enabled, milliseconds, amplitude }

def ofToml? (v : Toml) : Option Settings := do
  let fs ← v.fields? names
  let logLevel ← Toml.optional fs "log_level" "info" Toml.string?
  let gesture ← Toml.optional fs "gesture" {} gestureOfToml?
  let display ← Toml.optional fs "display" {} displayOfToml?
  let haptics ← Toml.optional fs "haptics" {} hapticsOfToml?
  some { logLevel, gesture, display, haptics }

/-- Reads and validates settings. -/
def ofText (s : String) : Except SettingsError Settings :=
  match (Toml.read s).bind ofToml? with
  | some settings => settings.validate
  | none => .error .parse

/-- Reads and validates a settings file. One that is missing gives the defaults. -/
def load : FileContent → Except SettingsError Settings
  | .missing => validate {}
  | file =>
    match file.text? with
    | some s => ofText s
    | none => .error .io

def toEntries (s : Settings) : Toml.Entries :=
  [("log_level", .string s.logLevel),
    ("gesture", .table .header
      [("idle_timeout_ms", .integer s.gesture.idleTimeout.toNat),
        ("click_timeout_ms", .integer s.gesture.clickTimeout.toNat),
        ("move_threshold_dp", .float (.ofSingle s.gesture.moveThreshold)),
        ("move_ratio", .float (.ofSingle s.gesture.moveRatio))]),
    ("display", .table .header [("density", .float (.ofSingle s.display.density))]),
    ("haptics", .table .header
      [("enabled", .boolean s.haptics.enabled),
        ("duration_ms", .integer s.haptics.milliseconds.toNat),
        ("amplitude", .integer s.haptics.amplitude.toNat)])]

/-- Whether a time is within the integers of TOML. -/
def isWritable (t : Millis) : Bool := t.toNat < 0x8000000000000000

/-- Settings as text. A time beyond the integers of TOML cannot be written. -/
def toText (s : Settings) : Except SettingsError String :=
  if isWritable s.gesture.idleTimeout && isWritable s.gesture.clickTimeout then
    .ok (String.ofList (Toml.renderDocument s.toEntries))
  else .error .serialize

/-! ## JSON -/

def gestureOfJson? (j : Json) : Option GestureSettings := do
  let fs ← j.fields? gestureNames
  let idleTimeout ← Json.optional fs "idle_timeout_ms" 200 Json.uint64?
  let clickTimeout ← Json.optional fs "click_timeout_ms" 50 Json.uint64?
  let moveThreshold ← Json.optional fs "move_threshold_dp" 5 Json.single?
  let moveRatio ← Json.optional fs "move_ratio" 2 Json.single?
  some { idleTimeout, clickTimeout, moveThreshold, moveRatio }

def displayOfJson? (j : Json) : Option DisplaySettings := do
  let fs ← j.fields? displayNames
  let density ← Json.optional fs "density" 1 Json.single?
  some { density }

def hapticsOfJson? (j : Json) : Option HapticSettings := do
  let fs ← j.fields? hapticNames
  let enabled ← Json.optional fs "enabled" true Json.bool?
  let milliseconds ← Json.optional fs "duration_ms" 50 Json.uint32?
  let amplitude ← Json.optional fs "amplitude" 30 Json.uint8?
  some { enabled, milliseconds, amplitude }

def ofJson? (j : Json) : Option Settings := do
  let fs ← j.fields? names
  let logLevel ← Json.optional fs "log_level" "info" Json.string?
  let gesture ← Json.optional fs "gesture" {} gestureOfJson?
  let display ← Json.optional fs "display" {} displayOfJson?
  let haptics ← Json.optional fs "haptics" {} hapticsOfJson?
  some { logLevel, gesture, display, haptics }

end Settings

end TouchOverlay
