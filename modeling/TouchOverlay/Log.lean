import TouchOverlay.Numeric.Style
import TouchOverlay.Output

/-!
# Log lines

Every event that a logging bridge receives becomes one entry: what happened, and its values by name.
A single value is written as the equal double precision number, a position in single precision.
-/

namespace TouchOverlay

/-- What a line of the log says: a message, and named values. -/
structure LogEntry where
  message : String
  values : List (String × String) := []
deriving DecidableEq, Inhabited

namespace LogEntry

/-- The message, and after it each name and value with an equals sign between them. -/
def text (e : LogEntry) : String :=
  e.values.foldl (fun s (name, value) => s ++ " " ++ name ++ "=" ++ value) e.message

/-- What a filter can ask for by name; the message is one of the values. -/
def names (e : LogEntry) : List String := "message" :: e.values.map (·.1)

end LogEntry

/-- An entry of the log, and the part of the program that wrote it. -/
structure LogLine where
  target : String
  entry : LogEntry
deriving DecidableEq, Inhabited

/-- A line as it is printed, without the time. -/
def LogLine.render (l : LogLine) : String := s!"INFO {l.target}: {l.entry.text}"

namespace Log

/-- A number, given the decimal to write if it is finite. -/
def numberText (decimal : Float32 → Numeric.Decimal) (x : Float32) : String :=
  if x.isNaN then "NaN"
  else if x.isInf then (if x.signBit then "-inf" else "inf")
  else String.ofList ((decimal x).text Numeric.NumberStyle.messages)

/-- A number of its own. -/
def valueText : Float32 → String := numberText (Numeric.wideDecimal Numeric.NumberStyle.messages.tie)

/-- A coordinate of a position. -/
def coordinateText : Float32 → String :=
  numberText (Numeric.singleDecimal Numeric.NumberStyle.messages.tie)

/-- Where a mouse button is pressed or released. -/
def positionText : MousePosition → String
  | .relative dx dy => s!"Relative \x7b dx: {coordinateText dx}, dy: {coordinateText dy} \x7d"
  | .absolute x y => s!"Absolute \x7b x: {coordinateText x}, y: {coordinateText y} \x7d"

/-- The entry for an event. -/
def ofEvent : OutputEvent → LogEntry
  | .key scancode down => ⟨"key", [("scancode", toString scancode), ("is_down", toString down)]⟩
  | .mouse button down position =>
    ⟨"mouse button", [("button", button.name), ("is_down", toString down),
      ("position", positionText position)]⟩
  | .wheel delta => ⟨"mouse wheel", [("delta_y", valueText delta)]⟩
  | .gamepad button down =>
    ⟨"gamepad button", [("button", button.name), ("is_down", toString down)]⟩
  | .trigger t value => ⟨"gamepad trigger", [("trigger", t.name), ("value", valueText value)]⟩
  | .moveBy dx dy => ⟨"relative mouse move", [("dx", valueText dx), ("dy", valueText dy)]⟩
  | .moveTo x y => ⟨"absolute mouse move", [("x", valueText x), ("y", valueText y)]⟩
  | .vibrate milliseconds amplitude =>
    ⟨"vibrate", [("duration_ms", toString milliseconds), ("amplitude", toString amplitude)]⟩
  | .openTextInput => ⟨"open text input", []⟩

end Log

end TouchOverlay
