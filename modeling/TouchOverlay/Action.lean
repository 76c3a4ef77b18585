import TouchOverlay.Scancode

/-!
# Action codes

What a control does is stored as a signed 32-bit integer. Nonnegative codes are keyboard scancodes;
the negative ones are mouse buttons (-1 to -3), wheel notches (-4, -5), the on-screen text input
(-100), gamepad buttons (-200 to -214) and analog triggers (-220, -221). Any other code is kept as
it is and does nothing. `ActionCode.ofRaw` decodes and `ActionCode.raw` encodes. An action is also
written as a name, by `ActionCode.display`, and read from one, by `ActionCode.parse`.
-/

namespace TouchOverlay

inductive MouseButton
  | left
  | right
  | middle
deriving DecidableEq, Inhabited

namespace MouseButton

def name : MouseButton → String
  | left => "Left"
  | right => "Right"
  | middle => "Middle"

def leftCode : Int32 := -1

def rightCode : Int32 := -2

def middleCode : Int32 := -3

def code : MouseButton → Int32
  | left => leftCode
  | right => rightCode
  | middle => middleCode

end MouseButton

inductive WheelDirection
  | up
  | down
deriving DecidableEq, Inhabited

namespace WheelDirection

def name : WheelDirection → String
  | up => "Up"
  | down => "Down"

/-- The vertical wheel movement of one notch; up is positive. -/
def delta : WheelDirection → Float32
  | up => 1
  | down => -1

def upCode : Int32 := -4

def downCode : Int32 := -5

def code : WheelDirection → Int32
  | up => upCode
  | down => downCode

end WheelDirection

inductive GamepadButton
  | a
  | b
  | x
  | y
  | back
  | guide
  | start
  | leftStick
  | rightStick
  | leftShoulder
  | rightShoulder
  | dpadUp
  | dpadDown
  | dpadLeft
  | dpadRight
deriving DecidableEq, Inhabited

namespace GamepadButton

/-- Every button, in the order of their codes from `firstCode` down. -/
def all : List GamepadButton :=
  [a, b, x, y, back, guide, start, leftStick, rightStick, leftShoulder, rightShoulder, dpadUp,
    dpadDown, dpadLeft, dpadRight]

def name : GamepadButton → String
  | a => "A"
  | b => "B"
  | x => "X"
  | y => "Y"
  | back => "Back"
  | guide => "Guide"
  | start => "Start"
  | leftStick => "LeftStick"
  | rightStick => "RightStick"
  | leftShoulder => "LeftShoulder"
  | rightShoulder => "RightShoulder"
  | dpadUp => "DpadUp"
  | dpadDown => "DpadDown"
  | dpadLeft => "DpadLeft"
  | dpadRight => "DpadRight"

/-- The name of the button as an action. -/
def actionName (button : GamepadButton) : String := "Gamepad" ++ button.name

def firstCode : Int32 := -200

def lastCode : Int32 := -214

/-- Codes go down from `firstCode` in the order in which the buttons are declared. -/
def code (button : GamepadButton) : Int32 := firstCode - Int32.ofNat button.ctorIdx

/-- The button with a code. -/
def ofCode? (code : Int32) : Option GamepadButton :=
  if lastCode ≤ code ∧ code ≤ firstCode then all[(firstCode - code).toNatClampNeg]? else none

/-- The button with a name as an action, in any ASCII case. -/
def ofName? (name : String) : Option GamepadButton :=
  all.find? (Text.sameIgnoringCase ·.actionName name)

end GamepadButton

inductive Trigger
  | left
  | right
deriving DecidableEq, Inhabited

namespace Trigger

def name : Trigger → String
  | left => "Left"
  | right => "Right"

def leftCode : Int32 := -220

def rightCode : Int32 := -221

def code : Trigger → Int32
  | left => leftCode
  | right => rightCode

end Trigger

/-- What a control does. -/
inductive ActionCode
  | key (scancode : UInt32)
  | textInput
  | mouse (button : MouseButton)
  | wheel (direction : WheelDirection)
  | gamepad (button : GamepadButton)
  | trigger (trigger : Trigger)
  | unmapped (code : Int32)
deriving DecidableEq, Inhabited

namespace ActionCode

def textInputCode : Int32 := -100

/-- The stored integer. A scancode beyond the signed range is clamped to the largest integer. -/
def raw : ActionCode → Int32
  | key scancode => if scancode ≤ 0x7fffffff then scancode.toInt32 else 0x7fffffff
  | textInput => textInputCode
  | mouse button => button.code
  | wheel direction => direction.code
  | gamepad button => button.code
  | trigger t => t.code
  | unmapped code => code

/-- The action that a stored integer means. -/
def ofRaw (code : Int32) : ActionCode :=
  if 0 ≤ code then key code.toUInt32
  else if code = textInputCode then textInput
  else if code = MouseButton.leftCode then mouse .left
  else if code = MouseButton.rightCode then mouse .right
  else if code = MouseButton.middleCode then mouse .middle
  else if code = WheelDirection.upCode then wheel .up
  else if code = WheelDirection.downCode then wheel .down
  else if code = Trigger.leftCode then trigger .left
  else if code = Trigger.rightCode then trigger .right
  else
    match GamepadButton.ofCode? code with
    | some button => gamepad button
    | none => unmapped code

def isTextInput : ActionCode → Bool
  | textInput => true
  | _ => false

/-- Whether the action injects anything. -/
def isDispatchable : ActionCode → Bool
  | textInput => false
  | unmapped _ => false
  | _ => true

/-- The written form: a name, or the number of a key or code without one. -/
def display : ActionCode → String
  | key scancode => ((Scancode.ofCode? scancode).map (·.name)).getD
      (String.ofList (Text.natDigits scancode.toNat))
  | textInput => "TextInput"
  | mouse button => "Mouse" ++ button.name
  | wheel direction => "Wheel" ++ direction.name
  | gamepad button => button.actionName
  | trigger t => "Trigger" ++ t.name
  | unmapped code => String.ofList (Text.intDigits code.toInt)

/-- An integer in the range of action codes. -/
def readRaw? (s : String) : Option Int32 :=
  (Text.readInt? s.toList).bind fun n =>
    if Int32.minValue.toInt ≤ n ∧ n ≤ Int32.maxValue.toInt then some (Int32.ofInt n) else none

/-- The action with a name in lower case, if it is neither a gamepad button nor a key. -/
def ofLowerName? : String → Option ActionCode
  | "textinput" | "keyboard" => some textInput
  | "mouseleft" => some (mouse .left)
  | "mouseright" => some (mouse .right)
  | "mousemiddle" => some (mouse .middle)
  | "wheelup" => some (wheel .up)
  | "wheeldown" => some (wheel .down)
  | "triggerleft" => some (trigger .left)
  | "triggerright" => some (trigger .right)
  | _ => none

/-- The action with a name, in any ASCII case. -/
def ofName? (name : String) : Option ActionCode :=
  (ofLowerName? name.toLower).or <| ((GamepadButton.ofName? name).map gamepad).or <|
    (Scancode.ofName? name).map fun s => key s.code

end ActionCode

/-- A text that names no action: the text without the blanks around it. -/
structure UnknownAction where
  name : String
deriving DecidableEq, Inhabited

/-- The sentence that reports an unknown action name. -/
def UnknownAction.message (e : UnknownAction) : String :=
  "unknown action name: " ++ Text.quoted e.name

/-- Reads an action from an integer or a name, with blanks around it. -/
def ActionCode.parse (s : String) : Except UnknownAction ActionCode :=
  let name := Text.trim s
  match ActionCode.readRaw? name with
  | some code => .ok (ActionCode.ofRaw code)
  | none => ((ActionCode.ofName? name).map Except.ok).getD (.error ⟨name⟩)

end TouchOverlay
