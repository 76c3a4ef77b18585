import TouchOverlay.Json

/-!
# Writing JSON

Values are written without blanks. A string escapes quotes, backslashes and control characters; a
number is written as an integer or in the style of documents.
-/

namespace TouchOverlay.Json

/-- The escaped form of one character of a string. -/
def escapeChar (c : Char) : List Char :=
  if c = '"' then ['\\', '"']
  else if c = '\\' then ['\\', '\\']
  else if c = '\x08' then ['\\', 'b']
  else if c = '\x0c' then ['\\', 'f']
  else if c = '\n' then ['\\', 'n']
  else if c = '\r' then ['\\', 'r']
  else if c = '\t' then ['\\', 't']
  else if c.toNat < 32 then ['\\', 'u'] ++ Text.fixedHex 4 c.toNat
  else [c]

def renderString (s : String) : List Char := '"' :: s.toList.flatMap escapeChar ++ ['"']

def renderNumber (n : Numeral) : List Char :=
  if n.integral then (if n.decimal.negative then ['-'] else []) ++ Text.natDigits n.decimal.digits
  else n.decimal.text Numeric.NumberStyle.documents

mutual

/-- The characters of a value. What is malformed has no written form. -/
def render : Json → List Char
  | null => ['n', 'u', 'l', 'l']
  | bool true => ['t', 'r', 'u', 'e']
  | bool false => ['f', 'a', 'l', 's', 'e']
  | number n => renderNumber n
  | string s => renderString (s.getD "")
  | array items => '[' :: renderItems items ++ [']']
  | object members => '{' :: renderMembers members ++ ['}']
  | malformed => []

def renderItems : List Json → List Char
  | [] => []
  | [v] => render v
  | v :: vs => render v ++ ',' :: renderItems vs

def renderMembers : List (Option String × Json) → List Char
  | [] => []
  | [(k, v)] => renderString (k.getD "") ++ ':' :: render v
  | (k, v) :: ms => renderString (k.getD "") ++ ':' :: render v ++ ',' :: renderMembers ms

end

def write (v : Json) : String := String.ofList v.render

end TouchOverlay.Json
