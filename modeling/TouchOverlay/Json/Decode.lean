import TouchOverlay.Json

/-!
# Typed readings of JSON

What a JSON value means as a boolean, an integer, a number, a string, one of several words, or a
record. A record is an object whose known names occur at most once, or an array of its fields in
order; a reading meets its faults in the order of the text.
-/

namespace TouchOverlay.Json

def bool? : Json → Option Bool
  | bool b => some b
  | _ => none

def string? : Json → Option String
  | string s => s
  | _ => none

/-- An integer between two bounds. -/
def int? (least greatest : Int) : Json → Option Int
  | number n => n.int?.filter fun i => least ≤ i && i ≤ greatest
  | _ => none

def uint64? (j : Json) : Option UInt64 :=
  (j.int? 0 0xffffffffffffffff).map fun i => UInt64.ofNat i.toNat

def uint32? (j : Json) : Option UInt32 :=
  (j.int? 0 0xffffffff).map fun i => UInt32.ofNat i.toNat

def uint8? (j : Json) : Option UInt8 := (j.int? 0 255).map fun i => UInt8.ofNat i.toNat

def single? : Json → Option Float32
  | number n => if n.isInRange then some n.toSingle else none
  | _ => none

/-- A word: a string, or an object whose only member has that name and is `null`. -/
def word? : Json → Option String
  | string s => s
  | object [(k, null)] => k
  | _ => none

/-- The values of an array, each read in turn. -/
def arrayM {ε α : Type} (fault : ε) (item : Json → Except ε α) : Json → Except ε (List α)
  | array items => items.mapM item
  | _ => .error fault

/-! ## Records -/

variable {ε : Type} (fault : ε) (names : List String) (check : String → Json → Except ε Unit)

/-- The known members of an object, each checked in turn and none of them repeated. Other members
are skipped. -/
def namedFields : List String → List (Option String × Json) → Except ε (List (String × Json))
  | _, [] => .ok []
  | _, (none, _) :: _ => .error fault
  | seen, (some k, v) :: ms =>
    if k ∈ names then
      if k ∈ seen then .error fault
      else do
        check k v
        let rest ← namedFields (k :: seen) ms
        .ok ((k, v) :: rest)
    else if v.isMalformed then .error fault
    else namedFields seen ms

/-- The items of an array as the fields of a record, each checked in turn. -/
def positionalFields : List String → List Json → Except ε (List (String × Json))
  | _, [] => .ok []
  | [], _ :: _ => .error fault
  | k :: ks, v :: vs => do
    check k v
    let rest ← positionalFields ks vs
    .ok ((k, v) :: rest)

/-- The fields of a record that are present. -/
def fields : Json → Except ε (List (String × Json))
  | object members => namedFields fault names check [] members
  | array items => positionalFields fault check names items
  | _ => .error fault

/-- The fields of a record that are present, unchecked. -/
def fields? (names : List String) (j : Json) : Option (List (String × Json)) :=
  (j.fields () names fun _ _ => .ok ()).toOption

/-- A field that must be present. -/
def required {α : Type} (fs : List (String × Json)) (name : String) (read : Json → Option α) :
    Option α :=
  (fs.lookup name).bind read

/-- A field that has a default. -/
def optional {α : Type} (fs : List (String × Json)) (name : String) (default : α)
    (read : Json → Option α) : Option α :=
  match fs.lookup name with
  | some v => read v
  | none => some default

end TouchOverlay.Json
