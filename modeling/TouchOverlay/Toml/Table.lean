import TouchOverlay.Toml

/-!
# Building TOML tables

The statements of a document, and the entries of an inline table, are put one after the other into
a table. A statement that would define a key twice, or that reaches into a value that is closed to
it, is refused.
-/

namespace TouchOverlay.Toml

/-- Entries of a table, in order. -/
abbrev Entries := List (String × Toml)

/-- Entries with a new value for a key. -/
def put (k : String) (v : Toml) : Entries → Entries
  | [] => [(k, v)]
  | (k', v') :: es => if k' = k then (k, v) :: es else (k', v') :: put k v es

/-- One line of a document, apart from blank lines and comments. -/
inductive Statement
  | entry (path : List String) (value : Toml)
  | table (path : List String)
  | tables (path : List String)

/-- Changes the table that a path leads to by header names: through tables that are not inline, and
into the last of repeated tables. Tables that are not there yet come about. -/
def alterAt (f : Entries → Option Entries) : List String → Entries → Option Entries
  | [], t => f t
  | k :: ks, t =>
    match t.lookup k with
    | none => (alterAt f ks []).map fun c => put k (.table .implicit c) t
    | some (.table form c) =>
      if form = .inline then none else (alterAt f ks c).map fun c => put k (.table form c) t
    | some (.tables items) =>
      match items.getLast? with
      | some (.table form c) =>
        (alterAt f ks c).map fun c => put k (.tables (items.dropLast ++ [.table form c])) t
      | _ => none
    | some _ => none

/-- Adds a value under a dotted key. The tables on the way are new or come from dotted keys too,
except that the last part may not stand in a table that only a header has named. -/
def addDotted (v : Toml) : List String → Entries → Option Entries
  | [], _ => none
  | [k], t => if (t.lookup k).isSome then none else some (t ++ [(k, v)])
  | k :: ks, t =>
    match t.lookup k with
    | none => (addDotted v ks []).map fun c => t ++ [(k, .table .dotted c)]
    | some (.table .dotted c) => (addDotted v ks c).map fun c => put k (.table .dotted c) t
    | some (.table .implicit c) =>
      if ks.length = 1 then none
      else (addDotted v ks c).map fun c => put k (.table .implicit c) t
    | some (.tables items) =>
      if ks.length = 1 then none
      else
        match items.getLast? with
        | some (.table form c) =>
          (addDotted v ks c).map fun c => put k (.tables (items.dropLast ++ [.table form c])) t
        | _ => none
    | some _ => none

/-- Opens the table of a header in its parent. -/
def openTable (k : String) (t : Entries) : Option Entries :=
  match t.lookup k with
  | none => some (t ++ [(k, .table .header [])])
  | some (.table .implicit c) => some (put k (.table .header c) t)
  | some _ => none

/-- Adds a table to the repeated ones of a header in its parent. -/
def openRepeated (k : String) (t : Entries) : Option Entries :=
  match t.lookup k with
  | none => some (t ++ [(k, .tables [.table .header []])])
  | some (.tables items) => some (put k (.tables (items ++ [.table .header []])) t)
  | some _ => none

/-- Carries out an operation on the last part of a path, in the table that the others lead to. -/
def alterLast (f : String → Entries → Option Entries) (path : List String) (t : Entries) :
    Option Entries :=
  match path.getLast? with
  | some k => alterAt (f k) path.dropLast t
  | none => none

/-- Carries out a statement: the table so far, and the path of the header in force. -/
def Statement.apply : Entries × List String → Statement → Option (Entries × List String)
  | (t, here), entry path v => (alterAt (addDotted v path) here t).map (·, here)
  | (t, _), table path => (alterLast openTable path t).map (·, path)
  | (t, _), tables path => (alterLast openRepeated path t).map (·, path)

/-- The table of a document. -/
def ofStatements (ss : List Statement) : Option Entries :=
  (ss.foldlM Statement.apply ([], [])).map (·.1)

/-- The table between braces. -/
def ofEntries (es : List (List String × Toml)) : Option Entries :=
  es.foldlM (fun t (k, v) => addDotted v k t) []

end TouchOverlay.Toml
