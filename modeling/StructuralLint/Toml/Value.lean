/-!
# TOML values

Values of a TOML document. A table remembers how it came about, since that decides whether a later
part of the document may add to it.
-/

namespace StructuralLint.Toml

/-- How a table came about. -/
inductive Origin where
  /-- By a header of its own. -/
  | header
  /-- By a header of a table inside it. -/
  | implied
  /-- By a dotted key. -/
  | dotted
  /-- In braces; nothing may be added to it. -/
  | inlined
deriving DecidableEq, Repr

/-- A value. -/
inductive Value where
  | string (text : String)
  | integer (value : Int64)
  | float (value : Float)
  | boolean (value : Bool)
  | dateTime (text : String)
  | array (items : List Value)
  | table (origin : Origin) (entries : List (String × Value))
  /-- Tables that double-bracket headers list under one key. -/
  | tables (items : List (List (String × Value)))
deriving Inhabited

/-- The keys of a table with their values, in order. -/
abbrev Entries := List (String × Value)

/-- The value of a key. -/
def Entries.get? (entries : Entries) (key : String) : Option Value :=
  (entries.find? (·.1 == key)).map (·.2)

/-- Sets a key that is present, or adds one at the end. -/
def Entries.set (entries : Entries) (key : String) (value : Value) : Entries :=
  if entries.any (·.1 == key) then
    entries.map fun entry => if entry.1 == key then (key, value) else entry
  else entries ++ [(key, value)]

/-- Adds a key that is not present. -/
def Entries.add? (entries : Entries) (key : String) (value : Value) : Option Entries :=
  if entries.any (·.1 == key) then none else some (entries ++ [(key, value)])

/--
Changes the table at the end of a path of keys. Tables that are missing on the way are created;
a dotted path goes only through tables that dotted keys or longer headers created. The change sees
how the table came about.
-/
def Entries.descend? (dotted : Bool) (change : Origin → Entries → Option Entries) :
    List String → Origin → Entries → Option Entries
  | [], origin, entries => change origin entries
  | key :: rest, _, entries =>
      let created := if dotted then Origin.dotted else .implied
      match entries.get? key with
      | none => do
        let inner ← Entries.descend? dotted change rest created []
        return entries.set key (.table created inner)
      | some (.table .inlined _) => none
      | some (.table origin inner) =>
          if dotted && origin == .header then none
          else do
            let inner ← Entries.descend? dotted change rest origin inner
            return entries.set key (.table origin inner)
      | some (.tables items) =>
          match items.getLast? with
          | none => none
          | some last => do
            let inner ← Entries.descend? dotted change rest .header last
            return entries.set key (.tables (items.dropLast ++ [inner]))
      | some _ => none

/--
Sets the value at the end of a dotted key. A dotted key may not add to a table that was created
by a header.
-/
def Entries.assign? (entries : Entries) (origin : Origin) (path : List String) (key : String)
    (value : Value) : Option Entries :=
  Entries.descend? true
    (fun found inner =>
      if !path.isEmpty && found != .dotted then none else inner.add? key value)
    path origin entries

end StructuralLint.Toml
