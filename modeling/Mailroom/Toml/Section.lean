import Mailroom.Toml.Value

/-! # Sections and keys

A document names every table once: by one section header, or by dotted keys inside one section,
or between braces.  Tables on the way to a named one come about by themselves and may be named
later.  `addEntry`, `openTable` and `openItem` keep these rules; they give nothing if a line
breaks them. -/

namespace Mailroom.Toml

/-- Changes the table at the end of a path.  Tables that are missing on the way are made.  A path
goes through the last table of an array of sections.  A table between braces is closed; with
`dotted`, so is one that a header named. -/
def descend (dotted : Bool) (change : Origin → Table → Option Table) :
    List String → Origin → Table → Option Table
  | [], origin, table => change origin table
  | key :: path, _, table =>
    match table.get? key with
    | none => do
      let origin := if dotted then .dotted else .onTheWay
      return table.put key (.table origin (← descend dotted change path origin {}))
    | some (.table origin inner) =>
      if origin = .braces || (dotted && origin = .header) then none
      else do return table.put key (.table origin (← descend dotted change path origin inner))
    | some (.array true items) =>
      match items.reverse with
      | .table origin inner :: before => do
        let last := .table origin (← descend dotted change path origin inner)
        return table.put key (.array true (last :: before).reverse)
      | _ => none
    | some _ => none

/-- Adds an entry under a dotted key to a table.  Where the key has several parts, every table on
the way must have come about by dotted keys. -/
def addEntry (path : List String) (key : String) (value : Value) (origin : Origin)
    (table : Table) : Option Table :=
  descend true (fun origin inner =>
    if (!path.isEmpty && origin != .dotted) || inner.contains key then none
    else some (inner.put key value)) path origin table

/-- Starts a section for a table that is not named yet. -/
def openTable (path : List String) (key : String) (root : Table) : Option Table :=
  descend false (fun _ table =>
    match table.get? key with
    | none => some (table.put key (.table .header {}))
    | some (.table .onTheWay inner) => some (table.put key (.table .header inner))
    | some _ => none) path .header root

/-- Starts a section for one more table of an array of sections. -/
def openItem (path : List String) (key : String) (root : Table) : Option Table :=
  descend false (fun _ table =>
    match table.get? key with
    | none => some (table.put key (.array true [.table .header {}]))
    | some (.array true items) => some (table.put key (.array true (items ++ [.table .header {}])))
    | some _ => none) path .header root

/-- Adds an entry under a dotted key to the section with the given path. -/
def addToSection (sectionPath path : List String) (key : String) (value : Value) (root : Table) :
    Option Table :=
  descend false (fun origin table => addEntry path key value origin table) sectionPath .header root

end Mailroom.Toml
