import Mailroom.NameMap
import Mailroom.Number.Binary64

/-! # Values of a TOML document

A TOML document (version 1.0) denotes a table.  A table remembers how it was written
(`Toml.Origin`), because that decides what a later line may add to it; an array remembers whether
it consists of table sections.  Who only reads a document need not look at either. -/

namespace Mailroom.Toml

/-- How a table came about. -/
inductive Origin where
  /-- By a section header that names it, or as the document itself. -/
  | header
  /-- By standing on the way of a section header that names a table below it. -/
  | onTheWay
  /-- By standing on the way of a dotted key. -/
  | dotted
  /-- Written between braces. -/
  | braces
deriving DecidableEq, Repr

/-- A value in a document. -/
inductive Value where
  | string (text : String)
  | integer (n : Int)
  | float (x : Binary64)
  | boolean (b : Bool)
  /-- A date, a time or both, as it was written. -/
  | datetime (text : String)
  | array (ofSections : Bool) (items : List Value)
  | table (origin : Origin) (entries : NameMap Value)

instance : Inhabited Value := ⟨.boolean false⟩

/-- The values of a table. -/
abbrev Table : Type := NameMap Value

end Mailroom.Toml
