import Mailroom.Config.Duration
import Mailroom.Store.SizeLimit
import Mailroom.Failure
import Mailroom.Number.Shortest
import Mailroom.Text.Quoted
import Mailroom.Toml.Value

/-! # Settings

The options of a module are a table.  A `Setting` says what a value under one key does to the
settings of the module; `readSettings` goes through the table in the order of the keys, ignores
keys without a setting, and stops at the first value that does not fit (`ValueFault`). -/

namespace Mailroom

/-- What a message calls a value. -/
def Toml.Value.shown : Toml.Value → String
  | .string text => "string " ++ quoted text
  | .integer n => "integer `" ++ String.ofList (intDigits n) ++ "`"
  | .float x => "floating point `" ++ x.plainText ++ "`"
  | .boolean b => "boolean `" ++ (if b then "true" else "false") ++ "`"
  | .datetime _ => "map"
  | .array _ _ => "sequence"
  | .table _ _ => "map"

/-- What a message calls the type of a value. -/
def Toml.Value.typeName : Toml.Value → String
  | .string _ => "string"
  | .integer _ => "integer"
  | .float _ => "float"
  | .boolean _ => "boolean"
  | .datetime _ => "datetime"
  | .array _ _ => "array"
  | .table _ _ => "table"

namespace Config

/-- Why a value does not fit its option. -/
inductive ValueFault where
  /-- The option needs a value of another type. -/
  | wrongType (found expected : String)
  /-- The text does not denote what the option needs. -/
  | wrongText (text expected : String)
  /-- There is no choice of this name. -/
  | unknownChoice (name : String) (choices : List String)
  /-- A choice is neither a name nor a table. -/
  | notAChoice
  /-- A choice that is a table has no entry. -/
  | noEntry
  /-- A choice that is a table has several entries. -/
  | severalEntries
  /-- The entry of a choice is not empty. -/
  | fullEntry (type : String)
  /-- The entry of a choice has the wrong type. -/
  | wrongEntry (found : String)
  /-- The value has none of the types that the option admits. -/
  | noAlternative (alternatives : String)
  /-- The value has the right type, but is refused. -/
  | refused (reason : String)
deriving DecidableEq, Repr

/-- Names in the words of a message: two of them with an `or`, more as a list. -/
def listChoices (choices : List String) : String :=
  let marked := choices.map fun name => "`" ++ name ++ "`"
  match marked with
  | [] => "no choice"
  | [only] => only
  | [first, second] => first ++ " or " ++ second
  | _ => "one of " ++ ", ".intercalate marked

/-- What a log shows for a value that does not fit. -/
def ValueFault.message : ValueFault → String
  | wrongType found expected => "invalid type: " ++ found ++ ", expected " ++ expected
  | wrongText text expected => "invalid value: string " ++ quoted text ++ ", expected " ++ expected
  | unknownChoice name choices =>
    "unknown variant `" ++ name ++ "`, expected " ++ listChoices choices
  | notAChoice => "wanted string or table"
  | noEntry => "wanted exactly 1 element, found 0 elements"
  | severalEntries => "wanted exactly 1 element, more than 1 element"
  | fullEntry type => "expected empty " ++ type
  | wrongEntry found => "expected table, found " ++ found
  | noAlternative alternatives =>
    "data did not match any variant of untagged enum " ++ alternatives
  | refused reason => reason

/-! ### Values -/

/-- A way to understand a value. -/
abbrev Decoder (α : Type) : Type := Toml.Value → Except ValueFault α

/-- A text; `expected` is what a message calls it. -/
def textCalled (expected : String) : Decoder String
  | .string text => .ok text
  | value => .error (.wrongType value.shown expected)

/-- A text. -/
def text : Decoder String := textCalled "a string"

/-- A path. -/
def path : Decoder String := textCalled "path string"

/-- A flag. -/
def flag : Decoder Bool
  | .boolean b => .ok b
  | value => .error (.wrongType value.shown "a boolean")

/-- A list of texts. -/
def texts : Decoder (List String)
  | .array _ items => items.mapM text
  | value => .error (.wrongType value.shown "a sequence")

/-- A length of time. -/
def duration : Decoder Duration
  | .string text =>
    match Duration.parse? text with
    | some d => .ok d
    | none => .error (.wrongText text "a duration")
  | value => .error (.wrongType value.shown "a duration")

/-- A text with a meaning. -/
def meaning {α : Type} (parse : String → Except String α) : Decoder α := fun value => do
  (parse (← text value)).mapError .refused

/-- One of several named things. -/
def named {α : Type} (choices : List α) (name : α → String) (found : String) :
    Except ValueFault α :=
  match choices.find? fun choice => name choice == found with
  | some choice => .ok choice
  | none => .error (.unknownChoice found (choices.map name))

/-- Checks what stands beside the name of a choice, which must be empty. -/
def emptyEntry : Toml.Value → Except ValueFault Unit
  | .array _ items => if items.isEmpty then .ok () else .error (.fullEntry "array")
  | .table _ table => if table.entries.isEmpty then .ok () else .error (.fullEntry "table")
  | value => .error (.wrongEntry value.typeName)

/-- One of several named things: its name, or a table whose only key is its name. -/
def choice {α : Type} (choices : List α) (name : α → String) : Decoder α
  | .string text => named choices name text
  | .table _ table =>
    match table.entries with
    | [] => .error .noEntry
    | [(key, value)] => do
      let found ← named choices name key
      emptyEntry value
      return found
    | _ => .error .severalEntries
  | _ => .error .notAChoice

/-- A size limit: a number of octets or a text. -/
def size : Decoder SizeLimit
  | .integer n => (SizeLimit.ofInt n).mapError fun fault => .refused fault.message
  | .string text => (SizeLimit.parse text).mapError fun fault => .refused fault.message
  | _ => .error (.noAlternative "RawSize")

/-- A text, or words to be joined by spaces. -/
def words : Decoder String
  | .string text => .ok text
  | .array _ items =>
    match items.mapM text with
    | .ok words => .ok (" ".intercalate words)
    | .error _ => .error (.noAlternative "RawDsn")
  | _ => .error (.noAlternative "RawDsn")

/-! ### Settings -/

/-- What the value under a key does to settings of type `C`. -/
structure Setting (C : Type) where
  key : String
  apply : Toml.Value → C → Except ValueFault C

/-- The setting whose value `put` stores. -/
def Setting.of {C α : Type} (key : String) (decode : Decoder α) (put : α → C → C) : Setting C :=
  ⟨key, fun value settings => do return put (← decode value) settings⟩

/-- Applies the setting of a key, if there is one. -/
def applyEntry {C : Type} (known : List (Setting C)) (settings : C)
    (entry : String × Toml.Value) : Except (String × ValueFault) C :=
  match known.find? fun setting => setting.key == entry.1 with
  | none => .ok settings
  | some setting => (setting.apply entry.2 settings).mapError fun fault => (entry.1, fault)

/-- The settings that a table makes of the usual ones.  `owner` names the module and its instance
in the failure. -/
def readSettings {C : Type} (known : List (Setting C)) (usual : C) (owner : String)
    (options : Toml.Table) : Except Failure C :=
  (options.entries.foldlM (applyEntry known) usual).mapError fun (key, fault) =>
    .configuration (owner ++ ": " ++ fault.message ++ "\nin `" ++ key ++ "`\n")

end Config

end Mailroom
