import Mailroom.Text.Ascii
import Mailroom.Text.Blank
import Mailroom.Text.Digits

/-! # Size limits

The largest message that a store accepts, or no limit at all.  A limit is written as a number of
octets, as a number with a binary multiplier `K`, `M` or `G`, or as `unlimited`
(`SizeLimit.parse`); it fits into 32 bits. -/

namespace Mailroom

/-- The largest accepted size in octets; `none` stands for no limit. -/
structure SizeLimit where
  bytes? : Option UInt32
deriving DecidableEq, Repr

/-- Why a size is refused. -/
inductive SizeFault where
  /-- The text denotes no size. -/
  | invalid (shown : String)
  /-- The size is too large. -/
  | tooLarge (shown : String)
deriving DecidableEq, Repr

/-- What a log shows for a refused size. -/
def SizeFault.message : SizeFault → String
  | .invalid shown => "invalid size: " ++ shown
  | .tooLarge shown =>
    "append limit " ++ shown ++ " exceeds the maximum of " ++
      String.ofList (natDigits (UInt32.size - 1)) ++ " bytes"

namespace SizeLimit

/-- No limit. -/
def unlimited : SizeLimit := ⟨none⟩

/-- A limit of so many octets. -/
def ofBytes (limit : UInt32) : SizeLimit := ⟨some limit⟩

/-- The limit that holds unless another is configured, 32 MiB. -/
def standard : SizeLimit := ofBytes (32 * 1024 * 1024)

instance : Inhabited SizeLimit := ⟨standard⟩

/-- The limit of `n` octets; `shown` is the size as it was written. -/
def ofNat (n : Nat) (shown : String) : Except SizeFault SizeLimit :=
  if n < UInt32.size then .ok (ofBytes (UInt32.ofNat n)) else .error (.tooLarge shown)

/-- The factor that a final letter stands for. -/
def multiplier? (c : Char) : Option Nat :=
  match c.toUpper with
  | 'K' => some (Nat.pow 2 10)
  | 'M' => some (Nat.pow 2 20)
  | 'G' => some (Nat.pow 2 30)
  | _ => none

/-- What stands in front of the final letter, and the factor of that letter. -/
def cutMultiplier (text : List Char) : List Char × Nat :=
  match text.getLast?.bind multiplier? with
  | some factor => (text.dropLast, factor)
  | none => (text, 1)

/-- The number that an optional plus sign and digits denote, if it fits into 64 bits. -/
def readCount? (text : List Char) : Option Nat :=
  let digits := match text with
    | '+' :: rest => rest
    | _ => text
  (readNat? digits).filter (· < UInt64.size)

/-- The limit that a text denotes. -/
def parse (text : String) : Except SizeFault SizeLimit :=
  let shown := trim text
  if equalsIgnoringCase shown "unlimited" || shown == "-1" then .ok unlimited
  else
    let (digits, factor) := cutMultiplier shown.toList
    match readCount? (trimChars digits) with
    | some n => ofNat (n * factor) shown
    | none => .error (.invalid shown)

/-- The limit that an integer denotes; −1 stands for no limit. -/
def ofInt (n : Int) : Except SizeFault SizeLimit :=
  let shown := String.ofList (intDigits n)
  if n = -1 then .ok unlimited
  else if n < 0 then .error (.invalid shown)
  else ofNat n.toNat shown

/-- The limit as a text. -/
def display (limit : SizeLimit) : String :=
  match limit.bytes? with
  | some n => String.ofList (natDigits n.toNat)
  | none => "unlimited"

end SizeLimit

end Mailroom
