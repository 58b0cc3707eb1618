import Mailroom.Crypto.Sha2
import Mailroom.Text.Ascii

/-! # Hash algorithms for signatures

The hash algorithms that a signature can name.  An algorithm is configured by its name in any
ASCII case and written in lower case. -/

namespace Mailroom.Dkim

/-- A hash algorithm of a signature. -/
inductive HashAlgorithm where
  | sha256
deriving DecidableEq, Repr, Inhabited

namespace HashAlgorithm

/-- Every hash algorithm. -/
def all : List HashAlgorithm := [sha256]

/-- The name in configurations and in the `a=` tag. -/
def name : HashAlgorithm → String
  | sha256 => "sha256"

/-- The algorithm with this name, in any ASCII case. -/
def ofName? (name : String) : Option HashAlgorithm :=
  all.find? fun algorithm => equalsIgnoringCase algorithm.name name

/-- The algorithm with this name, or what is wrong with the name. -/
def parse (name : String) : Except String HashAlgorithm :=
  match ofName? name with
  | some algorithm => .ok algorithm
  | none => .error ("unsupported hash algorithm: " ++ name)

/-- The hash function. -/
def variant : HashAlgorithm → Sha2.Variant
  | sha256 => Sha2.sha256

/-- The digest of a message. -/
def digest (algorithm : HashAlgorithm) (message : Bytes) : Bytes :=
  Sha2.digest algorithm.variant message

end HashAlgorithm

/-- A digest on its way. -/
abbrev Hasher (algorithm : HashAlgorithm) : Type := Sha2.Hasher algorithm.variant

end Mailroom.Dkim
