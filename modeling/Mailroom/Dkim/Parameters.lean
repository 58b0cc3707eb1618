import Mailroom.Dkim.Canonicalization
import Mailroom.Dkim.SigningKey
import Mailroom.Text.Quoted
import Mailroom.Text.Split

/-! # The parameters of a signature

`Parameters` holds what a signature states besides the hashes.  `Parameters.check` refuses
parameters that would break out of their tags, that contradict each other, or that do not fit
the key; the first fault in the order of `ParameterFault` counts. -/

namespace Mailroom.Dkim

/-- The parameters of a signature. -/
structure Parameters where
  /-- The signing domain, tag `d=`. -/
  domain : String
  /-- The selector, tag `s=`. -/
  selector : String
  /-- The agent or user on whose behalf is signed, tag `i=`. -/
  identifier : Option String := none
  hash : HashAlgorithm := .sha256
  headerMode : Canonicalization := .relaxed
  bodyMode : Canonicalization := .relaxed
  /-- The names of the fields to sign, repeated names included, tag `h=`. -/
  headerKeys : List String
  /-- The time of signing in seconds since the epoch, tag `t=`. -/
  timestamp : Int
  /-- The time in seconds at which the signature expires, tag `x=`. -/
  expiration : Option Int := none
deriving DecidableEq, Repr

/-- Why parameters are refused. -/
inductive ParameterFault where
  /-- The text of a tag is missing; `what` names it. -/
  | emptyText (what : String)
  /-- The text of a tag holds a semicolon or white space. -/
  | invalidText (what value : String)
  /-- The identifier holds no `@`. -/
  | identifierLacksDomain (identifier : String)
  /-- The identifier is outside of the signing domain. -/
  | foreignIdentifier (domain signingDomain : String)
  /-- No field is to be signed. -/
  | noFields
  /-- A field name could not stand in the list. -/
  | invalidFieldName (name : String)
  /-- The signature would expire before it is made. -/
  | expiresTooEarly
  /-- The key cannot sign digests of the hash algorithm. -/
  | unsupportedHash (keyType hash : String)
deriving DecidableEq, Repr

/-- What a log shows for refused parameters. -/
def ParameterFault.message : ParameterFault → String
  | emptyText what => what ++ " is empty"
  | invalidText what value => "invalid " ++ what ++ ": " ++ quoted value
  | identifierLacksDomain identifier => "identifier " ++ identifier ++ " lacks a domain part"
  | foreignIdentifier domain signingDomain =>
    "identifier domain " ++ domain ++ " is not " ++ signingDomain ++ " or one of its subdomains"
  | noFields => "no header fields to sign"
  | invalidFieldName name => "invalid header field name: " ++ quoted name
  | expiresTooEarly => "expiration must be later than the signing time"
  | unsupportedHash keyType hash => keyType ++ " keys cannot be used with " ++ hash

/-- Whether a text ends in another one. -/
def endsWith (text tail : List Char) : Bool := tail.isSuffixOf text

/-- Whether `domain` is `parent` or lies below it, up to ASCII case. -/
def isSameOrSubdomain (domain parent : String) : Bool :=
  let domain := domain.toList.map Char.toLower
  let parent := parent.toList.map Char.toLower
  domain == parent || endsWith domain ('.' :: parent)

/-- Whether a text may not stand in a tag. -/
def breaksTag (value : String) : Bool := value.toList.any fun c => c == ';' || isAsciiWhitespace c

/-- Checks the text of a tag. -/
def checkTagText (what value : String) : Except ParameterFault Unit :=
  if value.isEmpty then .error (.emptyText what)
  else if breaksTag value then .error (.invalidText what value)
  else .ok ()

/-- Checks that an identifier lies in the signing domain. -/
def checkIdentifier (identifier signingDomain : String) : Except ParameterFault Unit :=
  match cutLast '@' identifier.toList with
  | none => .error (.identifierLacksDomain identifier)
  | some (_, domain) =>
    if isSameOrSubdomain (String.ofList domain) signingDomain then .ok ()
    else .error (.foreignIdentifier (String.ofList domain) signingDomain)

/-- Whether a name cannot stand in the list of signed fields. -/
def isInvalidKey (name : String) : Bool :=
  name.isEmpty || name.toList.any fun c => c == ':' || c == ';' || c == ' ' || c == '\t'

/-- A name in the list holds no separator and no blank. -/
theorem ne_of_isInvalidKey {name : String} (h : isInvalidKey name = false) {c : Char}
    (m : c ∈ name.toList) : c ≠ ':' ∧ c ≠ ';' ∧ c ≠ ' ' ∧ c ≠ '\t' := by
  have hall := List.any_eq_false.mp (Bool.or_eq_false_iff.mp h).2 c m
  simp only [Bool.or_eq_true, beq_iff_eq, not_or] at hall
  obtain ⟨⟨⟨hcolon, hsemicolon⟩, hspace⟩, htab⟩ := hall
  exact ⟨hcolon, hsemicolon, hspace, htab⟩

/-- Checks the names of the fields to sign. -/
def checkKeys (keys : List String) : Except ParameterFault Unit :=
  if keys.isEmpty then .error .noFields
  else match keys.find? isInvalidKey with
    | some name => .error (.invalidFieldName name)
    | none => .ok ()

/-- Checks that a signature expires after it is made. -/
def checkExpiration (timestamp : Int) : Option Int → Except ParameterFault Unit
  | none => .ok ()
  | some expiration => if expiration ≤ timestamp then .error .expiresTooEarly else .ok ()

/-- Checks the parameters against each other and against the key. -/
def Parameters.check (parameters : Parameters) (key : SigningKey) : Except ParameterFault Unit := do
  checkTagText "domain" parameters.domain
  checkTagText "selector" parameters.selector
  match parameters.identifier with
  | some identifier => checkIdentifier identifier parameters.domain
  | none => pure ()
  checkKeys parameters.headerKeys
  checkExpiration parameters.timestamp parameters.expiration
  if key.supports parameters.hash then pure ()
  else throw (.unsupportedHash key.typeName parameters.hash.name)

/-- Checks the parameters; a refusal is a failure. -/
def Parameters.validate (parameters : Parameters) (key : SigningKey) : Except Failure Unit :=
  (parameters.check key).mapError fun fault => .signingOption fault.message

end Mailroom.Dkim
