import Mailroom.Failure
import Mailroom.Text.Ascii
import Mailroom.Text.LowerCase
import Mailroom.Text.Split

/-! # Accounts

Mail is stored under account names.  A mail address leads to an account (`Account.ofAddress`):
where domains are kept apart the whole address is the name, otherwise only the part in front of
the first `@`.  A login name leads to an account as well (`Account.ofLogin?`), subject to the
domains that may log in.  Names are lower-cased, so that spelling does not matter. -/

namespace Mailroom

/-- The name under which mail is stored. -/
structure Account where
  name : String
deriving DecidableEq, Repr

/-- Why an address leads to no account. -/
inductive AddressFault where
  /-- The address has no domain, but accounts are kept apart by domain. -/
  | domainRequired
  /-- Nothing stands in front of the `@` or behind it. -/
  | emptyPart
  /-- The address is empty. -/
  | emptyAddress
  /-- A login name has no domain, but accounts are kept apart by domain. -/
  | loginDomainRequired
deriving DecidableEq, Repr

namespace AddressFault

/-- The detail that the reply gives. -/
def detail : AddressFault → String
  | domainRequired => "domain-qualified account required"
  | emptyPart => "empty local part or domain"
  | emptyAddress => "empty address"
  | loginDomainRequired => "username@domain required"

/-- The refusal of a recipient. -/
def failure (fault : AddressFault) : Failure :=
  .recipient (Reply.invalidRecipient fault.detail)

end AddressFault

/-- The part in front of the first `@` and the domain behind it, which must not be empty. -/
def addressParts? (address : List Char) : Option (Except AddressFault (List Char × List Char)) :=
  (cutFirst '@' address).map fun (localPart, domain) =>
    if localPart.isEmpty || domain.isEmpty then .error .emptyPart else .ok (localPart, domain)

/-- The account that stores mail for an address. -/
def Account.ofAddress (address : String) (perDomain : Bool) : Except AddressFault Account :=
  match addressParts? address.toList with
  | some (.error fault) => .error fault
  | some (.ok (localPart, _)) =>
    .ok ⟨if perDomain then lowerCase address else String.ofList (lowerChars localPart)⟩
  | none =>
    if perDomain then .error .domainRequired
    else if address.isEmpty then .error .emptyAddress
    else .ok ⟨lowerCase address⟩

/-- The part of a login name in front of the first `@`, and its domain, empty without `@`. -/
def loginParts (username : List Char) : List Char × List Char :=
  (cutFirst '@' username).getD (username, [])

/-- The account that a login name stands for, if it may log in.  The name has at most one `@`;
where accounts are kept apart by domain it must have a domain; and a domain must be one of
`domains`, unless that list is empty. -/
def Account.ofLogin? (username : String) (perDomain : Bool) (domains : List String) :
    Option Account :=
  let (localPart, domain) := loginParts username.toList
  let allowed := domain.isEmpty || domains.isEmpty ||
    domains.any fun d => equalsIgnoringCase d (String.ofList domain)
  if localPart.isEmpty || domain.contains '@' || (perDomain && domain.isEmpty) || !allowed then
    none
  else some ⟨if perDomain then lowerCase username else String.ofList (lowerChars localPart)⟩

end Mailroom
