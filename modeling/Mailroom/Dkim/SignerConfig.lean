import Mailroom.Config.Setting
import Mailroom.Dkim.Canonicalization
import Mailroom.Dkim.SigningKey

/-! # The options of a signer

What a signing modifier can be configured with, and the usual values. -/

namespace Mailroom.Dkim

/-- The fields that are oversigned unless others are configured. -/
def usualOversignFields : List String := [
  "Subject", "Sender", "To", "Cc", "From", "Date", "MIME-Version", "Content-Type",
  "Content-Transfer-Encoding", "Reply-To", "In-Reply-To", "Message-Id", "References",
  "Autocrypt", "Openpgp"]

/-- The fields that are signed as often as they occur unless others are configured. -/
def usualSignFields : List String := [
  "List-Id", "List-Help", "List-Unsubscribe", "List-Post", "List-Owner", "List-Archive",
  "Resent-To", "Resent-Sender", "Resent-Message-Id", "Resent-Date", "Resent-From", "Resent-Cc"]

/-- How long a signature is valid unless configured otherwise: five days. -/
def usualExpiry : Duration := ⟨432000 * Nat.pow 10 9, by decide⟩

/-- The options of a signing modifier. -/
structure SignerConfig where
  /-- The signing domain. -/
  domain : String := ""
  /-- The selector of the key. -/
  selector : String := ""
  /-- The template of the path of the key file. -/
  keyPath : String := "dkim_keys/\x7bdomain\x7d_\x7bselector\x7d.key"
  oversignFields : List String := usualOversignFields
  signFields : List String := usualSignFields
  headerMode : Canonicalization := .relaxed
  bodyMode : Canonicalization := .relaxed
  /-- How long a signature is valid; zero stands for ever. -/
  expiry : Duration := usualExpiry
  hash : HashAlgorithm := .sha256
  /-- The kind of key to make if there is none. -/
  newKey : KeyKind := .rsa2048
  /-- Whether every signature is reported. -/
  debug : Bool := false
deriving DecidableEq, Repr

open Config in
/-- The settings of a signing modifier. -/
def signerSettings : List (Setting SignerConfig) := [
  .of "domain" text fun domain c => { c with domain },
  .of "selector" text fun selector c => { c with selector },
  .of "key_path" text fun keyPath c => { c with keyPath },
  .of "oversign_fields" texts fun oversignFields c => { c with oversignFields },
  .of "sign_fields" texts fun signFields c => { c with signFields },
  .of "header_canon" (choice Canonicalization.all Canonicalization.name)
    fun headerMode c => { c with headerMode },
  .of "body_canon" (choice Canonicalization.all Canonicalization.name)
    fun bodyMode c => { c with bodyMode },
  .of "sig_expiry" duration fun expiry c => { c with expiry },
  .of "hash" (meaning HashAlgorithm.parse) fun hash c => { c with hash },
  .of "newkey_algo" (choice KeyKind.all KeyKind.name)
    fun newKey c => { c with newKey },
  .of "debug" flag fun debug c => { c with debug }]

end Mailroom.Dkim
