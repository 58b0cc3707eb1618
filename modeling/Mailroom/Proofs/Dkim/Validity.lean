import Mathlib.Algebra.Group.Int.Defs
import Mathlib.Algebra.Group.Nat.Defs
import Mailroom.Dkim.MessageSigner
import Mailroom.Proofs.Dkim.SignatureText

/-! # How long a signature is valid

A signer states no expiration if its validity is zero.  Otherwise the expiration is the clock plus
the whole seconds of the validity, computed in 64 bits without loss, or signing fails because that
time cannot be stated (`MessageSigner.validity_exact`).  The expiration is later than the time of
signing if and only if the validity is a second or longer.  A shorter one is accepted when the
signer is set up, and then no message is signed (`MessageSigner.short_validity_refused`). -/

namespace Mailroom.Dkim

/-- An expiration that is later than the time of signing passes the check, and no other one. -/
theorem checkExpiration_some {timestamp expiration : Int} :
    checkExpiration timestamp (some expiration) = .ok () ↔ timestamp < expiration := by
  rw [checkExpiration]
  split
  · next h => exact ⟨nofun, fun hlt => absurd h (Int.not_le.mpr hlt)⟩
  · next h => exact ⟨fun _ => Int.not_le.mp h, fun _ => rfl⟩

namespace MessageSigner

variable {instanceName : String} {config : SignerConfig} {key : SigningKey} {s : MessageSigner}
  {identifier value : String} {header : Header} {body : Body} {host : Host}

/-- What is known of the validity of a signer that could be set up. -/
theorem seconds_lt_of_ofKey (h : ofKey instanceName config key = .ok s) :
    s.config = config ∧ config.expiry.seconds < 2 ^ 63 := by
  unfold ofKey at h
  split at h
  · cases h
  · next hrange =>
    split at h
    · have hlt : (config.expiry.seconds : Int) < 2 ^ 63 := Int.not_le.mp hrange
      obtain rfl := Except.ok.inj h
      exact ⟨rfl, by omega⟩
    · cases h

theorem expiration_of_zero (h : s.config.expiry.nanoseconds = 0) (now : Int) :
    s.expiration now = .ok none :=
  if_pos (beq_iff_eq.mpr h)

theorem expiration_of_ne_zero (h : s.config.expiry.nanoseconds ≠ 0) (now : Int) :
    s.expiration now =
      if now + s.config.expiry.seconds < 2 ^ 63 then .ok (some (now + s.config.expiry.seconds))
      else .error (.signingOption "signature expiration overflows") :=
  if_neg (mt beq_iff_eq.mp h)

/-- The parameters are those for the expiration, if there is one to state. -/
theorem parameters_eq (now : Int) :
    s.parameters now identifier header =
      (s.expiration now).map fun expiration => s.parametersFor now expiration identifier header := by
  unfold parameters
  cases s.expiration now <;> rfl

/-- Without parameters there is no signature. -/
theorem signature_of_parameters {failure : Failure}
    (h : s.parameters host.now identifier header = .error failure) :
    s.signature host identifier header body = .error failure := by
  unfold signature
  rw [h]
  rfl

/-- A message is signed only with an expiration that passes the check. -/
theorem checkExpiration_of_signature (h : s.signature host identifier header body = .ok value) :
    ∃ p, s.parameters host.now identifier header = .ok p ∧
      checkExpiration p.timestamp p.expiration = .ok () := by
  unfold signature at h
  obtain ⟨p, hp, h⟩ := bind_eq_ok h
  obtain ⟨signer, hnew, -⟩ := bind_eq_ok h
  refine ⟨p, hp, ?_⟩
  unfold Signer.new at hnew
  cases hvalid : p.validate s.key with
  | ok _ => exact (Parameters.validate_eq_ok_iff.mp hvalid).expiration
  | error failure => rw [hvalid] at hnew; cases hnew

/-- A sum in 64 bits that can be stated is the sum of the numbers. -/
theorem toInt_add_ofNat (now : Int64) {seconds : Nat}
    (h : now.toInt + seconds ≤ Int64.maxValue.toInt) (hword : seconds < 2 ^ 63) :
    (now + Int64.ofNat seconds).toInt = now.toInt + seconds := by
  have hlow := now.le_toInt
  rw [Int64.toInt_maxValue] at h
  rw [Int64.toInt_add, Int64.toInt_ofNat_of_lt hword]
  exact Int.bmod_eq_of_le (by omega) (by omega)

/-- **The expiration is exact.**  A validity of zero states none.  Otherwise either the clock plus
the whole seconds of the validity is more than 64 bits hold, and signing fails, or that sum is the
expiration, and no addition wraps.  It is later than the time of signing if and only if the validity
is a second or longer; with a shorter one no message is signed. -/
theorem validity_exact (h : ofKey instanceName config key = .ok s) (now : Int64)
    (identifier : String) (header : Header) :
    let seconds := config.expiry.seconds
    let expires := now + Int64.ofNat seconds
    let overflow := Failure.signingOption "signature expiration overflows"
    (Int64.ofNat seconds).toInt = seconds ∧
    (config.expiry.nanoseconds = 0 →
      ∃ p, s.parameters now.toInt identifier header = .ok p ∧ p.expiration = none) ∧
    (config.expiry.nanoseconds ≠ 0 → Int64.maxValue.toInt < now.toInt + seconds →
      s.parameters now.toInt identifier header = .error overflow ∧
      ∀ (host : Host) (body : Body), host.now = now.toInt →
        s.signature host identifier header body = .error overflow) ∧
    (config.expiry.nanoseconds ≠ 0 → now.toInt + seconds ≤ Int64.maxValue.toInt →
      ∃ p, s.parameters now.toInt identifier header = .ok p ∧ p.timestamp = now.toInt ∧
        p.expiration = some expires.toInt ∧ expires.toInt = now.toInt + seconds ∧
        (checkExpiration p.timestamp p.expiration = .ok () ↔ 1 ≤ seconds) ∧
        (seconds = 0 → ∀ (host : Host) (body : Body) (value : String), host.now = now.toInt →
          s.signature host identifier header body ≠ .ok value)) := by
  obtain ⟨rfl, hword⟩ := seconds_lt_of_ofKey h
  intro seconds expires overflow
  have hmax : Int64.maxValue.toInt = 2 ^ 63 - 1 := Int64.toInt_maxValue
  refine ⟨Int64.toInt_ofNat_of_lt hword, fun hzero => ?_, fun hne hlarge => ?_, fun hne hfits => ?_⟩
  · exact ⟨_, by rw [parameters_eq, expiration_of_zero hzero]; rfl, rfl⟩
  · have hparameters : s.parameters now.toInt identifier header = .error overflow := by
      rw [parameters_eq, expiration_of_ne_zero hne, if_neg (by omega)]
      rfl
    exact ⟨hparameters, fun host body hnow => signature_of_parameters (hnow ▸ hparameters)⟩
  · have hexact : expires.toInt = now.toInt + seconds := toInt_add_ofNat now hfits hword
    have hparameters : s.parameters now.toInt identifier header =
        .ok (s.parametersFor now.toInt (some expires.toInt) identifier header) := by
      rw [parameters_eq, expiration_of_ne_zero hne, if_pos (by omega), hexact]
      rfl
    have hcheck : checkExpiration now.toInt (some expires.toInt) = .ok () ↔ 1 ≤ seconds := by
      rw [checkExpiration_some, hexact]
      omega
    refine ⟨_, hparameters, rfl, rfl, hexact, hcheck, fun hzero host body value hnow hvalue => ?_⟩
    obtain ⟨p, hp, hpassed⟩ := checkExpiration_of_signature hvalue
    rw [hnow, hparameters] at hp
    obtain rfl := Except.ok.inj hp
    have := hcheck.mp hpassed
    omega

/-- A signature that is valid for five days expires five days after it is made. -/
theorem usual_validity_exact :
    let config : SignerConfig := { domain := "example.org", selector := "default" }
    let key := SigningKey.ed25519 (List.replicate 32 7)
    let now : Int64 := 1700000000
    ofKey "" config key = .ok ⟨"", config, key⟩ ∧
    ∃ p, (MessageSigner.mk "" config key).parameters now.toInt "alice@example.org" {} = .ok p ∧
      p.timestamp = 1700000000 ∧ p.expiration = some 1700432000 ∧
      checkExpiration p.timestamp p.expiration = .ok () := by
  intro config key now
  have hready : ofKey "" config key = .ok ⟨"", config, key⟩ := by decide +kernel
  obtain ⟨-, -, -, hfits⟩ := validity_exact hready now "alice@example.org" {}
  obtain ⟨p, hp, htimestamp, hexpiration, -, hcheck, -⟩ :=
    hfits (by decide +kernel) (by decide +kernel)
  refine ⟨hready, p, hp, htimestamp.trans (by decide +kernel), hexpiration.trans (by decide +kernel),
    hcheck.mpr (by decide +kernel)⟩

/-- **A validity of half a second signs nothing.**  The signer can be set up and its expiration can
be stated, but it is the time of signing itself. -/
theorem short_validity_refused :
    let config : SignerConfig :=
      { domain := "example.org", selector := "default", oversignFields := ["Subject", "From"],
        signFields := [], expiry := ⟨500000000, by decide⟩ }
    let key := SigningKey.ed25519 (List.replicate 32 7)
    let signer : MessageSigner := ⟨"", config, key⟩
    let now : Int64 := 1700000000
    ofKey "" config key = .ok signer ∧ config.expiry.isZero = false ∧
    now.toInt + config.expiry.seconds ≤ Int64.maxValue.toInt ∧
    signer.expiration now.toInt = .ok (some now.toInt) ∧
    signer.signature { now := now.toInt } "alice@example.org" {} (.memory (utf8 "Hello\r\n")) =
      .error (.signingOption "expiration must be later than the signing time") := by
  decide +kernel

end MessageSigner

end Mailroom.Dkim
