import Mailroom.Proofs.Dkim.Verification
import Mailroom.Proofs.LastGiven

/-! # A signer in the hands of a client

A client may hand over headers and chunks of the body in any order, as often as it likes
(`SignerCall`).  Of the headers only the last one counts, and of the chunks only what they are
together (`Signer.perform_eq`).  So a signer that completes a signature gives the one that
`Dkim.sign` gives for the whole message, and it refuses only if it has no header
(`finish_perform`). -/

namespace Mailroom.Dkim

/-- A call of a client on a signer. -/
inductive SignerCall where
  | header (header : Header)
  | chunk (octets : Bytes)
deriving DecidableEq, Repr

namespace SignerCall

/-- The header that a call hands over. -/
def header? : SignerCall → Option Header
  | .header h => some h
  | .chunk _ => none

/-- The octets that a call hands over. -/
def chunk? : SignerCall → Option Bytes
  | .header _ => none
  | .chunk octets => some octets

/-- The header that counts. -/
def lastHeader? (calls : List SignerCall) : Option Header := lastGiven? header? calls

/-- The chunks of the body, in order. -/
def chunks (calls : List SignerCall) : List Bytes := calls.filterMap chunk?

theorem lastHeader?_eq_none_iff {calls : List SignerCall} :
    lastHeader? calls = none ↔ ∀ h, header h ∉ calls := by
  rw [lastHeader?, lastGiven?_eq_none_iff]
  constructor
  · intro hnone h m
    cases hnone _ m
  · intro hnone call m
    cases call with
    | header h => exact absurd m (hnone h)
    | chunk octets => rfl

end SignerCall

/-- A key that fails says so. -/
theorem SigningKey.kind_of_sign {key : SigningKey} {digest : Bytes} {failure : Failure}
    (h : key.sign digest = .error failure) : failure.kind = .signingOption := by
  cases key with
  | rsa key =>
      unfold SigningKey.sign at h
      dsimp only at h
      cases hs : Rsa.sign key digest with
      | ok signature => rw [hs] at h; cases h
      | error fault => rw [hs] at h; cases h; rfl
  | ed25519 seed => cases h

namespace Signer

open SignerCall

/-- Makes the calls of a client; the answer is what the writes reported. -/
def perform : List SignerCall → Act Signer (List Nat)
  | [] => Act.pure []
  | .header h :: calls => (Act.modify (·.writeHeader h)).bind fun _ => perform calls
  | .chunk octets :: calls => (accept octets).bind fun taken =>
    (perform calls).bind fun more => Act.pure (taken :: more)

/-- What a signer holds after some calls. -/
def holding (s : Signer) (calls : List SignerCall) : Signer where
  parameters := s.parameters
  key := s.key
  header? := (lastHeader? calls).or s.header?
  body := s.body.update (chunks calls).flatten

theorem writeHeader_holding (s : Signer) (h : Header) (calls : List SignerCall) :
    (s.writeHeader h).holding calls = s.holding (.header h :: calls) := by
  have hlast : (lastHeader? (.header h :: calls)).or s.header? = (lastHeader? calls).or (some h) :=
    lastGiven?_cons_or (SignerCall.header h) calls s.header?
  unfold holding
  rw [hlast]
  rfl

theorem write_holding (s : Signer) (octets : Bytes) (calls : List SignerCall) :
    (s.write octets).holding calls = s.holding (.chunk octets :: calls) := by
  have hbody : (s.body.update octets).update (chunks calls).flatten =
      s.body.update (chunks (.chunk octets :: calls)).flatten :=
    (BodyHash.update_append s.body octets _).symm
  unfold holding
  rw [← hbody]
  rfl

/-- **What calls leave behind:** the last header, and the body that all chunks make up.  Every write
reports its whole chunk. -/
theorem perform_eq (calls : List SignerCall) (s : Signer) :
    perform calls s = ⟨(chunks calls).map List.length, s.holding calls, []⟩ := by
  induction calls generalizing s with
  | nil => rfl
  | cons call calls ih =>
      cases call with
      | header h =>
          rw [← writeHeader_holding]
          exact ih (s.writeHeader h)
      | chunk octets =>
          rw [← write_holding, perform, Act.bind, Act.bind, accept, ih]
          rfl

/-- A signer without a header refuses. -/
theorem finish_of_none {s : Signer} (h : s.header? = none) :
    s.finish = .error (.stream "message header was not written to the signer") := by
  rw [finish, h]

/-- The only failure of a signer that has a header is that of its key. -/
theorem kind_of_finish {s : Signer} {h : Header} (hheader : s.header? = some h) {failure : Failure}
    (e : s.finish = .error failure) : failure.kind = .signingOption := by
  rw [finish, hheader] at e
  dsimp only at e
  split at e
  · cases e
  · next signed =>
    cases e
    exact SigningKey.kind_of_sign signed

/-- **What a signer gives depends only on what was written.**  Whatever calls a client makes on a
new signer, in any order: every write reports its whole chunk; the signer refuses for the lack of a
header exactly if none was handed over; and otherwise it gives what signing at once gives for the
last header and the body that all chunks make up. -/
theorem finish_perform {parameters : Parameters} {key : SigningKey} {signer : Signer}
    (hnew : Signer.new parameters key = .ok signer) (calls : List SignerCall) :
    let step := perform calls signer
    step.answer = (chunks calls).map List.length ∧
      ((∃ failure, step.state.finish = .error failure ∧ failure.kind = .stream) ↔
        ∀ h, .header h ∉ calls) ∧
      ∀ h, lastHeader? calls = some h →
        step.state.finish = sign parameters key h (chunks calls).flatten := by
  intro step
  have hstep : step = _ := perform_eq calls signer
  have hheader : (signer.holding calls).header? = lastHeader? calls := by
    rw [(new_eq_ok hnew).2]
    exact Option.or_none
  rw [hstep]
  refine ⟨rfl, ?_, fun h hlast => ?_⟩
  · rw [← lastHeader?_eq_none_iff, ← hheader]
    constructor
    · rintro ⟨failure, e, hkind⟩
      cases hh : (signer.holding calls).header? with
      | none => rfl
      | some h =>
          rw [kind_of_finish hh e] at hkind
          cases hkind
    · intro hnone
      exact ⟨_, finish_of_none hnone, rfl⟩
  · rw [sign, hnew]
    have hsame : signer.holding calls =
        (signer.writeHeader h).write (chunks calls).flatten := by
      rw [holding, hlast]
      rfl
    exact congrArg finish hsame

/-- Two headers, and chunks before, between and after them; and a client that forgets the header. -/
theorem finish_perform_ed25519 :
    let key := SigningKey.ed25519 (List.replicate 32 7)
    let first := (Header.parse (utf8 "Subject: draft\r\n\r\n")).1
    let last := (Header.parse (utf8 "From: alice@example.org\r\nSubject: report\r\n\r\n")).1
    let calls := [.chunk (utf8 "Hello "), .header first, .chunk (utf8 "both,\r"), .header last,
      .chunk [], .chunk (utf8 "\n")]
    ∃ signer, Signer.new sampleParameters key = .ok signer ∧
      (perform calls signer).answer = [6, 6, 0, 1] ∧
      (perform calls signer).state.finish =
        sign sampleParameters key last (utf8 "Hello both,\r\n") ∧
      ∃ failure, (perform [.chunk (utf8 "Hello")] signer).state.finish = .error failure ∧
        failure.kind = .stream := by
  intro key first last calls
  obtain ⟨hreports, -, hsame⟩ := finish_perform new_sampleParameters calls
  obtain ⟨-, hrefused, -⟩ := finish_perform new_sampleParameters [.chunk (utf8 "Hello")]
  refine ⟨_, new_sampleParameters, hreports, hsame last rfl, hrefused.mpr ?_⟩
  intro h m
  cases List.mem_singleton.mp m

end Signer

end Mailroom.Dkim
