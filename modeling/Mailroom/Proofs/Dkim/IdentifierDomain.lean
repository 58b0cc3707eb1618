import Mailroom.Dkim.MessageSigner
import Mailroom.Proofs.Dkim.SignatureText
import Mailroom.Proofs.Text.LowerCase
import Mailroom.Proofs.Text.Separators

/-! # Identifiers lie in the signing domain

A domain is a list of labels.  It lies in a zone if its last labels are those of the zone, up to the
case of ASCII letters (`LiesIn`).  The check of an identifier compares text instead: it looks for
the zone behind a dot at the end of the domain.  Both say the same of all texts, empty labels
included (`isSameOrSubdomain_iff`), so no domain is accepted because a label of it ends like the
zone (`liesIn_append_iff`).

What counts of an identifier is the text behind the last `@` (`checkIdentifier_append`), whereas a
signer looks for any `@` in the sender and puts one in front of its own domain if there is none.
The identifier that it makes up is accepted unless an `@` stands in the signing domain itself
(`MessageSigner.checkIdentifier_identifier`). -/

namespace Mailroom.Dkim

/-! ### Labels -/

/-- The labels of a domain in the order in which they are written, the empty ones included. -/
def labels (domain : String) : List String := (splitAt '.' domain.toList).map String.ofList

/-- A domain lies in a zone if the labels of the zone are its last labels, up to ASCII case. -/
def LiesIn (domain zone : String) : Prop :=
  (labels zone).map lowerAscii <:+ (labels domain).map lowerAscii

instance (domain zone : String) : Decidable (LiesIn domain zone) :=
  inferInstanceAs (Decidable (_ <:+ _))

variable {domain zone : String}

theorem map_lowerAscii_labels (domain : String) :
    (labels domain).map lowerAscii = labels (lowerAscii domain) := by
  rw [labels, labels, lowerAscii, String.toList_ofList, splitAt_map (toLower_eq_iff (by decide)),
    List.map_map, List.map_map]
  refine List.map_congr_left fun label _ => ?_
  rw [Function.comp_apply, Function.comp_apply, lowerAscii, String.toList_ofList]

/-- The labels of a zone are the last ones of a domain if the domain is the zone or ends in it
behind a dot. -/
theorem labels_suffix_iff :
    labels zone <:+ labels domain ↔
      domain.toList = zone.toList ∨ '.' :: zone.toList <:+ domain.toList := by
  rw [← splitAt_suffix_iff]
  refine ⟨fun h => ?_, fun h => h.map _⟩
  obtain ⟨pieces, hsuffix, e⟩ := List.suffix_map_iff.mp h
  rwa [(List.map_inj_right fun _ _ => String.ofList_inj.mp).mp e]

theorem liesIn_iff :
    LiesIn domain zone ↔
      domain.toList.map Char.toLower = zone.toList.map Char.toLower ∨
        '.' :: zone.toList.map Char.toLower <:+ domain.toList.map Char.toLower := by
  rw [LiesIn, map_lowerAscii_labels, map_lowerAscii_labels, labels_suffix_iff, lowerAscii,
    lowerAscii, String.toList_ofList, String.toList_ofList]

/-- **The comparison of text is one of labels.** -/
theorem isSameOrSubdomain_iff : isSameOrSubdomain domain zone = true ↔ LiesIn domain zone := by
  rw [liesIn_iff, isSameOrSubdomain, endsWith, Bool.or_eq_true, beq_iff_eq,
    List.isSuffixOf_iff_suffix]

namespace LiesIn

theorem refl (domain : String) : LiesIn domain domain := List.suffix_rfl

theorem trans {a b c : String} (h : LiesIn a b) (h' : LiesIn b c) : LiesIn a c :=
  List.IsSuffix.trans h' h

theorem length_le (h : LiesIn domain zone) : zone.toList.length ≤ domain.toList.length := by
  rcases liesIn_iff.mp h with e | hbehind
  · simpa using (congrArg List.length e).ge
  · simpa using Nat.le_of_succ_le hbehind.length_le

end LiesIn

/-- **A label that ends like the zone is not enough:** what stands in front of the zone has to end
in a dot, or nothing stands there. -/
theorem liesIn_append_iff {above : String} :
    LiesIn (above ++ zone) zone ↔ above = "" ∨ above.toList.getLast? = some '.' := by
  rw [liesIn_iff, String.toList_append, List.map_append]
  refine or_congr ?_ ?_
  · rw [List.append_left_eq_self, List.map_eq_nil_iff, String.toList_eq_nil_iff]
  · rw [← List.singleton_append, List.suffix_append_self_iff]
    have hlast : ['.'] <:+ above.toList.map Char.toLower ↔
        (above.toList.map Char.toLower).getLast? = some '.' := by
      rw [List.getLast?_eq_some_iff]
      exact exists_congr fun _ => eq_comm
    rw [hlast, List.getLast?_map, Option.map_eq_some_iff]
    simp only [toLower_eq_iff (by decide : '.'.toNat < 65), exists_eq_right]

example : ¬ LiesIn "evilexample.org" "example.org" ∧ LiesIn "mail..Example.ORG" "example.org" := by
  decide

/-! ### The check of an identifier -/

/-- An identifier without `@` is refused. -/
theorem checkIdentifier_of_notMem {identifier : String} (h : '@' ∉ identifier.toList) :
    checkIdentifier identifier zone = .error (.identifierLacksDomain identifier) := by
  rw [checkIdentifier, cutLast_of_notMem h]

/-- Of any other one the text behind the last `@` has to lie in the signing domain. -/
theorem checkIdentifier_append (user : String) (h : '@' ∉ domain.toList) :
    checkIdentifier (user ++ "@" ++ domain) zone =
      if LiesIn domain zone then .ok () else .error (.foreignIdentifier domain zone) := by
  have e : (user ++ "@" ++ domain).toList = user.toList ++ '@' :: domain.toList := by simp
  rw [checkIdentifier, e, cutLast_append_cons user.toList h]
  simp only [String.ofList_toList, isSameOrSubdomain_iff]

theorem checkIdentifier_append_eq_ok (user : String) (h : '@' ∉ domain.toList) :
    checkIdentifier (user ++ "@" ++ domain) zone = .ok () ↔ LiesIn domain zone := by
  rw [checkIdentifier_append user h]
  split
  · next hin => exact ⟨fun _ => hin, fun _ => rfl⟩
  · next hout => exact ⟨nofun, fun hin => absurd hin hout⟩

theorem exists_last_at {identifier : String} (h : '@' ∈ identifier.toList) :
    ∃ user domain : String, identifier = user ++ "@" ++ domain ∧ '@' ∉ domain.toList := by
  obtain ⟨user, domain, e, hdomain⟩ := exists_last_sep h
  refine ⟨String.ofList user, String.ofList domain, ?_, by rwa [String.toList_ofList]⟩
  rw [← String.toList_inj, e]
  simp

/-- **What the check accepts.** -/
theorem checkIdentifier_eq_ok_iff {identifier : String} :
    checkIdentifier identifier zone = .ok () ↔
      ∃ user domain : String, identifier = user ++ "@" ++ domain ∧ '@' ∉ domain.toList ∧
        LiesIn domain zone := by
  constructor
  · intro h
    by_cases hat : '@' ∈ identifier.toList
    · obtain ⟨user, domain, rfl, hdomain⟩ := exists_last_at hat
      exact ⟨user, domain, rfl, hdomain, (checkIdentifier_append_eq_ok user hdomain).mp h⟩
    · rw [checkIdentifier_of_notMem hat] at h
      cases h
  · rintro ⟨user, domain, rfl, hdomain, hin⟩
    exact (checkIdentifier_append_eq_ok user hdomain).mpr hin

/-- Parameters with an identifier are accepted if the identifier is, and the others are. -/
theorem Parameters.accepted_identifier_iff {parameters : Parameters} {key : SigningKey}
    {identifier : String} :
    { parameters with identifier := some identifier }.Accepted key ↔
      { parameters with identifier := none }.Accepted key ∧
        checkIdentifier identifier parameters.domain = .ok () := by
  constructor
  · intro h
    exact ⟨⟨h.domain, h.selector, nofun, h.keys, h.expiration, h.hash⟩, h.identifier identifier rfl⟩
  · rintro ⟨h, hidentifier⟩
    refine ⟨h.domain, h.selector, fun other e => ?_, h.keys, h.expiration, h.hash⟩
    obtain rfl := Option.some.inj e
    exact hidentifier

/-! ### The identifier of a signer -/

namespace MessageSigner

variable (s : MessageSigner) {sender : String}

theorem identifier_of_notMem (h : '@' ∉ sender.toList) :
    s.identifier sender = sender ++ "@" ++ s.config.domain :=
  if_neg (mt List.contains_iff_mem.mp h)

/-- **The identifier of a sender without a domain is accepted,** unless an `@` in the signing domain
hides the front of it. -/
theorem checkIdentifier_identifier (h : '@' ∉ sender.toList) :
    checkIdentifier (s.identifier sender) s.config.domain = .ok () ↔
      '@' ∉ s.config.domain.toList := by
  rw [identifier_of_notMem s h]
  by_cases hat : '@' ∈ s.config.domain.toList
  · refine iff_of_false (fun haccepted => ?_) (not_not_intro hat)
    -- what counts is only the end of the signing domain, too short to lie in it
    obtain ⟨front, rest, e, hrest⟩ := exists_last_at hat
    have hshift : sender ++ "@" ++ s.config.domain = (sender ++ "@" ++ front) ++ "@" ++ rest := by
      rw [e]
      simp only [String.append_assoc]
    rw [hshift, checkIdentifier_append_eq_ok _ hrest] at haccepted
    have hlength : (front ++ "@" ++ rest).toList.length ≤ rest.toList.length :=
      e ▸ haccepted.length_le
    have hsign : "@".toList.length = 1 := rfl
    simp only [String.toList_append, List.length_append, hsign] at hlength
    omega
  · exact iff_of_true ((checkIdentifier_append_eq_ok sender hat).mpr (LiesIn.refl _)) hat

end MessageSigner

/-- **Identifiers are checked by whole labels.**  An identifier adds its own check to those of the
other parameters and nothing else.  The check accepts it if and only if it has an `@` and the labels
of the signing domain are the last labels of the text behind the last `@`, up to ASCII case.  The
relation of a domain to the zones that it lies in is reflexive and transitive, and text in front of
a zone leads out of it unless it ends in a dot.  The identifier that a signer makes up for a sender
without a domain is accepted if there is no `@` in the signing domain, and only then. -/
theorem identifiers_checked_by_labels :
    (∀ (parameters : Parameters) (key : SigningKey) (identifier : String),
      { parameters with identifier := some identifier }.validate key = .ok () ↔
        { parameters with identifier := none }.validate key = .ok () ∧
          checkIdentifier identifier parameters.domain = .ok ()) ∧
    (∀ identifier zone : String, checkIdentifier identifier zone = .ok () ↔
      ∃ user domain : String, identifier = user ++ "@" ++ domain ∧ '@' ∉ domain.toList ∧
        LiesIn domain zone) ∧
    (∀ domain zone : String, isSameOrSubdomain domain zone = true ↔ LiesIn domain zone) ∧
    (∀ domain : String, isSameOrSubdomain domain domain = true) ∧
    (∀ a b c : String, isSameOrSubdomain a b = true → isSameOrSubdomain b c = true →
      isSameOrSubdomain a c = true) ∧
    (∀ user above zone : String, '@' ∉ (above ++ zone).toList →
      (checkIdentifier (user ++ "@" ++ (above ++ zone)) zone = .ok () ↔
        above = "" ∨ above.toList.getLast? = some '.')) ∧
    ∀ (s : MessageSigner) (sender : String), '@' ∉ sender.toList →
      (checkIdentifier (s.identifier sender) s.config.domain = .ok () ↔
        '@' ∉ s.config.domain.toList) := by
  refine ⟨fun parameters key identifier => ?_, fun _ _ => checkIdentifier_eq_ok_iff,
    fun _ _ => isSameOrSubdomain_iff, fun domain => ?_, fun a b c hab hbc => ?_,
    fun user above zone hat => ?_, fun s _ hat => s.checkIdentifier_identifier hat⟩
  · rw [Parameters.validate_eq_ok_iff, Parameters.validate_eq_ok_iff,
      Parameters.accepted_identifier_iff]
  · exact isSameOrSubdomain_iff.mpr (LiesIn.refl domain)
  · rw [isSameOrSubdomain_iff] at hab hbc ⊢
    exact hab.trans hbc
  · rw [checkIdentifier_append_eq_ok user hat, liesIn_append_iff]

/-- Zones in several spellings, a host whose name ends like the zone, and the empty sender of a
delivery report. -/
theorem identifiers_checked_by_labels_reports :
    let s : MessageSigner := ⟨"", { domain := "Example.org" }, .ed25519 (List.replicate 32 7)⟩
    (isSameOrSubdomain "mx.News.example.org" "news.EXAMPLE.org" = true ∧
      isSameOrSubdomain "news.EXAMPLE.org" "Example.org" = true ∧
      isSameOrSubdomain "mx.News.example.org" "Example.org" = true) ∧
    ('@' ∉ ("evil" ++ "example.org").toList ∧
      checkIdentifier ("a@b" ++ "@" ++ ("evil" ++ "example.org")) "example.org" ≠ .ok ()) ∧
    '@' ∉ "".toList ∧ '@' ∉ s.config.domain.toList ∧ s.identifier "" = "@Example.org" ∧
      checkIdentifier (s.identifier "") s.config.domain = .ok () := by
  intro s
  obtain ⟨-, -, -, -, htrans, habove, hsender⟩ := identifiers_checked_by_labels
  have hhost : isSameOrSubdomain "mx.News.example.org" "news.EXAMPLE.org" = true := by decide
  have hnews : isSameOrSubdomain "news.EXAMPLE.org" "Example.org" = true := by decide
  have hevil : '@' ∉ ("evil" ++ "example.org").toList := by decide
  have hempty : '@' ∉ "".toList := by decide
  have hdomain : '@' ∉ s.config.domain.toList := by decide
  refine ⟨⟨hhost, hnews, htrans _ _ _ hhost hnews⟩, ⟨hevil, ?_⟩, hempty, hdomain, by decide,
    (hsender s "" hempty).mpr hdomain⟩
  rw [ne_eq, habove "a@b" "evil" "example.org" hevil]
  decide

end Mailroom.Dkim
