import Mailroom.Proofs.Delivery.Protocol
import Mailroom.Proofs.Text.LowerCase
import Mailroom.Proofs.Text.Separators
import Mailroom.Store.Basic
import Mathlib.Data.List.Basic

/-! # Account names are canonical

An account is found again under its own name (`ofAddress_name`), and the case of ASCII letters in an
address or a login name leads to no other account (`ofAddress_congr`, `ofLogin?_congr`).  So once a
transaction has a recipient, the same one in another spelling changes nothing, whatever was asked of
the transaction in between; the main result is `account_names_canonical`. -/

namespace Mailroom

/-! ### The name as an address -/

variable {perDomain : Bool}

/-- An address without `@` stands for itself. -/
theorem ofAddress_of_notMem {address : String} (h : '@' ∉ address.toList) :
    Account.ofAddress address perDomain =
      if perDomain then .error .domainRequired
      else if address.isEmpty then .error .emptyAddress
      else .ok ⟨lowerCase address⟩ := by
  rw [Account.ofAddress, addressParts?, cutFirst_of_notMem h]
  rfl

/-- An address is cut at the first `@`. -/
theorem ofAddress_of_parts {address : String} {localPart domain : List Char}
    (e : address.toList = localPart ++ '@' :: domain) (h : '@' ∉ localPart) :
    Account.ofAddress address perDomain =
      if localPart = [] ∨ domain = [] then .error .emptyPart
      else .ok ⟨if perDomain then lowerCase address else String.ofList (lowerChars localPart)⟩ := by
  rw [Account.ofAddress, addressParts?, e, cutFirst_append_cons h]
  by_cases hempty : localPart = [] ∨ domain = []
  · rw [if_pos hempty]
    simp [hempty]
  · rw [if_neg hempty]
    rw [not_or] at hempty
    simp [hempty.1, hempty.2]

/-- A name without `@` is its own account where accounts are shared. -/
theorem ofAddress_lowerChars {text : List Char} (hne : text ≠ []) (h : '@' ∉ text) :
    Account.ofAddress (String.ofList (lowerChars text)) false =
      .ok ⟨String.ofList (lowerChars text)⟩ := by
  have hat : '@' ∉ (String.ofList (lowerChars text)).toList := by
    rw [String.toList_ofList]
    exact fun m => h ((isLower_of_mem_lowerFrom m).2 rfl)
  have hempty : (String.ofList (lowerChars text)).isEmpty = false := by
    rw [← Bool.not_eq_true, String.isEmpty_iff, ← String.toList_eq_nil_iff, String.toList_ofList]
    exact mt lowerFrom_eq_nil_iff.mp hne
  rw [ofAddress_of_notMem hat, if_neg Bool.false_ne_true, hempty, if_neg Bool.false_ne_true,
    lowerCase, String.toList_ofList, lowerChars_lowerChars]

/-- **An account is found again under its name.** -/
theorem ofAddress_name {address : String} {account : Account}
    (h : Account.ofAddress address perDomain = .ok account) :
    Account.ofAddress account.name perDomain = .ok account := by
  by_cases hat : '@' ∈ address.toList
  · obtain ⟨localPart, domain, e, hlocal⟩ := List.eq_append_cons_of_mem hat
    rw [ofAddress_of_parts e hlocal] at h
    split at h
    · cases h
    · next hne =>
      cases h
      cases perDomain with
      | false => exact ofAddress_lowerChars (fun e => hne (.inl e)) hlocal
      | true =>
          obtain ⟨localPart', domain', e', hlocal', hfirst, hsecond⟩ :=
            exists_lowerFrom_at [] domain hlocal
          have hname : (lowerCase address).toList = localPart' ++ '@' :: domain' := by
            rw [lowerCase, String.toList_ofList, e]
            exact e'
          have hne' : ¬(localPart' = [] ∨ domain' = []) := by rwa [hfirst, hsecond]
          show Account.ofAddress (lowerCase address) true = .ok ⟨lowerCase address⟩
          rw [ofAddress_of_parts hname hlocal', if_neg hne', if_pos rfl, lowerCase_lowerCase]
  · rw [ofAddress_of_notMem hat] at h
    cases perDomain with
    | true => cases h
    | false =>
        rw [if_neg Bool.false_ne_true] at h
        split at h
        · cases h
        · next hne =>
          cases h
          exact ofAddress_lowerChars (by simpa using hne) hat

/-! ### Other spellings -/

theorem lowerCase_lowerAscii (s : String) : lowerCase (lowerAscii s) = lowerCase s := by
  rw [lowerCase, lowerCase, lowerAscii, String.toList_ofList, lowerChars_map_toLower]

theorem isEmpty_lowerAscii (s : String) : (lowerAscii s).isEmpty = s.isEmpty := by
  rw [Bool.eq_iff_iff, String.isEmpty_iff, String.isEmpty_iff, lowerAscii,
    ← String.toList_eq_nil_iff, ← String.toList_eq_nil_iff, String.toList_ofList]
  exact List.map_eq_nil_iff

theorem ofAddress_lowerAscii (address : String) (perDomain : Bool) :
    Account.ofAddress (lowerAscii address) perDomain = Account.ofAddress address perDomain := by
  rw [Account.ofAddress, Account.ofAddress, addressParts?, addressParts?, lowerCase_lowerAscii,
    isEmpty_lowerAscii, lowerAscii, String.toList_ofList, cutFirst_map (toLower_eq_iff (by decide))]
  cases cutFirst '@' address.toList with
  | none => rfl
  | some parts =>
      obtain ⟨localPart, domain⟩ := parts
      simp only [Option.map_some, List.isEmpty_map]
      cases localPart.isEmpty || domain.isEmpty with
      | true => rfl
      | false => simp [lowerChars_map_toLower]

/-- **Addresses that agree up to ASCII case** lead to the same account or the same fault. -/
theorem ofAddress_congr {address other : String} (h : equalsIgnoringCase address other = true)
    (perDomain : Bool) : Account.ofAddress address perDomain = Account.ofAddress other perDomain := by
  rw [← ofAddress_lowerAscii address, ← ofAddress_lowerAscii other, equalsIgnoringCase_iff.mp h]

theorem loginParts_map_toLower (username : List Char) :
    loginParts (username.map Char.toLower) =
      ((loginParts username).1.map Char.toLower, (loginParts username).2.map Char.toLower) := by
  rw [loginParts, loginParts, cutFirst_map (toLower_eq_iff (by decide))]
  cases cutFirst '@' username <;> rfl

theorem equalsIgnoringCase_map_toLower (domain : String) (text : List Char) :
    equalsIgnoringCase domain (String.ofList (text.map Char.toLower)) =
      equalsIgnoringCase domain (String.ofList text) := by
  have htwice : (text.map Char.toLower).map Char.toLower = text.map Char.toLower := by
    rw [List.map_map]
    exact List.map_congr_left fun c _ => toLower_toLower c
  rw [equalsIgnoringCase, equalsIgnoringCase, String.toList_ofList, String.toList_ofList, htwice]

theorem contains_at_map_toLower (text : List Char) :
    (text.map Char.toLower).contains '@' = text.contains '@' := by
  rw [Bool.eq_iff_iff, List.contains_iff_mem, List.contains_iff_mem, List.mem_map]
  constructor
  · rintro ⟨c, m, e⟩
    exact eq_of_toLower_eq (by decide) e ▸ m
  · exact fun m => ⟨'@', m, rfl⟩

theorem ofLogin?_lowerAscii (username : String) (perDomain : Bool) (domains : List String) :
    Account.ofLogin? (lowerAscii username) perDomain domains =
      Account.ofLogin? username perDomain domains := by
  have hparts : loginParts (lowerAscii username).toList =
      ((loginParts username.toList).1.map Char.toLower,
        (loginParts username.toList).2.map Char.toLower) := by
    rw [lowerAscii, String.toList_ofList, loginParts_map_toLower]
  rw [Account.ofLogin?, Account.ofLogin?, hparts]
  simp only [List.isEmpty_map, equalsIgnoringCase_map_toLower, contains_at_map_toLower,
    lowerCase_lowerAscii, lowerChars_map_toLower]

/-- **Login names that agree up to ASCII case** stand for the same account, or may not log in. -/
theorem ofLogin?_congr {username other : String} (h : equalsIgnoringCase username other = true)
    (perDomain : Bool) (domains : List String) :
    Account.ofLogin? username perDomain domains = Account.ofLogin? other perDomain domains := by
  rw [← ofLogin?_lowerAscii username, ← ofLogin?_lowerAscii other, equalsIgnoringCase_iff.mp h]

/-! ### Transactions -/

variable {σ δ : Type}

/-- What a transaction keeps from one call to the next: its rules, and the accounts it has. -/
structure Transaction.Extends (old new : Transaction δ) : Prop where
  rules : new.rules = old.rules
  added : ∀ account ∈ old.added, account ∈ new.added

namespace Transaction

variable (b : Backend σ δ) (s : σ) (tx : Transaction δ)

theorem Extends.refl : tx.Extends tx := ⟨rfl, fun _ m => m⟩

theorem Extends.trans {old mid new : Transaction δ} (h : old.Extends mid) (h' : mid.Extends new) :
    old.Extends new :=
  ⟨h'.rules.trans h.rules, fun account m => h'.added account (h.added account m)⟩

/-- What the store does with the delivery leaves rules and accounts alone. -/
theorem extends_withDelivery (delivery : δ) : tx.Extends (tx.withDelivery delivery) :=
  ⟨rfl, fun _ m => m⟩

theorem extends_addRcpt (rcpt : String) (h : tx.state = .created) :
    tx.Extends (addRcpt b rcpt (s, tx)).outcome.2.2 := by
  rw [addRcpt_outcome b s tx rcpt h]
  cases Account.ofAddress rcpt tx.rules.perDomain with
  | error fault => exact .refl tx
  | ok account =>
      dsimp only
      split
      · exact .refl tx
      · rw [addAccount_outcome]
        dsimp only
        cases (b.addRcpt account.name ⟨[deliveredTo rcpt]⟩ (s, tx.delivery)).answer with
        | error fault => exact tx.extends_withDelivery _
        | ok _ => exact ⟨rfl, fun _ m => List.mem_cons_of_mem _ m⟩

theorem extends_depositBody (header : Header) (content : Body) (old : Transaction δ) :
    tx.Extends (depositBody b header content old (s, tx)).outcome.2.2 := by
  rw [depositBody_outcome]
  dsimp only
  cases (b.body (header.addField (returnPath old.sender)) content.length content
    (s, tx.delivery)).answer with
  | error fault => exact tx.extends_withDelivery _
  | ok _ => exact ⟨rfl, fun _ m => m⟩

theorem extends_body (header : Header) (content : Body) (h : tx.state = .created) :
    tx.Extends (body b header content (s, tx)).outcome.2.2 := by
  rw [body_outcome b s tx header content h]
  split
  · dsimp only
    cases (b.specialMailbox junkUse tx.rules.junkMailbox (s, tx.delivery)).answer with
    | error fault => exact tx.extends_withDelivery _
    | ok _ => exact (tx.extends_withDelivery _).trans (extends_depositBody b _ _ header content tx)
  · exact extends_depositBody b s tx header content tx

theorem extends_commit (h : tx.state ∈ [TransactionState.created, .bodyDeposited]) :
    tx.Extends (commit b (s, tx)).outcome.2.2 := by
  rw [commit_outcome b s tx h]
  dsimp only
  cases (b.commit (s, tx.delivery)).answer with
  | error fault => exact tx.extends_withDelivery _
  | ok _ => exact ⟨rfl, fun _ m => m⟩

theorem extends_abort (h : tx.state ∈ [TransactionState.created, .bodyDeposited]) :
    tx.Extends (abort b (s, tx)).outcome.2.2 := by
  rw [abort_outcome b s tx h]
  exact ⟨rfl, fun _ m => m⟩

end Transaction

/-- A call keeps the rules and the accounts. -/
theorem TransactionCall.extends_act (b : Backend σ δ) (call : TransactionCall)
    (p : σ × Transaction δ) : p.2.Extends (call.act b p).state.2 := by
  obtain ⟨s, tx⟩ := p
  by_cases h : tx.state ∈ call.allowedIn
  · cases call with
    | addRcpt rcpt => exact tx.extends_addRcpt b s rcpt (by simpa [allowedIn] using h)
    | body header content => exact tx.extends_body b s header content (by simpa [allowedIn] using h)
    | abort => exact tx.extends_abort b s h
    | commit => exact tx.extends_commit b s h
  · rw [call.act_of_notAllowed b s h]
    exact .refl tx

/-- So does any run of calls. -/
theorem TransactionCall.extends_run (b : Backend σ δ) : ∀ (calls : List TransactionCall)
    (p : σ × Transaction δ), p.2.Extends (run b calls p).2
  | [], p => .refl p.2
  | call :: calls, p => (call.extends_act b p).trans (extends_run b calls (call.act b p).state)

theorem Transaction.addRcpt_of_ne_created (b : Backend σ δ) (s : σ) {tx : Transaction δ}
    (h : tx.state ≠ .created) (rcpt : String) :
    addRcpt b rcpt (s, tx) = ⟨.error (tx.refusal "add_rcpt"), (s, tx), []⟩ := by
  have hrefused : tx.state ∉ (TransactionCall.addRcpt rcpt).allowedIn := by
    simpa [TransactionCall.allowedIn] using h
  exact (TransactionCall.addRcpt rcpt).act_of_notAllowed b s hrefused

/-- A recipient whose account is there changes nothing, whether the call is refused or not. -/
theorem Transaction.state_addRcpt_of_mem (b : Backend σ δ) {rcpt : String} {account : Account}
    {p : σ × Transaction δ} (h : Account.ofAddress rcpt p.2.rules.perDomain = .ok account)
    (hmem : account.name ∈ p.2.added) : (addRcpt b rcpt p).state = p := by
  obtain ⟨s, tx⟩ := p
  by_cases hstate : tx.state = .created
  · have e : (addRcpt b rcpt (s, tx)).outcome.2 = (s, tx) := by
      rw [addRcpt_outcome b s tx rcpt hstate, h]
      dsimp only
      rw [if_pos hmem]
    exact e
  · rw [addRcpt_of_ne_created b s hstate]

/-- A recipient that was added has an account, and the account is there. -/
theorem Transaction.exists_of_addRcpt_ok {b : Backend σ δ} {rcpt : String} {p : σ × Transaction δ}
    (h : (addRcpt b rcpt p).answer = .ok ()) :
    ∃ account, Account.ofAddress rcpt p.2.rules.perDomain = .ok account ∧
      account.name ∈ (addRcpt b rcpt p).state.2.added := by
  obtain ⟨s, tx⟩ := p
  by_cases hstate : tx.state = .created
  · have hanswer : (addRcpt b rcpt (s, tx)).outcome.1 = .ok () := h
    show ∃ account : Account, _ ∧ account.name ∈ (addRcpt b rcpt (s, tx)).outcome.2.2.added
    rw [addRcpt_outcome b s tx rcpt hstate] at hanswer ⊢
    cases ha : Account.ofAddress rcpt tx.rules.perDomain with
    | error fault =>
        rw [ha] at hanswer
        cases hanswer
    | ok account =>
        rw [ha] at hanswer
        refine ⟨account, rfl, ?_⟩
        dsimp only at hanswer ⊢
        split at hanswer
        · next hmem =>
          rw [if_pos hmem]
          exact hmem
        · next hmem =>
          rw [if_neg hmem]
          rw [addAccount_outcome] at hanswer ⊢
          dsimp only at hanswer ⊢
          cases hb : (b.addRcpt account.name ⟨[deliveredTo rcpt]⟩ (s, tx.delivery)).answer with
          | error fault =>
              rw [hb] at hanswer
              cases hanswer
          | ok _ => exact List.mem_cons_self
  · rw [addRcpt_of_ne_created b s hstate] at h
    cases h

/-- **A recipient in another spelling changes nothing,** whatever was asked of the transaction
since the first one was added. -/
theorem TransactionCall.state_addRcpt_again (b : Backend σ δ) {rcpt other : String}
    (hsame : equalsIgnoringCase rcpt other = true) {p : σ × Transaction δ}
    (h : (Transaction.addRcpt b rcpt p).answer = .ok ()) (calls : List TransactionCall) :
    (Transaction.addRcpt b other (run b calls (Transaction.addRcpt b rcpt p).state)).state =
      run b calls (Transaction.addRcpt b rcpt p).state := by
  obtain ⟨account, haccount, hmem⟩ := Transaction.exists_of_addRcpt_ok h
  have hfirst : p.2.Extends (Transaction.addRcpt b rcpt p).state.2 :=
    (TransactionCall.addRcpt rcpt).extends_act b p
  have hlater := extends_run b calls (Transaction.addRcpt b rcpt p).state
  refine Transaction.state_addRcpt_of_mem b ?_ (hlater.added _ hmem)
  rw [hlater.rules, hfirst.rules, ← ofAddress_congr hsame, haccount]

/-- **Account names are canonical.**  The name of an account leads to the account again.  Addresses
that agree up to the case of ASCII letters lead to the same account or the same fault, and login
names likewise, whatever domains may log in.  So in a transaction over any store that writes down
its calls, once a recipient was added, the same one in another spelling leaves the calls and
everything else as they are. -/
theorem account_names_canonical (perDomain : Bool) :
    (∀ (address : String) (account : Account), Account.ofAddress address perDomain = .ok account →
      Account.ofAddress account.name perDomain = .ok account) ∧
    (∀ a b : String, equalsIgnoringCase a b = true →
      Account.ofAddress a perDomain = Account.ofAddress b perDomain ∧
        ∀ domains : List String,
          Account.ofLogin? a perDomain domains = Account.ofLogin? b perDomain domains) ∧
    ∀ {σ δ : Type} (b : Backend σ δ) (p : (σ × List DeliveryCall) × Transaction δ)
      (rcpt other : String), equalsIgnoringCase rcpt other = true →
        (Transaction.addRcpt b.recorded rcpt p).answer = .ok () →
          ∀ calls : List TransactionCall,
            let later := TransactionCall.run b.recorded calls
              (Transaction.addRcpt b.recorded rcpt p).state
            (Transaction.addRcpt b.recorded other later).state = later :=
  ⟨fun _ _ h => ofAddress_name h,
    fun _ _ h => ⟨ofAddress_congr h perDomain, ofLogin?_congr h perDomain⟩,
    fun b _ _ _ hsame h calls => TransactionCall.state_addRcpt_again b.recorded hsame h calls⟩

/-- A Greek name that ends in a sigma, with Latin letters in two spellings. -/
theorem account_names_canonical_odysseus :
    let rcpt := "Dr.ΟΔΥΣΣΕΥΣ@Example.ORG"
    let other := "dR.ΟΔΥΣΣΕΥΣ@eXAMPLE.org"
    let account : Account := ⟨"dr.οδυσσευς@example.org"⟩
    let opened := Transaction.opened { perDomain := true } ⟨"1", "x@example.org", false⟩
      "x@example.org" ({} : StoreDelivery)
    let p := (((({} : Store).createUser account.name "a"), ([] : List DeliveryCall)), opened)
    let added := Transaction.addRcpt Store.backend.recorded rcpt p
    let calls : List TransactionCall := [.addRcpt "nobody@example.org"]
    let later := TransactionCall.run Store.backend.recorded calls added.state
    Account.ofAddress rcpt true = .ok account ∧ Account.ofAddress account.name true = .ok account ∧
      equalsIgnoringCase rcpt other = true ∧ Account.ofAddress other true = .ok account ∧
      added.answer = .ok () ∧
      later.1.2 = [⟨.addRcpt account.name, true⟩, ⟨.addRcpt "nobody@example.org", false⟩] ∧
      (Transaction.addRcpt Store.backend.recorded other later).state = later := by
  intro rcpt other account opened p added calls later
  have haccount : Account.ofAddress rcpt true = .ok account := by decide +kernel
  have hsame : equalsIgnoringCase rcpt other = true := by decide +kernel
  have hadded : added.answer = .ok () := by decide +kernel
  have hlog : later.1.2 =
      [⟨.addRcpt account.name, true⟩, ⟨.addRcpt "nobody@example.org", false⟩] := by
    decide +kernel
  obtain ⟨hname, hspelling, hagain⟩ := account_names_canonical true
  exact ⟨haccount, hname rcpt account haccount, hsame,
    (hspelling rcpt other hsame).1.symm.trans haccount, hadded, hlog,
    hagain Store.backend p rcpt other hsame hadded calls⟩

end Mailroom
