import Mailroom.Delivery.StorageTarget
import Mailroom.Proofs.Delivery.Outcome
import Mailroom.Proofs.Text.Separators
import Mathlib.Data.List.Basic

/-! # From a login to the mail

A login name and a mail address are read by different rules.  Still a name that may log in leads
to the same account by both (`ofAddress_of_ofLogin?`), apart from names that end in `@`: the rule
for logins takes such a name for one without a domain, the rule for addresses refuses it.  So who
logs in under such a name has no mail (`login_without_account`). -/

namespace Mailroom

variable {username : String} {perDomain : Bool} {domains : List String} {account : Account}

/-- What a login name can be: a name without `@` where accounts are shared, or a name and a domain
with one `@` between them.  The domain may be empty where accounts are shared. -/
theorem eq_of_ofLogin? (h : Account.ofLogin? username perDomain domains = some account) :
    (cutFirst '@' username.toList = none ∧ username.toList ≠ [] ∧ perDomain = false ∧
      account = ⟨lowerCase username⟩) ∨
    ∃ localPart domain, cutFirst '@' username.toList = some (localPart, domain) ∧
      localPart ≠ [] ∧ '@' ∉ domain ∧ (perDomain = true → domain ≠ []) ∧
      account =
        ⟨if perDomain then lowerCase username else String.ofList (lowerChars localPart)⟩ := by
  unfold Account.ofLogin? loginParts at h
  cases hcut : cutFirst '@' username.toList with
  | none =>
      rw [hcut] at h
      dsimp only [Option.getD] at h
      split at h
      · cases h
      · next hpassed =>
        simp only [Bool.or_eq_true, not_or, Bool.and_eq_true, List.isEmpty_nil, and_true,
          Bool.not_eq_true] at hpassed
        obtain ⟨⟨⟨hlocal, -⟩, hper⟩, -⟩ := hpassed
        obtain rfl := Option.some.inj h
        exact .inl ⟨rfl, List.isEmpty_eq_false_iff.mp hlocal, hper, by rw [hper]; rfl⟩
  | some parts =>
      obtain ⟨localPart, domain⟩ := parts
      rw [hcut] at h
      dsimp only [Option.getD] at h
      split at h
      · cases h
      · next hpassed =>
        simp only [Bool.or_eq_true, not_or, Bool.and_eq_true, List.contains_iff_mem,
          List.isEmpty_iff] at hpassed
        obtain ⟨⟨⟨hlocal, hdomain⟩, hper⟩, -⟩ := hpassed
        obtain rfl := Option.some.inj h
        exact .inr ⟨localPart, domain, rfl, hlocal, hdomain, fun hp he => hper ⟨hp, he⟩, rfl⟩

/-- **Login and address agree,** unless the login name ends in `@`. -/
theorem ofAddress_of_ofLogin? (h : Account.ofLogin? username perDomain domains = some account) :
    Account.ofAddress username perDomain =
      if username.toList.getLast? = some '@' then .error .emptyPart else .ok account := by
  unfold Account.ofAddress addressParts?
  rcases eq_of_ofLogin? h with ⟨hcut, hne, rfl, rfl⟩ |
    ⟨localPart, domain, hcut, hlocal, hdomain, hper, rfl⟩
  · have hlast : username.toList.getLast? ≠ some '@' := fun e =>
      cutFirst_eq_none hcut (List.mem_of_getLast? e)
    rw [hcut, if_neg hlast]
    have hempty : username.isEmpty = false := by
      simpa using hne
    simp [hempty]
  · rw [hcut, cutFirst_eq_some hcut]
    cases domain with
    | nil =>
        rw [if_pos List.getLast?_concat]
        simp
    | cons c domain =>
        have hlast : (localPart ++ '@' :: c :: domain).getLast? ≠ some '@' := by
          intro e
          rw [List.getLast?_append_cons, List.getLast?_cons_cons] at e
          exact hdomain (List.mem_of_getLast? e)
        rw [if_neg hlast]
        simp [hlocal]

namespace Storage

variable {σ δ : Type} (storage : Storage σ δ)

/-- A name that may log in is not refused for the lack of a domain. -/
theorem loginStorageAccount_of_ofLogin?
    (h : Account.ofLogin? username storage.rules.perDomain domains = some account) :
    storage.loginStorageAccount username =
      if username.toList.getLast? = some '@' then .error .emptyPart else .ok account := by
  rw [← ofAddress_of_ofLogin? h, loginStorageAccount, if_neg]
  intro hrefused
  rw [Bool.and_eq_true, Bool.not_eq_true', List.contains_eq_mem, decide_eq_false_iff_not]
    at hrefused
  rcases eq_of_ofLogin? h with ⟨-, -, hper, -⟩ | ⟨localPart, domain, hcut, -⟩
  · rw [hper] at hrefused
    exact Bool.false_ne_true hrefused.1
  · rw [cutFirst_eq_some hcut] at hrefused
    exact hrefused.2 (List.mem_append_right _ List.mem_cons_self)

/-- A login that succeeds is one for the account of the name. -/
theorem exists_of_checkPlain {password : String} {s : σ}
    (h : (storage.checkPlain username password s).answer = .ok true) :
    ∃ account, Account.ofLogin? username storage.loginPerDomain storage.loginDomains =
        some account ∧
      (storage.backend.checkPlain account.name password s).answer = .ok true := by
  unfold checkPlain at h
  cases hlogin : Account.ofLogin? username storage.loginPerDomain storage.loginDomains with
  | none =>
      rw [hlogin] at h
      cases h
  | some account =>
      rw [hlogin] at h
      refine ⟨account, rfl, ?_⟩
      have hanswer : (storage.backend.checkPlain account.name password s).answer.mapError
          Failure.backend = .ok true := h
      cases hb : (storage.backend.checkPlain account.name password s).answer with
      | error fault =>
          rw [hb] at hanswer
          cases hanswer
      | ok b =>
          rw [hb] at hanswer
          exact congrArg _ (Except.ok.inj hanswer)

end Storage

/-- **Who logs in has mail,** unless the login name ends in `@`.  A name that may log in leads to
the same account as a mail address.  So if the rules for logins keep domains apart like those for
deliveries, a login that succeeds is one for the account that is created for the name, and that
takes the mail for it.  A name that ends in `@` is refused in both places. -/
theorem login_leads_to_account {σ δ : Type} (storage : Storage σ δ) (username : String) :
    (∀ (perDomain : Bool) (domains : List String) (account : Account),
      Account.ofLogin? username perDomain domains = some account →
        Account.ofAddress username perDomain =
          if username.toList.getLast? = some '@' then .error .emptyPart else .ok account) ∧
    ∀ (password : String) (s : σ), storage.loginPerDomain = storage.rules.perDomain →
      (storage.checkPlain username password s).answer = .ok true →
      ∃ account, Account.ofLogin? username storage.loginPerDomain storage.loginDomains =
          some account ∧
        (storage.backend.checkPlain account.name password s).answer = .ok true ∧
        if username.toList.getLast? = some '@' then
          storage.getOrCreateUser username = Act.pure (.error AddressFault.emptyPart.failure) ∧
          ∀ (t : σ) (tx : Transaction δ), tx.rules = storage.rules → tx.state = .created →
            (Transaction.addRcpt storage.backend username (t, tx)).outcome =
              (.error AddressFault.emptyPart.failure, t, tx)
        else
          storage.getOrCreateUser username =
            (storage.backend.getOrCreateUser account.name).mapError Failure.backend ∧
          ∀ (t : σ) (tx : Transaction δ), tx.rules = storage.rules → tx.state = .created →
            (Transaction.addRcpt storage.backend username (t, tx)).outcome =
              if account.name ∈ tx.added then (.ok (), t, tx)
              else
                (Transaction.addAccount storage.backend username account tx (t, tx)).outcome := by
  refine ⟨fun _ _ _ h => ofAddress_of_ofLogin? h, fun password s hpolicy hcheck => ?_⟩
  obtain ⟨account, hlogin, hbackend⟩ := storage.exists_of_checkPlain hcheck
  refine ⟨account, hlogin, hbackend, ?_⟩
  rw [hpolicy] at hlogin
  have haccount := storage.loginStorageAccount_of_ofLogin? hlogin
  have haddress := ofAddress_of_ofLogin? hlogin
  split
  · next hlast =>
    rw [if_pos hlast] at haccount haddress
    refine ⟨by rw [Storage.getOrCreateUser, haccount], fun t tx hrules hcreated => ?_⟩
    rw [Transaction.addRcpt_outcome _ _ _ _ hcreated, hrules, haddress]
  · next hlast =>
    rw [if_neg hlast] at haccount haddress
    refine ⟨by rw [Storage.getOrCreateUser, haccount], fun t tx hrules hcreated => ?_⟩
    rw [Transaction.addRcpt_outcome _ _ _ _ hcreated, hrules, haddress]

/-- A login with a domain, where accounts are shared. -/
theorem login_leads_to_account_bob :
    let storage : Storage Store StoreDelivery :=
      ⟨"local", {}, false, [], "mx", .standard, "", Store.backend⟩
    let s := ({} : Store).createUser "bob" "pw"
    Account.ofLogin? "Bob@example.org" false [] = some ⟨"bob"⟩ ∧
      Account.ofAddress "Bob@example.org" false = .ok ⟨"bob"⟩ ∧
      (storage.checkPlain "Bob@example.org" "pw" s).answer = .ok true ∧
      storage.getOrCreateUser "Bob@example.org" =
        (storage.backend.getOrCreateUser "bob").mapError Failure.backend := by
  intro storage s
  have hlogin : Account.ofLogin? "Bob@example.org" false [] = some ⟨"bob"⟩ := by decide +kernel
  have hlast : "Bob@example.org".toList.getLast? ≠ some '@' := by decide
  have hcheck : (storage.checkPlain "Bob@example.org" "pw" s).answer = .ok true := by rfl
  have hagree := login_leads_to_account storage "Bob@example.org"
  have haddress := hagree.1 _ _ _ hlogin
  rw [if_neg hlast] at haddress
  obtain ⟨account, haccount, -, hmail⟩ := hagree.2 "pw" s rfl hcheck
  rw [if_neg hlast] at hmail
  obtain rfl : (⟨"bob"⟩ : Account) = account := Option.some.inj (hlogin.symm.trans haccount)
  exact ⟨hlogin, haddress, hcheck, hmail.1⟩

/-- A login name that ends in `@` is let in and has no account for its mail. -/
theorem login_without_account :
    let storage : Storage Store StoreDelivery :=
      ⟨"local", {}, false, [], "mx", .standard, "", Store.backend⟩
    let s := ({} : Store).createUser "bob" "pw"
    Account.ofLogin? "bob@" false [] = some ⟨"bob"⟩ ∧
      Account.ofAddress "bob@" false ≠ .ok ⟨"bob"⟩ ∧
      (storage.checkPlain "bob@" "pw" s).answer = .ok true ∧
      (storage.getOrCreateUser "bob@" s).answer = .error AddressFault.emptyPart.failure := by
  intro storage s
  refine ⟨by decide +kernel, fun h => ?_, by rfl, by rfl⟩
  cases h

end Mailroom
