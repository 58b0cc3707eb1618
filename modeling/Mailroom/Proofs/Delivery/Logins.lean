import Mailroom.Delivery.StorageTarget
import Mailroom.Proofs.Store.Passwords
import Mailroom.Proofs.Text.Separators

/-! # Who can log in

Two things decide about a login: whether the name may log in at all, which is read off its text
(`MayLogIn`), and the password that its account was created with last (`login_iff`).  An account
that was made for incoming mail has none, so nobody logs in to it. -/

namespace Mailroom

/-! ### Names -/

/-- The text of a login name in front of the first `@`. -/
def localText (username : String) : List Char := username.toList.takeWhile (· != '@')

/-- The text of a login name behind the first `@`. -/
def domainText (username : String) : List Char := (username.toList.dropWhile (· != '@')).tail

/-- The account name that a login name stands for. -/
def loginName (perDomain : Bool) (username : String) : String :=
  lowerCase (if perDomain then username else String.ofList (localText username))

/-- **A login name that may log in,** if the domain `domains` lists, or any if it lists none. -/
structure MayLogIn (perDomain : Bool) (domains : List String) (username : String) : Prop where
  localPart : localText username ≠ []
  once : username.toList.count '@' ≤ 1
  qualified : perDomain = true → domainText username ≠ []
  listed : domainText username ≠ [] → domains ≠ [] →
    ∃ domain ∈ domains, equalsIgnoringCase domain (String.ofList (domainText username)) = true

variable {perDomain : Bool} {domains : List String} {username : String}

theorem loginParts_eq (username : String) :
    loginParts username.toList = (localText username, domainText username) :=
  cutFirst_getD '@' username.toList

/-- Whether the list of domains lets a name in. -/
def allowsDomain (domains : List String) (username : String) : Bool :=
  (domainText username).isEmpty || domains.isEmpty ||
    domains.any fun domain => equalsIgnoringCase domain (String.ofList (domainText username))

theorem allowsDomain_iff :
    allowsDomain domains username = true ↔
      (domainText username ≠ [] → domains ≠ [] → ∃ domain ∈ domains,
        equalsIgnoringCase domain (String.ofList (domainText username)) = true) := by
  rw [allowsDomain, Bool.or_assoc, Bool.or_eq_true, Bool.or_eq_true, List.isEmpty_iff,
    List.isEmpty_iff, List.any_eq_true, Classical.or_iff_not_imp_left,
    Classical.or_iff_not_imp_left]

/-- What the text of a name is checked for. -/
theorem mayLogIn_iff :
    MayLogIn perDomain domains username ↔
      ¬ ((localText username).isEmpty || (domainText username).contains '@' ||
        (perDomain && (domainText username).isEmpty) || !allowsDomain domains username) = true := by
  have honce : username.toList.count '@' ≤ 1 ↔ '@' ∉ domainText username :=
    count_le_one_iff '@' username.toList
  have hlisted : allowsDomain domains username = true ↔ _ := allowsDomain_iff
  simp only [Bool.or_eq_true, Bool.and_eq_true, Bool.not_eq_true', not_or, not_and,
    List.isEmpty_iff, List.contains_iff_mem, Bool.not_eq_false]
  constructor
  · intro h
    exact ⟨⟨⟨h.localPart, honce.mp h.once⟩, h.qualified⟩, hlisted.mpr h.listed⟩
  · rintro ⟨⟨⟨hlocal, hcount⟩, hqualified⟩, hallowed⟩
    exact ⟨hlocal, honce.mpr hcount, hqualified, hlisted.mp hallowed⟩

/-- **Exactly the names that may log in** lead to an account, each to the one it stands for. -/
theorem ofLogin?_eq_some_iff {account : Account} :
    Account.ofLogin? username perDomain domains = some account ↔
      MayLogIn perDomain domains username ∧ account = ⟨loginName perDomain username⟩ := by
  have hname : (if perDomain then lowerCase username
      else String.ofList (lowerChars (localText username))) = loginName perDomain username := by
    unfold loginName lowerCase
    cases perDomain <;> simp
  rw [mayLogIn_iff]
  unfold Account.ofLogin?
  rw [loginParts_eq]
  dsimp only
  rw [hname]
  split
  · next hrefused => exact ⟨nofun, fun h => absurd hrefused h.1⟩
  · next hpassed => exact ⟨fun h => ⟨hpassed, (Option.some.inj h).symm⟩, fun h => by rw [h.2]⟩

/-! ### Passwords -/

/-- What a login answers. -/
theorem Storage.answer_checkPlain {σ δ : Type} (storage : Storage σ δ)
    (username password : String) (s : Store) :
    ((storage.withBackend Store.backend).checkPlain username password s).answer =
      .ok ((Account.ofLogin? username storage.loginPerDomain storage.loginDomains).any
        fun account => passwordOf? s.accounts account.name == some password) := by
  unfold checkPlain withBackend
  dsimp only
  cases Account.ofLogin? username storage.loginPerDomain storage.loginDomains <;> rfl

/-- **Logins are sound and complete.**  Whatever was asked of a new store: a login at any storage
target over it is let in exactly if its name may log in and its password is the one that the
account was created with last, and refused otherwise.  So nobody logs in to an account that was
never created with a password. -/
theorem login_iff {σ δ : Type} (storage : Storage σ δ) (options : StoreOptions) (host : Host)
    (traffic : List StoreTraffic) (username password : String) :
    let store := ((BusyStore.opened options host).run traffic).shared.store
    let login := (storage.withBackend Store.backend).checkPlain username password store
    let name := loginName storage.loginPerDomain username
    (login.answer = .ok true ↔
      MayLogIn storage.loginPerDomain storage.loginDomains username ∧
        lastPassword? name traffic = some password) ∧
    (login.answer = .ok true ∨ login.answer = .ok false) ∧
    ((∀ created, .request (.createUser name created) ∉ traffic) → login.answer = .ok false) := by
  intro store login name
  have hanswer : login.answer = _ := storage.answer_checkPlain username password store
  have hlast : passwordOf? store.accounts name = lastPassword? name traffic :=
    BusyStore.password?_run options host traffic name
  have hlets : login.answer = .ok true ↔
      MayLogIn storage.loginPerDomain storage.loginDomains username ∧
        lastPassword? name traffic = some password := by
    rw [hanswer, Except.ok.injEq, Option.any_eq_true, ← hlast]
    constructor
    · rintro ⟨account, haccount, hequal⟩
      obtain ⟨hmay, rfl⟩ := ofLogin?_eq_some_iff.mp haccount
      exact ⟨hmay, beq_iff_eq.mp hequal⟩
    · rintro ⟨hmay, hequal⟩
      exact ⟨_, ofLogin?_eq_some_iff.mpr ⟨hmay, rfl⟩, beq_iff_eq.mpr hequal⟩
  have hdecided : login.answer = .ok true ∨ login.answer = .ok false := by
    rw [hanswer]
    cases Option.any _ _ with
    | true => exact .inl rfl
    | false => exact .inr rfl
  refine ⟨hlets, hdecided, fun hnever => hdecided.resolve_left fun hin => ?_⟩
  have hnone := (hlets.mp hin).2
  rw [lastPassword?_eq_none hnever] at hnone
  cases hnone

/-- Alice is created twice, and mail comes in for her and for Bob, who has no password. -/
theorem login_iff_alice :
    let storage : Storage Store StoreDelivery :=
      ⟨"local", {}, false, ["Example.org"], "mx", .standard, "", Store.backend⟩
    let traffic : List StoreTraffic := [
      .request (.createUser "alice" "old"), .request (.getOrCreateUser "bob"), .openDelivery,
      .delivery 0 (.addRcpt "bob" {}), .delivery 0 (.addRcpt "alice" {}),
      .delivery 0 (.specialMailbox junkUse "Junk"), .delivery 0 (.body {} 1 (.memory [1])),
      .request (.createUser "alice" "new"), .delivery 0 .commit,
      .request (.createMailbox "alice" "Work")]
    let store := ((BusyStore.opened {} {}).run traffic).shared.store
    let answer := fun username password => (storage.checkPlain username password store).answer
    answer "Alice@EXAMPLE.org" "new" = .ok true ∧ answer "Alice@EXAMPLE.org" "old" = .ok false ∧
      ∀ password, answer "bob" password = .ok false := by
  intro storage traffic store answer
  have hname : loginName false "Alice@EXAMPLE.org" = "alice" := by decide +kernel
  have hbob : loginName false "bob" = "bob" := by decide +kernel
  have hlast : lastPassword? "alice" traffic = some "new" := rfl
  have hlogin := login_iff storage {} {} traffic
  have halice := hlogin "Alice@EXAMPLE.org"
  dsimp only [storage] at halice
  rw [hname, hlast] at halice
  refine ⟨(halice "new").1.mpr ⟨⟨?_, ?_, ?_, fun _ _ => ?_⟩, rfl⟩,
    (halice "old").2.1.resolve_left fun hin => ?_, fun password => ?_⟩
  · decide
  · decide
  · exact nofun
  · exact ⟨"Example.org", List.mem_cons_self, by decide +kernel⟩
  · have hsame : "new" = "old" := Option.some.inj ((halice "old").1.mp hin).2
    exact absurd hsame (by decide)
  · refine (hlogin "bob" password).2.2 fun created => ?_
    dsimp only [storage]
    rw [hbob]
    simp [traffic]

end Mailroom
