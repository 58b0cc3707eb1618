import Mailroom.Proofs.Delivery.Outcome
import Mailroom.Proofs.Dkim.SoundKeys
import Mailroom.Proofs.Host.NewDirectories

/-! # Keys that are not obtained

A call for a key can fail while it reads the key file, while it takes a key from the source or makes
its directory, and at every step of writing the key file and the record beside it.  As long as the
key file cannot be opened, a failure leaves at most new directories (`LeavesNoKey`).  From then on
it leaves a key file: one that breaks off, if that file cannot be written (`LeavesCutKey`), or the
whole key, if it is the record that cannot be made or written (`LeavesKey`).  Nothing removes that
file, so the next call reads it; a whole key is then obtained without a record (`failed_key`,
`key_without_record`). -/

namespace Mailroom
namespace Dkim

/-! ### Paths -/

/-- Whether two paths lead to one file. -/
def OneFile (fs : FileSystem) (path other : String) : Prop :=
  ∃ loc content mode, fs.lookup true path = .ok (.taken loc (.file content mode)) ∧
    fs.lookup true other = .ok (.taken loc (.file content mode))

/-- The name of a key file is not that of the record beside it. -/
theorem ne_of_lookup {fs gs : FileSystem} {path : String} {place other : Place}
    {loc there : Location} (hslash : ¬ Path.endsInSlash path = true)
    (h : fs.lookup false path = .ok place) (hp : FileSystem.Writable loc place)
    (hdns : gs.lookup false (dnsPath path) = .ok other) (hother : FileSystem.Writable there other) :
    there ≠ loc := by
  have hne := (FileSystem.lookup_eq_ok_iff.mp h).1.empty
  obtain ⟨names, name, hsegments, hlonger⟩ :=
    Path.segments_append_name ".dns" hslash hne (by decide)
  have hlast := FileSystem.getLast?_of_lookup hsegments h hp
  have hthere := FileSystem.getLast?_of_lookup hlonger hdns hother
  rintro rfl
  have hlength := congrArg String.length (Option.some.inj (hlast.symm.trans hthere))
  rw [String.length_append] at hlength
  exact absurd hlength (by simp)

/-- A key and the record beside it lie in one file only if there is a symbolic link. -/
theorem OneFile.exists_isLink {fs : FileSystem} {path : String}
    (h : OneFile fs path (dnsPath path)) : ∃ place ∈ [path, dnsPath path], fs.IsLink place := by
  obtain ⟨loc, content, mode, hkey, hrecord⟩ := h
  by_contra hnone
  have hlink : ∀ place ∈ [path, dnsPath path], ¬ fs.IsLink place := fun place hplace hl =>
    hnone ⟨place, hplace, hl⟩
  have hplain := FileSystem.lookup_of_not_isLink (hlink _ (by simp)) hkey
  have hbeside := FileSystem.lookup_of_not_isLink (hlink _ (by simp)) hrecord
  exact ne_of_lookup (FileSystem.not_endsInSlash_of_file hkey) hplain (.file content mode) hbeside
    (.file content mode) rfl

/-! ### Steps -/

section steps

variable (path : String) (fs : FileSystem)

/-- The directory of a key file is made, or the path of the key leads to nothing. -/
theorem makeKeyDirectory_outcome :
    ∃ gs, fs.Grown gs ∧ ((makeKeyDirectory path fs).outcome = (.ok (), gs) ∨
      gs.nodeAt? path = none ∧
        ∃ failure, (makeKeyDirectory path fs).outcome = (.error failure, gs)) := by
  unfold makeKeyDirectory
  cases hparent : Path.parent? path with
  | none => exact ⟨fs, .refl fs, .inl rfl⟩
  | some parent =>
      by_cases hne : parent.isEmpty = true
      · dsimp only
        rw [if_pos hne]
        exact ⟨fs, .refl fs, .inl rfl⟩
      · have hgrown := FileSystem.grown_makeDirectories fs parent
        dsimp only
        rw [if_neg hne, Act.mapError_outcome]
        unfold Act.updating
        dsimp only
        cases hm : fs.makeDirectories parent with
        | mk answer gs =>
            rw [hm] at hgrown
            refine ⟨gs, hgrown, ?_⟩
            cases answer with
            | ok _ => exact .inl rfl
            | error fault =>
                exact .inr ⟨FileSystem.nodeAt?_of_makeDirectories hparent hne hm, _, rfl⟩

variable (operation text : String) (mode : Nat)
  (finish : FileSystem → OpenFile → Except IoFault Unit)

/-- What writing a text comes to, by its steps. -/
theorem writeText_outcome :
    (writeText operation path text mode finish fs).outcome =
      match fs.storeFile path (utf8 text) mode with
      | (.ok file, after) =>
        ((finish after file).mapError (fileFailure operation path), after)
      | (.error fault, after) => (.error (fileFailure operation path fault), after) := by
  unfold writeText
  rw [Act.mapError_outcome]
  unfold Act.andThen Act.bind Act.updating
  dsimp only
  rcases fs.storeFile path (utf8 text) mode with ⟨fault | file, after⟩ <;> rfl

/-- A text is written if the file is filled and what is done at the end succeeds. -/
theorem writeText_eq_ok_iff {after : FileSystem} :
    (writeText operation path text mode finish fs).outcome = (.ok (), after) ↔
      ∃ file, fs.storeFile path (utf8 text) mode = (.ok file, after) ∧
        finish after file = .ok () := by
  rw [writeText_outcome]
  constructor
  · intro h
    rcases hs : fs.storeFile path (utf8 text) mode with ⟨fault | file, stored⟩
    · rw [hs] at h
      cases h
    · rw [hs] at h
      dsimp only at h
      cases hfinish : finish stored file with
      | error fault => rw [hfinish] at h; cases h
      | ok _ =>
          rw [hfinish] at h
          obtain rfl := (Prod.mk.inj h).2
          exact ⟨file, rfl, hfinish⟩
  · rintro ⟨file, hs, hfinish⟩
    rw [hs]
    dsimp only
    rw [hfinish]
    rfl

/-- **A text is written whole, or up to some octet, or not at all.** -/
theorem writeText_cases :
    (∃ fault, (writeText operation path text mode finish fs).outcome =
      (.error (fileFailure operation path fault), fs)) ∨
    ∃ loc kept after, kept <+: utf8 text ∧ fs.Writes path loc kept after ∧
      ((∃ fault, (writeText operation path text mode finish fs).outcome =
          (.error (fileFailure operation path fault), after)) ∨
        kept = utf8 text ∧
          (writeText operation path text mode finish fs).outcome = (.ok (), after)) := by
  rw [writeText_outcome]
  rcases FileSystem.storeFile_writes fs path (utf8 text) mode with
    ⟨fault, e⟩ | ⟨loc, kept, after, hkept, hwrites, ⟨fault, e⟩ | ⟨hwhole, file, e⟩⟩ <;> rw [e]
  · exact .inl ⟨fault, rfl⟩
  · exact .inr ⟨loc, kept, after, hkept, hwrites, .inl ⟨fault, rfl⟩⟩
  · refine .inr ⟨loc, kept, after, hkept, hwrites, ?_⟩
    dsimp only
    cases finish after file with
    | error fault => exact .inl ⟨fault, rfl⟩
    | ok _ => exact .inr ⟨hwhole, rfl⟩

end steps

/-! ### What a failure leaves behind -/

/-- A failed call leaves no key: there are at most new directories.  If something stood at the path
of the key, nothing changes at all.  Otherwise no file stands there afterwards, unless it stood on
the disk before and the new directories let the path lead to it. -/
structure LeavesNoKey (path : String) (before after : FileSystem) : Prop where
  grown : before.Grown after
  same : before.nodeAt? path ≠ none → after = before
  old : ∀ loc content mode, after.lookup true path = .ok (.taken loc (.file content mode)) →
    before.node? loc = some (.file content mode)

/-- A failed call leaves a key file that breaks off: after new directories were made, a beginning of
the text was written. -/
structure LeavesCutKey (path pem : String) (failure : Failure) (before after : FileSystem) :
    Prop where
  written : ∃ made loc kept, before.Grown made ∧ kept <+: utf8 pem ∧
    made.Writes path loc kept after
  failed : ∃ fault, failure = fileFailure "write key" path fault

/-- A failed call leaves its key: after new directories were made, the whole text was written, and
then at most a beginning of the record. -/
structure LeavesKey (path : String) (key : SigningKey) (pem : String) (failure : Failure)
    (before after : FileSystem) : Prop where
  written : ∃ made loc between, before.Grown made ∧ made.Writes path loc (utf8 pem) between ∧
    (after = between ∨ ∃ record there kept, key.dnsRecord = .ok record ∧
      kept <+: utf8 (record ++ "\n") ∧ between.Writes (dnsPath path) there kept after)
  failed : key.dnsRecord = .error failure ∨
    ∃ fault, failure = fileFailure "write DNS record" (dnsPath path) fault

variable {path pem : String} {failure : Failure} {key : SigningKey} {before after : FileSystem}

theorem leavesNoKey_of_none (hnone : before.nodeAt? path = none) (hgrown : before.Grown after) :
    LeavesNoKey path before after :=
  ⟨hgrown, fun hne => absurd hnone hne, fun _ _ _ => hgrown.node?_of_file⟩

theorem leavesNoKey_refl (path : String) (fs : FileSystem) : LeavesNoKey path fs fs :=
  ⟨.refl fs, fun _ => rfl, fun _ _ _ => (FileSystem.Grown.refl fs).node?_of_file⟩

/-- What is left where a key file was written, and perhaps a beginning of the record: the path of
the key leads to a file, and this is the whole key unless the record lies in the same file. -/
theorem LeavesKey.readFile (h : LeavesKey path key pem failure before after) :
    (∃ bytes, after.readFile path = .ok bytes) ∧
      (¬ OneFile after path (dnsPath path) → after.readFile path = .ok (utf8 pem)) := by
  obtain ⟨made, loc, between, -, hkey, rfl | ⟨record, there, kept, -, -, hrecord⟩⟩ := h.written
  · exact ⟨⟨_, hkey.readFile⟩, fun _ => hkey.readFile⟩
  · obtain ⟨mode, hlookup⟩ := hkey.exists_lookup
    by_cases hsame : there = loc
    · subst hsame
      obtain ⟨place, other, hplace, hp, rfl⟩ := hrecord
      have hboth := FileSystem.lookup_put hlookup (.file _ _) kept other
      have hbeside := FileSystem.lookup_put hplace hp kept other
      refine ⟨⟨kept, ?_⟩, fun hone => absurd ⟨there, kept, other, hboth, hbeside⟩ hone⟩
      unfold FileSystem.readFile
      rw [hboth]
      rfl
    · have hread : after.readFile path = .ok (utf8 pem) := by
        have hend := hrecord.isEnd
        obtain ⟨place, other, -, -, rfl⟩ := hrecord
        unfold FileSystem.readFile
        rw [FileSystem.lookup_put_of_ne hlookup hend hsame]
        rfl
      exact ⟨⟨_, hread⟩, fun _ => hread⟩

/-- What is left where the key file was written and the record was not. -/
theorem leavesKey_of_writeRecord {made between : FileSystem} {loc : Location}
    (hgrown : before.Grown made) (hkey : made.Writes path loc (utf8 pem) between)
    (h : (writeRecord path key between).outcome = (.error failure, after)) :
    LeavesKey path key pem failure before after := by
  unfold writeRecord at h
  cases hrecord : key.dnsRecord with
  | error other =>
      rw [hrecord] at h
      obtain ⟨hfailure, rfl⟩ := Prod.mk.inj h
      obtain rfl := Except.error.inj hfailure
      exact ⟨⟨made, loc, _, hgrown, hkey, .inl rfl⟩, .inl hrecord⟩
  | ok record =>
      rw [hrecord] at h
      dsimp only at h
      rcases writeText_cases (dnsPath path) between "write DNS record" (record ++ "\n")
          FileSystem.publicMode fun _ _ => .ok () with
        ⟨fault, e⟩ | ⟨there, kept, last, hkept, hwrites, ⟨fault, e⟩ | ⟨-, e⟩⟩ <;> rw [e] at h
      · obtain ⟨hfailure, rfl⟩ := Prod.mk.inj h
        exact ⟨⟨made, loc, _, hgrown, hkey, .inl rfl⟩,
          .inr ⟨fault, (Except.error.inj hfailure).symm⟩⟩
      · obtain ⟨hfailure, rfl⟩ := Prod.mk.inj h
        exact ⟨⟨made, loc, between, hgrown, hkey,
          .inr ⟨record, there, kept, hrecord, hkept, hwrites⟩⟩,
          .inr ⟨fault, (Except.error.inj hfailure).symm⟩⟩
      · cases h

/-- **What is left of a key that could not be written.** -/
theorem leaves_of_writeKey (hnone : before.nodeAt? path = none)
    (h : (writeKey path key before).outcome = (.error failure, after)) :
    LeavesNoKey path before after ∨ ∃ pem, key.toPem = .ok pem ∧
      (LeavesCutKey path pem failure before after ∨
        LeavesKey path key pem failure before after) := by
  obtain ⟨made, hgrown, hmade | ⟨-, other, hmade⟩⟩ := makeKeyDirectory_outcome path before
  · rw [writeKey, Act.andThen_outcome, hmade] at h
    dsimp only at h
    cases hpem : key.toPem with
    | error other =>
        rw [hpem] at h
        obtain ⟨-, rfl⟩ := Prod.mk.inj h
        exact .inl (leavesNoKey_of_none hnone hgrown)
    | ok pem =>
        rw [hpem] at h
        dsimp only at h
        rw [Act.andThen_outcome] at h
        rcases writeText_cases path made "write key" pem FileSystem.privateMode
            FileSystem.flushFile with
          ⟨fault, e⟩ | ⟨loc, kept, between, hkept, hkey, ⟨fault, e⟩ | ⟨rfl, e⟩⟩ <;> rw [e] at h
        · obtain ⟨-, rfl⟩ := Prod.mk.inj h
          exact .inl (leavesNoKey_of_none hnone hgrown)
        · obtain ⟨hfailure, rfl⟩ := Prod.mk.inj h
          exact .inr ⟨pem, rfl, .inl ⟨⟨made, loc, kept, hgrown, hkept, hkey⟩, fault,
            (Except.error.inj hfailure).symm⟩⟩
        · -- the key file is written, and from here on nothing removes it
          exact .inr ⟨pem, rfl, .inr (leavesKey_of_writeRecord hgrown hkey h)⟩
  · rw [writeKey, Act.andThen_outcome, hmade] at h
    obtain ⟨-, rfl⟩ := Prod.mk.inj h
    exact .inl (leavesNoKey_of_none hnone hgrown)

/-! ### Calls -/

section calls

variable (source : KeySource) (domain selector path : String) (kind : KeyKind) (host : Host)

/-- A call answers what the text of the key file says; without a file it makes a key, and any other
fault of reading ends it. -/
theorem obtainKeyFrom_outcome :
    (obtainKeyFrom source domain selector path kind host).outcome =
      match host.disk.readText path with
      | .ok text => (readKey path text, host)
      | .error (.system .notFound) => (generateKey source path kind host).outcome
      | .error fault => (.error (fileFailure "read key" path fault), host) := by
  have hread : (Act.read (fun host : Host => host.disk.readText path) host).outcome =
      (host.disk.readText path, host) := rfl
  unfold obtainKeyFrom
  rw [Act.bind_outcome, hread]
  dsimp only
  split
  · next text h =>
    rw [h]
    dsimp only
    cases readKey path text <;> rfl
  · next h =>
    rw [h]
    dsimp only
    rw [Act.andThen_outcome]
    rcases (generateKey source path kind host).outcome with ⟨answer | key, t⟩ <;> rfl
  · next fault hfault h =>
    rw [h]
    cases fault with
    | system fault =>
        cases fault with
        | notFound => exact absurd rfl hfault
        | _ => rfl
    | _ => rfl

/-- Making a key changes the disk as writing it does. -/
theorem generateKey_outcome :
    (generateKey source path kind host).outcome =
      match source kind host.entropy with
      | .error failure => (.error failure, { host with entropy := host.entropy + 1 })
      | .ok key =>
        match (writeKey path key host.disk).outcome with
        | (.ok (), disk) => (.ok key, { host with disk, entropy := host.entropy + 1 })
        | (.error failure, disk) =>
          (.error failure, { host with disk, entropy := host.entropy + 1 }) := by
  have hdraw : (Act.updating Host.draw host).outcome =
      (host.entropy, { host with entropy := host.entropy + 1 }) := rfl
  unfold generateKey
  rw [Act.bind_outcome, hdraw]
  dsimp only
  cases source kind host.entropy with
  | error failure => rfl
  | ok key =>
      dsimp only
      have hwrite :
          (Host.onDisk (writeKey path key) { host with entropy := host.entropy + 1 }).outcome =
            ((writeKey path key host.disk).outcome.1,
              { host with disk := (writeKey path key host.disk).outcome.2,
                          entropy := host.entropy + 1 }) := rfl
      rw [Act.andThen_outcome, hwrite]
      rcases (writeKey path key host.disk).outcome with ⟨answer | _, disk⟩ <;> rfl

variable {path host}

/-- What a key file that can be read is worth: no call changes anything. -/
theorem obtainKeyFrom_of_readFile {bytes : Bytes} (h : host.disk.readFile path = .ok bytes) :
    (obtainKeyFrom source domain selector path kind host).state = host := by
  have houtcome := obtainKeyFrom_outcome source domain selector path kind host
  rw [FileSystem.readText_eq, h] at houtcome
  dsimp only at houtcome
  split at houtcome
  · next text e => exact congrArg Prod.snd houtcome
  · next e =>
    split at e <;> cases e
  · exact congrArg Prod.snd houtcome

/-- A key file with the text of a sound key is what a call reads. -/
theorem obtainKeyFrom_of_sound {key : SigningKey} {pem : String} (hsound : key.Sound)
    (hpem : key.toPem = .ok pem) (h : host.disk.readFile path = .ok (utf8 pem)) :
    (obtainKeyFrom source domain selector path kind host).outcome = (.ok key, host) := by
  rw [obtainKeyFrom_outcome, FileSystem.readText_of_readFile h]
  dsimp only
  rw [hsound.readKey path hpem]

end calls

variable {host after : Host}

/-- **What is left of a call that failed.** -/
theorem leaves_of_obtainKeyFrom {source : KeySource} {domain selector : String} {kind : KeyKind}
    (h : (obtainKeyFrom source domain selector path kind host).outcome = (.error failure, after)) :
    LeavesNoKey path host.disk after.disk ∨
    host.disk.nodeAt? path = none ∧ ∃ key pem,
      source kind host.entropy = .ok key ∧ key.toPem = .ok pem ∧
        (LeavesCutKey path pem failure host.disk after.disk ∨
          LeavesKey path key pem failure host.disk after.disk) := by
  have hsame : ∀ {answer : Except Failure SigningKey},
      (.error failure, after) = (answer, host) → LeavesNoKey path host.disk after.disk := by
    intro answer e
    rw [(Prod.mk.inj e).2]
    exact leavesNoKey_refl path host.disk
  rw [obtainKeyFrom_outcome] at h
  split at h
  · exact .inl (hsame h.symm)
  · next hread =>
    have hnone := FileSystem.nodeAt?_of_readText hread
    rw [generateKey_outcome] at h
    cases hkey : source kind host.entropy with
    | error other =>
        rw [hkey] at h
        obtain ⟨-, rfl⟩ := Prod.mk.inj h
        exact .inl (leavesNoKey_refl path host.disk)
    | ok key =>
        rw [hkey] at h
        dsimp only at h
        rcases hw : (writeKey path key host.disk).outcome with ⟨other | _, disk⟩
        · rw [hw] at h
          obtain ⟨hfailure, rfl⟩ := Prod.mk.inj h
          obtain rfl := Except.error.inj hfailure
          rcases leaves_of_writeKey hnone hw with hleaves | ⟨pem, hpem, hleaves⟩
          · exact .inl hleaves
          · exact .inr ⟨hnone, key, pem, rfl, hpem, hleaves⟩
        · rw [hw] at h
          cases h
  · exact .inl (hsame h.symm)

/-! ### A free name in the root directory -/

section free

variable {fs : FileSystem} (hfree : fs.node? ["k.key"] = none)
include hfree

theorem lookup_key_free (follow : Bool) : fs.lookup follow "k.key" = .ok (.free ["k.key"]) := by
  have hwalk : fs.walk follow FileSystem.maxLinks [] ["k.key"] = .ok (.free ["k.key"]) := by
    rw [FileSystem.walk, if_neg (by decide), if_neg (by decide), if_neg (by decide +kernel)]
    dsimp only
    rw [List.nil_append, hfree]
    rfl
  rw [FileSystem.lookup_of_walk (by decide) (by decide) hwalk]
  rfl

/-- A call makes a key there, and fails as writing it does. -/
theorem obtainKeyFrom_free (source : KeySource) (domain selector : String) (kind : KeyKind)
    {after : FileSystem} (hkey : source kind 0 = .ok key)
    (hwrite : (writeKey "k.key" key fs).outcome = (.error failure, after)) :
    (obtainKeyFrom source domain selector "k.key" kind { disk := fs }).outcome =
      (.error failure, { disk := after, entropy := 1 }) := by
  have hread : fs.readText "k.key" = .error (.system .notFound) := by
    rw [FileSystem.readText_eq, FileSystem.readFile, lookup_key_free hfree]
    rfl
  rw [obtainKeyFrom_outcome, hread]
  dsimp only
  rw [generateKey_outcome, hkey]
  dsimp only
  rw [hwrite]

end free

theorem makeKeyDirectory_root (fs : FileSystem) :
    (makeKeyDirectory "k.key" fs).outcome = (.ok (), fs) := by
  unfold makeKeyDirectory
  rw [show Path.parent? "k.key" = some "" by decide +kernel]
  rfl

/-! ### Calls that fail -/

/-- **What a call that fails leaves behind.**  The keys may come from any source.  Either there is
no new file, and at most new directories.  Or nothing stood at the path of the key, a file stands
there now, and no later call changes anything: this file holds a beginning of the text of the key,
or its whole text, if only the record is missing.  In the second case later calls succeed with that
key, if it is a sound one and the two files are not one, which takes a symbolic link. -/
theorem failed_key (source : KeySource) (domain selector path : String) (kind : KeyKind)
    (host : Host) {failure : Failure}
    (h : (obtainKeyFrom source domain selector path kind host).answer = .error failure) :
    let after := (obtainKeyFrom source domain selector path kind host).state
    LeavesNoKey path host.disk after.disk ∨
    host.disk.nodeAt? path = none ∧ ∃ key pem,
      source kind host.entropy = .ok key ∧ key.toPem = .ok pem ∧
      (∀ source domain selector kind,
        (obtainKeyFrom source domain selector path kind after).state = after) ∧
      (LeavesCutKey path pem failure host.disk after.disk ∨
        LeavesKey path key pem failure host.disk after.disk ∧
        (OneFile after.disk path (dnsPath path) →
          ∃ place ∈ [path, dnsPath path], after.disk.IsLink place) ∧
        (key.Sound → ¬ OneFile after.disk path (dnsPath path) →
          ∀ source domain selector kind,
            (obtainKeyFrom source domain selector path kind after).outcome =
              (.ok key, after))) := by
  intro after
  have houtcome : (obtainKeyFrom source domain selector path kind host).outcome =
      (.error failure, after) := Prod.ext h rfl
  refine (leaves_of_obtainKeyFrom houtcome).imp id ?_
  rintro ⟨hnone, key, pem, hkey, hpem, hcut | hleaves⟩
  · obtain ⟨_, _, _, -, -, hwrites⟩ := hcut.written
    exact ⟨hnone, key, pem, hkey, hpem, fun source domain selector kind =>
      obtainKeyFrom_of_readFile source domain selector kind hwrites.readFile, .inl hcut⟩
  · obtain ⟨⟨_, hread⟩, hwhole⟩ := hleaves.readFile
    exact ⟨hnone, key, pem, hkey, hpem, fun source domain selector kind =>
      obtainKeyFrom_of_readFile source domain selector kind hread,
      .inr ⟨hleaves, OneFile.exists_isLink, fun hsound hone source domain selector kind =>
        obtainKeyFrom_of_sound source domain selector kind hsound hpem (hwhole hone)⟩⟩

section full

/-- An empty disk without room for a key. -/
def fullDisk : FileSystem := { flaws := [(["k.key"], ⟨.filling 0, .system .noSpace⟩)] }

theorem readKey_empty (path : String) :
    readKey path "" = .error (.key (path ++ ": " ++ SigningKey.unrecognized)) := by
  have hnone : SigningKey.ofPem? "" = none := by decide +kernel
  rw [readKey, SigningKey.ofPem, hnone]
  rfl

/-- The key file is opened there, and nothing is written into it. -/
theorem writeKey_full (hsound : key.Sound) (hpem : key.toPem = .ok pem) :
    (writeKey "k.key" key fullDisk).outcome =
      (.error (fileFailure "write key" "k.key" (.system .noSpace)),
        fullDisk.put ["k.key"] (.file [] FileSystem.privateMode)) := by
  have hlong : 0 < (utf8 pem).length := by
    -- an empty text holds no key
    rw [List.length_pos_iff]
    intro hempty
    have hdecoded := FileSystem.decodeUtf8?_utf8 pem
    rw [hempty] at hdecoded
    obtain rfl : "" = pem := Option.some.inj hdecoded
    cases (hsound.readKey "k.key" hpem).symm.trans (readKey_empty "k.key")
  have hfree : fullDisk.node? ["k.key"] = none := rfl
  have hopened := FileSystem.fileToWrite_of_free (lookup_key_free hfree false) (by decide)
    FileSystem.privateMode
  rw [writeKey, Act.andThen_outcome, makeKeyDirectory_root, hpem]
  dsimp only
  rw [Act.andThen_outcome, writeText_outcome, FileSystem.storeFile_of_filling hopened rfl hlong]
  rfl

/-- A failure to write the key file is none to write the record. -/
theorem fileFailure_ne (path other : String) (fault fault' : IoFault) :
    fileFailure "write key" path fault ≠ fileFailure "write DNS record" other fault' := by
  intro e
  -- the two messages differ before either names a path
  have hstart := congrArg (fun f : Failure => f.message.toList.take 17) e
  unfold fileFailure Failure.key at hstart
  simp only [String.append_assoc, String.toList_append] at hstart
  revert hstart
  simp

/-- A key for which there is no room leaves an empty file, and every later call fails on it. -/
theorem failed_key_full :
    let host : Host := { disk := fullDisk }
    let call := obtainKey "example.org" "s1" "k.key" .ed25519 host
    let failure := fileFailure "write key" "k.key" (.system .noSpace)
    call.answer = .error failure ∧
    (∃ pem, LeavesCutKey "k.key" pem failure fullDisk call.state.disk) ∧
    (obtainKey "example.org" "s1" "k.key" .ed25519 call.state).outcome =
      (.error (.key ("k.key: " ++ SigningKey.unrecognized)), call.state) := by
  intro host call failure
  obtain ⟨key, hkey⟩ : ∃ key, SigningKey.generate .ed25519 0 = .ok key := ⟨_, rfl⟩
  have hsound := SigningKey.sound_of_generate hkey
  obtain ⟨text, htext⟩ := hsound.exists_toPem
  have hfree : fullDisk.node? ["k.key"] = none := rfl
  have houtcome := obtainKeyFrom_free hfree SigningKey.generate "example.org" "s1" .ed25519 hkey
    (writeKey_full hsound htext)
  have hanswer : call.answer = .error failure := congrArg Prod.fst houtcome
  have hlookup : call.state.disk.lookup true "k.key" =
      .ok (.taken ["k.key"] (.file [] FileSystem.privateMode)) := by
    rw [show call.state.disk = _ from congrArg (·.2.disk) houtcome]
    exact FileSystem.lookup_put (lookup_key_free hfree true) .free [] FileSystem.privateMode
  refine ⟨hanswer, ?_, ?_⟩
  · rcases failed_key SigningKey.generate "example.org" "s1" "k.key" .ed25519 host hanswer with
      hleaves | ⟨-, made, pem, hmade, -, -, hcut | ⟨hleaves, -⟩⟩
    · cases hfree.symm.trans (hleaves.old _ _ _ hlookup)
    · exact ⟨pem, hcut⟩
    · rcases hleaves.failed with hrecord | ⟨fault, e⟩
      · obtain ⟨record, h⟩ := (SigningKey.sound_of_generate hmade).exists_dnsRecord
        cases h.symm.trans hrecord
      · exact absurd e (fileFailure_ne _ _ _ _)
  · have hread : call.state.disk.readFile "k.key" = .ok (utf8 "") := by
      unfold FileSystem.readFile
      rw [hlookup]
      rfl
    rw [obtainKey, obtainKeyFrom_outcome, FileSystem.readText_of_readFile hread]
    dsimp only
    rw [readKey_empty]
    rfl

end full

section blocked

/-- A disk with a directory where the record of a key would be written. -/
def blockedDisk : FileSystem := { entries := [(["k.key.dns"], .directory)] }

theorem lookup_record_blocked (content : Bytes) (mode : Nat) :
    (blockedDisk.put ["k.key"] (.file content mode)).lookup true "k.key.dns" =
      .ok (.taken ["k.key.dns"] .directory) := by
  have hnode : (blockedDisk.put ["k.key"] (.file content mode)).node? ["k.key.dns"] =
      some .directory := rfl
  have hwalk : (blockedDisk.put ["k.key"] (.file content mode)).walk true FileSystem.maxLinks []
      ["k.key.dns"] = .ok (.taken ["k.key.dns"] .directory) := by
    rw [FileSystem.walk, if_neg (by decide), if_neg (by decide), if_neg (by decide +kernel)]
    dsimp only
    rw [List.nil_append, hnode]
    dsimp only
    rw [FileSystem.walk]
  rw [FileSystem.lookup_of_walk (by decide) (by decide) hwalk]
  rfl

/-- The key file is written there, and the record is not. -/
theorem writeKey_blocked (hsound : key.Sound) (hpem : key.toPem = .ok pem) :
    (writeKey "k.key" key blockedDisk).outcome =
      (.error (fileFailure "write DNS record" "k.key.dns" (.system .isDirectory)),
        blockedDisk.put ["k.key"] (.file (utf8 pem) FileSystem.privateMode)) := by
  obtain ⟨record, hrecord⟩ := hsound.exists_dnsRecord
  have hfree : blockedDisk.node? ["k.key"] = none := rfl
  have hkey := FileSystem.storeFile_eq_of_free (lookup_key_free hfree false) (by decide) rfl
    (utf8 pem) FileSystem.privateMode
  have hfails : (blockedDisk.put ["k.key"] (.file (utf8 pem) FileSystem.privateMode)).storeFile
      "k.key.dns" (utf8 (record ++ "\n")) FileSystem.publicMode =
        (.error (.system .isDirectory),
          blockedDisk.put ["k.key"] (.file (utf8 pem) FileSystem.privateMode)) := by
    unfold FileSystem.storeFile FileSystem.openFile FileSystem.fileToWrite
    rw [if_neg (by decide +kernel), lookup_record_blocked]
    rfl
  have hdns : dnsPath "k.key" = "k.key.dns" := by decide +kernel
  rw [writeKey, Act.andThen_outcome, makeKeyDirectory_root, hpem]
  dsimp only
  rw [Act.andThen_outcome, writeText_outcome, hkey]
  dsimp only
  rw [show FileSystem.flushFile (blockedDisk.put _ _) _ = .ok () from rfl]
  dsimp only [Except.mapError]
  rw [writeRecord, hrecord]
  dsimp only
  rw [writeText_outcome, hdns, hfails]

/-- **A call fails, and the next one succeeds:** where the record cannot be written, the key is
there without it, and nobody is told what to publish. -/
theorem key_without_record :
    let host : Host := { disk := blockedDisk }
    let first := obtainKey "example.org" "s1" "k.key" .ed25519 host
    let second := obtainKey "example.org" "s1" "k.key" .ed25519 first.state
    host.disk.nodeAt? "k.key" = none ∧
    first.answer =
      .error (fileFailure "write DNS record" "k.key.dns" (.system .isDirectory)) ∧
    (∃ content mode, first.state.disk.nodeAt? "k.key" = some (.file content mode)) ∧
    (∃ key, second.answer = .ok key) ∧ second.state = first.state := by
  intro host first second
  obtain ⟨key, hkey⟩ : ∃ key, SigningKey.generate .ed25519 0 = .ok key := ⟨_, rfl⟩
  have hsound := SigningKey.sound_of_generate hkey
  obtain ⟨pem, hpem⟩ := hsound.exists_toPem
  have hfree : blockedDisk.node? ["k.key"] = none := rfl
  have hfirst := obtainKeyFrom_free hfree SigningKey.generate "example.org" "s1" .ed25519 hkey
    (writeKey_blocked hsound hpem)
  have hlookup : first.state.disk.lookup true "k.key" =
      .ok (.taken ["k.key"] (.file (utf8 pem) FileSystem.privateMode)) := by
    rw [show first.state.disk = _ from congrArg (·.2.disk) hfirst]
    exact FileSystem.lookup_put (lookup_key_free hfree true) .free _ _
  have hread : first.state.disk.readFile "k.key" = .ok (utf8 pem) := by
    unfold FileSystem.readFile
    rw [hlookup]
    rfl
  have hsecond := obtainKeyFrom_of_sound SigningKey.generate "example.org" "s1" .ed25519 hsound
    hpem hread
  refine ⟨?_, congrArg Prod.fst hfirst,
    ⟨_, _, FileSystem.nodeAt?_eq_some_iff.mpr ⟨_, hlookup⟩⟩, ⟨key, congrArg Prod.fst hsecond⟩,
    congrArg Prod.snd hsecond⟩
  rw [FileSystem.nodeAt?, lookup_key_free hfree]

end blocked

end Dkim
end Mailroom
