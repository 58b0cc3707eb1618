import Mailroom.Proofs.Dkim.KeyGeneration
import Mailroom.Proofs.Host.NewDirectories

/-! # Keys that were obtained stay

A key file that can be read is never written, and a key that was obtained is what every later call
for it answers, whatever that call says about the key to make (`key_stable`).  This holds where
neither the key file nor the record beside it is a symbolic link, unless making the directories
above them brings an older file or link to light (`Uncovers`).  Without `..` in its path that cannot
happen (`not_uncovers`); with it, an existing key is overwritten, and the new one gets the mode of
the old one (`uncovered_key`). -/

namespace Mailroom.Dkim

variable {path : String} {key : SigningKey} {before after : FileSystem}

/-! ### Writing the files of a key -/

/-- Writing a record succeeds if it can be made and written. -/
theorem writeRecord_eq_ok_iff : (writeRecord path key before).outcome = (.ok (), after) ↔
    ∃ record, key.dnsRecord = .ok record ∧
      (writeText "write DNS record" (dnsPath path) (record ++ "\n") FileSystem.publicMode
        (fun _ _ => .ok ()) before).outcome = (.ok (), after) := by
  unfold writeRecord
  cases key.dnsRecord with
  | error failure =>
      constructor
      · intro h
        cases h
      · rintro ⟨record, e, -⟩
        cases e
  | ok record =>
      constructor
      · exact fun h => ⟨record, rfl, h⟩
      · rintro ⟨other, e, h⟩
        obtain rfl := Except.ok.inj e
        exact h

/-- Writing a key succeeds if every step does. -/
theorem writeKey_eq_ok_iff : (writeKey path key before).outcome = (.ok (), after) ↔
    ∃ made pem written, (makeKeyDirectory path before).outcome = (.ok (), made) ∧
      key.toPem = .ok pem ∧
      (writeText "write key" path pem FileSystem.privateMode FileSystem.flushFile made).outcome =
        (.ok (), written) ∧
      (writeRecord path key written).outcome = (.ok (), after) := by
  rw [writeKey, Act.andThen_outcome]
  constructor
  · intro h
    rcases hmade : (makeKeyDirectory path before).outcome with ⟨_ | _, made⟩
    · rw [hmade] at h
      cases h
    · rw [hmade] at h
      cases hpem : key.toPem with
      | error failure => rw [hpem] at h; cases h
      | ok pem =>
          rw [hpem] at h
          dsimp only at h
          rw [Act.andThen_outcome] at h
          rcases hw : (writeText "write key" path pem FileSystem.privateMode FileSystem.flushFile
            made).outcome with ⟨_ | _, written⟩
          · rw [hw] at h
            cases h
          · rw [hw] at h
            exact ⟨made, pem, written, rfl, rfl, hw, h⟩
  · rintro ⟨made, pem, written, hmade, hpem, hw, hr⟩
    rw [hmade, hpem]
    dsimp only
    rw [Act.andThen_outcome, hw]
    exact hr

theorem writeKey_of_storeFile {made written : FileSystem} {pem record : String}
    {file beside : OpenFile} (hmade : (makeKeyDirectory path before).outcome = (.ok (), made))
    (hpem : key.toPem = .ok pem)
    (hw : made.storeFile path (utf8 pem) FileSystem.privateMode = (.ok file, written))
    (hflush : written.flushFile file = .ok ()) (hrecord : key.dnsRecord = .ok record)
    (hr : written.storeFile (dnsPath path) (utf8 (record ++ "\n")) FileSystem.publicMode =
      (.ok beside, after)) : (writeKey path key before).outcome = (.ok (), after) :=
  writeKey_eq_ok_iff.mpr ⟨made, pem, written, hmade, hpem,
    (writeText_eq_ok_iff _ _ _ _ _ _).mpr ⟨file, hw, hflush⟩,
    writeRecord_eq_ok_iff.mpr
      ⟨record, hrecord, (writeText_eq_ok_iff _ _ _ _ _ _).mpr ⟨beside, hr, rfl⟩⟩⟩

/-- **A key file and its record:** both stand where they were written, if nothing stood at the path
of the key and neither of them is a link. -/
theorem nodeAt?_of_written {made written : FileSystem} {loc : Location} {content record : Bytes}
    {mode other : Nat} {file beside : OpenFile} (hfree : made.lookup false path = .ok (.free loc))
    (hlink : ¬ made.IsLink (dnsPath path))
    (hw : made.storeFile path content mode = (.ok file, written))
    (hr : written.storeFile (dnsPath path) record other = (.ok beside, after)) :
    after.nodeAt? path = some (.file content mode) ∧
      ∃ kept, after.nodeAt? (dnsPath path) = some (.file record kept) := by
  have hslash := (FileSystem.fileToWrite_eq_ok (FileSystem.storeFile_eq_ok hw).1).1
  have hend := FileSystem.isEnd_of_free hfree
  obtain ⟨rfl, -⟩ := FileSystem.storeFile_of_free hfree hw
  obtain ⟨hbeside, rfl⟩ := FileSystem.storeFile_eq_ok hr
  obtain ⟨-, place, hplace, hp⟩ := FileSystem.fileToWrite_eq_ok hbeside
  have hplain := FileSystem.lookup_of_not_isLink (FileSystem.not_isLink_put hend hlink) hplace
  have hne := ne_of_lookup hslash hfree .free hplain hp
  have hthere := FileSystem.isEnd_of_walk (FileSystem.lookup_eq_ok_iff.mp hplace).2 hp
  have hfile := FileSystem.lookup_put (FileSystem.lookup_of_free hfree) .free content mode
  exact ⟨FileSystem.nodeAt?_eq_some_iff.mpr ⟨loc, FileSystem.lookup_put_of_ne hfile hthere hne⟩,
    _, FileSystem.nodeAt?_eq_some_iff.mpr
      ⟨beside.loc, FileSystem.lookup_put hplace hp record beside.mode⟩⟩

/-! ### What comes to light -/

/-- Whether making the directories above a key brings to light what the key would be written into: a
file at its path, or a link at its path or at that of the record beside it. -/
def Uncovers (path : String) (fs : FileSystem) : Prop :=
  ∃ made, (makeKeyDirectory path fs).outcome = (.ok (), made) ∧
    ((fs.nodeAt? path = none ∧ ∃ content mode, made.nodeAt? path = some (.file content mode)) ∨
      ∃ place ∈ [path, dnsPath path], ¬ fs.IsLink place ∧ made.IsLink place)

section covered

variable {fs made : FileSystem} (hcovered : ¬ Uncovers path fs)
  (hmade : (makeKeyDirectory path fs).outcome = (.ok (), made))
include hcovered hmade

theorem not_isLink_of_not_uncovers {place : String} (hplace : place ∈ [path, dnsPath path])
    (hlink : ¬ fs.IsLink place) : ¬ made.IsLink place := fun h =>
  hcovered ⟨made, hmade, .inr ⟨place, hplace, hlink, h⟩⟩

/-- Where no key could be read, there is room for one. -/
theorem exists_free (hread : fs.readText path = .error (.system .notFound))
    (hlink : ¬ fs.IsLink path) {mode : Nat} {file : OpenFile}
    (hfile : made.fileToWrite path mode = .ok file) :
    ∃ loc, made.lookup false path = .ok (.free loc) := by
  obtain ⟨-, place, hplace, hp⟩ := FileSystem.fileToWrite_eq_ok hfile
  have hplain := FileSystem.lookup_of_not_isLink
    (not_isLink_of_not_uncovers hcovered hmade List.mem_cons_self hlink) hplace
  cases hp with
  | free => exact ⟨file.loc, hplain⟩
  | file old kept =>
      have hthere : made.nodeAt? path = some (.file old kept) :=
        FileSystem.nodeAt?_eq_some_iff.mpr ⟨file.loc, hplace⟩
      exact absurd ⟨made, hmade, .inl ⟨FileSystem.nodeAt?_of_readText hread, old, kept, hthere⟩⟩
        hcovered

end covered

/-! ### Paths that do not go up -/

/-- The directory of a key is made, if there is one to make. -/
theorem makeKeyDirectory_eq_ok {fs made : FileSystem}
    (h : (makeKeyDirectory path fs).outcome = (.ok (), made)) :
    made = fs ∨ ∃ parent, Path.parent? path = some parent ∧ ¬ parent.isEmpty = true ∧
      fs.makeDirectories parent = (.ok (), made) := by
  unfold makeKeyDirectory at h
  cases hparent : Path.parent? path with
  | none =>
      rw [hparent] at h
      exact .inl (Prod.mk.inj h).2.symm
  | some parent =>
      rw [hparent] at h
      dsimp only at h
      split at h
      · exact .inl (Prod.mk.inj h).2.symm
      · next hne =>
        rw [Act.mapError_outcome] at h
        unfold Act.updating at h
        dsimp only at h
        rcases hm : fs.makeDirectories parent with ⟨_ | _, gs⟩
        · rw [hm] at h
          cases h
        · rw [hm] at h
          obtain rfl := (Prod.mk.inj h).2
          exact .inr ⟨parent, rfl, hne, hm⟩

theorem makeKeyDirectory_of_makeDirectories {fs gs : FileSystem} {parent : String}
    (hparent : Path.parent? path = some parent) (hne : ¬ parent.isEmpty = true)
    (h : fs.makeDirectories parent = (.ok (), gs)) :
    (makeKeyDirectory path fs).outcome = (.ok (), gs) := by
  unfold makeKeyDirectory
  rw [hparent]
  dsimp only
  rw [if_neg hne, Act.mapError_outcome]
  unfold Act.updating
  dsimp only
  rw [h]
  rfl

/-- The record beside a key lies in the same directory. -/
theorem exists_segments_dnsPath {base more : List String} (hslash : ¬ Path.endsInSlash path = true)
    (hne : ¬ path.isEmpty = true) (h : Path.segments path = base ++ more) (hmore : more ≠ [])
    (hplain : ".." ∉ more) :
    ∃ beside, Path.segments (dnsPath path) = base ++ beside ∧ beside ≠ [] ∧ ".." ∉ beside := by
  obtain ⟨names, name, hsegments, hlonger⟩ :=
    Path.segments_append_name ".dns" hslash hne (by decide)
  obtain ⟨front, last, rfl⟩ := (List.eq_nil_or_concat more).resolve_left hmore
  rw [List.concat_eq_append] at h hplain
  rw [hsegments, ← List.append_assoc] at h
  obtain ⟨rfl, -⟩ := List.append_inj' h rfl
  refine ⟨front ++ [name ++ ".dns"], by rw [← List.append_assoc]; exact hlonger, by simp,
    fun m => ?_⟩
  rcases List.mem_append.mp m with m | m
  · exact hplain (List.mem_append_left _ m)
  · have hlength := congrArg String.length (List.mem_singleton.mp m)
    rw [String.length_append, show "..".length = 2 from rfl, show ".dns".length = 4 from rfl]
      at hlength
    omega

/-- Where the path of a key does not go up, either no directory above it was missing, or its path
and that of the record lead to nothing but directories. -/
theorem made_of_plain {fs made : FileSystem} (htree : fs.IsTree)
    (hplain : ".." ∉ Path.segments path) (hslash : ¬ Path.endsInSlash path = true)
    (hmade : (makeKeyDirectory path fs).outcome = (.ok (), made)) :
    made = fs ∨ ∀ place ∈ [path, dnsPath path], ∀ follow loc node,
      made.lookup follow place = .ok (.taken loc node) → node = .directory := by
  refine or_iff_not_imp_left.mpr fun hchanged place hplace follow loc node hthere => ?_
  obtain ⟨parent, hparent, hne, hmakes⟩ := (makeKeyDirectory_eq_ok hmade).resolve_left hchanged
  have hempty : ¬ path.isEmpty = true := fun h => by
    rw [String.isEmpty_iff.mp h, show Path.parent? "" = none by decide] at hparent
    cases hparent
  have hgrown : FileSystem.Grown fs made := by
    have := FileSystem.grown_makeDirectories fs parent
    rwa [hmakes] at this
  obtain ⟨more, hstarts, hgoes⟩ := Path.starts_of_parent? hparent hne
  have hsegments := hstarts.segments
  have hplainMore : ".." ∉ more := fun m =>
    hplain (hsegments ▸ List.mem_append_right (Path.segments parent) m)
  have hplainParent : ".." ∉ Path.segments parent := fun m =>
    hplain (hsegments ▸ List.mem_append_left more m)
  obtain ⟨-, hnew⟩ :=
    (FileSystem.madeNew_of_makeDirectories htree hplainParent hmakes).resolve_left hchanged
  have hmore : more ≠ [] := by
    refine hgoes.resolve_left ?_
    rintro rfl
    have hroot : made.walk true FileSystem.maxLinks [] (Path.segments "/") =
        .ok (.taken [] .directory) := by
      rw [show Path.segments "/" = [] by decide, FileSystem.walk]
    cases hnew [] hroot
  obtain ⟨beside, hbeside, hsome, hplainBeside⟩ :=
    exists_segments_dnsPath hslash hempty hsegments hmore hplainMore
  have hwalk := (FileSystem.lookup_eq_ok_iff.mp hthere).2
  rw [List.mem_cons, List.mem_singleton] at hplace
  rcases hplace with rfl | rfl
  · rw [hsegments] at hwalk
    exact (hnew.walk_append htree hgrown hplainMore hmore hwalk).1
  · rw [hbeside] at hwalk
    exact (hnew.walk_append htree hgrown hplainBeside hsome hwalk).1

/-- **Nothing comes to light** where the path of a key does not go up. -/
theorem not_uncovers {fs : FileSystem} (htree : fs.IsTree) (hplain : ".." ∉ Path.segments path)
    (hslash : ¬ Path.endsInSlash path = true) : ¬ Uncovers path fs := by
  rintro ⟨made, hmade, huncovered⟩
  rcases made_of_plain htree hplain hslash hmade with rfl | hdirectory
  · rcases huncovered with ⟨hnone, content, mode, hfile⟩ | ⟨place, -, hlink, hthere⟩
    · cases hnone.symm.trans hfile
    · exact hlink hthere
  · rcases huncovered with ⟨-, content, mode, hfile⟩ | ⟨place, hplace, -, loc, target, hthere⟩
    · obtain ⟨loc, hlookup⟩ := FileSystem.nodeAt?_eq_some_iff.mp hfile
      cases hdirectory path List.mem_cons_self true loc _ hlookup
    · cases hdirectory place hplace false loc _ hthere

/-! ### Calls, one after the other -/

/-- What a call for the key at a path says about it, should one have to be made. -/
structure KeyRequest where
  domain : String
  selector : String
  kind : KeyKind

/-- The answers to calls for the key at one path. -/
def obtainKeys (source : KeySource) (path : String) :
    List KeyRequest → Act Host (List (Except Failure SigningKey))
  | [] => Act.pure []
  | r :: requests =>
    (obtainKeyFrom source r.domain r.selector path r.kind).bind fun answer =>
      (obtainKeys source path requests).bind fun answers => Act.pure (answer :: answers)

variable {source : KeySource} {host : Host}

/-- Calls that change nothing give the same answer again and again. -/
theorem obtainKeys_outcome {answer : Except Failure SigningKey}
    (h : ∀ domain selector kind,
      (obtainKeyFrom source domain selector path kind host).outcome = (answer, host)) :
    ∀ requests,
      (obtainKeys source path requests host).outcome = (requests.map fun _ => answer, host)
  | [] => rfl
  | r :: requests => by
      rw [obtainKeys, Act.bind_outcome, h]
      dsimp only
      rw [Act.bind_outcome, obtainKeys_outcome h requests]
      rfl

/-- What the text of a key file says is what every call answers. -/
theorem obtainKeys_of_readText {text : String} (hread : host.disk.readText path = .ok text)
    (hkey : readKey path text = .ok key) (requests : List KeyRequest) :
    (obtainKeys source path requests host).outcome = (requests.map fun _ => .ok key, host) := by
  refine obtainKeys_outcome (fun domain selector kind => ?_) requests
  rw [obtainKeyFrom_outcome, hread]
  dsimp only
  rw [hkey]

/-- A call that finds no key takes one from the source and writes it. -/
theorem obtainKeyFrom_of_notFound {kind : KeyKind}
    (hread : host.disk.readText path = .error (.system .notFound))
    (hkey : source kind host.entropy = .ok key)
    (hwrite : (writeKey path key host.disk).outcome = (.ok (), after)) (domain selector : String) :
    (obtainKeyFrom source domain selector path kind host).outcome =
      (.ok key, { host with disk := after, entropy := host.entropy + 1 }) := by
  rw [obtainKeyFrom_outcome, hread]
  dsimp only
  rw [generateKey_outcome, hkey]
  dsimp only
  rw [hwrite]

/-- A call that succeeds has read a key, or it has taken one from the source and written it. -/
theorem obtainKeyFrom_eq_ok {domain selector : String} {kind : KeyKind} {after : Host}
    (h : (obtainKeyFrom source domain selector path kind host).outcome = (.ok key, after)) :
    (∃ text, host.disk.readText path = .ok text ∧ readKey path text = .ok key ∧ after = host) ∨
    host.disk.readText path = .error (.system .notFound) ∧
      source kind host.entropy = .ok key ∧
      (writeKey path key host.disk).outcome = (.ok (), after.disk) := by
  rw [obtainKeyFrom_outcome] at h
  split at h
  · next text hread =>
    obtain ⟨hkey, rfl⟩ := Prod.mk.inj h
    exact .inl ⟨text, hread, hkey, rfl⟩
  · next hread =>
    refine .inr ⟨hread, ?_⟩
    rw [generateKey_outcome] at h
    split at h
    · cases h
    · next made hmade =>
      split at h
      · next disk hw =>
        obtain ⟨e, rfl⟩ := Prod.mk.inj h
        obtain rfl := Except.ok.inj e
        exact ⟨hmade, hw⟩
      · cases h
  · cases h

/-! ### Keys that stay -/

/-- **A key that was obtained stays.**  A key file that can be read is not modified, whether it
holds a key or not.  After a call that answered with a key, every later call answers with the same
key and changes nothing, whatever domain, selector and kind of key it names.  If the key was made by
the call, its text is in the key file, which only the owner can read, and its record is in the file
beside it.  The keys may come from any source that gives a sound one when it is asked. -/
theorem key_stable (source : KeySource) (domain selector path : String) (kind : KeyKind)
    (host : Host) (hsource : ∀ key, source kind host.entropy = .ok key → key.Sound)
    (hlinks : ∀ place ∈ [path, dnsPath path], ¬ host.disk.IsLink place)
    (hcovered : ¬ Uncovers path host.disk) :
    let call := obtainKeyFrom source domain selector path kind host
    (∀ bytes, host.disk.readFile path = .ok bytes → call.state = host) ∧
    ∀ key, call.answer = .ok key →
      (∀ (source : KeySource) (later : Host) (requests : List KeyRequest),
        later.disk = call.state.disk →
          (obtainKeys source path requests later).outcome =
            (requests.map fun _ => .ok key, later)) ∧
      ((∃ text, host.disk.readText path = .ok text ∧ readKey path text = .ok key ∧
          call.state = host) ∨
        host.disk.readText path = .error (.system .notFound) ∧
          source kind host.entropy = .ok key ∧ ∃ pem record,
            key.toPem = .ok pem ∧ key.dnsRecord = .ok record ∧
            call.state.disk.nodeAt? path = some (.file (utf8 pem) FileSystem.privateMode) ∧
            ∃ mode, call.state.disk.nodeAt? (dnsPath path) =
              some (.file (utf8 (record ++ "\n")) mode)) := by
  intro call
  refine ⟨fun bytes h => obtainKeyFrom_of_readFile source domain selector kind h,
    fun key hanswer => ?_⟩
  have houtcome : (obtainKeyFrom source domain selector path kind host).outcome =
      (.ok key, call.state) := Prod.ext hanswer rfl
  rcases obtainKeyFrom_eq_ok houtcome with ⟨text, hread, hkey, hsame⟩ | ⟨hread, hmakes, hwrite⟩
  · refine ⟨fun source later requests hlater => obtainKeys_of_readText ?_ hkey requests,
      .inl ⟨text, hread, hkey, hsame⟩⟩
    rw [hlater, hsame, hread]
  · obtain ⟨made, pem, written, hmade, hpem, hw, hr⟩ := writeKey_eq_ok_iff.mp hwrite
    obtain ⟨record, hrecord, hr⟩ := writeRecord_eq_ok_iff.mp hr
    obtain ⟨file, hw, -⟩ := (writeText_eq_ok_iff _ _ _ _ _ _).mp hw
    obtain ⟨beside, hr, -⟩ := (writeText_eq_ok_iff _ _ _ _ _ _).mp hr
    have hkeyLink := hlinks path List.mem_cons_self
    have hbeside : dnsPath path ∈ [path, dnsPath path] := by simp
    have hlink := not_isLink_of_not_uncovers hcovered hmade hbeside (hlinks _ hbeside)
    obtain ⟨loc, hfree⟩ := exists_free hcovered hmade hread hkeyLink
      (FileSystem.storeFile_eq_ok hw).1
    obtain ⟨hfile, hfound⟩ := nodeAt?_of_written hfree hlink hw hr
    refine ⟨fun source later requests hlater => ?_,
      .inr ⟨hread, hmakes, pem, record, hpem, hrecord, hfile, hfound⟩⟩
    have hthere : later.disk.readFile path = .ok (utf8 pem) := by
      obtain ⟨loc, hlookup⟩ := FileSystem.nodeAt?_eq_some_iff.mp hfile
      rw [hlater, FileSystem.readFile, hlookup]
      rfl
    exact obtainKeys_of_readText (FileSystem.readText_of_readFile hthere)
      ((hsource key hmakes).readKey path hpem) requests

/-! ### A first start -/

/-- No name in the paths below is too long. -/
theorem names_fit : ¬ FileSystem.maxNameLength < (utf8 "keys").length ∧
    ¬ FileSystem.maxNameLength < (utf8 "k.key").length ∧
    ¬ FileSystem.maxNameLength < (utf8 "k.key.dns").length ∧
    ¬ FileSystem.maxNameLength < (utf8 "x").length := by
  decide

section first

theorem not_isLink_empty (path : String) : ¬ ({} : FileSystem).IsLink path := by
  rintro ⟨loc, target, h⟩
  have hnode := (FileSystem.node?_of_walk (FileSystem.lookup_eq_ok_iff.mp h).2).2 (.link target)
    nofun rfl
  unfold FileSystem.node? at hnode
  split at hnode <;> cases hnode

theorem not_uncovers_empty : ¬ Uncovers "keys/k.key" {} := by
  refine not_uncovers (fun loc name h => absurd ?_ h) (by decide) (by decide)
  rw [FileSystem.node?, if_neg (by simp)]
  rfl

/-- The disk after the directory of a key was made, with nothing else on it. -/
def keyDirectory : FileSystem := { entries := [(["keys"], .directory)] }

theorem makeKeyDirectory_empty :
    (makeKeyDirectory "keys/k.key" {}).outcome = (.ok (), keyDirectory) := by
  have hwalk : ({} : FileSystem).walk false FileSystem.maxLinks [] ["keys"] =
      .ok (.free ["keys"]) := by
    simp [FileSystem.walk, FileSystem.node?, names_fit]
  have hmade : ({} : FileSystem).makeDirectory "keys" = .ok keyDirectory := by
    rw [FileSystem.makeDirectory_eq (by decide) rfl,
      FileSystem.lookup_of_walk (by decide) (by decide) hwalk]
    rfl
  exact makeKeyDirectory_of_makeDirectories (by decide) (by decide)
    (FileSystem.makeDirectoriesFrom_of_makeDirectory (by decide) hmade _)

/-- The key file and its record are written into that directory. -/
theorem writeKey_empty {pem record : String} (hpem : key.toPem = .ok pem)
    (hrecord : key.dnsRecord = .ok record) :
    ∃ after, (writeKey "keys/k.key" key {}).outcome = (.ok (), after) := by
  have hfree : keyDirectory.lookup false "keys/k.key" = .ok (.free ["keys", "k.key"]) :=
    FileSystem.lookup_of_walk (by decide)
      (show Path.segments "keys/k.key" = ["keys", "k.key"] by decide)
      (show _ = .ok (.free ["keys", "k.key"]) by
        simp [FileSystem.walk, FileSystem.node?, keyDirectory, names_fit])
  have hbeside : ∀ node, (keyDirectory.put ["keys", "k.key"] node).lookup false "keys/k.key.dns" =
      .ok (.free ["keys", "k.key.dns"]) := fun node =>
    FileSystem.lookup_of_walk (by decide)
      (show Path.segments "keys/k.key.dns" = ["keys", "k.key.dns"] by decide)
      (show _ = .ok (.free ["keys", "k.key.dns"]) by
        simp [FileSystem.walk, FileSystem.node?, FileSystem.put, keyDirectory, names_fit])
  have hdns : dnsPath "keys/k.key" = "keys/k.key.dns" := by decide
  have hw := FileSystem.storeFile_eq_of_free hfree (by decide) rfl (utf8 pem)
    FileSystem.privateMode
  have hr := FileSystem.storeFile_eq_of_free (hbeside (.file (utf8 pem) FileSystem.privateMode))
    (by decide) rfl (utf8 (record ++ "\n")) FileSystem.publicMode
  rw [← hdns] at hr
  exact ⟨_, writeKey_of_storeFile makeKeyDirectory_empty hpem hw rfl hrecord hr⟩

theorem readText_empty : ({} : FileSystem).readText "keys/k.key" = .error (.system .notFound) := by
  have hwalk : ({} : FileSystem).walk true FileSystem.maxLinks [] ["keys", "k.key"] =
      .error .notFound := by
    simp [FileSystem.walk, FileSystem.node?, names_fit]
  rw [FileSystem.readText_eq, FileSystem.readFile, FileSystem.lookup_of_walk (by decide)
    (by decide) hwalk]
  rfl

/-- On an empty disk the first call makes the directory, the key and the record; two more calls, one
of them for a key of another kind, read that key. -/
theorem key_stable_first :
    let path := "keys/k.key"
    let call := obtainKey "example.org" "s1" path .ed25519 {}
    (∀ key, SigningKey.generate .ed25519 0 = .ok key → key.Sound) ∧
    (∀ place ∈ [path, dnsPath path], ¬ ({} : FileSystem).IsLink place) ∧ ¬ Uncovers path {} ∧
    ∃ key pem, call.answer = .ok key ∧ key.toPem = .ok pem ∧
      call.state.disk.nodeAt? path = some (.file (utf8 pem) 0o600) ∧
      (obtainKeys SigningKey.generate path
        [⟨"example.org", "s1", .ed25519⟩, ⟨"example.net", "s2", .rsa4096⟩] call.state).outcome =
          ([.ok key, .ok key], call.state) := by
  intro path call
  have hsource : ∀ key, SigningKey.generate .ed25519 0 = .ok key → key.Sound := fun _ =>
    SigningKey.sound_of_generate
  have hlinks : ∀ place ∈ [path, dnsPath path], ¬ ({} : FileSystem).IsLink place :=
    fun place _ => not_isLink_empty place
  obtain ⟨key, hkey⟩ : ∃ key, SigningKey.generate .ed25519 0 = .ok key := ⟨_, rfl⟩
  obtain ⟨pem, hpem⟩ := (hsource key hkey).exists_toPem
  obtain ⟨record, hrecord⟩ := (hsource key hkey).exists_dnsRecord
  obtain ⟨after, hwrite⟩ := writeKey_empty hpem hrecord
  have hread : ({} : Host).disk.readText path = .error (.system .notFound) := readText_empty
  have hanswer : call.answer = .ok key := congrArg Prod.fst
    (obtainKeyFrom_of_notFound hread hkey hwrite "example.org" "s1")
  have hstable := (key_stable SigningKey.generate "example.org" "s1" path .ed25519 {} hsource hlinks
    not_uncovers_empty).2 key hanswer
  obtain ⟨hlater, ⟨text, hfound, -⟩ | ⟨-, -, text, -, htext, -, hfile, -⟩⟩ := hstable
  · cases readText_empty.symm.trans hfound
  · obtain rfl := Except.ok.inj (hpem.symm.trans htext)
    exact ⟨hsource, hlinks, not_uncovers_empty, key, pem, hanswer, hpem, hfile,
      hlater _ call.state _ rfl⟩

end first

/-! ### A key that comes to light -/

section uncovered

/-- A disk with an older key, at a path that leads to it once there is a directory `x`. -/
def olderKey : FileSystem := { entries := [(["k.key"], .file (utf8 "old") 0o644)] }

/-- The same disk with that directory. -/
def olderKeyUncovered : FileSystem := olderKey.put ["x"] .directory

theorem walk_olderKey (follow : Bool) (rest : List String) (h : rest ≠ []) :
    olderKey.walk follow FileSystem.maxLinks [] ("x" :: rest) = .error .notFound := by
  simp [FileSystem.walk, FileSystem.node?, olderKey, names_fit, h]

theorem readText_olderKey :
    olderKey.readText "x/../k.key" = .error (.system .notFound) := by
  rw [FileSystem.readText_eq, FileSystem.readFile, FileSystem.lookup_of_walk (by decide)
    (show Path.segments "x/../k.key" = "x" :: ["..", "k.key"] by decide)
    (walk_olderKey true _ (List.cons_ne_nil _ _))]
  rfl

theorem not_isLink_olderKey : ∀ place ∈ ["x/../k.key", dnsPath "x/../k.key"],
    ¬ olderKey.IsLink place := by
  rintro place hplace ⟨loc, target, h⟩
  have hwalk := (FileSystem.lookup_eq_ok_iff.mp h).2
  have hsegments : ∃ rest, Path.segments place = "x" :: rest ∧ rest ≠ [] := by
    rw [List.mem_cons, List.mem_singleton] at hplace
    rcases hplace with rfl | rfl
    · exact ⟨["..", "k.key"], by decide, List.cons_ne_nil _ _⟩
    · exact ⟨["..", "k.key.dns"], by decide, List.cons_ne_nil _ _⟩
  obtain ⟨rest, hsegments, hne⟩ := hsegments
  rw [hsegments, walk_olderKey false rest hne] at hwalk
  cases hwalk

theorem makeKeyDirectory_olderKey :
    (makeKeyDirectory "x/../k.key" olderKey).outcome = (.ok (), olderKeyUncovered) := by
  have hfree : olderKey.walk false FileSystem.maxLinks [] ["x"] = .ok (.free ["x"]) := by
    simp [FileSystem.walk, FileSystem.node?, olderKey, names_fit]
  have hx : olderKey.makeDirectory "x" = .ok olderKeyUncovered := by
    rw [FileSystem.makeDirectory_eq (by decide) rfl,
      FileSystem.lookup_of_walk (by decide) (by decide) hfree]
    rfl
  have hmissing : olderKey.makeDirectory "x/.." = .error (.system .notFound) := by
    rw [FileSystem.makeDirectory_eq (by decide) rfl,
      FileSystem.lookup_of_walk (by decide) (show Path.segments "x/.." = "x" :: [".."] by decide)
        (walk_olderKey false _ (List.cons_ne_nil _ _))]
    rfl
  have hroot : olderKeyUncovered.walk true FileSystem.maxLinks [] ["x", ".."] =
      .ok (.taken [] .directory) := by
    simp [FileSystem.walk, FileSystem.node?, FileSystem.put, olderKeyUncovered, names_fit]
  have hthere : olderKeyUncovered.isDirectory "x/.." = true :=
    FileSystem.isDirectory_iff.mpr
      ⟨[], FileSystem.lookup_of_walk (by decide) (by decide) hroot⟩
  have hup : olderKeyUncovered.ensureDirectory "x/.." = (.ok (), olderKeyUncovered) := by
    unfold FileSystem.ensureDirectory
    rw [FileSystem.makeDirectory_of_isDirectory hthere]
    dsimp only
    rw [if_pos hthere]
  have hmakes : olderKey.makeDirectories "x/.." = (.ok (), olderKeyUncovered) := by
    rw [FileSystem.makeDirectories, show "x/..".length = 3 + 1 by decide,
      FileSystem.makeDirectoriesFrom, FileSystem.makeDirectoryAfter, if_neg (by decide), hmissing,
      show Path.parent? "x/.." = some "x" by decide]
    dsimp only
    rw [FileSystem.makeDirectoriesFrom_of_makeDirectory (by decide) hx]
    exact hup
  exact makeKeyDirectory_of_makeDirectories (by decide) (by decide) hmakes

/-- The disk with a new key and its record. -/
def newKey (pem record : Bytes) : FileSystem :=
  (olderKeyUncovered.put ["k.key"] (.file pem 0o644)).put ["k.key.dns"] (.file record 0o644)

theorem writeKey_olderKey {pem record : String} (hpem : key.toPem = .ok pem)
    (hrecord : key.dnsRecord = .ok record) :
    (writeKey "x/../k.key" key olderKey).outcome =
      (.ok (), newKey (utf8 pem) (utf8 (record ++ "\n"))) := by
  have hold : olderKeyUncovered.lookup true "x/../k.key" =
      .ok (.taken ["k.key"] (.file (utf8 "old") 0o644)) :=
    FileSystem.lookup_of_walk (by decide)
      (show Path.segments "x/../k.key" = ["x", "..", "k.key"] by decide)
      (show _ = .ok (.taken ["k.key"] (.file (utf8 "old") 0o644)) by
        simp [FileSystem.walk, FileSystem.node?, FileSystem.put, olderKeyUncovered, olderKey,
          names_fit])
  have hbeside : ∀ node, (olderKeyUncovered.put ["k.key"] node).lookup false "x/../k.key.dns" =
      .ok (.free ["k.key.dns"]) := fun node =>
    FileSystem.lookup_of_walk (by decide)
      (show Path.segments "x/../k.key.dns" = ["x", "..", "k.key.dns"] by decide)
      (show _ = .ok (.free ["k.key.dns"]) by
        simp [FileSystem.walk, FileSystem.node?, FileSystem.put, olderKeyUncovered, olderKey,
          names_fit])
  have hdns : dnsPath "x/../k.key" = "x/../k.key.dns" := by decide
  have hw := FileSystem.storeFile_of_flaw?
    (FileSystem.fileToWrite_of_file hold FileSystem.privateMode) rfl (utf8 pem)
  have hr := FileSystem.storeFile_eq_of_free (hbeside (.file (utf8 pem) 0o644)) (by decide) rfl
    (utf8 (record ++ "\n")) FileSystem.publicMode
  rw [← hdns] at hr
  exact writeKey_of_storeFile makeKeyDirectory_olderKey hpem hw rfl hrecord hr

theorem lookup_newKey (pem record : Bytes) :
    (newKey pem record).lookup true "x/../k.key" = .ok (.taken ["k.key"] (.file pem 0o644)) ∧
      (newKey pem record).lookup true "k.key" = .ok (.taken ["k.key"] (.file pem 0o644)) := by
  refine ⟨FileSystem.lookup_of_walk (by decide)
    (show Path.segments "x/../k.key" = ["x", "..", "k.key"] by decide)
    (show _ = .ok (.taken ["k.key"] (.file pem 0o644)) from ?_),
    FileSystem.lookup_of_walk (by decide)
    (show Path.segments "k.key" = ["k.key"] by decide)
    (show _ = .ok (.taken ["k.key"] (.file pem 0o644)) from ?_)⟩ <;>
  simp [FileSystem.walk, FileSystem.node?, FileSystem.put, newKey, olderKeyUncovered, olderKey,
    names_fit]

/-- **An older key comes to light and is overwritten.**  Neither path is a symbolic link, and a key
is made because the path leads nowhere yet.  But the directory that is made first lets it lead to
the file of the older key: that key is gone, and the file of the new one keeps a mode that lets
everybody read it. -/
theorem uncovered_key :
    let path := "x/../k.key"
    let host : Host := { disk := olderKey }
    let call := obtainKey "example.org" "s1" path .ed25519 host
    (∀ place ∈ [path, dnsPath path], ¬ host.disk.IsLink place) ∧
    host.disk.readFile "k.key" = .ok (utf8 "old") ∧
    ∃ key pem, SigningKey.generate .ed25519 host.entropy = .ok key ∧ call.answer = .ok key ∧
      key.toPem = .ok pem ∧ call.state.disk.nodeAt? path = some (.file (utf8 pem) 0o644) ∧
      call.state.disk.nodeAt? path ≠ some (.file (utf8 pem) FileSystem.privateMode) ∧
      call.state.disk.readFile "k.key" = .ok (utf8 pem) := by
  intro path host call
  have holder : olderKey.lookup true "k.key" =
      .ok (.taken ["k.key"] (.file (utf8 "old") 0o644)) :=
    FileSystem.lookup_of_walk (by decide)
      (show Path.segments "k.key" = ["k.key"] by decide)
      (show _ = .ok (.taken ["k.key"] (.file (utf8 "old") 0o644)) by
        simp [FileSystem.walk, FileSystem.node?, olderKey, names_fit])
  obtain ⟨key, hkey⟩ : ∃ key, SigningKey.generate .ed25519 host.entropy = .ok key := ⟨_, rfl⟩
  have hsound := SigningKey.sound_of_generate hkey
  obtain ⟨pem, hpem⟩ := hsound.exists_toPem
  obtain ⟨record, hrecord⟩ := hsound.exists_dnsRecord
  have hread : host.disk.readText path = .error (.system .notFound) := readText_olderKey
  have houtcome := obtainKeyFrom_of_notFound hread hkey (writeKey_olderKey hpem hrecord)
    "example.org" "s1"
  have hdisk : call.state.disk = newKey (utf8 pem) (utf8 (record ++ "\n")) :=
    congrArg (·.2.disk) houtcome
  obtain ⟨hthere, hplain⟩ := lookup_newKey (utf8 pem) (utf8 (record ++ "\n"))
  have hnode : call.state.disk.nodeAt? path = some (.file (utf8 pem) 0o644) := by
    rw [hdisk]
    exact FileSystem.nodeAt?_eq_some_iff.mpr ⟨_, hthere⟩
  refine ⟨not_isLink_olderKey, ?_, key, pem, hkey, congrArg Prod.fst houtcome, hpem, hnode,
    fun e => ?_, ?_⟩
  · rw [FileSystem.readFile, show host.disk = olderKey from rfl, holder]
    rfl
  · have hmode := (Node.file.inj (Option.some.inj (hnode.symm.trans e))).2
    revert hmode
    decide
  · rw [FileSystem.readFile, hdisk, hplain]
    rfl

end uncovered

end Mailroom.Dkim
