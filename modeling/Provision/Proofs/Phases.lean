import Provision.Proofs.Finalizing

/-!
# The phases of an install

An install fetches the archive, stages it and settles: it moves what was accepted into place and
removes the staging directory and the archive.

* `Install.runFor_eq` cuts a run into `fetchArchive`, `stageArchive` and `settle`.
* `Install.Steady` says what any part of a run leaves as it was: all that a later run needs.
* `meets_fetchArchive`, `meets_stageArchive` and `meets_settle` say what the phases meet.
-/

namespace Provision.Install

open Memory

/-! ## The run in phases -/

/-- Where the archive of a version is downloaded to. -/
def archivePath (c : Config) (key : Key) (version : String) : Path :=
  (Locate.binDir c.root).entry (Release.assetName version key.naming)

/-- Where the archive of a version is unpacked. -/
def stagingPath (c : Config) (key : Key) (version : String) : Path :=
  (Locate.binDir c.root).entry (stagingName (Release.assetName version key.naming))

/-- The first phase: the version whose archive has been downloaded, or the outcome without one. -/
def fetchArchive (c : Config) (key : Key) : Program (Except Outcome String) := do
  let binary := Locate.binaryIn c.root key
  if ← .ask (.isFile binary) then return .error (.alreadyInstalled binary)
  match ← (Manifest.loadFrom c.root).run with
  | .error e => return .error (.failed (.metadata e) (Release.indexUrl c.host))
  | .ok m =>
    let version := m.releaseVersion
    let asset := Release.asset c.host version key.naming
    let directory := Locate.binDir c.root
    announce key asset
    match ← (Attempt.createDirs directory).run with
    | .error e =>
      return .error (.failed (.finalize (e.context ("Failed to create " ++ directory.quoted)))
        (Release.pageUrl c.host version))
    | .ok () =>
      match ← (Download.run asset.url (archivePath c key version)).run with
      | .error e =>
        Guard.remove (archivePath c key version)
        return .error (.failed (.network e) (Release.pageUrl c.host version))
      | .ok size =>
        logInfo ("Downloaded " ++ asset.name ++ " (" ++ toString size ++ " bytes)")
        return .ok version

/-- The part of the first phase that only looks: the version to download, or the outcome without
one. -/
def findVersion (c : Config) (key : Key) : Program (Except Outcome String) := do
  let binary := Locate.binaryIn c.root key
  if ← .ask (.isFile binary) then return .error (.alreadyInstalled binary)
  match ← (Manifest.loadFrom c.root).run with
  | .error e => return .error (.failed (.metadata e) (Release.indexUrl c.host))
  | .ok m =>
    announce key (Release.asset c.host m.releaseVersion key.naming)
    return .ok m.releaseVersion

/-- The part of the first phase that changes files: the version whose archive has been downloaded,
or the outcome without one. -/
def obtainArchive (c : Config) (key : Key) (version : String) :
    Program (Except Outcome String) := do
  let asset := Release.asset c.host version key.naming
  let directory := Locate.binDir c.root
  match ← (Attempt.createDirs directory).run with
  | .error e =>
    return .error (.failed (.finalize (e.context ("Failed to create " ++ directory.quoted)))
      (Release.pageUrl c.host version))
  | .ok () =>
    match ← (Download.run asset.url (archivePath c key version)).run with
    | .error e =>
      Guard.remove (archivePath c key version)
      return .error (.failed (.network e) (Release.pageUrl c.host version))
    | .ok size =>
      logInfo ("Downloaded " ++ asset.name ++ " (" ++ toString size ++ " bytes)")
      return .ok version

/-- The first phase looks before it changes files. -/
theorem fetchArchive_eq (c : Config) (key : Key) :
    fetchArchive c key = (do
      match ← findVersion c key with
      | .error outcome => return .error outcome
      | .ok version => obtainArchive c key version) := by
  unfold fetchArchive findVersion
  rw [bind_assoc]
  refine bind_congr fun found => ?_
  cases found with
  | true => rfl
  | false =>
    rw [if_neg (by simp), if_neg (by simp), bind_assoc]
    refine bind_congr fun manifest => ?_
    cases manifest with
    | error e => rfl
    | ok m =>
      simp only [bind_assoc, pure_bind]
      rfl

/-- The second phase: the staged binary that was accepted. -/
def stageArchive (c : Config) (key : Key) (version : String) : Program (Except Report Path) :=
  (stage c.extractor key (archivePath c key version) (stagingPath c key version)).run

/-- Moves what was accepted into place. -/
def moveAccepted (c : Config) (key : Key) : Except Report Path → Program (Except Problem Unit)
  | .error e => return .error (.extraction e)
  | .ok staged =>
    ((finalize key staged (Locate.binDir c.root) (Locate.binaryIn c.root key)).mapFailure
      Problem.finalize).run

/-- The third phase: what was accepted is moved into place, and the rest is removed. -/
def settle (c : Config) (key : Key) (version : String) (accepted : Except Report Path) :
    Program Outcome := do
  let moved ← moveAccepted c key accepted
  Guard.remove (stagingPath c key version)
  Guard.remove (archivePath c key version)
  match moved with
  | .ok () => return .installed key (Locate.binaryIn c.root key)
  | .error e => return .failed e (Release.pageUrl c.host version)

theorem run_lift_bind {ε α β : Type} (p : Program α) (f : Except ε α → Program β) :
    (liftM p : Attempt ε α).run >>= f = p >>= fun a => f (.ok a) := by
  show ((p >>= fun a => pure (.ok a)) >>= f) = _
  rw [bind_assoc]
  rfl

/-- A run is its phases. -/
theorem runFor_eq (c : Config) (key : Key) :
    runFor c key = (do
      match ← fetchArchive c key with
      | .error outcome => return outcome
      | .ok version => settle c key version (← stageArchive c key version)) := by
  unfold runFor fetchArchive
  rw [bind_assoc]
  refine bind_congr fun found => ?_
  cases found with
  | true => rfl
  | false =>
    rw [if_neg (by simp), if_neg (by simp), bind_assoc]
    refine bind_congr fun manifest => ?_
    cases manifest with
    | error e => rfl
    | ok m =>
      dsimp only
      unfold provide unpackAndFinalize Guard.always Attempt.mapFailure Attempt.context
        Attempt.ofProgram Program.andThen
      simp only [ExceptT.run_bind, ExceptT.run_mk, bind_assoc, pure_bind, run_lift_bind]
      refine bind_congr fun _ => bind_congr fun made => ?_
      cases made with
      | error e => rfl
      | ok _ =>
        simp only [Except.mapError, bind_assoc]
        refine bind_congr fun downloaded => ?_
        cases downloaded with
        | error e =>
          simp only [bind_assoc, pure_bind]
          rfl
        | ok size =>
          simp only [bind_assoc, pure_bind]
          refine bind_congr fun _ => bind_congr fun accepted => ?_
          cases accepted with
          | error e => rfl
          | ok staged => rfl

theorem run_eq {c : Config} {key : Key} (h : c.platform.key? = some key) :
    run c = runFor c key := by
  unfold run
  rw [h]

/-! ## The release of a package -/

/-- The version of the release that belongs to a package, read from its manifest. -/
def versionIn? (cwd root : Path) (t : Tree Node) : Option String := do
  let .file bytes _ ← node? t (placeIn cwd (Manifest.pathIn root)) | none
  let text ← Utf8.decode? bytes
  let manifest ← (Manifest.ofFile (Manifest.pathIn root) text).toOption
  return manifest.releaseVersion

/-- Without the manifest having changed, the version is the same. -/
theorem versionIn?_congr {cwd root : Path} {t t' : Tree Node}
    (h : node? t' (placeIn cwd (Manifest.pathIn root)) =
      node? t (placeIn cwd (Manifest.pathIn root))) :
    versionIn? cwd root t' = versionIn? cwd root t := by
  unfold versionIn?
  rw [h]

/-- The version is read from the text of the manifest. -/
theorem versionIn?_of_file {cwd root : Path} {t : Tree Node} {bytes : Bytes} {mode : Nat}
    {text : String} (hn : node? t (placeIn cwd (Manifest.pathIn root)) = some (.file bytes mode))
    (hdecode : Utf8.decode? bytes = some text) : versionIn? cwd root t =
      (Manifest.ofFile (Manifest.pathIn root) text).toOption.map (·.releaseVersion) := by
  unfold versionIn?
  rw [hn]
  simp only [Option.bind_eq_bind, Option.bind_some, hdecode]
  cases Manifest.ofFile (Manifest.pathIn root) text <;> rfl

/-! ## What any part of a run leaves -/

section Steady

variable {L : Layout} {t t' t'' : Tree Node} {n : Bytes}

/-- What a run leaves as it was, whatever fails: outside the `bin` directory it only creates the
directories on the way, it makes no directory of the archive and no file of the staging directory.
-/
structure Steady (L : Layout) (t t' : Tree Node) : Prop where
  outside : ∀ q, L.Above q →
    node? t' q = node? t q ∨ q <+: L.bin ∧ node? t q = none ∧ node? t' q = some .dir
  archive : node? t' L.archivePlace = some .dir → node? t L.archivePlace = some .dir
  staging : ∀ bytes mode, node? t' L.stagingPlace = some (.file bytes mode) →
    node? t L.stagingPlace = some (.file bytes mode)

/-- Also the place of the binary is as it was. -/
structure Undisturbed (L : Layout) (t t' : Tree Node) : Prop extends Steady L t t' where
  slot : node? t' L.slot = node? t L.slot

theorem Steady.trans (h : Steady L t t') (h' : Steady L t' t'') : Steady L t t'' where
  outside q hq := by
    rcases h'.outside q hq with he' | ⟨hp, hnone', hdir'⟩
    · rw [he']
      exact h.outside q hq
    · rcases h.outside q hq with he | ⟨-, -, hdir⟩
      · exact .inr ⟨hp, by rw [← he, hnone'], hdir'⟩
      · rw [hdir] at hnone'
        cases hnone'
  archive hd := h.archive (h'.archive hd)
  staging bytes mode hf := h.staging bytes mode (h'.staging bytes mode hf)

theorem Undisturbed.trans (h : Undisturbed L t t') (h' : Undisturbed L t' t'') :
    Undisturbed L t t'' :=
  ⟨h.toSteady.trans h'.toSteady, h'.slot.trans h.slot⟩

theorem Undisturbed.refl (L : Layout) (t : Tree Node) : Undisturbed L t t :=
  ⟨⟨fun _ _ => .inl rfl, fun h => h, fun _ _ h => h⟩, rfl⟩

/-- A change under one name in the `bin` directory concerns nothing outside that. -/
theorem onlyIn_above (h : OnlyIn (L.bin ++ [n]) t t') {q : Place} (hq : L.Above q) :
    node? t' q = node? t q := by
  refine h q ?_
  rintro ⟨r, rfl⟩
  exact hq n r (by rw [List.append_assoc, List.singleton_append])

theorem Steady.of_onlyIn (h : OnlyIn (L.bin ++ [n]) t t')
    (harchive : node? t' L.archivePlace = some .dir → node? t L.archivePlace = some .dir)
    (hstaging : ∀ bytes mode, node? t' L.stagingPlace = some (.file bytes mode) →
      node? t L.stagingPlace = some (.file bytes mode)) : Steady L t t' where
  outside _ hq := .inl (onlyIn_above h hq)
  archive := harchive
  staging := hstaging

/-- A change under one name in the `bin` directory does not concern another name. -/
theorem onlyIn_entry {m : Bytes} (h : OnlyIn (L.bin ++ [n]) t t') (hm : m ≠ n) :
    node? t' (L.bin ++ [m]) = node? t (L.bin ++ [m]) :=
  h _ (not_prefix_of_ne hm.symm)

theorem Undisturbed.of_fetching (h : Fetching L.archivePlace t t') : Undisturbed L t t' := by
  have hstaging : node? t' L.stagingPlace = node? t L.stagingPlace :=
    onlyIn_entry h.only L.staging_ne_archive
  refine ⟨.of_onlyIn h.only h.noDir fun bytes mode hf => ?_, ?_⟩
  · rwa [hstaging] at hf
  · exact onlyIn_entry h.only L.archive_ne_binary.symm

theorem Undisturbed.of_preparing (h : Preparing L.stagingPlace t t') : Undisturbed L t t' := by
  have harchive : node? t' L.archivePlace = node? t L.archivePlace :=
    onlyIn_entry h.only L.staging_ne_archive.symm
  refine ⟨.of_onlyIn h.only (fun hd => ?_) h.noFile, ?_⟩
  · rwa [harchive] at hd
  · exact onlyIn_entry h.only L.staging_ne_binary.symm

theorem Steady.of_settled (h : Settled L t t') : Steady L t t' where
  outside q hq := .inl (h.outside q hq)
  archive hd := by
    obtain ⟨bytes, mode, hf⟩ := h.archive
    rw [hf] at hd
    cases hd
  staging bytes mode hf := absurd hf (h.staging bytes mode)

/-- Something other than the binary has been removed. -/
theorem Undisturbed.of_removed (hn : n ≠ L.binary)
    (h : ∀ q, node? t' q = if L.bin ++ [n] <+: q then none else node? t q) :
    Undisturbed L t t' := by
  have honly : OnlyIn (L.bin ++ [n]) t t' := fun q hq => by rw [h, if_neg hq]
  refine ⟨.of_onlyIn honly ?_ ?_, onlyIn_entry honly hn.symm⟩
  · intro hd
    rw [h] at hd
    split_ifs at hd
    exact hd
  · intro bytes mode hf
    rw [h] at hf
    split_ifs at hf
    exact hf

/-- Nothing in the `bin` directory is on the way to it. -/
theorem makeDirs_entry (L : Layout) (t : Tree Node) (m : Bytes) (r : Place) :
    node? (makeDirs t [] L.bin).2 (L.bin ++ m :: r) = node? t (L.bin ++ m :: r) := by
  rcases makeDirs_node? t [] L.bin (L.bin ++ m :: r) with h | ⟨h, -, -⟩
  · exact h
  · have hlen := (onTheWay_nil_iff.1 h).2.length_le
    rw [List.length_append, List.length_cons] at hlen
    omega

theorem Undisturbed.makeDirs (L : Layout) (t : Tree Node) :
    Undisturbed L t (makeDirs t [] L.bin).2 where
  outside q _ := by
    rcases makeDirs_node? t [] L.bin q with h | ⟨h, hnone, hdir⟩
    · exact .inl h
    · exact .inr ⟨(onTheWay_nil_iff.1 h).2, hnone, hdir⟩
  archive hd := (makeDirs_entry L t L.archive []).symm.trans hd
  staging bytes mode hf := (makeDirs_entry L t L.staging []).symm.trans hf
  slot := makeDirs_entry L t L.binary []

end Steady

/-! ## What the phases meet -/

section Meets

variable {η : Type} {S : Setting η} {I : World η → Prop} {w : World η} {c : Config} {key : Key}
  {version : String} {L : Layout}

/-- Loading the manifest changes nothing. Without injected failures it fails only if the package has
no version. -/
theorem meets_loadFrom {root : Path} (hI : I w) :
    Attempt.Meets S.Step I
      (fun manifest w' => w' = w ∧ versionIn? S.cwd root w.tree = some manifest.releaseVersion)
      (fun _ w' => w' = w ∧ (S.Calm → versionIn? S.cwd root w.tree = none))
      (Manifest.loadFrom root) w := by
  unfold Manifest.loadFrom Manifest.load
  refine Attempt.meets_bind (Attempt.meets_context (meets_readText hI ?_ ?_))
  · intro bytes mode text hn hdecode
    have hversion := versionIn?_of_file hn hdecode
    refine Attempt.meets_ofProgram (Program.meets_pure ?_)
    cases hload : Manifest.ofFile (Manifest.pathIn root) text with
    | error e =>
      rw [hload] at hversion
      exact ⟨rfl, fun _ => hversion⟩
    | ok manifest =>
      rw [hload] at hversion
      exact ⟨rfl, hversion⟩
  · intro e he
    refine ⟨rfl, fun hc => ?_⟩
    have hnone := he.resolve_left (hc _)
    unfold versionIn?
    cases hn : node? w.tree (placeIn S.cwd (Manifest.pathIn root)) with
    | none => rfl
    | some v =>
      cases v with
      | dir => rfl
      | file bytes mode =>
        simp only [Option.bind_eq_bind, Option.bind_some, hnone bytes mode hn, Option.bind_none]

/-- A layout says where an install works. -/
structure Places (S : Setting η) (c : Config) (key : Key) (version : String) (L : Layout) :
    Prop where
  native : c.extractor = .native
  name : L.binary = Bytes.ofText key.binary
  directory : S.place (Locate.binDir c.root) = L.bin
  binary : S.place (Locate.binaryIn c.root key) = L.slot
  archive : S.place (archivePath c key version) = L.archivePlace
  staging : S.place (stagingPath c key version) = L.stagingPlace
  manifest : S.place (Manifest.pathIn c.root) = L.manifest

theorem places_ofRelease (S : Setting η) (key : Key) (hc : c.extractor = .native)
    (h : '/' ∉ version.toList) :
    Places S c key version (.ofRelease S.cwd c.root key version h) := by
  have harchive := isName_assetName key h
  refine ⟨hc, rfl, place_binDir _ _, ?_, ?_, ?_, place_manifest _ _⟩
  · rw [Setting.place, place_binaryIn, Layout.slot, Layout.bin, List.append_assoc]
    rfl
  · rw [Setting.place, archivePath, place_entry _ _ harchive, place_binDir]
    rfl
  · rw [Setting.place, stagingPath, place_entry _ _ (isName_stagingName harchive), place_binDir]
    rfl

/-! ### Fetching -/

/-- The archive of a version can be fetched: the package is at that version, its `bin` directory is
there or can be created, no directory is in the way and the network leads to a body. -/
structure Fetchable (S : Setting η) (c : Config) (key : Key) (version : String) (L : Layout)
    (w : World η) (body : Bytes) (n : η) : Prop where
  release : versionIn? S.cwd c.root w.tree = some version
  bin : (makeDirs w.tree [] L.bin).1 = .ok ()
  archive : node? w.tree L.archivePlace ≠ some .dir
  serves : Fetch.Serves S.serve (Release.asset c.host version key.naming).url w.net body n

/-- The archive has been fetched, and apart from it only directories have been created. -/
structure Fetched (S : Setting η) (c : Config) (key : Key) (version : String) (L : Layout)
    (w : World η) (body : Bytes) (w' : World η) : Prop where
  fetchable : Fetchable S c key version L w body w'.net
  only : OnlyIn L.archivePlace (makeDirs w.tree [] L.bin).2 w'.tree
  archive : ∃ mode, node? w'.tree L.archivePlace = some (.file body mode)

theorem Fetched.undisturbed {body : Bytes} {w' : World η}
    (h : Fetched S c key version L w body w') : Undisturbed L w.tree w'.tree := by
  obtain ⟨mode, hfile⟩ := h.archive
  exact .trans (.makeDirs L w.tree) (.of_fetching (.of_file h.only hfile))

/-- A file is where the binary goes. -/
def HasBinary (L : Layout) (t : Tree Node) : Prop :=
  ∃ bytes mode, node? t L.slot = some (.file bytes mode)

/-- Creating the `bin` directory. -/
theorem meets_createBin (hp : Places S c key version L) :
    Attempt.Meets S.Step (fun w' => Undisturbed L w.tree w'.tree)
      (fun _ w' => makeDirs w.tree [] L.bin = (.ok (), w'.tree) ∧ w'.net = w.net)
      (fun _ w' => Undisturbed L w.tree w'.tree ∧
        (S.Calm → ¬ ∃ body n, Fetchable S c key version L w body n))
      (Attempt.createDirs (Locate.binDir c.root)) w := by
  refine meets_createDirs (.refl L w.tree) ?_ ?_ ?_
  · intro w' hmake hnet
    rw [hp.directory] at hmake
    exact ⟨hmake, hnet⟩
  · intro e hf
    exact ⟨.refl L w.tree, fun hc => absurd hf (hc _)⟩
  · intro e w' hmake hnet
    rw [hp.directory] at hmake
    refine ⟨?_, fun _ => ?_⟩
    · rw [show w'.tree = (makeDirs w.tree [] L.bin).2 by rw [hmake]]
      exact .makeDirs L w.tree
    · rintro ⟨body, n, hfetch⟩
      have hbin := hfetch.bin
      rw [hmake] at hbin
      cases hbin

/-- Downloading the archive into the `bin` directory that has been created. -/
theorem meets_downloadArchive {w₁ : World η} (hp : Places S c key version L)
    (hrelease : versionIn? S.cwd c.root w.tree = some version)
    (hmake : makeDirs w.tree [] L.bin = (.ok (), w₁.tree)) (hnet : w₁.net = w.net) :
    Attempt.Meets S.Step (fun w' => Undisturbed L w.tree w'.tree)
      (fun _ w' => ∃ body, Fetched S c key version L w body w')
      (fun _ w' => Undisturbed L w.tree w'.tree ∧
        (S.Calm → ¬ ∃ body n, Fetchable S c key version L w body n))
      (Download.run (Release.asset c.host version key.naming).url (archivePath c key version))
      w₁ := by
  have htree : (makeDirs w.tree [] L.bin).2 = w₁.tree := by rw [hmake]
  have hsame : node? w₁.tree L.archivePlace = node? w.tree L.archivePlace := by
    rw [← htree]
    exact makeDirs_entry L w.tree L.archive []
  have hmade : Undisturbed L w.tree w₁.tree := by
    rw [← htree]
    exact .makeDirs L w.tree
  have hbin : node? w₁.tree L.bin = some .dir := by
    rcases makeDirs_cases w.tree [] L.bin with ⟨-, hdirs⟩ | ⟨⟨e, he⟩, -⟩
    · rw [← htree]
      exact hdirs L.bin (onTheWay_nil_iff.2 ⟨L.bin_ne_nil, List.prefix_refl _⟩)
    · rw [hmake] at he
      cases he
  refine Attempt.Meets.mono (meets_download _ hp.archive L.archivePlace_ne_nil rfl) ?_ ?_ ?_
  · intro w' hf
    exact hmade.trans (.of_fetching hf)
  · rintro _ w' ⟨hf, hfree, body, mode, hserves, hfile, -⟩
    rw [hnet] at hserves
    rw [hsame] at hfree
    refine ⟨body, ⟨hrelease, by rw [hmake], hfree, hserves⟩, ?_, mode, hfile⟩
    rw [htree]
    exact hf.only
  · rintro e w' ⟨hf, hno, -⟩
    refine ⟨hmade.trans (.of_fetching hf), fun hc => ?_⟩
    rintro ⟨body, n, hfetch⟩
    have hwritable : Writable w₁.tree L.archivePlace := by
      refine ⟨?_, hsame ▸ hfetch.archive⟩
      rw [Layout.archivePlace, List.dropLast_concat, hbin]
    refine hno hc hwritable body n ?_
    rw [hnet]
    exact hfetch.serves

/-- The part of the first phase that only looks. It ends early because a binary is there, or else
because the package has no version or a failure was injected. -/
theorem meets_findVersion (hp : Places S c key version L) (hI : I w)
    (hversion : ∀ v, versionIn? S.cwd c.root w.tree = some v → v = version) :
    (findVersion c key).Meets S.Step I
      (Attempt.Ends
        (fun v w' => v = version ∧ w' = w ∧ ¬ HasBinary L w.tree ∧
          versionIn? S.cwd c.root w.tree = some version)
        (fun o w' => w' = w ∧
          ((o = .alreadyInstalled (Locate.binaryIn c.root key) ∧ HasBinary L w.tree) ∨
            ((∃ e url, o = .failed (.metadata e) url) ∧ ¬ HasBinary L w.tree ∧
              (S.Calm → versionIn? S.cwd c.root w.tree = none))))) w := by
  unfold findVersion
  refine Program.meets_bind (meets_isFile hI ?_)
  rw [hp.binary]
  by_cases hf : (file w.tree L.slot).isOk = true
  · rw [if_pos hf]
    exact Program.meets_pure ⟨rfl, .inl ⟨rfl, isOk_file_iff.1 hf⟩⟩
  · rw [if_neg hf]
    have hslot : ¬ HasBinary L w.tree := fun h => hf (isOk_file_iff.2 h)
    refine Program.meets_bind (Program.Meets.mono (meets_loadFrom hI) (fun _ hw => hw) ?_)
    rintro (e | manifest) w' ⟨rfl, hload⟩
    · exact Program.meets_pure ⟨rfl, .inr ⟨⟨_, _, rfl⟩, hslot, hload⟩⟩
    · have hv := hversion _ hload
      rw [hv] at hload
      refine Program.meets_bind (Program.meets_bind (meets_print hI ?_ _ _))
      refine meets_print hI ?_ _ _
      exact Program.meets_pure ⟨hv, rfl, hslot, hload⟩

/-- The part of the first phase that changes files. It ends early because something is missing or a
failure was injected. -/
theorem meets_obtainArchive (hp : Places S c key version L)
    (hrelease : versionIn? S.cwd c.root w.tree = some version) :
    (obtainArchive c key version).Meets S.Step (fun w' => Undisturbed L w.tree w'.tree)
      (Attempt.Ends
        (fun v w' => v = version ∧ ∃ body, Fetched S c key version L w body w')
        (fun o w' => (∃ problem url, o = .failed problem url) ∧ Undisturbed L w.tree w'.tree ∧
          (S.Calm → ¬ ∃ body n, Fetchable S c key version L w body n))) w := by
  unfold obtainArchive
  refine Program.meets_bind (Program.Meets.mono (meets_createBin hp) (fun _ hw => hw) ?_)
  rintro (e | _) w₁ h₁
  · exact Program.meets_pure ⟨⟨_, _, rfl⟩, h₁⟩
  · refine Program.meets_bind (Program.Meets.mono
      (meets_downloadArchive hp hrelease h₁.1 h₁.2) (fun _ hw => hw) ?_)
    rintro (e | size) w₂ h₂
    · -- the guard of the download has removed the archive already
      refine Program.meets_bind (meets_remove (by rw [hp.archive]; exact L.archivePlace_ne_nil)
        h₂.1 ?_ fun _ => Program.meets_pure ⟨⟨_, _, rfl⟩, h₂⟩)
      intro w₃ hgone hnet
      rw [hp.archive] at hgone
      exact Program.meets_pure ⟨⟨_, _, rfl⟩,
        h₂.1.trans (.of_removed L.archive_ne_binary hgone), h₂.2⟩
    · obtain ⟨body, hfetched⟩ := h₂
      refine Program.meets_bind (meets_log hfetched.undisturbed ?_ _ _)
      exact Program.meets_pure ⟨rfl, body, hfetched⟩

/-- The first phase. It ends early because a binary is there, or else because something is missing
or a failure was injected. -/
theorem meets_fetchArchive (hp : Places S c key version L)
    (hversion : ∀ v, versionIn? S.cwd c.root w.tree = some v → v = version) :
    (fetchArchive c key).Meets S.Step (fun w' => Undisturbed L w.tree w'.tree)
      (Attempt.Ends
        (fun v w' => v = version ∧ ¬ HasBinary L w.tree ∧
          ∃ body, Fetched S c key version L w body w')
        (fun o w' => (o = .alreadyInstalled (Locate.binaryIn c.root key) ∧ HasBinary L w.tree ∧
            w' = w) ∨
          ((∃ problem url, o = .failed problem url) ∧ ¬ HasBinary L w.tree ∧
            Undisturbed L w.tree w'.tree ∧
            (S.Calm → ¬ ∃ body n, Fetchable S c key version L w body n)))) w := by
  have hstart : Undisturbed L w.tree w.tree := .refl L w.tree
  rw [fetchArchive_eq]
  refine Program.meets_bind (Program.Meets.mono (meets_findVersion hp hstart hversion)
    (fun _ hw => hw) ?_)
  rintro (o | v) w' hfind
  · refine Program.meets_pure ?_
    obtain ⟨rfl, ⟨rfl, hthere⟩ | ⟨⟨e, url, rfl⟩, hslot, hno⟩⟩ := hfind
    · exact .inl ⟨rfl, hthere, rfl⟩
    · refine .inr ⟨⟨_, _, rfl⟩, hslot, hstart, fun hc => ?_⟩
      rintro ⟨body, n, hfetch⟩
      have hrelease := hfetch.release
      rw [hno hc] at hrelease
      cases hrelease
  · obtain ⟨rfl, rfl, hslot, hrelease⟩ := hfind
    refine Program.Meets.mono (meets_obtainArchive hp hrelease) (fun _ hw => hw) ?_
    rintro (o | v') w'' hobtain
    · exact .inr ⟨hobtain.1, hslot, hobtain.2⟩
    · exact ⟨hobtain.1, hslot, hobtain.2⟩

/-! ### Staging -/

/-- The second phase. -/
theorem meets_stageArchive {body : Bytes} {mode : Nat} (hp : Places S c key version L)
    (hfile : node? w.tree L.archivePlace = some (.file body mode)) :
    (stageArchive c key version).Meets S.Step (fun w' => Preparing L.stagingPlace w.tree w'.tree)
      (Attempt.Ends
        (fun p w' => NoFile w.tree L.stagingPlace ∧ Unpacking L.stagingPlace w.tree w'.tree ∧
          (∃ src bytes mode, Staged (stagingPath c key version) L.stagingPlace L.binary w'.tree p
            src bytes mode) ∧
          (S.Calm → ∃ T, Archive.contents? key.naming.format body = some T ∧
            Mirrors L.stagingPlace w'.tree T))
        (fun _ w' => Preparing L.stagingPlace w.tree w'.tree ∧
          (S.Calm → NoFile w.tree L.stagingPlace →
            ¬ ∃ T src bytes mode, Holds key.naming.format body L.binary T src bytes mode))) w := by
  have hbin : node? w.tree L.stagingPlace.dropLast = some .dir := by
    rw [Layout.stagingPlace, List.dropLast_concat]
    exact w.sound.above L.bin L.archive (by rw [← Layout.archivePlace, hfile]; rfl)
  have hout : ¬ L.stagingPlace <+: L.archivePlace := not_prefix_of_ne L.staging_ne_archive
  unfold stageArchive
  rw [hp.native, hp.name]
  exact meets_stage hp.archive hp.staging L.stagingPlace_ne_nil hout hbin hfile

/-! ### Settling -/

/-- No failures are injected when something is removed. -/
def Removes (S : Setting η) : Prop := ¬ S.mayFail .removeFile ∧ ¬ S.mayFail .removeTree

theorem Removes.of_calm (h : S.Calm) : Removes S := ⟨h _, h _⟩

/-- The archive and the staging directory are gone, and all else is as before. -/
def Cleaned (L : Layout) (t t' : Tree Node) : Prop :=
  ∀ q, node? t' q = if L.archivePlace <+: q ∨ L.stagingPlace <+: q then none else node? t q

/-- Removing the staging directory and the archive. -/
theorem meets_cleanUp {α : Type} {next : Program α} {Q : α → World η → Prop}
    (hp : Places S c key version L) (hI : ∀ w', Undisturbed L w.tree w'.tree → I w')
    (h : ∀ w' : World η, Undisturbed L w.tree w'.tree → (Removes S → Cleaned L w.tree w'.tree) →
      next.Meets S.Step I Q w') :
    (do
      Guard.remove (stagingPath c key version)
      Guard.remove (archivePath c key version)
      next).Meets S.Step I Q w := by
  have hstaging : S.place (stagingPath c key version) ≠ [] := by
    rw [hp.staging]
    exact L.stagingPlace_ne_nil
  have harchive : S.place (archivePath c key version) ≠ [] := by
    rw [hp.archive]
    exact L.archivePlace_ne_nil
  have hlast : ∀ w₁ : World η, Undisturbed L w.tree w₁.tree →
      (Removes S → ∀ q, node? w₁.tree q =
        if L.stagingPlace <+: q then none else node? w.tree q) →
      (Guard.remove (archivePath c key version) >>= fun _ => next).Meets S.Step I Q w₁ := by
    intro w₁ h₁ hgone₁
    refine Program.meets_bind (meets_remove harchive (hI w₁ h₁) ?_ ?_)
    · intro w₂ hgone₂ hnet
      rw [hp.archive] at hgone₂
      refine h w₂ (h₁.trans (.of_removed L.archive_ne_binary hgone₂)) fun hr q => ?_
      rw [hgone₂, hgone₁ hr]
      by_cases ha : L.archivePlace <+: q
      · rw [if_pos ha, if_pos (.inl ha)]
      · simp only [ha, if_false, false_or]
    · intro hf
      exact h w₁ h₁ fun hr => (hf.elim hr.1 hr.2).elim
  refine Program.meets_bind (meets_remove hstaging (hI w (.refl L w.tree)) ?_ ?_)
  · intro w₁ hgone hnet
    rw [hp.staging] at hgone
    exact hlast w₁ (.of_removed L.staging_ne_binary hgone) fun _ => hgone
  · intro hf
    exact hlast w (.refl L w.tree) fun hr => (hf.elim hr.1 hr.2).elim

/-- The third phase when nothing was accepted. -/
theorem meets_settle_error (hp : Places S c key version L) (e : Report) :
    (settle c key version (.error e)).Meets S.Step (fun w' => Undisturbed L w.tree w'.tree)
      (fun o w' => (∃ problem url, o = .failed problem url) ∧ Undisturbed L w.tree w'.tree) w := by
  refine Program.meets_bind (Program.meets_pure ?_)
  exact meets_cleanUp hp (fun _ h => h) fun w' h _ => Program.meets_pure ⟨⟨_, _, rfl⟩, h⟩

theorem SlotIn.undisturbed {v : Node} {t t' t'' : Tree Node} (h : SlotIn L v t t')
    (h' : Undisturbed L t' t'') : SlotIn L v t t'' := by
  unfold SlotIn
  rw [h'.slot]
  exact h

/-- The third phase when a binary was accepted. Its place gets that binary exactly if the outcome
says so. Without injected failures everything is moved, unless an item is named like the staging
directory. -/
theorem meets_settle {staged : Path} {src : Place} {bytes : Bytes} {mode : Nat}
    (hp : Places S c key version L)
    (hstaged : Staged (stagingPath c key version) L.stagingPlace L.binary w.tree staged src bytes
      mode)
    (harchive : ∃ bytes mode, node? w.tree L.archivePlace = some (.file bytes mode)) :
    (settle c key version (.ok staged)).Meets S.Step
      (fun w' => Steady L w.tree w'.tree ∧
        SlotIn L (.file bytes (finalMode key mode)) w.tree w'.tree)
      (fun o w' => Steady L w.tree w'.tree ∧
        ((o = .installed key (Locate.binaryIn c.root key) ∧
            node? w'.tree L.slot = some (.file bytes (finalMode key mode)) ∧
            (S.Calm → node? w.tree (L.source src ++ [L.staging]) = none ∧
              ∃ t, Placed L src (.file bytes (finalMode key mode)) w.tree t ∧
                Cleaned L t w'.tree)) ∨
          ((∃ problem url, o = .failed problem url) ∧
            (node? w'.tree L.slot = node? w.tree L.slot ∨ node? w'.tree L.slot = none) ∧
            (S.Calm → (node? w.tree (L.source src ++ [L.staging])).isSome)))) w := by
  have hmove := Attempt.meets_mapFailure (f := Problem.finalize) (R := fun _ (w' : World η) =>
      Settled L w.tree w'.tree ∧
        (node? w'.tree L.slot = node? w.tree L.slot ∨ node? w'.tree L.slot = none) ∧
        (S.Calm → (node? w.tree (L.source src ++ [L.staging])).isSome))
    (meets_finalize key hp.directory hp.binary hp.staging hstaged harchive)
  refine Program.meets_bind (Program.Meets.mono hmove ?_ ?_)
  · rintro w' ⟨hsettled, hslot⟩
    exact ⟨.of_settled hsettled, hslot⟩
  · rintro (e | _) w₁ ⟨hsettled, hslot, hcalm⟩
    · refine meets_cleanUp hp ?_ ?_
      · intro w' h
        refine ⟨.trans (.of_settled hsettled) h.toSteady, SlotIn.undisturbed ?_ h⟩
        exact hslot.imp_right .inl
      · intro w' h _
        refine Program.meets_pure ⟨.trans (.of_settled hsettled) h.toSteady,
          .inr ⟨⟨_, _, rfl⟩, ?_, hcalm⟩⟩
        rwa [h.slot]
    · refine meets_cleanUp hp ?_ ?_
      · intro w' h
        exact ⟨.trans (.of_settled hsettled) h.toSteady,
          SlotIn.undisturbed (.inr (.inr hslot)) h⟩
      · intro w' h hcleaned
        refine Program.meets_pure ⟨.trans (.of_settled hsettled) h.toSteady,
          .inl ⟨rfl, h.slot.trans hslot, fun hc => ?_⟩⟩
        exact ⟨(hcalm hc).1, w₁.tree, (hcalm hc).2, hcleaned (.of_calm hc)⟩

end Meets

end Provision.Install
