import Provision.Proofs.Integrity

/-!
# What an install comes to

Without injected failures a run installs the binary exactly if all that it needs is there, and then
every node of the file system afterwards is known.

* `Install.Ready` holds all that an install needs, `Install.Final` says what is where after it.
* `meets_runFor`: what a whole run meets.
* `install_result` is about runs on a host without injected failures.
-/

namespace Provision.Install

open Memory

/-! ## The end of an install -/

section Final

/-- An entry of an archive that cannot be moved: a directory where a file is in the way. -/
def Blocked (L : Layout) (T : Place → Option Node) (src : Place) (t : Tree Node) (n : Bytes) :
    Prop :=
  T (src ++ [n]) = some .dir ∧ ∃ bytes mode, node? t (L.bin ++ [n]) = some (.file bytes mode)

/-- What is where after an install of what an archive holds. -/
structure Final (L : Layout) (T : Place → Option Node) (src : Place) (binary : Node)
    (t t' : Tree Node) : Prop where
  /-- Outside the `bin` directory, it and the directories above it are there and all else is as it
  was. -/
  above : ∀ q, L.Above q → node? t' q = if q <+: L.bin then some .dir else node? t q
  binary : ∀ r, node? t' (L.bin ++ L.binary :: r) = if r = [] then some binary else none
  archive : ∀ r, node? t' (L.bin ++ L.archive :: r) = none
  staging : ∀ r, node? t' (L.bin ++ L.staging :: r) = none
  /-- The other entries of the archive are in the `bin` directory, in place of what was there. -/
  moved : ∀ n r, n ≠ L.binary → n ≠ L.archive → n ≠ L.staging → (T (src ++ [n])).isSome →
    ¬ Blocked L T src t n → node? t' (L.bin ++ n :: r) = T (src ++ n :: r)
  /-- What the archive has no entry for, and what is in the way of one, is as it was. -/
  kept : ∀ n r, n ≠ L.binary → n ≠ L.archive → n ≠ L.staging →
    (T (src ++ [n]) = none ∨ Blocked L T src t n) →
    node? t' (L.bin ++ n :: r) = node? t (L.bin ++ n :: r)

variable {L : Layout} {t t₁ t₂ t₃ t' : Tree Node} {T : Tree Node} {src : Place} {v : Node}

/-- Creating the `bin` directory makes directories on the way and changes nothing else. -/
theorem node?_makeBin (h : (makeDirs t [] L.bin).1 = .ok ()) (q : Place) :
    node? (makeDirs t [] L.bin).2 q = if q <+: L.bin then some .dir else node? t q := by
  split_ifs with hq
  · by_cases hnil : q = []
    · rw [hnil, node?_nil]
    · rcases makeDirs_cases t [] L.bin with ⟨-, hdirs⟩ | ⟨⟨e, he⟩, -⟩
      · exact hdirs q (onTheWay_nil_iff.2 ⟨hnil, hq⟩)
      · rw [h] at he
        cases he
  · rcases makeDirs_node? t [] L.bin q with hsame | ⟨hway, -, -⟩
    · exact hsame
    · exact absurd (onTheWay_nil_iff.1 hway).2 hq

theorem Cleaned.above (h : Cleaned L t t') {q : Place} (hq : L.Above q) :
    node? t' q = node? t q := by
  rw [h, if_neg]
  rintro (⟨r, rfl⟩ | ⟨r, rfl⟩)
  · exact hq L.archive r (by rw [Layout.archivePlace, List.append_assoc, List.singleton_append])
  · exact hq L.staging r (by rw [Layout.stagingPlace, List.append_assoc, List.singleton_append])

theorem Cleaned.entry (h : Cleaned L t t') {n : Bytes} (ha : n ≠ L.archive) (hs : n ≠ L.staging)
    (r : Place) : node? t' (L.bin ++ n :: r) = node? t (L.bin ++ n :: r) := by
  rw [h, if_neg]
  rintro (hp | hp)
  · exact not_prefix_of_ne ha.symm hp
  · exact not_prefix_of_ne hs.symm hp

/-- The phases of an install that succeeds, one after another: creating the `bin` directory, the
download, unpacking, moving and cleaning up. -/
theorem Final.of_phases (hmake : (makeDirs t [] L.bin).1 = .ok ())
    (hfetch : OnlyIn L.archivePlace (makeDirs t [] L.bin).2 t₁)
    (hunpack : OnlyIn L.stagingPlace t₁ t₂) (hmirrors : Mirrors L.stagingPlace t₂ T)
    (hplaced : Placed L src v t₂ t₃) (hcleaned : Cleaned L t₃ t') :
    Final L (node? T) src v t t' := by
  have hentry : ∀ n r, n ≠ L.archive → n ≠ L.staging →
      node? t₂ (L.bin ++ n :: r) = node? t (L.bin ++ n :: r) := by
    intro n r ha hs
    rw [hunpack _ (not_prefix_of_ne hs.symm), hfetch _ (not_prefix_of_ne ha.symm),
      makeDirs_entry]
  have hitem : ∀ n r, node? t₂ (L.source src ++ n :: r) = node? T (src ++ n :: r) := by
    intro n r
    rw [Layout.source, List.append_assoc]
    exact hmirrors _
  have hstuck : ∀ n, n ≠ L.archive → n ≠ L.staging →
      (Stuck L src t₂ n ↔ Blocked L (node? T) src t n) := by
    intro n ha hs
    unfold Stuck Blocked
    rw [hitem n [], hentry n [] ha hs]
  refine ⟨?_, ?_, ?_, ?_, ?_, ?_⟩
  · intro q hq
    rw [hcleaned.above hq, hplaced.above q hq, onlyIn_above hunpack hq, onlyIn_above hfetch hq,
      node?_makeBin hmake]
  · intro r
    rw [hcleaned.entry L.archive_ne_binary.symm L.staging_ne_binary.symm, hplaced.binary]
  · intro r
    rw [hcleaned, if_pos (.inl (prefix_cons _ _ _))]
  · intro r
    rw [hcleaned, if_pos (.inr (prefix_cons _ _ _))]
  · intro n r hb ha hs hsome hfree
    rw [hcleaned.entry ha hs, hplaced.moved n r hs hb (by rwa [hitem n []])
      (by rwa [hstuck n ha hs]), hitem]
  · intro n r hb ha hs hkept
    rw [hcleaned.entry ha hs, hplaced.kept n r hs hb (by rwa [hitem n [], hstuck n ha hs]),
      hentry n r ha hs]

end Final

/-! ## A whole run -/

section Run

variable {η : Type} {S : Setting η} {w : World η} {c : Config} {key : Key} {version : String}
  {L : Layout}

/-- All that an install needs: no binary is there yet, the archive can be fetched, no file is in the
way of the staging directory, and the archive holds a binary beside which nothing is named like that
directory. -/
structure Ready (S : Setting η) (c : Config) (key : Key) (version : String) (L : Layout)
    (w : World η) (T : Tree Node) (src : Place) (bytes : Bytes) (mode : Nat) : Prop where
  slot : ¬ HasBinary L w.tree
  staging : NoFile w.tree L.stagingPlace
  archive : ∃ body n, Fetchable S c key version L w body n ∧
    Holds key.naming.format body L.binary T src bytes mode
  clear : node? T (src ++ [L.staging]) = none

theorem Fetched.staging {body : Bytes} {w' : World η} (h : Fetched S c key version L w body w') :
    node? w'.tree L.stagingPlace = node? w.tree L.stagingPlace := by
  rw [show node? w'.tree L.stagingPlace = _ from onlyIn_entry h.only L.staging_ne_archive]
  exact makeDirs_entry L w.tree L.staging []

/-- What a staged binary is found in is what the archive holds. -/
theorem Staged.holds {T : Tree Node} {t : Tree Node} {p : Path} {src : Place} {bytes : Bytes}
    {mode : Nat} {body : Bytes}
    (h : Staged (stagingPath c key version) L.stagingPlace L.binary t p src bytes mode)
    (hcontents : Archive.contents? key.naming.format body = some T)
    (hmirrors : Mirrors L.stagingPlace t T) :
    Holds key.naming.format body L.binary T src bytes mode := by
  refine ⟨hcontents, ?_, h.nonempty⟩
  rw [← show (fun q => node? t (L.stagingPlace ++ q)) = node? T from funext hmirrors]
  exact h.finds

theorem Holds.unique {format : ArchiveFormat} {body name : Bytes} {T T' : Tree Node}
    {src src' : Place} {bytes bytes' : Bytes} {mode mode' : Nat}
    (h : Holds format body name T src bytes mode)
    (h' : Holds format body name T' src' bytes' mode') :
    T = T' ∧ src = src' ∧ bytes = bytes' ∧ mode = mode' := by
  have hcontents := h.contents
  rw [h'.contents] at hcontents
  cases hcontents
  exact ⟨rfl, h.finds.unique h'.finds⟩

/-- A whole run. Without injected failures it installs exactly if all that it needs is there. -/
theorem meets_runFor (hp : Places S c key version L)
    (hversion : ∀ v, versionIn? S.cwd c.root w.tree = some v → v = version) :
    (runFor c key).Meets S.Step (fun w' => Steady L w.tree w'.tree)
      (fun o w' => Steady L w.tree w'.tree ∧
        ((o = .alreadyInstalled (Locate.binaryIn c.root key) ∧ HasBinary L w.tree ∧ w' = w) ∨
          (o = .installed key (Locate.binaryIn c.root key) ∧
            (S.Calm → ∃ T src bytes mode, Ready S c key version L w T src bytes mode ∧
              Final L (node? T) src (.file bytes (finalMode key mode)) w.tree w'.tree)) ∨
          ((∃ problem url, o = .failed problem url) ∧ ¬ HasBinary L w.tree ∧
            (S.Calm → ¬ ∃ T src bytes mode, Ready S c key version L w T src bytes mode)))) w := by
  rw [runFor_eq]
  refine Program.meets_bind (Program.Meets.mono (meets_fetchArchive hp hversion)
    (fun _ h => h.toSteady) ?_)
  rintro (o | v) w₁ hfetch
  · refine Program.meets_pure ?_
    rcases hfetch with ⟨rfl, hthere, rfl⟩ | ⟨⟨problem, url, rfl⟩, hnone, hun, hno⟩
    · exact ⟨(Undisturbed.refl L w₁.tree).toSteady, .inl ⟨rfl, hthere, rfl⟩⟩
    · refine ⟨hun.toSteady, .inr (.inr ⟨⟨_, _, rfl⟩, hnone, fun hc => ?_⟩)⟩
      rintro ⟨T, src, bytes, mode, hready⟩
      obtain ⟨body, n, hfetchable, -⟩ := hready.archive
      exact hno hc ⟨body, n, hfetchable⟩
  · obtain ⟨rfl, hnone, body, hfetched⟩ := hfetch
    obtain ⟨mode, hfile⟩ := hfetched.archive
    have hsteady₁ : Steady L w.tree w₁.tree := hfetched.undisturbed.toSteady
    -- what is needed of the archive is needed of this body, since the network leads to no other
    have hholds : ∀ {T src bytes mode}, Ready S c key v L w T src bytes mode →
        Holds key.naming.format body L.binary T src bytes mode := by
      intro T src bytes mode hready
      obtain ⟨body', n, hfetchable, hholds⟩ := hready.archive
      rwa [(hfetched.fetchable.serves.unique hfetchable.serves).1]
    refine Program.meets_bind (Program.Meets.mono (meets_stageArchive hp hfile)
      (fun _ h => hsteady₁.trans (Undisturbed.of_preparing h).toSteady) ?_)
    rintro (e | staged) w₂ hstage
    · obtain ⟨hpreparing, hno⟩ := hstage
      have hsteady₂ := hsteady₁.trans (Undisturbed.of_preparing hpreparing).toSteady
      refine Program.Meets.mono (meets_settle_error hp e) (fun _ h => hsteady₂.trans h.toSteady) ?_
      rintro o w' ⟨ho, hun⟩
      refine ⟨hsteady₂.trans hun.toSteady, .inr (.inr ⟨ho, hnone, fun hc => ?_⟩)⟩
      rintro ⟨T, src, bytes, mode, hready⟩
      refine hno hc ?_ ⟨T, src, bytes, mode, hholds hready⟩
      intro bytes' mode' hf
      rw [hfetched.staging] at hf
      exact hready.staging bytes' mode' hf
    · obtain ⟨hfree, hunpack, ⟨src, bytes, mode', hstaged⟩, hcalm⟩ := hstage
      have hsteady₂ := hsteady₁.trans (Undisturbed.of_preparing hunpack.preparing).toSteady
      have harchive : node? w₂.tree L.archivePlace = node? w₁.tree L.archivePlace :=
        onlyIn_entry hunpack.only L.staging_ne_archive.symm
      refine Program.Meets.mono (meets_settle hp hstaged ⟨body, mode, harchive.trans hfile⟩)
        (fun _ h => hsteady₂.trans h.1) ?_
      rintro o w' ⟨hsteady, ⟨rfl, hslot, hend⟩ | ⟨ho, -, hend⟩⟩
      · refine ⟨hsteady₂.trans hsteady, .inr (.inl ⟨rfl, fun hc => ?_⟩)⟩
        obtain ⟨T, hcontents, hmirrors⟩ := hcalm hc
        obtain ⟨hclear, t₃, hplaced, hcleaned⟩ := hend hc
        refine ⟨T, src, bytes, mode', ⟨hnone, ?_, ?_, ?_⟩, ?_⟩
        · intro bytes' mode' hf
          rw [← hfetched.staging] at hf
          exact hfree bytes' mode' hf
        · exact ⟨body, w₁.net, hfetched.fetchable, hstaged.holds hcontents hmirrors⟩
        · rw [Layout.source, List.append_assoc] at hclear
          rw [← hmirrors, hclear]
        · exact .of_phases hfetched.fetchable.bin hfetched.only hunpack.only hmirrors hplaced
            hcleaned
      · refine ⟨hsteady₂.trans hsteady, .inr (.inr ⟨ho, hnone, fun hc => ?_⟩)⟩
        rintro ⟨T', src', bytes', mode'', hready⟩
        obtain ⟨T, hcontents, hmirrors⟩ := hcalm hc
        obtain ⟨rfl, rfl, -⟩ := (hstaged.holds hcontents hmirrors).unique (hholds hready)
        -- the only thing that stops the move is an item that is not there
        have hitem := hend hc
        rw [Layout.source, List.append_assoc, hmirrors, hready.clear] at hitem
        cases hitem

end Run

/-! ## Runs without injected failures -/

/-- Extracting an archive into an empty directory succeeds and leaves a tree there. -/
def Extracts (format : ArchiveFormat) (body : Bytes) (T : Place → Option Node) : Prop :=
  ∃ (serve : Url → Unit → Except NoResponse Response × Unit) (m : Memory) (archive dir : Path)
    (mode : Nat), Sound m.tree ∧ m.faults = [] ∧
    node? m.tree (m.place archive) = some (.file body mode) ∧
    node? m.tree (m.place dir) = some .dir ∧
    (∀ q, q ≠ [] → node? m.tree (m.place dir ++ q) = none) ∧
    ((Extractor.native.run format archive dir).run.run (handle serve) (m, ())).1 = .ok () ∧
    ∀ q, T q = node?
      ((Extractor.native.run format archive dir).run.run (handle serve) (m, ())).2.1.tree
      (m.place dir ++ q)

/-- What is extracted are the contents, whatever the host. -/
theorem Extracts.contents {format : ArchiveFormat} {body : Bytes} {T : Place → Option Node}
    (h : Extracts format body T) : ∃ u, Archive.contents? format body = some u ∧ T = node? u := by
  obtain ⟨serve, m, archive, dir, mode, hs, hfaults, harchive, hdir, hempty, hok, hT⟩ := h
  have hcalm : (Setting.ofHost serve m).Calm := Setting.calm_ofHost hfaults
  have hmeets := meets_extract (S := .ofHost serve m) (w := .ofHost m () hs) (t := m.tree) format
    rfl harchive ⟨.refl _ _, hdir⟩ fun _ => mirrors_empty hdir hempty
  obtain ⟨w', hshow, hend⟩ := (keeps_ofHost serve m).run (shows_ofHost serve () hs) hmeets
  rw [hok] at hend
  obtain ⟨-, u, hlays⟩ := hend
  refine ⟨u, (hlays hcalm).1, ?_⟩
  funext q
  rw [hT, hshow.tree]
  exact (hlays hcalm).2 q

/-- A run without injected failures finds the binary, installs it or cannot. -/
theorem run_cases {η : Type} {serve : Url → η → Except NoResponse Response × η} {c : Config}
    {key : Key} {m : Memory} {version : String} {L : Layout} (n : η)
    (hkey : c.platform.key? = some key) (hp : Places (.ofHost serve m) c key version L)
    (hs : Sound m.tree) (hfaults : m.faults = [])
    (hversion : versionIn? m.cwd c.root m.tree = some version) :
    (((run c).run (handle serve) (m, n)).1 = .alreadyInstalled (Locate.binaryIn c.root key) ∧
        HasBinary L m.tree) ∨
      (((run c).run (handle serve) (m, n)).1 = .installed key (Locate.binaryIn c.root key) ∧
        ∃ T src bytes mode,
          Ready (.ofHost serve m) c key version L (.ofHost m n hs) T src bytes mode ∧
          Final L (node? T) src (.file bytes (finalMode key mode)) m.tree
            ((run c).run (handle serve) (m, n)).2.1.tree) ∨
      ((∃ problem url, ((run c).run (handle serve) (m, n)).1 = .failed problem url) ∧
        ¬ HasBinary L m.tree ∧ ¬ ∃ T src bytes mode,
          Ready (.ofHost serve m) c key version L (.ofHost m n hs) T src bytes mode) := by
  have hcalm : (Setting.ofHost serve m).Calm := Setting.calm_ofHost hfaults
  have hsame : ∀ v, versionIn? m.cwd c.root m.tree = some v → v = version := by
    intro v hv
    rw [hversion] at hv
    exact (Option.some.inj hv).symm
  rw [run_eq hkey]
  obtain ⟨w', hshow, -, hend⟩ := (keeps_ofHost serve m).run (shows_ofHost serve n hs)
    (meets_runFor hp hsame)
  rw [hshow.tree]
  rcases hend with ⟨ho, hthere, -⟩ | ⟨ho, hfinal⟩ | ⟨ho, hnone, hno⟩
  · exact .inl ⟨ho, hthere⟩
  · exact .inr (.inl ⟨ho, hfinal hcalm⟩)
  · exact .inr (.inr ⟨ho, hnone, hno hcalm⟩)

/-- An install without injected failures, when all that it needs is there: it says so, and every
node is as it should be. -/
theorem install_result {η : Type} (serve : Url → η → Except NoResponse Response × η) (c : Config)
    (key : Key) (m : Memory) (n n' : η) (version : String) (L : Layout) (body : Bytes)
    (T : Place → Option Node) (src : Place) (bytes : Bytes) (mode : Nat)
    (hkey : c.platform.key? = some key) (hnative : c.extractor = .native)
    (hs : Sound m.tree) (hfaults : m.faults = [])
    (hversion : versionIn? m.cwd c.root m.tree = some version) (hslash : '/' ∉ version.toList)
    (hL : L = .ofRelease m.cwd c.root key version hslash)
    (hslot : NoFile m.tree L.slot) (hbin : (makeDirs m.tree [] L.bin).1 = .ok ())
    (harchive : node? m.tree L.archivePlace ≠ some .dir) (hstaging : NoFile m.tree L.stagingPlace)
    (hserves : Fetch.Serves serve (Release.asset c.host version key.naming).url n body n')
    (hextracts : Extracts key.naming.format body T)
    (hfinds : Finds T L.binary src bytes mode) (hnonempty : bytes ≠ [])
    (hclear : T (src ++ [L.staging]) = none) :
    ((run c).run (handle serve) (m, n)).1 = .installed key (Locate.binaryIn c.root key) ∧
      Final L T src (.file bytes (finalMode key mode)) m.tree
        ((run c).run (handle serve) (m, n)).2.1.tree := by
  obtain ⟨u, hcontents, rfl⟩ := hextracts.contents
  have hp : Places (.ofHost serve m) c key version L := by
    rw [hL]
    exact places_ofRelease _ key hnative hslash
  have hholds : Holds key.naming.format body L.binary u src bytes mode :=
    ⟨hcontents, hfinds, hnonempty⟩
  have hfetchable : Fetchable (.ofHost serve m) c key version L (.ofHost m n hs) body n' :=
    ⟨hversion, hbin, harchive, hserves⟩
  rcases run_cases n hkey hp hs hfaults hversion with
    ⟨-, bytes', mode', hf⟩ | ⟨ho, u', src', bytes', mode', hready, hfinal⟩ | ⟨-, -, hno⟩
  · exact absurd hf (hslot bytes' mode')
  · obtain ⟨body', n'', hfetchable', hholds'⟩ := hready.archive
    rw [(hfetchable'.serves.unique hserves).1] at hholds'
    obtain ⟨rfl, rfl, rfl, rfl⟩ := hholds.unique hholds'
    exact ⟨ho, hfinal⟩
  · refine absurd ⟨u, src, bytes, mode, ?_, hstaging, ?_, hclear⟩ hno
    · rintro ⟨bytes', mode', hf⟩
      exact hslot bytes' mode' hf
    · exact ⟨body, n', hfetchable, hholds⟩

namespace Sample

/-- A host with the small tar archive and an empty directory. -/
def shelf : Memory where
  tree := ⟨[([Bytes.ofText "d"], .dir), ([Bytes.ofText "a"], .file packed 0o644)]⟩

/-- What is in the directory after the archive has been extracted there. -/
def contents (q : Place) : Option Node :=
  node? ((Extractor.native.run .tarGz (.ofText "/a") (.ofText "/d")).run.run (handle noNetwork)
    (shelf, ())).2.1.tree (shelf.place (.ofText "/d") ++ q)

theorem contents_spec :
    ((Extractor.native.run .tarGz (.ofText "/a") (.ofText "/d")).run.run (handle noNetwork)
        (shelf, ())).1 = .ok () ∧
      contents [Bytes.ofText "comment-checker"] = some (.file [120] 0o644) ∧
      contents [Bytes.ofText (stagingName (Release.assetName "1" Key.linuxX64.naming))] = none := by
  unfold contents
  rw [extractor_run]
  decide +kernel

theorem extracts : Extracts .tarGz packed contents := by
  have hplace : shelf.place (.ofText "/d") = [[100]] := by decide +kernel
  have hnames : shelf.tree.names [[100]] = [] := by decide +kernel
  have hsound : Sound shelf.tree := by decide +kernel
  refine ⟨noNetwork, shelf, .ofText "/a", .ofText "/d", 0o644, hsound, rfl, rfl,
    by decide +kernel, ?_, contents_spec.1, fun _ => rfl⟩
  rintro (_ | ⟨name, rest⟩) hq
  · exact absurd rfl hq
  · rw [hplace]
    have hnone : node? shelf.tree ([[100]] ++ [name]) = none := by
      rw [← Option.not_isSome_iff_eq_none, ← mem_names_iff hsound, hnames]
      simp
    by_cases hr : rest = []
    · rw [hr, hnone]
    · have := hsound.none_below hr (p := [[100]] ++ [name]) (by rw [hnone]; simp)
      rwa [List.append_assoc] at this

/-- Where the small tar archive is installed. -/
def layout : Layout := .ofRelease host.cwd linux.root .linuxX64 "1" (by decide)

theorem serves_packed : Fetch.Serves servePacked
    (Release.asset linux.host "1" Key.linuxX64.naming).url () packed () := by
  obtain ⟨parsed, hparsed⟩ := Option.isSome_iff_exists.1
    (show (Url.parse? (Release.asset linux.host "1" Key.linuxX64.naming).url).isSome = true by
      decide +kernel)
  have hanswer : servePacked parsed () = (.ok ⟨200, none, [packed], .complete⟩, ()) := rfl
  have hleads : Fetch.Leads servePacked Fetch.maxRedirects parsed () [packed].flatten () :=
    Fetch.Leads.body hanswer rfl rfl
  rw [List.flatten_singleton] at hleads
  exact ⟨parsed, hparsed, hleads⟩

end Sample

/-- The small tar archive is installed. -/
theorem install_result_sample :
    ((run Sample.linux).run (handle Sample.servePacked) (Sample.host, ())).1 =
        .installed .linuxX64 (Locate.binaryIn Sample.linux.root .linuxX64) ∧
      Final Sample.layout Sample.contents [] (.file [120] 0o755) Sample.host.tree
        ((run Sample.linux).run (handle Sample.servePacked) (Sample.host, ())).2.1.tree :=
  install_result Sample.servePacked Sample.linux .linuxX64 Sample.host () () "1" Sample.layout
    Sample.packed Sample.contents [] [120] 0o644 rfl rfl Sample.sound_host rfl
    Sample.versionIn?_host (by decide) rfl (noFile_of_none (by decide +kernel))
    (by decide +kernel) (by decide +kernel)
    (noFile_of_none (by decide +kernel)) Sample.serves_packed Sample.extracts
    ⟨Sample.contents_spec.2.1, .inl rfl⟩ (by decide) Sample.contents_spec.2.2

end Provision.Install
