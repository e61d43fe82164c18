import Provision.Proofs.Installing

/-!
# Installing after an interruption

A run that fails or is killed at any point leaves everything that a later run needs: the manifest, a
place for the archive and one for the staging directory.

* `Fetchable.of_steady` and its like carry what an install needs over to what a run leaves.
* `install_after_interruption`: a run that would have installed still does so after any other run.
-/

namespace Provision.Install

open Memory

/-! ## What is left for a later run -/

section Steady

variable {L : Layout} {t t' : Tree Node}

theorem above_of_length {q : Place} (h : q.length ≤ L.bin.length) : L.Above q := by
  rintro m r rfl
  rw [List.length_append, List.length_cons] at h
  omega

theorem length_manifest (L : Layout) : L.manifest.length = L.bin.length := by
  rw [Layout.manifest, Layout.bin, List.length_append, List.length_append]
  rfl

/-- The manifest stays. -/
theorem Steady.manifest (h : Steady L t t') : node? t' L.manifest = node? t L.manifest := by
  have hlength := length_manifest L
  rcases h.outside L.manifest (above_of_length (Nat.le_of_eq hlength)) with hsame | ⟨hp, -, -⟩
  · exact hsame
  · have heq : L.manifest = L.bin := hp.eq_of_length hlength
    rw [Layout.manifest, Layout.bin, List.append_cancel_left_eq] at heq
    exact absurd heq (by decide)

/-- Directories can be created exactly if no file is on the way. -/
theorem makeDirs_ok_iff {p : Place} :
    (makeDirs t [] p).1 = .ok () ↔ ∀ q, OnTheWay [] p q → NoFile t q := by
  rcases makeDirs_cases t [] p with ⟨hok, hdirs⟩ | ⟨⟨e, he⟩, q, bytes, mode, hq, hf⟩
  · refine ⟨fun _ q hq bytes mode hf => ?_, fun _ => hok⟩
    have hdir := hdirs q hq
    rw [makeDirs_node?_of_some hf] at hdir
    cases hdir
  · refine ⟨fun hok => ?_, fun h => absurd hf (h q hq bytes mode)⟩
    rw [he] at hok
    cases hok

/-- The `bin` directory can still be created. -/
theorem Steady.makeBin (h : Steady L t t') (hbin : (makeDirs t [] L.bin).1 = .ok ()) :
    (makeDirs t' [] L.bin).1 = .ok () := by
  rw [makeDirs_ok_iff] at hbin ⊢
  intro q hq bytes mode hf
  have hprefix : q <+: L.bin := (onTheWay_nil_iff.1 hq).2
  rcases h.outside q (above_of_length hprefix.length_le) with hsame | ⟨-, -, hdir⟩
  · rw [hsame] at hf
    exact hbin q hq bytes mode hf
  · rw [hdir] at hf
    cases hf

theorem Steady.noFile (h : Steady L t t') (hf : NoFile t L.stagingPlace) :
    NoFile t' L.stagingPlace := fun bytes mode hf' => hf bytes mode (h.staging bytes mode hf')

end Steady

section Ready

variable {η η' : Type} {S : Setting η} {S' : Setting η'} {w : World η} {w' : World η'} {c : Config}
  {key : Key} {version : String} {L : Layout}

/-- The package is at the same version. -/
theorem Places.release {t t' : Tree Node} (hp : Places S c key version L) (h : Steady L t t') :
    versionIn? S.cwd c.root t' = versionIn? S.cwd c.root t := by
  refine versionIn?_congr ?_
  rw [show placeIn S.cwd (Manifest.pathIn c.root) = L.manifest from hp.manifest]
  exact h.manifest

/-- The archive can be fetched as before, if the network leads to it. -/
theorem Fetchable.of_steady {body : Bytes} {n : η} {n' : η'} (hp : Places S c key version L)
    (hcwd : S'.cwd = S.cwd) (h : Fetchable S c key version L w body n)
    (hsteady : Steady L w.tree w'.tree)
    (hserves : Fetch.Serves S'.serve (Release.asset c.host version key.naming).url w'.net body n') :
    Fetchable S' c key version L w' body n' := by
  refine ⟨?_, hsteady.makeBin h.bin, fun hd => h.archive (hsteady.archive hd), hserves⟩
  rw [hcwd, hp.release hsteady, h.release]

/-- What an install needs is there as before, unless the binary is. -/
theorem Ready.of_steady {T : Tree Node} {src : Place} {bytes body : Bytes} {mode : Nat} {n : η}
    {n' : η'} (hp : Places S c key version L) (hcwd : S'.cwd = S.cwd)
    (h : Ready S c key version L w T src bytes mode)
    (hserves : Fetch.Serves S.serve (Release.asset c.host version key.naming).url w.net body n)
    (hsteady : Steady L w.tree w'.tree) (hslot : ¬ HasBinary L w'.tree)
    (hserves' : Fetch.Serves S'.serve (Release.asset c.host version key.naming).url w'.net body
      n') :
    Ready S' c key version L w' T src bytes mode := by
  obtain ⟨body₀, n₀, hfetchable, hholds⟩ := h.archive
  obtain ⟨rfl, -⟩ := hfetchable.serves.unique hserves
  exact ⟨hslot, hsteady.noFile h.staging,
    ⟨body₀, n', hfetchable.of_steady hp hcwd hsteady hserves', hholds⟩, h.clear⟩

/-- What the archive of a body holds is the same for every host that it is served to. -/
theorem Ready.holds {T : Tree Node} {src : Place} {bytes body : Bytes} {mode : Nat} {n : η}
    (h : Ready S c key version L w T src bytes mode)
    (hserves : Fetch.Serves S.serve (Release.asset c.host version key.naming).url w.net body n) :
    Holds key.naming.format body L.binary T src bytes mode := by
  obtain ⟨body', n', hfetchable, hholds⟩ := h.archive
  rwa [(hserves.unique hfetchable.serves).1]

end Ready

/-! ## Runs after an interruption -/

/-- Whatever a run does and whenever it is killed, what it leaves is steady. -/
theorem steady_runUpTo {η : Type} {serve : Url → η → Except NoResponse Response × η} {c : Config}
    {key : Key} {m : Memory} {version : String} {L : Layout} (n : η) (k : Nat)
    (hkey : c.platform.key? = some key) (hp : Places (.ofHost serve m) c key version L)
    (hs : Sound m.tree) (hversion : ∀ v, versionIn? m.cwd c.root m.tree = some v → v = version) :
    Steady L m.tree ((run c).runUpTo (handle serve) k (m, n)).2.1.tree ∧
      Sound ((run c).runUpTo (handle serve) k (m, n)).2.1.tree := by
  rw [run_eq hkey]
  obtain ⟨w', hshow, hend⟩ := (keeps_ofHost serve m).runUpTo (shows_ofHost serve n hs)
    (meets_runFor hp hversion) k
  refine ⟨?_, hshow.1.sound⟩
  rw [hshow.tree]
  generalize (runFor c key).runUpTo (handle serve) k (m, n) = r at hend
  obtain ⟨_ | o, s'⟩ := r
  · exact hend
  · exact hend.1

/-- No run can spoil a later one. Where a run without injected failures installs what the archive
of a body holds, another run may come first, with whatever network and failures and killed after
any number of calls: a run after it, without injected failures and with the same body, finds a
binary or installs the same. -/
theorem install_after_interruption {η₀ η₁ η₂ : Type}
    (serve₀ : Url → η₀ → Except NoResponse Response × η₀)
    (serve₁ : Url → η₁ → Except NoResponse Response × η₁)
    (serve₂ : Url → η₂ → Except NoResponse Response × η₂) (c c₁ : Config) (key : Key)
    (m m₁ m₂ : Memory) (n₀ n₀' : η₀) (n₁ : η₁) (n₂ n₂' : η₂) (version : String) (body : Bytes)
    (k : Nat) (hkey : c.platform.key? = some key) (hnative : c.extractor = .native)
    (hs : Sound m.tree) (hversion : versionIn? m.cwd c.root m.tree = some version)
    (hslash : '/' ∉ version.toList)
    -- the run that installs
    (hfaults : m.faults = [])
    (hserves₀ : Fetch.Serves serve₀ (Release.asset c.host version key.naming).url n₀ body n₀')
    (hinstalled : ∃ key path, ((run c).run (handle serve₀) (m, n₀)).1 = .installed key path)
    -- the run that comes first
    (hkey₁ : c₁.platform.key? = some key) (hnative₁ : c₁.extractor = .native)
    (hroot₁ : c₁.root = c.root) (hcwd₁ : m₁.cwd = m.cwd) (htree₁ : m₁.tree = m.tree)
    -- the run after it
    (hfaults₂ : m₂.faults = []) (hcwd₂ : m₂.cwd = m.cwd)
    (htree₂ : m₂.tree = ((run c₁).runUpTo (handle serve₁) k (m₁, n₁)).2.1.tree)
    (hserves₂ : Fetch.Serves serve₂ (Release.asset c.host version key.naming).url n₂ body n₂') :
    ((run c).run (handle serve₂) (m₂, n₂)).1 = .alreadyInstalled (Locate.binaryIn c.root key) ∨
      ((run c).run (handle serve₂) (m₂, n₂)).1 = .installed key (Locate.binaryIn c.root key) ∧
        ∃ bytes mode,
          node? ((run c).run (handle serve₂) (m₂, n₂)).2.1.tree
            (m.place (Locate.binaryIn c.root key)) = some (.file bytes mode) ∧
          node? ((run c).run (handle serve₀) (m, n₀)).2.1.tree
            (m.place (Locate.binaryIn c.root key)) = some (.file bytes mode) := by
  obtain ⟨L, hL⟩ : ∃ L, L = Layout.ofRelease m.cwd c.root key version hslash := ⟨_, rfl⟩
  have hp : Places (.ofHost serve₀ m) c key version L := by
    rw [hL]
    exact places_ofRelease _ key hnative hslash
  have hp₁ : Places (.ofHost serve₁ m₁) c₁ key version L := by
    rw [hL, ← hroot₁, ← hcwd₁]
    exact places_ofRelease _ key hnative₁ hslash
  have hp₂ : Places (.ofHost serve₂ m₂) c key version L := by
    rw [hL, ← hcwd₂]
    exact places_ofRelease _ key hnative hslash
  have hslot : m.place (Locate.binaryIn c.root key) = L.slot := hp.binary
  obtain ⟨key', path, hinstalled⟩ := hinstalled
  rcases run_cases n₀ hkey hp hs hfaults hversion with
    ⟨ho, -⟩ | ⟨-, T, src, bytes, mode, hready, hfinal⟩ | ⟨⟨problem, url, ho⟩, -⟩
  · rw [hinstalled] at ho
    cases ho
  · obtain ⟨hsteady, hs₂⟩ := steady_runUpTo n₁ k hkey₁ hp₁ (by rwa [htree₁]) (by
      intro v hv
      rw [hcwd₁, hroot₁, htree₁, hversion] at hv
      exact (Option.some.inj hv).symm)
    rw [← htree₂, htree₁] at hsteady
    rw [← htree₂] at hs₂
    have hversion₂ : versionIn? m₂.cwd c.root m₂.tree = some version := by
      rw [hcwd₂, ← hversion]
      exact hp.release hsteady
    rcases run_cases n₂ hkey hp₂ hs₂ hfaults₂ hversion₂ with
      ⟨ho, -⟩ | ⟨ho, T', src', bytes', mode', hready', hfinal'⟩ | ⟨-, hnone, hno⟩
    · exact .inl ho
    · refine .inr ⟨ho, bytes, finalMode key mode, ?_, ?_⟩
      · obtain ⟨-, -, rfl, rfl⟩ := (hready.holds hserves₀).unique (hready'.holds hserves₂)
        rw [hslot]
        exact hfinal'.binary []
      · rw [hslot]
        exact hfinal.binary []
    · refine absurd ⟨T, src, bytes, mode, ?_⟩ hno
      exact hready.of_steady hp hcwd₂ hserves₀ hsteady hnone hserves₂
  · rw [hinstalled] at ho
    cases ho

namespace Sample

/-- A host with given files and nothing else. -/
def filesOnly (t : Tree Node) : Memory where
  tree := t

theorem tree_filesOnly (t : Tree Node) : (filesOnly t).tree = t := rfl

/-- What a run leaves when it is killed after seventeen calls, the last of which has created the
file that the binary is unpacked to. -/
def killed : Memory :=
  filesOnly ((run linux).runUpTo (handle servePacked) 17 (host, ())).2.1.tree

/-- That file is there and empty, and a later run does not find the binary in its place. -/
theorem killed_staging :
    node? killed.tree (killed.place (stagingPath linux .linuxX64 "1") ++
        [Bytes.ofText "comment-checker"]) = some (.file [] 0o644) ∧
      ((run linux).run (handle servePacked) (killed, ())).1 ≠
        .alreadyInstalled (Locate.binaryIn linux.root .linuxX64) := by
  unfold killed run runFor provide unpackAndFinalize stage
  rw [extractor_run]
  decide +kernel

end Sample

/-- After a run that was killed while it unpacked the archive, the binary is installed as it would
have been without that run. -/
theorem install_after_interruption_sample :
    node? Sample.killed.tree (Sample.killed.place (stagingPath Sample.linux .linuxX64 "1") ++
        [Bytes.ofText "comment-checker"]) = some (.file [] 0o644) ∧
      ((run Sample.linux).run (handle Sample.servePacked) (Sample.killed, ())).1 =
        .installed .linuxX64 (Locate.binaryIn Sample.linux.root .linuxX64) ∧
      node? ((run Sample.linux).run (handle Sample.servePacked) (Sample.killed, ())).2.1.tree
        (Sample.host.place (Locate.binaryIn Sample.linux.root .linuxX64)) =
          some (.file [120] 0o755) := by
  obtain ⟨hinstalled, hbinary⟩ := Sample.run_linux
  obtain ⟨hstaged, hnone⟩ := Sample.killed_staging
  rcases install_after_interruption Sample.servePacked Sample.servePacked Sample.servePacked
    Sample.linux Sample.linux .linuxX64 Sample.host Sample.host Sample.killed () () () () () "1"
    Sample.packed 17 rfl rfl Sample.sound_host Sample.versionIn?_host (by decide) rfl
    Sample.serves_packed ⟨_, _, hinstalled⟩ rfl rfl rfl rfl rfl rfl rfl
    (Sample.tree_filesOnly _) Sample.serves_packed with hthere | ⟨ho, bytes, mode, hfile, hsame⟩
  · exact absurd hthere hnone
  · rw [hbinary] at hsame
    cases hsame
    exact ⟨hstaged, ho, hfile⟩

end Provision.Install
