import Provision.Linux
import Provision.Proofs.Racing

/-!
# Where the binary is found

What a search for the binary answers, on every host with Unix files, and how that fits with what an
install says.

* `UnixHost` is a host whose answers to questions about paths come from files with modes;
  `UnixHost.memory` and `UnixHost.linux` are the two of this library.
* `Locate.run_forKey` gives the answer of a search in one equation.
* `Install.install_then_locate`: what an install has put in place is found.
* `Install.alreadyInstalled_then_locate`: what an install has come across is found if it can be
  executed. An install does not look at the mode of a file, a search does.
-/

namespace Provision

/-- A host with Unix files. Questions about paths and variables leave it as it is. -/
structure UnixHost (σ : Type) where
  handler : Handler σ
  /-- The value of a variable. -/
  env? : σ → String → Option String
  /-- Is anything at a path? -/
  occupied : σ → Path → Bool
  /-- The content and the mode of the file that a path leads to. -/
  file? : σ → Path → Option (Bytes × Nat)
  handler_env : ∀ s name, handler (.env name) s = (env? s name, s)
  handler_pathExists : ∀ s p, handler (.pathExists p) s = (occupied s p, s)
  handler_isFile : ∀ s p, handler (.isFile p) s = ((file? s p).isSome, s)
  handler_isExecutable : ∀ s p,
    handler (.isExecutable p) s = ((file? s p).any fun f => Memory.hasExecuteBit f.2, s)

namespace UnixHost

variable {σ η : Type}

/-- Does a path lead to a file with an execute bit? -/
def executable (H : UnixHost σ) (s : σ) (p : Path) : Bool :=
  (H.file? s p).any fun f => Memory.hasExecuteBit f.2

theorem handler_isExecutable_eq (H : UnixHost σ) (s : σ) (p : Path) :
    H.handler (.isExecutable p) s = (H.executable s p, s) := H.handler_isExecutable s p

/-- The memory host. -/
def memory (serve : Url → η → Except NoResponse Response × η) : UnixHost (Memory × η) where
  handler := Memory.handle serve
  env? s name := s.1.env.lookup name
  occupied s p := (Memory.node? s.1.tree (s.1.place p)).isSome
  file? s p := (Memory.file s.1.tree (s.1.place p)).toOption
  handler_env _ _ := rfl
  handler_pathExists _ _ := rfl
  handler_isFile s p := by
    simp only [Memory.handle]
    cases Memory.file s.1.tree (s.1.place p) <;> rfl
  handler_isExecutable s p := by
    simp only [Memory.handle]
    cases Memory.file s.1.tree (s.1.place p) <;> rfl

theorem executable_memory {serve : Url → η → Except NoResponse Response × η} {m : Memory} {n : η}
    {p : Path} {bytes : Bytes} {mode : Nat}
    (hfile : Memory.node? m.tree (Memory.placeIn m.cwd p) = some (.file bytes mode))
    (hmode : Memory.hasExecuteBit mode = true) : (memory serve).executable (m, n) p = true := by
  have hok : Memory.file m.tree (m.place p) = .ok (bytes, mode) := Memory.file_eq_ok_iff.2 hfile
  simp only [executable, memory, hok]
  exact hmode

/-- The Linux host. -/
def linux (serve : Url → η → Except NoResponse Response × η) : UnixHost (Linux × η) where
  handler := Linux.handle serve
  env? s name := s.1.env.lookup name
  occupied s p := (s.1.files.stat? p).isSome
  file? s p := match s.1.files.stat? p with
    | some (.file bytes mode) => some (bytes, mode)
    | _ => none
  handler_env _ _ := rfl
  handler_pathExists _ _ := rfl
  handler_isFile s p := by
    simp only [Linux.handle, Linux.handleWithoutTools]
    rcases s.1.files.stat? p with _ | _ | _ | _ <;> rfl
  handler_isExecutable s p := by
    simp only [Linux.handle, Linux.handleWithoutTools, Linux.isExecutable]
    rcases s.1.files.stat? p with _ | _ | _ | _ <;> rfl

end UnixHost

/-! ## What a search answers -/

namespace Locate

variable {σ : Type} (H : UnixHost σ) (s : σ)

/-- The first manifest of the platform's package that exists. -/
def manifestAt? (root : Path) (key : Key) : Option Path :=
  (Resolve.candidatesFor root key.package (H.env? s Resolve.searchVariable)).find? (H.occupied s)

/-- Where the binary of the platform's package has to be. -/
def packagedAt? (root : Path) (key : Key) : Option Path :=
  (manifestAt? H s root key).map fun m => binaryIn (packageDir m) key

/-- What a search answers. -/
def answer (root : Path) (key : Key) : Except Problem Path :=
  match (packagedAt? H s root key).filter (H.executable s) with
  | some p => .ok p
  | none =>
    if H.executable s (binaryIn root key) then .ok (binaryIn root key)
    else match packagedAt? H s root key with
      | some p => .error (.binaryMissing key.package p)
      | none => .error (.packageNotFound key.package)

theorem run_firstExisting (paths : List Path) :
    (Resolve.firstExisting paths).run H.handler s = (paths.find? (H.occupied s), s) := by
  induction paths with
  | nil => rfl
  | cons p paths ih =>
    rw [Resolve.firstExisting, Program.run_bind, Program.run_ask, H.handler_pathExists]
    cases h : H.occupied s p with
    | true => simp [h]
    | false => simp [h, ih]

theorem run_packagedBinary? (root : Path) (key : Key) :
    (packagedBinary? root key).run H.handler s = (packagedAt? H s root key, s) := by
  rw [packagedBinary?, Resolve.manifest?, Resolve.candidates, Program.run_bind, Program.run_bind,
    Program.run_bind, Program.run_ask, H.handler_env, Program.run_pure, run_firstExisting,
    Program.run_pure]
  rfl

/-- The question whether a file can be executed, and what is done on either answer. -/
theorem run_ifExecutable {α ε : Type} (p : Path) (yes no : Attempt ε α) :
    (do
      if ← Program.ask (.isExecutable p) then yes else no : Attempt ε α).run.run H.handler s =
      if H.executable s p then yes.run.run H.handler s else no.run.run H.handler s := by
  rw [ExceptT.run_bind, Install.run_lift_bind, Program.run_bind, Program.run_ask,
    H.handler_isExecutable_eq]
  cases H.executable s p <;> rfl

/-- A search on any host. -/
theorem run_forKey (root : Path) (key : Key) :
    (forKey root key).run.run H.handler s = (answer H s root key, s) := by
  unfold forKey answer
  rw [ExceptT.run_bind, Install.run_lift_bind, Program.run_bind, run_packagedBinary?]
  cases packagedAt? H s root key with
  | none =>
    dsimp only [Option.filter_none]
    rw [run_ifExecutable]
    split_ifs <;> rfl
  | some p =>
    dsimp only
    rw [run_ifExecutable, run_ifExecutable, Option.filter_some]
    cases H.executable s p with
    | true => rfl
    | false => split_ifs <;> rfl

/-- With an executable binary in the main package a search does not fail. -/
theorem answer_of_executable {root : Path} {key : Key}
    (h : H.executable s (binaryIn root key) = true) :
    answer H s root key =
      .ok (((packagedAt? H s root key).filter (H.executable s)).getD (binaryIn root key)) := by
  unfold answer
  cases (packagedAt? H s root key).filter (H.executable s) with
  | none => rw [if_pos h, Option.getD_none]
  | some p => rfl

/-- A search finds the binary exactly if the package's own or that of the platform's package can be
executed. -/
theorem exists_answer_iff (root : Path) (key : Key) :
    (∃ p, answer H s root key = .ok p) ↔
      H.executable s (binaryIn root key) = true ∨
        ∃ p, packagedAt? H s root key = some p ∧ H.executable s p = true := by
  unfold answer
  cases packagedAt? H s root key with
  | none => by_cases hown : H.executable s (binaryIn root key) = true <;> simp [hown]
  | some p =>
    rw [Option.filter_some]
    by_cases hp : H.executable s p = true
    · simp [hp]
    · by_cases hown : H.executable s (binaryIn root key) = true <;> simp [hp, hown]

end Locate

/-! ## What an install says -/

namespace Install

open Memory

/-- An install says that the binary was there exactly if it finds a file there, and otherwise that
it has put it there or that it has failed. -/
theorem outcome_cases {σ : Type} (h : Handler σ) (c : Config) (key : Key) (s : σ) :
    ((h (.isFile (Locate.binaryIn c.root key)) s).1 = true ∧
        (runFor c key).run h s = (.alreadyInstalled (Locate.binaryIn c.root key),
          (h (.isFile (Locate.binaryIn c.root key)) s).2)) ∨
      ((h (.isFile (Locate.binaryIn c.root key)) s).1 = false ∧
        (((runFor c key).run h s).1 = .installed key (Locate.binaryIn c.root key) ∨
          ∃ problem url, ((runFor c key).run h s).1 = .failed problem url)) := by
  unfold runFor
  rw [Program.run_bind, Program.run_ask]
  cases (h (.isFile (Locate.binaryIn c.root key)) s).1 with
  | true => exact .inl ⟨rfl, rfl⟩
  | false =>
    refine .inr ⟨rfl, ?_⟩
    rw [if_neg Bool.false_ne_true, Program.run_bind]
    cases ((Manifest.loadFrom c.root).run.run h _).1 with
    | error e => exact .inr ⟨_, _, rfl⟩
    | ok m =>
      dsimp only
      rw [Program.run_bind]
      cases ((provide c.extractor key _ (Locate.binDir c.root) _).run.run h _).1 with
      | error e => exact .inr ⟨_, _, rfl⟩
      | ok _ => exact .inl rfl

theorem handle_isFile_iff {η : Type} {serve : Url → η → Except NoResponse Response × η} {m : Memory}
    {n : η} {p : Path} : (handle serve (.isFile p) (m, n)).1 = true ↔
      ∃ bytes mode, node? m.tree (m.place p) = some (.file bytes mode) := isOk_file_iff

/-- What an install that says so has put in place. -/
theorem file_of_installed {η : Type} {serve : Url → η → Except NoResponse Response × η}
    {c : Config} {key key' : Key} {m : Memory} {n : η} {path : Path}
    (hkey : c.platform.key? = some key) (hnative : c.extractor = .native) (hs : Sound m.tree)
    (hversion : ∀ v, versionIn? m.cwd c.root m.tree = some v → '/' ∉ v.toList)
    (h : ((run c).run (handle serve) (m, n)).1 = .installed key' path) :
    key' = key ∧ path = Locate.binaryIn c.root key ∧ ∃ bytes mode,
      node? ((run c).run (handle serve) (m, n)).2.1.tree (m.place path) =
        some (.file bytes mode) ∧ (key ≠ .win32X64 → mode = 0o755) := by
  obtain ⟨hintact, hfound⟩ := guards_run serve n hkey hnative hs hversion
  obtain ⟨bytes, mode, hfile⟩ := (hfound _ rfl).2 (by rw [h]; rfl)
  rw [run_eq hkey] at h
  rcases outcome_cases (handle serve) c key (m, n) with ⟨-, ho⟩ | ⟨hnone, ho | ⟨_, _, ho⟩⟩
  · rw [ho] at h
    cases h
  · rw [ho] at h
    cases h
    refine ⟨rfl, rfl, bytes, mode, hfile, ?_⟩
    rcases hintact bytes mode hfile with hold | ⟨-, -, hmode⟩
    · -- it was not there before, or else the install would have said so
      rw [handle_isFile_iff.2 ⟨bytes, mode, hold⟩] at hnone
      cases hnone
    · exact hmode
  · rw [ho] at h
    cases h

/-- Locating after an install. Whatever has failed on the way, an install that says so for a key
other than that of Windows has put an executable binary in place: a search from the same root on
the resulting files finds the binary of the platform's package if that can be executed, and else the
one that was installed. The variables, the network and the injected failures of the search are its
own. -/
theorem install_then_locate {η η' : Type} (serve : Url → η → Except NoResponse Response × η)
    (serve' : Url → η' → Except NoResponse Response × η') (c : Config) (key : Key)
    (m m' : Memory) (n : η) (n' : η') (path : Path) (hnative : c.extractor = .native)
    (hs : Sound m.tree)
    (hversion : ∀ v, versionIn? m.cwd c.root m.tree = some v → '/' ∉ v.toList)
    (hinstalled : ((run c).run (handle serve) (m, n)).1 = .installed key path)
    (hwindows : key ≠ .win32X64) (hcwd : m'.cwd = m.cwd)
    (htree : m'.tree = ((run c).run (handle serve) (m, n)).2.1.tree) :
    ((Locate.run c.root c.platform).run.run (handle serve') (m', n')).1 =
      .ok (((Locate.packagedAt? (.memory serve') (m', n') c.root key).filter
        ((UnixHost.memory serve').executable (m', n'))).getD path) := by
  obtain ⟨hkey, rfl, hown⟩ : c.platform.key? = some key ∧ path = Locate.binaryIn c.root key ∧
      (UnixHost.memory serve').executable (m', n') (Locate.binaryIn c.root key) = true := by
    cases hkey : c.platform.key? with
    | none =>
      rw [run, hkey] at hinstalled
      cases hinstalled
    | some k =>
      obtain ⟨rfl, rfl, bytes, mode, hnode, hmode⟩ :=
        file_of_installed hkey hnative hs hversion hinstalled
      refine ⟨rfl, rfl, ?_⟩
      rw [place_eq, ← hcwd, ← htree, hmode hwindows] at hnode
      exact UnixHost.executable_memory hnode rfl
  have hrun : Locate.run c.root c.platform = Locate.forKey c.root key := by
    rw [Locate.run, hkey]
  rw [hrun, show handle serve' = (UnixHost.memory serve').handler from rfl, Locate.run_forKey]
  exact Locate.answer_of_executable _ _ hown

namespace Sample

/-- A host with given files, in a process with a search path of its own. -/
def searching (t : Tree Node) : Memory where
  tree := t
  env := [(Resolve.searchVariable, "/q")]

theorem tree_searching (t : Tree Node) : (searching t).tree = t := rfl

/-- The host after an install from the packed archive. -/
def afterInstall : Memory := searching ((run linux).run (handle servePacked) (host, ())).2.1.tree

theorem packagedAt?_afterInstall :
    Locate.packagedAt? (.memory serve) (afterInstall, ()) linux.root .linuxX64 = none := by
  unfold afterInstall run runFor provide unpackAndFinalize stage
  rw [extractor_run]
  decide +kernel

end Sample

/-- The binary of the packed archive is found. -/
theorem install_then_locate_sample :
    ((run Sample.linux).run (handle Sample.servePacked) (Sample.host, ())).1 =
        .installed .linuxX64 (Locate.binaryIn Sample.linux.root .linuxX64) ∧
      ((Locate.run Sample.linux.root Sample.linux.platform).run.run (handle Sample.serve)
        (Sample.afterInstall, ())).1 = .ok (Locate.binaryIn Sample.linux.root .linuxX64) := by
  have h := install_then_locate Sample.servePacked Sample.serve Sample.linux .linuxX64 Sample.host
    Sample.afterInstall () () _ rfl Sample.sound_host Sample.slashFree_host Sample.run_linux.1
    (by decide) rfl (Sample.tree_searching _)
  rw [Sample.packagedAt?_afterInstall, Option.filter_none, Option.getD_none] at h
  exact ⟨Sample.run_linux.1, h⟩

/-! ## A binary that was there -/

/-- An install that finds the binary has found a file of any mode and changed nothing. A search on
the same files succeeds exactly if that file, or the binary of the platform's package, can be
executed. -/
theorem alreadyInstalled_then_locate {σ : Type} (H : UnixHost σ) (c : Config) (key : Key) (s : σ)
    (path : Path) (hkey : c.platform.key? = some key)
    (hthere : ((run c).run H.handler s).1 = .alreadyInstalled path) :
    path = Locate.binaryIn c.root key ∧ ((run c).run H.handler s).2 = s ∧
      ∃ bytes mode, H.file? s path = some (bytes, mode) ∧
        ((∃ q, ((Locate.run c.root c.platform).run.run H.handler s).1 = .ok q) ↔
          hasExecuteBit mode = true ∨
            ∃ p, Locate.packagedAt? H s c.root key = some p ∧ H.executable s p = true) := by
  have hlocate : Locate.run c.root c.platform = Locate.forKey c.root key := by
    rw [Locate.run, hkey]
  rw [run_eq hkey] at hthere ⊢
  rw [hlocate, Locate.run_forKey, Locate.exists_answer_iff]
  rcases outcome_cases H.handler c key s with ⟨hfile, ho⟩ | ⟨-, ho | ⟨_, _, ho⟩⟩
  · rw [ho] at hthere ⊢
    rw [H.handler_isFile] at hfile ⊢
    cases hthere
    obtain ⟨⟨bytes, mode⟩, hfile⟩ := Option.isSome_iff_exists.1 hfile
    refine ⟨rfl, rfl, bytes, mode, hfile, ?_⟩
    rw [UnixHost.executable, hfile, Option.any_some]
  · rw [ho] at hthere
    cases hthere
  · rw [ho] at hthere
    cases hthere

namespace Sample

/-- A host that has a file of a given mode in the place of the binary, and nothing else. -/
def hostWith (mode : Nat) : Memory where
  tree := ⟨[([Bytes.ofText "p"], .dir), ([Bytes.ofText "p", Bytes.ofText "bin"], .dir),
    ([Bytes.ofText "p", Bytes.ofText "bin", Bytes.ofText "comment-checker"], .file [120] mode)]⟩

end Sample

theorem alreadyInstalled_then_locate_sample :
    ((run Sample.linux).run (handle Sample.serve) (Sample.hostWith 0o755, ())).1 =
        .alreadyInstalled (Locate.binaryIn Sample.linux.root .linuxX64) ∧
      ∃ q, ((Locate.run Sample.linux.root Sample.linux.platform).run.run (handle Sample.serve)
        (Sample.hostWith 0o755, ())).1 = .ok q := by
  have hthere : ((run Sample.linux).run (handle Sample.serve) (Sample.hostWith 0o755, ())).1 =
      .alreadyInstalled (Locate.binaryIn Sample.linux.root .linuxX64) := by decide +kernel
  obtain ⟨-, -, bytes, mode, hfile, hiff⟩ := alreadyInstalled_then_locate (.memory Sample.serve)
    Sample.linux .linuxX64 (Sample.hostWith 0o755, ()) _ rfl hthere
  have hmode : (UnixHost.memory Sample.serve).file? (Sample.hostWith 0o755, ())
      (Locate.binaryIn Sample.linux.root .linuxX64) = some ([120], 0o755) := by decide +kernel
  rw [hmode] at hfile
  cases hfile
  exact ⟨hthere, hiff.2 (.inl rfl)⟩

/-- An install takes a file that nobody may execute for the binary, which a search then does not
find. -/
theorem alreadyInstalled_not_located :
    ((run Sample.linux).run (handle Sample.serve) (Sample.hostWith 0o644, ())).1 =
        .alreadyInstalled (Locate.binaryIn Sample.linux.root .linuxX64) ∧
      ((Locate.run Sample.linux.root Sample.linux.platform).run.run (handle Sample.serve)
        (Sample.hostWith 0o644, ())).1 = .error (.packageNotFound Key.linuxX64.package) := by
  decide +kernel

end Install

end Provision
