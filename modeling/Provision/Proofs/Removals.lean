import Provision.Proofs.Schedules
import Provision.Proofs.StageOrder

/-!
# When removing fails

Guards remove what must not stay behind, and nothing depends on whether they can: two installs that
differ in failures of removals by guards only have the same outcome and make the same requests, and
apart from what the guards were to remove they leave the same files.

* `Install.working` is an install without its guards. `clean_working`: it removes nothing as a guard
  does, because nobody asks both whether a directory is there and whether it is one before it is
  removed.
* `node?_removeAll` says what the guards leave, `guarded_working` what they guard.
* `clean_up_invisible` is the result.
-/

namespace Provision

variable {α β ε η : Type}

/-! ## An install without its guards -/

namespace Install

variable {σ : Type}

/-- What an install does before its guards. -/
def working (c : Config) : Program Ending :=
  match c.platform.key? with
  | none => do
    logWarn ("Skipping install on unsupported platform " ++ c.platform.text)
    return ⟨.skipped c.platform.text, []⟩
  | some key => do
    if ← .ask (.isFile (Locate.binaryIn c.root key)) then
      return ⟨.alreadyInstalled (Locate.binaryIn c.root key), []⟩
    (allStages c key).program

/-- An install is its work and its guards. -/
theorem run_eq_working (c : Config) :
    Install.run c = (do
      let ending ← working c
      removeAll ending.guarded
      return ending.outcome) := by
  unfold Install.run working
  cases c.platform.key? with
  | none => rfl
  | some key =>
    dsimp only
    rw [runFor_eq_stages, bind_assoc]
    refine bind_congr fun found => ?_
    cases found with
    | true => rfl
    | false => rfl

theorem run_working (h : Handler σ) (c : Config) (s : σ) :
    (Install.run c).run h s = (((working c).run h s).1.outcome,
      ((removeAll ((working c).run h s).1.guarded).run h ((working c).run h s).2).2) := by
  rw [run_eq_working, Program.run_bind, Program.run_bind, Program.run_pure]

theorem exchanges_working (h : Handler σ) (c : Config) (s : σ) :
    (Install.run c).exchanges h s = (working c).exchanges h s ++
      (removeAll ((working c).run h s).1.guarded).exchanges h ((working c).run h s).2 := by
  rw [run_eq_working, Program.exchanges_bind, Program.exchanges_bind]
  exact congrArg (_ ++ ·) (List.append_nil _)

/-- Guards make no requests. -/
theorem requests_working (h : Handler σ) (c : Config) (s : σ) :
    (Install.run c).requests h s = (working c).requests h s := by
  have hguards := filterMap_asked?_eq_nil fun e he =>
    have ⟨_, _, hcall⟩ := (allCalls_removeAll ((working c).run h s).1.guarded).of_mem_exchanges h
      ((working c).run h s).2 e he
    hcall.isOffline
  rw [Program.requests, exchanges_working, List.filterMap_append, hguards, List.append_nil]
  rfl

end Install

namespace Memory

open Install

/-! ## The work of an install is clean -/

/-- A record without removals by guards, at whose end nobody has just asked whether something is
there. -/
structure Orderly (past : List Exchange) : Prop where
  clean : Clean past
  rested : ∀ path (a : Bool), past.getLast? ≠ some ⟨.pathExists path, a⟩

/-- A call that neither removes anything nor asks whether something is there. -/
def Call.isQuiet : Call → Prop
  | .removeFile _ => False
  | .removeTree _ => False
  | .pathExists _ => False
  | _ => True

/-- After an orderly record a program leaves an orderly record. -/
def KeepsOrder (p : Program α) : Prop := ∀ past, Orderly past →
  p.Meets Program.Records (fun _ => True) (fun _ => Orderly) past

section Order

variable {past : List Exchange} {c : Call}

theorem Clean.orderly (h : Clean past) (hc : ¬ IsCleanUp past c)
    (hlook : ∀ path, c ≠ .pathExists path) (a : c.Answer) : Orderly (past ++ [⟨c, a⟩]) where
  clean := h.snoc hc a
  rested path b he := by
    rw [List.getLast?_concat] at he
    cases he
    exact hlook path rfl

theorem not_isCleanUp_of_isQuiet (hc : Call.isQuiet c) : ¬ IsCleanUp past c := by
  cases c <;> first | exact hc.elim | exact id

theorem Orderly.snoc (h : Orderly past) (hc : Call.isQuiet c) (a : c.Answer) :
    Orderly (past ++ [⟨c, a⟩]) := by
  refine h.clean.orderly (not_isCleanUp_of_isQuiet hc) ?_ a
  rintro path rfl
  exact hc

theorem keepsOrder_of_quiet {p : Program α} (hp : p.AllCalls Call.isQuiet) : KeepsOrder p :=
  fun _ hpast => (hp.meets_records (fun _ _ a hc h => h.snoc hc a) hpast).mono (fun _ _ => trivial)
    fun _ _ h => h

theorem keepsOrder_pure (a : α) : KeepsOrder (pure a) := fun _ h => h

theorem keepsOrder_bind {p : Program α} {f : α → Program β} (hp : KeepsOrder p)
    (hf : ∀ a, KeepsOrder (f a)) : KeepsOrder (p >>= f) := fun past hpast =>
  Program.meets_bind ((hp past hpast).mono (fun _ h => h) fun a past' h => hf a past' h)

theorem keepsOrder_bind_attempt {p : Attempt ε α} {f : α → Attempt ε β} (hp : KeepsOrder p.run)
    (hf : ∀ a, KeepsOrder (f a).run) : KeepsOrder (p >>= f).run := by
  refine keepsOrder_bind (p := p.run) hp fun r => ?_
  cases r with
  | error e => exact keepsOrder_pure _
  | ok a => exact hf a

theorem keepsOrder_lift {p : Program α} (hp : KeepsOrder p) :
    KeepsOrder (liftM p : Attempt ε α).run :=
  keepsOrder_bind hp fun _ => keepsOrder_pure _

theorem keepsOrder_context {outer : String} {p : Attempt Report α} (hp : KeepsOrder p.run) :
    KeepsOrder (p.context outer).run := keepsOrder_bind hp fun _ => keepsOrder_pure _

/-- A guard has just asked both questions. -/
theorem IsCleanUp.looked {e : Exchange} {path : Path}
    (h : IsCleanUp (past ++ [e]) (.removeTree path)) :
    e = ⟨.isDir path, true⟩ ∧ past.getLast? = some ⟨.pathExists path, true⟩ := by
  obtain ⟨before, he⟩ := h
  rw [show [(⟨.pathExists path, true⟩ : Exchange), ⟨.isDir path, true⟩] =
    [⟨.pathExists path, true⟩] ++ [⟨.isDir path, true⟩] from rfl, ← List.append_assoc] at he
  obtain ⟨hpast, hlast⟩ := List.append_inj' he rfl
  refine ⟨(List.singleton_inj.1 hlast).symm, ?_⟩
  rw [← hpast, List.getLast?_concat]

/-- A directory is replaced right after the question whether it is one, but nobody has asked before
whether anything is there. -/
theorem keepsOrder_replace (p q : Path) : KeepsOrder (replace p q).run := by
  have hrename : KeepsOrder (Attempt.rename p q).run :=
    keepsOrder_of_quiet (Program.allCalls_ask trivial)
  intro past hpast
  refine ⟨trivial, ?_⟩
  rintro isDir _ rfl
  have hlooked := hpast.snoc (c := .isDir q) trivial isDir
  cases isDir with
  | false => exact hrename _ hlooked
  | true =>
    refine ⟨trivial, ?_⟩
    rintro r _ rfl
    have hcleared := hlooked.clean.orderly (c := .removeTree q)
      (fun hc => hpast.rested _ _ hc.looked.2) nofun r
    cases r with
    | error e => exact hcleared
    | ok _ => exact hrename _ hcleared

/-- The staging directory is cleared right after the question whether it is there, but nobody asks
whether it is a directory. -/
theorem keepsOrder_clearStaging (staging : Path) : KeepsOrder (clearStaging staging).run := by
  have hmake (past : List Exchange) (h : Clean past) :
      (Attempt.createDirs staging).run.Meets Program.Records (fun _ => True)
        (fun _ => Orderly) past := by
    refine ⟨trivial, ?_⟩
    rintro made _ rfl
    exact h.orderly (c := .createDirs staging) id nofun made
  intro past hpast
  refine ⟨trivial, ?_⟩
  rintro found _ rfl
  -- the record is not at rest now, but what has been asked last is not about a directory
  have hlooked : Clean (past ++ [⟨.pathExists staging, found⟩]) := hpast.clean.snoc id found
  cases found with
  | false => exact hmake _ hlooked
  | true =>
    refine ⟨trivial, ?_⟩
    rintro r _ rfl
    have hcleared := hlooked.orderly (c := .removeTree staging)
      (fun hc => by cases hc.looked.1) nofun r
    cases r with
    | error e => exact hcleared
    | ok _ => exact hmake _ hcleared.clean

theorem keepsOrder_moveOthers (staged directory : Path) (items : List Path) :
    KeepsOrder (moveOthers staged directory items) := by
  induction items with
  | nil => exact keepsOrder_pure _
  | cons item items ih =>
    rw [moveOthers]
    cases item.sameAs staged with
    | true => exact ih
    | false =>
      cases item.fileName? with
      | none => exact ih
      | some name =>
        refine keepsOrder_bind (p := (replace _ _).run) (keepsOrder_replace _ _) fun r => ?_
        cases r with
        | error e =>
          exact keepsOrder_bind (keepsOrder_of_quiet (Program.allCalls_ask trivial)) fun _ => ih
        | ok _ => exact ih

theorem keepsOrder_finalize (key : Key) (staged directory binary : Path) :
    KeepsOrder (finalize key staged directory binary).run := by
  have hchmod : KeepsOrder (chmod key staged).run :=
    keepsOrder_of_quiet (allCalls_chmod key trivial)
  cases hparent : staged.parent? with
  | none =>
    have heq : finalize key staged directory binary = (do
        chmod key staged
        throw (.ofMessage ("Staged binary " ++ staged.quoted ++ " has no parent"))) := by
      unfold finalize chmod
      rw [hparent]
      cases key.isWindows <;> rfl
    rw [heq]
    exact keepsOrder_bind_attempt hchmod fun _ => keepsOrder_pure _
  | some source =>
    rw [finalize_eq key hparent]
    refine keepsOrder_bind_attempt hchmod fun _ => ?_
    unfold moveAll
    refine keepsOrder_bind_attempt (keepsOrder_of_quiet (Program.allCalls_ask trivial))
      fun items => ?_
    exact keepsOrder_bind_attempt (keepsOrder_lift (keepsOrder_moveOthers _ _ _)) fun _ =>
      keepsOrder_context (keepsOrder_replace _ _)

theorem keepsOrder_unpack (c : Config) (key : Key) (version : String) (size : Nat) :
    KeepsOrder (unpack c key version size).run := by
  unfold unpack
  refine keepsOrder_bind_attempt (keepsOrder_lift (keepsOrder_of_quiet
    (Program.allCalls_ask trivial))) fun _ => ?_
  rw [stage_eq]
  refine keepsOrder_bind_attempt (keepsOrder_clearStaging _) fun _ => keepsOrder_of_quiet ?_
  refine (allCalls_unpackCleared c.extractor key _ _).mono fun c hc => ?_
  cases hc <;> trivial

theorem keepsOrder_stage {name : Stage} {p : Attempt ε α} {blame : ε → β} {next : α → Work β}
    (hp : KeepsOrder p.run) (hnext : ∀ a, KeepsOrder (next a).program) :
    KeepsOrder (Work.stage name p blame next).program := by
  rw [Work.program]
  refine keepsOrder_bind hp fun r => ?_
  cases r with
  | error e => exact keepsOrder_pure _
  | ok a => exact hnext a

theorem keepsOrder_allStages (c : Config) (key : Key) : KeepsOrder (allStages c key).program := by
  have hmanifest : KeepsOrder (Manifest.loadFrom c.root).run :=
    keepsOrder_of_quiet (Attempt.allCalls_bind
      (Attempt.allCalls_context (Attempt.allCalls_ofProgram (Program.allCalls_ask trivial)))
        fun _ => Attempt.allCalls_ofProgram (Program.allCalls_pure _))
  refine keepsOrder_stage hmanifest fun m => keepsOrder_stage (keepsOrder_of_quiet ?_) fun _ =>
    keepsOrder_stage (keepsOrder_of_quiet ?_) fun size =>
    keepsOrder_stage (keepsOrder_unpack c key _ size) fun staged =>
    keepsOrder_stage (keepsOrder_finalize key staged _ _) fun _ => keepsOrder_pure _
  · refine (allCalls_makeBin c key _).mono fun c hc => ?_
    cases hc <;> trivial
  · refine (allCalls_transfer _ _).mono fun c hc => ?_
    cases hc <;> trivial

theorem keepsOrder_working (c : Config) : KeepsOrder (working c) := by
  unfold working
  cases c.platform.key? with
  | none =>
    exact keepsOrder_bind (keepsOrder_of_quiet (Program.allCalls_ask trivial))
      fun _ => keepsOrder_pure _
  | some key =>
    refine keepsOrder_bind (keepsOrder_of_quiet (Program.allCalls_ask trivial)) fun found => ?_
    cases found with
    | true => exact keepsOrder_pure _
    | false => exact keepsOrder_allStages c key

/-- The work of an install removes nothing as a guard does. -/
theorem clean_working (c : Config) {σ : Type} (h : Handler σ) (s : σ) :
    Clean ((working c).exchanges h s) :=
  ((keepsOrder_working c [] ⟨clean_nil, nofun⟩).exchanges h s).clean

end Order

/-! ## What is guarded -/

section Guarded

variable {serve : Url → η → Except NoResponse Response × η} {f : Schedule} {c : Config}
  {m : Memory} {n : η} {past : List Exchange}

theorem tree_change (m : Memory) (point : Point) (p : Place)
    (act : Tree Node → Except Report (Tree Node)) : (m.change point p act).2.tree = m.tree ∨
      act m.tree = .ok (m.change point p act).2.tree := by
  unfold change attempt
  split
  · exact .inl rfl
  · dsimp only
    split
    · exact .inr ‹_›
    · exact .inl rfl

theorem onlyIn_removed (t : Tree Node) (p : Place) : OnlyIn p t (t.removeAt p) := by
  rcases eq_or_ne p [] with rfl | hp
  · exact fun q hq => (hq List.nil_prefix).elim
  · exact onlyIn_removeAt t hp (List.prefix_refl p)

/-- A guard leaves everything but what it guards. -/
theorem onlyIn_guardCall {path : Path} {c : Call} (hc : GuardCall path c) (m : Memory) (n : η) :
    OnlyIn (m.place path) m.tree (handle serve c (m, n)).2.1.tree := by
  cases hc with
  | look => exact OnlyIn.refl _ m.tree
  | kind => exact OnlyIn.refl _ m.tree
  | tree =>
    rcases tree_change m .removeTree (m.place path) fun t => dropDir t (m.place path) with
      hsame | hdrop
    · exact fun q _ => congrArg (node? · q) hsame
    · exact fun q hq => (congrArg (node? · q) (dropDir_ok hdrop).2).trans (onlyIn_removed _ _ q hq)
  | file =>
    rcases tree_change m .removeFile (m.place path) fun t => dropFile t (m.place path) with
      hsame | hdrop
    · exact fun q _ => congrArg (node? · q) hsame
    · exact fun q hq => (congrArg (node? · q) (dropFile_ok hdrop).2).trans (onlyIn_removed _ _ q hq)

/-- Guards leave everything but what they guard, under every schedule. -/
theorem node?_removeAll (paths : List Path) (s : List Exchange × Memory × η) {q : Place}
    (hq : ∀ path ∈ paths, ¬ s.2.1.place path <+: q) :
    node? ((removeAll paths).run (scheduled serve f) s).2.2.1.tree q = node? s.2.1.tree q := by
  refine ((allCalls_removeAll paths).run_kept (J := fun t : List Exchange × Memory × η =>
    t.2.1.cwd = s.2.1.cwd ∧ node? t.2.1.tree q = node? s.2.1.tree q) ?_ ⟨rfl, rfl⟩).2
  rintro c t ⟨path, hpath, hc⟩ ⟨hcwd, hnode⟩
  refine ⟨(cwd_handle c _).trans hcwd, (onlyIn_guardCall hc _ t.2.2 q ?_).trans hnode⟩
  rw [place_eq, hcwd]
  exact hq path hpath

theorem readText_ok (serve : Url → η → Except NoResponse Response × η) (m : Memory) (n : η)
    {path : Path} {text : String} (h : (handle serve (.readText path) (m, n)).1 = .ok text) :
    ∃ bytes mode, node? m.tree (m.place path) = some (.file bytes mode) ∧
      Utf8.decode? bytes = some text := by
  simp only [handle, query, attempt] at h
  split at h
  · cases h
  · cases hfile : file m.tree (m.place path) with
    | error e =>
      rw [hfile] at h
      cases h
    | ok content =>
      obtain ⟨bytes, mode⟩ := content
      rw [hfile] at h
      dsimp only [bind, Except.bind] at h
      refine ⟨bytes, mode, file_eq_ok_iff.1 hfile, ?_⟩
      cases hdecode : Utf8.decode? bytes with
      | none =>
        rw [hdecode] at h
        cases h
      | some text' =>
        rw [hdecode] at h
        cases h
        rfl

/-- A manifest that is loaded has the version of the package. -/
theorem versionIn?_of_loaded {root : Path} {manifest : Manifest} {s : List Exchange × Memory × η}
    (h : ((Manifest.loadFrom root).run.run (scheduled serve f) s).1 = .ok manifest) :
    versionIn? s.2.1.cwd root s.2.1.tree = some manifest.releaseVersion := by
  rw [Manifest.loadFrom, Manifest.run_load] at h
  cases hread : (scheduled serve f (.readText (Manifest.pathIn root)) s).1 with
  | error e =>
    rw [hread] at h
    cases h
  | ok text =>
    rw [hread] at h
    obtain ⟨bytes, mode, hn, hdecode⟩ := readText_ok serve _ s.2.2 hread
    have hmanifest : Manifest.ofFile (Manifest.pathIn root) text = .ok manifest := h
    exact (versionIn?_of_file hn hdecode).trans (by rw [hmanifest]; rfl)

/-- What an install guards are the archive and the staging directory of its release. -/
theorem guarded_working {path : Path}
    (hpath : path ∈ ((working c).run (scheduled serve f) (past, m, n)).1.guarded) :
    ∃ key version, c.platform.key? = some key ∧ versionIn? m.cwd c.root m.tree = some version ∧
      (path = archivePath c key version ∨ path = stagingPath c key version) := by
  unfold working at hpath
  cases hkey : c.platform.key? with
  | none =>
    rw [hkey] at hpath
    cases hpath
  | some key =>
    rw [hkey] at hpath
    dsimp only at hpath
    rw [Program.run_bind, Program.run_ask] at hpath
    cases hfound : (scheduled serve f (.isFile (Locate.binaryIn c.root key)) (past, m, n)).1 with
    | true =>
      rw [hfound] at hpath
      cases hpath
    | false =>
      rw [hfound] at hpath
      obtain ⟨manifest, hloaded, hor⟩ := mem_guarded ((ending_cases _ c key _).symm.imp
        (fun ⟨leg, _, _, hblamed⟩ => ⟨leg.stage, hblamed⟩) fun ⟨_, hreached⟩ => hreached) hpath
      exact ⟨key, _, rfl, versionIn?_of_loaded hloaded, hor⟩

/-- A place that is neither at nor below the archive or the staging directory of the release that an
install provides. -/
def Outside (c : Config) (m : Memory) (q : Place) : Prop :=
  ∀ key version, c.platform.key? = some key → versionIn? m.cwd c.root m.tree = some version →
    ¬ m.place (archivePath c key version) <+: q ∧ ¬ m.place (stagingPath c key version) <+: q

/-- What is left of an install outside what it guards is what its work has left. -/
theorem node?_run {q : Place} (hq : Outside c m q) :
    node? ((Install.run c).run (scheduled serve f) ([], m, n)).2.2.1.tree q =
      node? ((working c).run (scheduled serve f) ([], m, n)).2.2.1.tree q := by
  rw [run_working]
  refine node?_removeAll _ _ fun path hpath => ?_
  obtain ⟨key, version, hkey, hversion, hor⟩ := guarded_working hpath
  obtain ⟨harchive, hstaging⟩ := hq key version hkey hversion
  rw [place_eq, cwd_run]
  rcases hor with rfl | rfl
  · exact harchive
  · exact hstaging

end Guarded

/-- Whether guards can remove what they guard is invisible. Two installs from the same files, with
the same network and schedules that agree on every call but removals by guards, have the same
outcome and make the same requests, and what they leave differs at most at the archive and the
staging directory of the release and below them. -/
theorem clean_up_invisible (serve : Url → η → Except NoResponse Response × η) (c : Config)
    (m : Memory) (n : η) (f g : Schedule)
    (hfg : Agree f g ((Install.run c).exchanges (scheduled serve f) ([], m, n))) :
    let first := (Install.run c).run (scheduled serve f) ([], m, n)
    let second := (Install.run c).run (scheduled serve g) ([], m, n)
    second.1 = first.1 ∧
      (Install.run c).requests (scheduled serve g) ([], m, n) =
        (Install.run c).requests (scheduled serve f) ([], m, n) ∧
      ∀ q, Outside c m q → node? second.2.2.1.tree q = node? first.2.2.1.tree q := by
  intro first second
  rw [exchanges_working] at hfg
  -- up to its guards an install is the same, and these neither decide nor ask for anything
  obtain ⟨hwork, hcalls⟩ := run_eq_of_clean (working c) [] m n hfg.of_append (clean_working c _ _)
  refine ⟨?_, ?_, fun q hq => ?_⟩
  · show ((Install.run c).run _ _).1 = ((Install.run c).run _ _).1
    rw [run_working, run_working, hwork]
  · rw [requests_working, requests_working, Program.requests, hcalls]
    rfl
  · exact (node?_run hq).trans (by rw [hwork, node?_run hq])

namespace Sample

/-- No failures. -/
def calm : Schedule := fun _ _ => []

/-- No file can be removed. -/
def jammed : Schedule
  | _, .removeFile _ => [⟨.removeFile, none, "no", 0, none, 0⟩]
  | _, _ => []

end Sample

/-- Without any removal of files the archive stays, and the binary is installed all the same. -/
theorem clean_up_invisible_sample :
    Agree Sample.calm Sample.jammed ((Install.run Install.Sample.config).exchanges
        (scheduled Install.Sample.serve Sample.calm) ([], Install.Sample.host, ())) ∧
      ((Install.run Install.Sample.config).run (scheduled Install.Sample.serve Sample.jammed)
        ([], Install.Sample.host, ())).1 =
          .installed .win32X64 (Locate.binaryIn Install.Sample.config.root .win32X64) := by
  have hagree (record : List Exchange) : Agree Sample.calm Sample.jammed record := by
    rintro before ⟨c, a⟩ after - hc
    cases c with
    | removeFile path => exact (hc trivial).elim
    | _ => rfl
  refine ⟨hagree _, ?_⟩
  refine (clean_up_invisible Install.Sample.serve Install.Sample.config Install.Sample.host ()
    Sample.calm Sample.jammed (hagree _)).1.trans ?_
  decide +kernel

end Memory

end Provision
