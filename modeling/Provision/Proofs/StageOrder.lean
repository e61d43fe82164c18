import Provision.Proofs.Integrity
import Provision.Proofs.Stages

/-!
# The order of the stages

The first stage of an install that fails is the last that is gone through, and it decides what the
install says. Within the last stage the mode of the binary is set first, and the binary is moved
last.

* `InPlace` is the order of the calls that put a staged binary in place, `inPlace_finalize` says
  that finalizing keeps it.
* `Proper` says which calls a stage makes, `Blamed` how it may end an install.
* `course_allStages`: on every host an install takes its course; `staged_run` says what that means
  for the calls of a run, its outcome and its first request.
-/

namespace Provision.Install

variable {σ : Type}

/-! ## Putting the binary in place -/

/-- A call comes last, if it comes at all, and those before it have a property. -/
def EndsIn (P : Call → Prop) (c : Call) (exchanges : List Exchange) : Prop :=
  ∃ front last, exchanges = front ++ last ∧ (∀ e ∈ front, P e.1) ∧
    (last = [] ∨ ∃ answer : c.Answer, last = [⟨c, answer⟩])

/-- The order of the calls that put a staged binary in place. The mode is set first, unless the
binary is one for Windows, and nothing follows if that fails. The move of the binary is the last
call of all, and what is moved before it is something else. -/
structure InPlace (key : Key) (staged binary : Path) (exchanges : List Exchange) : Prop where
  calls : ∀ e ∈ exchanges, Memory.Call.Finalizes e.1
  chmod : key.isWindows = false → ∃ answer rest,
    exchanges = ⟨.setMode staged binaryMode, answer⟩ :: rest ∧
      (∀ e ∈ rest, ∀ p mode, e.1 ≠ .setMode p mode) ∧ ((∃ e, answer = .error e) → rest = [])
  windows : key.isWindows = true → ∀ e ∈ exchanges, ∀ p mode, e.1 ≠ .setMode p mode
  moves : EndsIn (fun c => ∀ source target, c = .rename source target →
    source.sameAs staged = false) (.rename staged binary) exchanges

/-- A call that moves something else than the staged binary, or looks, or clears the way. -/
inductive Clears (staged : Path) : Call → Prop
  | list {p : Path} : Clears staged (.list p)
  | isDir {p : Path} : Clears staged (.isDir p)
  | removeTree {p : Path} : Clears staged (.removeTree p)
  | warn {message : String} : Clears staged (.log .warn message)
  | rename {source target : Path} : source.sameAs staged = false →
      Clears staged (.rename source target)

section EndsIn

variable {α ε : Type} {P Q : Call → Prop} {h : Handler σ} {c : Call} {front rest : List Exchange}

theorem EndsIn.prepend (hfront : ∀ e ∈ front, P e.1) (h : EndsIn P c rest) :
    EndsIn P c (front ++ rest) := by
  obtain ⟨front', last, rfl, hfront', hlast⟩ := h
  exact ⟨front ++ front', last, (List.append_assoc ..).symm,
    List.forall_mem_append.2 ⟨hfront, hfront'⟩, hlast⟩

theorem EndsIn.cons {e : Exchange} (he : P e.1) (h : EndsIn P c rest) : EndsIn P c (e :: rest) :=
  h.prepend (List.forall_mem_singleton.2 he)

theorem EndsIn.mono (h : EndsIn P c rest) (hPQ : ∀ d, P d → Q d) : EndsIn Q c rest := by
  obtain ⟨front, last, rfl, hfront, hlast⟩ := h
  exact ⟨front, last, rfl, fun e he => hPQ _ (hfront e he), hlast⟩

theorem EndsIn.of_mem (h : EndsIn P c rest) {e : Exchange} (he : e ∈ rest) : P e.1 ∨ e.1 = c := by
  obtain ⟨front, last, rfl, hfront, rfl | ⟨answer, rfl⟩⟩ := h
  · exact .inl (hfront e (by simpa using he))
  · rcases List.mem_append.1 he with he | he
    · exact .inl (hfront e he)
    · exact .inr (by rw [List.mem_singleton.1 he])

theorem endsIn_nil : EndsIn P c [] := ⟨[], [], rfl, by simp, .inl rfl⟩

theorem endsIn_call (answer : c.Answer) : EndsIn P c [⟨c, answer⟩] :=
  ⟨[], [⟨c, answer⟩], rfl, by simp, .inr ⟨answer, rfl⟩⟩

theorem endsIn_bind {β : Type} {p : Attempt ε β} {f : β → Attempt ε α} (hp : Attempt.AllCalls P p)
    (hf : ∀ b t, EndsIn P c ((f b).run.exchanges h t)) (s : σ) :
    EndsIn P c ((p >>= f).run.exchanges h s) := by
  rw [Attempt.exchanges_bind]
  refine EndsIn.prepend (Program.AllCalls.of_mem_exchanges hp h s) ?_
  cases (p.run.run h s).1 with
  | error e => exact endsIn_nil
  | ok b => exact hf b _

/-- A replacement ends in the move. -/
theorem endsIn_replace {p q : Path} (hlook : P (.isDir q)) (hclear : P (.removeTree q)) (s : σ) :
    EndsIn P (.rename p q) ((replace p q).run.exchanges h s) := by
  have hrename (t : σ) : EndsIn P (.rename p q) ((Attempt.rename p q).run.exchanges h t) :=
    endsIn_call _
  unfold replace
  refine endsIn_bind (Attempt.allCalls_lift (Program.allCalls_ask hlook)) (fun isDir t => ?_) s
  cases isDir with
  | false => exact hrename t
  | true =>
    exact endsIn_bind (Attempt.allCalls_ofProgram (Program.allCalls_ask hclear))
      (fun _ => hrename) t

/-- Moving everything ends in the move of the binary. -/
theorem endsIn_moveAll (staged source directory binary : Path) (s : σ) :
    EndsIn (Clears staged) (.rename staged binary)
      ((moveAll staged source directory binary).run.exchanges h s) := by
  have hothers (items : List Path) : (moveOthers staged directory items).AllCalls (Clears staged) :=
    allCalls_moveOthersOf directory (fun _ => .isDir) (fun _ => .removeTree)
      (fun _ _ hsame => .rename hsame) (fun _ => .warn) items
  unfold moveAll
  refine endsIn_bind (Attempt.allCalls_ofProgram (Program.allCalls_ask .list)) (fun items t => ?_) s
  refine endsIn_bind (Attempt.allCalls_lift (hothers items)) (fun _ t => ?_) t
  rw [show ((replace staged binary).context _).run.exchanges h t =
    (replace staged binary).run.exchanges h t from
      (Program.exchanges_bind h _ _ t).trans (List.append_nil _)]
  exact endsIn_replace .isDir .removeTree t

end EndsIn

theorem Clears.not_same {staged source target : Path} {c : Call} (hc : Clears staged c)
    (he : c = .rename source target) : source.sameAs staged = false := by
  subst he
  cases hc with
  | rename hsame => exact hsame

/-- For all but Windows the mode is set first, and nothing follows if that fails. -/
theorem run_finalize_unix {key : Key} (hkey : key.isWindows = false) {staged source : Path}
    (directory binary : Path) (hparent : staged.parent? = some source) :
    (finalize key staged directory binary).run =
      .call (.setMode staged binaryMode) fun answer => match answer with
        | .ok _ => (moveAll staged source directory binary).run
        | .error e => .done (.error (e.context "Failed to make binary executable")) := by
  rw [finalize_eq key hparent]
  unfold chmod
  rw [hkey]
  refine congrArg (Program.call (.setMode staged binaryMode)) (funext fun answer => ?_)
  cases answer <;> rfl

/-- Finalizing calls in this order. -/
theorem inPlace_finalize (key : Key) {staged source : Path} (directory binary : Path) (s : σ)
    (hparent : staged.parent? = some source) :
    InPlace key staged binary ((finalize key staged directory binary).run.exchanges h s) := by
  have hcalls : ∀ e ∈ (finalize key staged directory binary).run.exchanges h s,
      Memory.Call.Finalizes e.1 :=
    Program.AllCalls.of_mem_exchanges (allCalls_finalize key directory binary hparent) h s
  have hmove (t : σ) := endsIn_moveAll (h := h) staged source directory binary t
  have hmode (t : σ) : ∀ e ∈ (moveAll staged source directory binary).run.exchanges h t,
      ∀ p mode, e.1 ≠ .setMode p mode := by
    intro e he p mode hset
    rcases (hmove t).of_mem he with hclears | hlast
    · rw [hset] at hclears
      cases hclears
    · rw [hset] at hlast
      cases hlast
  have hothers (t : σ) := (hmove t).mono (Q := fun c => ∀ source target, c = .rename source target →
    source.sameAs staged = false) fun _ hc _ _ he => hc.not_same he
  cases hkey : key.isWindows with
  | true =>
    have hexchanges : (finalize key staged directory binary).run.exchanges h s =
        (moveAll staged source directory binary).run.exchanges h s := by
      rw [finalize_eq key hparent]
      unfold chmod
      rw [hkey]
      rfl
    rw [hexchanges] at hcalls ⊢
    exact ⟨hcalls, fun hfalse => (Bool.noConfusion (hkey.symm.trans hfalse)), fun _ => hmode s,
      hothers s⟩
  | false =>
    rw [run_finalize_unix hkey directory binary hparent, Program.exchanges] at hcalls ⊢
    cases hanswer : (h (.setMode staged binaryMode) s).1 with
    | ok _ =>
      rw [hanswer] at hcalls
      refine ⟨hcalls, fun _ => ⟨_, _, rfl, hmode _, ?_⟩, fun htrue => ?_, ?_⟩
      · rintro ⟨e, he⟩
        cases he
      · cases hkey.symm.trans htrue
      · exact (hothers _).cons (by simp)
    | error e =>
      rw [hanswer] at hcalls
      refine ⟨hcalls, fun _ => ⟨_, _, rfl, by simp [Program.exchanges], fun _ => rfl⟩,
        fun htrue => ?_, ?_⟩
      · cases hkey.symm.trans htrue
      · exact endsIn_nil.cons (by simp)

/-! ## The course of an install -/

section Run

variable {c : Config} {key : Key} {loaded : Except Report Manifest}

/-- The calls of a stage with their answers, given what has been loaded as the manifest. After the
first stage they depend on the version in it. -/
inductive Proper (c : Config) (key : Key) (loaded : Except Report Manifest) :
    Stage → List Exchange → Prop
  | manifest {answer : Except Report String} :
    Proper c key loaded .manifest [⟨.readText (Manifest.pathIn c.root), answer⟩]
  | directory {exchanges : List Exchange} :
    (∀ e ∈ exchanges, Prepares (Locate.binDir c.root) e.1) →
      Proper c key loaded .directory exchanges
  | download {m : Manifest} {exchanges : List Exchange} : loaded = .ok m →
    (∀ e ∈ exchanges, Transfers (archivePath c key m.releaseVersion) e.1) →
    (∀ asked ∈ (exchanges.filterMap Exchange.asked?).head?,
      Url.parse? (Release.asset c.host m.releaseVersion key.naming).url = some asked.1) →
      Proper c key loaded .download exchanges
  | staging {m : Manifest} {exchanges : List Exchange} : loaded = .ok m →
    (∀ e ∈ exchanges, Stages (stagingPath c key m.releaseVersion) e.1) →
      Proper c key loaded .staging exchanges
  | finalize {directory : Path} {exchanges : List Exchange} :
    InPlace key (directory.entry key.binary) (Locate.binaryIn c.root key) exchanges →
      Proper c key loaded .finalize exchanges

/-- How a stage may end an install: with its kind of problem and an address where the user can look,
which is the page of the release as soon as its version is known. -/
inductive Blamed (c : Config) (key : Key) (loaded : Except Report Manifest) :
    Stage → Ending → Prop
  | manifest {e : Report} : loaded = .error e →
    Blamed c key loaded .manifest ⟨.failed (.metadata e) (Release.indexUrl c.host), []⟩
  | directory {m : Manifest} {e : Report} : loaded = .ok m →
    Blamed c key loaded .directory
      ⟨.failed (.finalize e) (Release.pageUrl c.host m.releaseVersion), []⟩
  | download {m : Manifest} {e : FetchError} : loaded = .ok m →
    Blamed c key loaded .download
      ⟨.failed (.network e) (Release.pageUrl c.host m.releaseVersion),
        [archivePath c key m.releaseVersion, archivePath c key m.releaseVersion]⟩
  | staging {m : Manifest} {e : Report} : loaded = .ok m →
    Blamed c key loaded .staging
      ⟨.failed (.extraction e) (Release.pageUrl c.host m.releaseVersion),
        [stagingPath c key m.releaseVersion, archivePath c key m.releaseVersion]⟩
  | finalize {m : Manifest} {e : Report} : loaded = .ok m →
    Blamed c key loaded .finalize
      ⟨.failed (.finalize e) (Release.pageUrl c.host m.releaseVersion),
        [stagingPath c key m.releaseVersion, archivePath c key m.releaseVersion]⟩

/-- What an install comes to after its last stage. -/
def Reached (c : Config) (key : Key) (loaded : Except Report Manifest) (ending : Ending) : Prop :=
  ∃ m, loaded = .ok m ∧ ending = ⟨.installed key (Locate.binaryIn c.root key),
    [stagingPath c key m.releaseVersion, archivePath c key m.releaseVersion]⟩

theorem plan_laterStages (h : Handler σ) {m : Manifest} (hm : loaded = .ok m) :
    Plan h (Proper c key loaded) (Blamed c key loaded) (Reached c key loaded)
      [.directory, .download, .staging, .finalize] (laterStages c key m.releaseVersion) := by
  refine .stage (fun s => ?_) (fun e => .directory hm) fun _ _ _ =>
    .stage (fun s => ?_) (fun e => .download hm) fun _ size _ =>
    .stage (fun s => ?_) (fun e => .staging hm) fun t staged hstaged =>
    .stage (fun s => ?_) (fun e => .finalize hm) fun _ _ _ => .done ⟨m, hm, rfl⟩
  · exact .directory (Program.AllCalls.of_mem_exchanges (allCalls_makeBin c key _) h s)
  · exact .download hm (Program.AllCalls.of_mem_exchanges (allCalls_transfer _ _) h s)
      (requests_transfer _ _ s)
  · exact .staging hm (Program.AllCalls.of_mem_exchanges (allCalls_unpack c key _ size) h s)
  · obtain ⟨directory, rfl⟩ := gives_unpack c key _ size h t staged hstaged
    obtain ⟨above, hparent, -⟩ := Path.exists_parent?
      (Path.components_child directory (isName_binary key))
    exact .finalize (inPlace_finalize key _ _ s hparent)

/-- The work of an install takes its course on every host. -/
theorem course_allStages (h : Handler σ) (c : Config) (key : Key) (s : σ) :
    Course (Proper c key ((Manifest.loadFrom c.root).run.run h s).1)
      (Blamed c key ((Manifest.loadFrom c.root).run.run h s).1) Stage.order
      ((allStages c key).legs h s) := by
  rw [allStages, Work.legs, exchanges_loadFrom]
  cases hloaded : ((Manifest.loadFrom c.root).run.run h s).1 with
  | error e => exact .failed .manifest (.manifest rfl)
  | ok m => exact .passed .manifest ((plan_laterStages h rfl).course _)

/-- What the work of an install comes to. -/
theorem result_allStages (h : Handler σ) (c : Config) (key : Key) (s : σ) :
    ((allStages c key).legs h s).findSome? Leg.stop? =
        some ((allStages c key).program.run h s).1 ∨
      ((allStages c key).legs h s).findSome? Leg.stop? = none ∧
        Reached c key ((Manifest.loadFrom c.root).run.run h s).1
          ((allStages c key).program.run h s).1 := by
  rw [allStages, Work.legs, Work.program, Program.run_bind]
  cases hloaded : ((Manifest.loadFrom c.root).run.run h s).1 with
  | error e => exact .inl rfl
  | ok m =>
    dsimp only
    rw [List.findSome?_cons_of_isNone rfl]
    exact (plan_laterStages h rfl).result _

theorem Blamed.failed {name : Stage} {ending : Ending} (h : Blamed c key loaded name ending) :
    ∃ problem url, ending.outcome = .failed problem url := by
  cases h <;> exact ⟨_, _, rfl⟩

/-- Either no stage fails and the binary is installed, or the stage that fails decides. -/
theorem ending_cases (h : Handler σ) (c : Config) (key : Key) (s : σ) :
    ((∀ leg ∈ (allStages c key).legs h s, leg.stop? = none) ∧
        Reached c key ((Manifest.loadFrom c.root).run.run h s).1
          ((allStages c key).program.run h s).1) ∨
      ∃ leg ∈ (allStages c key).legs h s,
        leg.stop? = some ((allStages c key).program.run h s).1 ∧
          Blamed c key ((Manifest.loadFrom c.root).run.run h s).1 leg.stage
            ((allStages c key).program.run h s).1 := by
  rcases result_allStages h c key s with hsome | ⟨hnone, hreached⟩
  · obtain ⟨leg, hleg, hend⟩ := List.exists_of_findSome?_eq_some hsome
    exact .inr ⟨leg, hleg, hend, ((course_allStages h c key s).fails hleg hend).1⟩
  · exact .inl ⟨List.findSome?_eq_none_iff.1 hnone, hreached⟩

/-- What is guarded at the end are the archive and the staging directory. -/
theorem mem_guarded {ending : Ending} {path : Path}
    (hend : (∃ name, Blamed c key loaded name ending) ∨ Reached c key loaded ending)
    (hpath : path ∈ ending.guarded) : ∃ m, loaded = .ok m ∧
      (path = archivePath c key m.releaseVersion ∨ path = stagingPath c key m.releaseVersion) := by
  rcases hend with ⟨name, hblamed⟩ | ⟨m, hm, rfl⟩
  · cases hblamed with
    | manifest _ => cases hpath
    | directory _ => cases hpath
    | download hm => exact ⟨_, hm, .inl (by simpa using hpath)⟩
    | staging hm => exact ⟨_, hm, by simpa [or_comm] using hpath⟩
    | finalize hm => exact ⟨_, hm, by simpa [or_comm] using hpath⟩
  · exact ⟨m, hm, by simpa [or_comm] using hpath⟩

theorem filterMap_asked?_eq_nil {exchanges : List Exchange}
    (h : ∀ e ∈ exchanges, Call.isOffline e.1) : exchanges.filterMap Exchange.asked? = [] := by
  refine List.filterMap_eq_nil_iff.2 fun e he => ?_
  obtain ⟨c, a⟩ := e
  have hc := h _ he
  cases c with
  | request url => exact hc.elim
  | _ => rfl

/-- The first request of a run is the first of one of its stages. -/
theorem exists_leg_of_head? {β : Type} {legs : List (Leg β)} {asked : Asked}
    (h : asked ∈ ((legs.flatMap Leg.exchanges).filterMap Exchange.asked?).head?) :
    ∃ leg ∈ legs, asked ∈ (leg.exchanges.filterMap Exchange.asked?).head? := by
  induction legs with
  | nil => cases h
  | cons leg legs ih =>
    rw [List.flatMap_cons, List.filterMap_append] at h
    cases hfirst : leg.exchanges.filterMap Exchange.asked? with
    | nil =>
      rw [hfirst, List.nil_append] at h
      obtain ⟨leg', hmem, hhead⟩ := ih h
      exact ⟨leg', List.mem_cons_of_mem _ hmem, hhead⟩
    | cons first rest =>
      rw [hfirst] at h
      exact ⟨leg, List.mem_cons_self, by rw [hfirst]; exact h⟩

theorem isOffline_of_finalizes {c : Call} (h : Memory.Call.Finalizes c) : c.isOffline := by
  cases h with
  | point hpoint => cases c <;> trivial
  | look => trivial
  | warn => trivial

/-- Only the download makes requests, the first of them for the address of the release's archive. -/
theorem Proper.asked {name : Stage} {exchanges : List Exchange}
    (h : Proper c key loaded name exchanges) {asked : Asked}
    (hasked : asked ∈ (exchanges.filterMap Exchange.asked?).head?) : ∃ m, loaded = .ok m ∧
      Url.parse? (Release.asset c.host m.releaseVersion key.naming).url = some asked.1 := by
  have hoffline (hcalls : ∀ e ∈ exchanges, Call.isOffline e.1) : False := by
    rw [filterMap_asked?_eq_nil hcalls] at hasked
    cases hasked
  cases h with
  | manifest => cases hasked
  | directory hcalls => exact (hoffline fun e he => (hcalls e he).isOffline).elim
  | download hm _ hfirst => exact ⟨_, hm, hfirst asked hasked⟩
  | staging _ hcalls => exact (hoffline fun e he => (hcalls e he).isOffline).elim
  | finalize hplace =>
    exact (hoffline fun e he => isOffline_of_finalizes (hplace.calls e he)).elim

/-- An install that finds no binary is its work and then its guards. -/
theorem exchanges_runFor {h : Handler σ} {s t : σ}
    (hnone : h (.isFile (Locate.binaryIn c.root key)) s = (false, t)) :
    (runFor c key).exchanges h s = ⟨.isFile (Locate.binaryIn c.root key), false⟩ ::
        (((allStages c key).legs h t).flatMap Leg.exchanges ++
          (removeAll ((allStages c key).program.run h t).1.guarded).exchanges h
            ((allStages c key).program.run h t).2) ∧
      ((runFor c key).run h s).1 = ((allStages c key).program.run h t).1.outcome := by
  have hask : (Program.ask (.isFile (Locate.binaryIn c.root key))).exchanges h s =
      [⟨.isFile (Locate.binaryIn c.root key), false⟩] := by
    rw [Program.ask, Program.exchanges, hnone]
    rfl
  rw [runFor_eq_stages, Program.run_bind, Program.run_ask, Program.exchanges_bind, Program.run_ask,
    hask, hnone]
  dsimp only
  rw [if_neg Bool.false_ne_true, Program.exchanges_bind, Program.exchanges_bind,
    Work.exchanges_program, Program.run_bind, Program.run_bind, Program.run_pure]
  exact ⟨congrArg (_ :: ·) (congrArg (_ ++ ·) (List.append_nil _)), rfl⟩

/-- The outcome of an install is that of the stage that fails, or that the binary is installed. -/
theorem outcome_allStages (h : Handler σ) (c : Config) (key : Key) (s : σ) :
    let legs := (allStages c key).legs h s
    let outcome := ((allStages c key).program.run h s).1.outcome
    (outcome = .installed key (Locate.binaryIn c.root key) ↔
        legs.map Leg.stage = Stage.order ∧ ∀ leg ∈ legs, leg.stop? = none) ∧
      (∀ problem url, outcome = .failed problem url ↔
        ∃ leg ∈ legs, ∃ guarded, leg.stop? = some ⟨.failed problem url, guarded⟩) ∧
      (outcome = .installed key (Locate.binaryIn c.root key) ∨
        ∃ problem url, outcome = .failed problem url) := by
  intro legs outcome
  have hcourse := course_allStages h c key s
  rcases ending_cases h c key s with ⟨hall, m, hm, hending⟩ | ⟨leg, hleg, hend, hblamed⟩
  · have houtcome : outcome = .installed key (Locate.binaryIn c.root key) :=
      congrArg Ending.outcome hending
    refine ⟨⟨fun _ => ⟨hcourse.map_stage hall, hall⟩, fun _ => houtcome⟩, fun problem url =>
      ⟨fun hfailed => ?_, fun ⟨leg, hleg, guarded, hend⟩ => ?_⟩, .inl houtcome⟩
    · cases houtcome.symm.trans hfailed
    · cases (hall leg hleg).symm.trans hend
  · obtain ⟨problem, url, houtcome⟩ := hblamed.failed
    refine ⟨⟨fun hinstalled => ?_, fun ⟨_, hall⟩ => ?_⟩, fun problem' url' =>
      ⟨fun hfailed => ⟨leg, hleg, ((allStages c key).program.run h s).1.guarded, ?_⟩,
        fun ⟨leg', hleg', guarded, hend'⟩ => ?_⟩, .inr ⟨problem, url, houtcome⟩⟩
    · cases hinstalled.symm.trans houtcome
    · cases (hall leg hleg).symm.trans hend
    · rw [hend, ← hfailed]
    · -- only one stage can have failed
      have hsame := (hcourse.fails hleg hend).2.symm.trans (hcourse.fails hleg' hend').2
      exact congrArg Ending.outcome (Option.some.inj hsame)

/-- All calls after the work of an install are those of guards for the archive and the staging
directory. -/
theorem guards_allStages (h : Handler σ) (c : Config) (key : Key) (s : σ) :
    ∀ e ∈ (removeAll ((allStages c key).program.run h s).1.guarded).exchanges h
        ((allStages c key).program.run h s).2,
      ∃ m path, ((Manifest.loadFrom c.root).run.run h s).1 = .ok m ∧ GuardCall path e.1 ∧
        (path = archivePath c key m.releaseVersion ∨
          path = stagingPath c key m.releaseVersion) := by
  intro e he
  obtain ⟨path, hpath, hcall⟩ := Program.AllCalls.of_mem_exchanges (allCalls_removeAll _) h _ e he
  obtain ⟨m, hm, hor⟩ := mem_guarded ((ending_cases h c key s).symm.imp
    (fun ⟨leg, _, _, hblamed⟩ => ⟨leg.stage, hblamed⟩) fun ⟨_, hreached⟩ => hreached) hpath
  exact ⟨m, path, hm, hcall, hor⟩

/-- An install that finds no binary goes through its stages in order, each after the success of
those before it, and after them there are only the calls of its guards. It says that the binary is
installed exactly if all stages have succeeded. Otherwise it fails with the problem of the one that
failed and an address where the user can look. The first request that it makes is for the archive of
the version and the key. This is so on every host, however its calls are answered. -/
theorem staged_run (h : Handler σ) (c : Config) (key : Key) (s : σ)
    (hkey : c.platform.key? = some key)
    (hnone : (h (.isFile (Locate.binaryIn c.root key)) s).1 = false) :
    let start := (h (.isFile (Locate.binaryIn c.root key)) s).2
    let loaded := ((Manifest.loadFrom c.root).run.run h start).1
    let legs := (allStages c key).legs h start
    let outcome := ((run c).run h s).1
    Course (Proper c key loaded) (Blamed c key loaded) Stage.order legs ∧
      (∃ cleanUp, (run c).exchanges h s =
          ⟨.isFile (Locate.binaryIn c.root key), false⟩ ::
            (legs.flatMap Leg.exchanges ++ cleanUp) ∧
        ∀ e ∈ cleanUp, ∃ m path, loaded = .ok m ∧ GuardCall path e.1 ∧
          (path = archivePath c key m.releaseVersion ∨
            path = stagingPath c key m.releaseVersion)) ∧
      (outcome = .installed key (Locate.binaryIn c.root key) ↔
        legs.map Leg.stage = Stage.order ∧ ∀ leg ∈ legs, leg.stop? = none) ∧
      (∀ problem url, outcome = .failed problem url ↔
        ∃ leg ∈ legs, ∃ guarded, leg.stop? = some ⟨.failed problem url, guarded⟩) ∧
      (outcome = .installed key (Locate.binaryIn c.root key) ∨
        ∃ problem url, outcome = .failed problem url) ∧
      ∀ asked ∈ ((run c).requests h s).head?, ∃ m, loaded = .ok m ∧
        Url.parse? (Release.asset c.host m.releaseVersion key.naming).url = some asked.1 := by
  intro start loaded legs outcome
  have hprobe : h (.isFile (Locate.binaryIn c.root key)) s = (false, start) :=
    Prod.ext hnone rfl
  obtain ⟨hexchanges, houtcome⟩ := exchanges_runFor hprobe
  rw [← run_eq hkey] at hexchanges houtcome
  have hcourse : Course (Proper c key loaded) (Blamed c key loaded) Stage.order legs :=
    course_allStages h c key start
  have hguards := guards_allStages h c key start
  obtain ⟨hinstalled, hfailed, hcases⟩ := outcome_allStages h c key start
  rw [← houtcome] at hinstalled hcases
  refine ⟨hcourse, ⟨_, hexchanges, hguards⟩, hinstalled, fun problem url => ?_, hcases, ?_⟩
  · rw [← hfailed problem url, ← houtcome]
  · intro asked hasked
    have hoffline := filterMap_asked?_eq_nil fun e he =>
      have ⟨_, _, _, hcall, _⟩ := hguards e he
      hcall.isOffline
    rw [Program.requests, hexchanges, List.filterMap_cons_none rfl, List.filterMap_append, hoffline,
      List.append_nil] at hasked
    obtain ⟨leg, hleg, hhead⟩ := exists_leg_of_head? hasked
    exact (hcourse.calls hleg).asked hhead

end Run

/-- An archive that is served goes through all stages. -/
theorem staged_run_sample :
    Sample.config.platform.key? = some .win32X64 ∧
      (Memory.handle Sample.serve (.isFile (Locate.binaryIn Sample.config.root .win32X64))
        (Sample.host, ())).1 = false ∧
      ((run Sample.config).run (Memory.handle Sample.serve) (Sample.host, ())).1 =
        .installed .win32X64 (Locate.binaryIn Sample.config.root .win32X64) := by
  have hnone : (Memory.handle Sample.serve
      (.isFile (Locate.binaryIn Sample.config.root .win32X64)) (Sample.host, ())).1 = false := by
    decide +kernel
  obtain ⟨-, -, hinstalled, -⟩ := staged_run (Memory.handle Sample.serve) Sample.config .win32X64
    (Sample.host, ()) rfl hnone
  have hends : ((allStages Sample.config .win32X64).legs (Memory.handle Sample.serve)
      (Memory.handle Sample.serve (.isFile (Locate.binaryIn Sample.config.root .win32X64))
        (Sample.host, ())).2).all (·.stop?.isNone) = true := by decide +kernel
  refine ⟨rfl, hnone, hinstalled.2 ⟨by decide +kernel, fun leg hleg => ?_⟩⟩
  exact Option.isNone_iff_eq_none.1 (List.all_eq_true.1 hends leg hleg)

end Provision.Install
