import Provision.Proofs.Confinement
import Provision.Proofs.Phases
import Provision.Proofs.Redirects
import Provision.Proofs.SideFiles

/-!
# The stages of an install

Once an install has found no binary it goes through five stages: it reads the manifest, makes the
`bin` directory, downloads, unpacks and finalizes. After them its guards remove what is left.

* `Work` is work in stages as data: what each stage does and what comes of its failure. `Work.legs`
  are the stages that a run goes through, with what they are answered.
* `Course` is what the legs of a run look like; `Plan.course` gives it for all work that is planned.
* `allStages` is the work of an install, and `runFor_eq_stages` says that an install is the check
  for the binary, its work and its guards.
* `allCalls_makeBin` and its like say which calls the stages make.
-/

namespace Provision

/-! ## The results of a program -/

namespace Attempt

variable {α β ε : Type} {Q : α → Prop}

/-- However a program is answered, a result of it has a property. -/
def Gives (Q : α → Prop) (p : Attempt ε α) : Prop :=
  ∀ ⦃σ : Type⦄ (h : Handler σ) (s : σ) (a : α), (p.run.run h s).1 = .ok a → Q a

theorem gives_pure {a : α} (ha : Q a) : Gives Q (pure a : Attempt ε α) := by
  rintro σ h s a' ha'
  cases ha'
  exact ha

theorem gives_throw (e : ε) : Gives Q (throw e : Attempt ε α) := by
  rintro σ h s a ha
  cases ha

theorem gives_bind_of {R : β → Prop} {p : Attempt ε β} {f : β → Attempt ε α} (hp : Gives R p)
    (hf : ∀ b, R b → Gives Q (f b)) : Gives Q (p >>= f) := by
  intro σ h s a ha
  rw [ExceptT.run_bind, Program.run_bind] at ha
  cases hr : (p.run.run h s).1 with
  | error e =>
    rw [hr] at ha
    cases ha
  | ok b =>
    rw [hr] at ha
    exact hf b (hp h s b hr) h _ a ha

theorem gives_bind (p : Attempt ε β) {f : β → Attempt ε α} (hf : ∀ b, Gives Q (f b)) :
    Gives Q (p >>= f) :=
  gives_bind_of (R := fun _ => True) (fun _ _ _ _ _ => trivial) fun b _ => hf b

end Attempt

namespace Install

/-! ## Work in stages -/

/-- The stages of an install. -/
inductive Stage where
  | manifest
  | directory
  | download
  | staging
  | finalize
deriving DecidableEq, Repr

/-- The stages in order. -/
def Stage.order : List Stage := [.manifest, .directory, .download, .staging, .finalize]

/-- Work in stages. Each stage may fail, which ends the work, or its result decides how to go on. -/
inductive Work (β : Type) : Type 1 where
  | done (b : β)
  | stage {ε α : Type} (name : Stage) (p : Attempt ε α) (blame : ε → β) (next : α → Work β)

/-- A stage that a run has gone through: its calls with their answers and, if it failed, what the
work came to. -/
structure Leg (β : Type) where
  stage : Stage
  exchanges : List Exchange
  stop? : Option β

variable {β σ : Type}

namespace Work

/-- Work as a program. -/
def program : Work β → Program β
  | .done b => return b
  | .stage _ p blame next => do
    match ← p.run with
    | .error e => return blame e
    | .ok a => (next a).program

/-- The stages that a run goes through. -/
def legs (h : Handler σ) : Work β → σ → List (Leg β)
  | .done _, _ => []
  | .stage name p blame next, s =>
    match (p.run.run h s).1 with
    | .error e => [⟨name, p.run.exchanges h s, some (blame e)⟩]
    | .ok a => ⟨name, p.run.exchanges h s, none⟩ :: (next a).legs h (p.run.run h s).2

/-- A run makes the calls of its stages and no others. -/
theorem exchanges_program (h : Handler σ) (w : Work β) (s : σ) :
    w.program.exchanges h s = (w.legs h s).flatMap Leg.exchanges := by
  induction w generalizing s with
  | done b => rfl
  | stage name p blame next ih =>
    rw [program, legs, Program.exchanges_bind]
    cases (p.run.run h s).1 with
    | error e =>
      rw [List.flatMap_singleton]
      exact List.append_nil _
    | ok a => rw [ih, List.flatMap_cons]

end Work

/-- The course of work in the given stages: all of them are gone through, or those up to one that
fails. Each stage makes calls as it may, and a failure ends the work as that stage may end it. -/
inductive Course (M : Stage → List Exchange → Prop) (R : Stage → β → Prop) :
    List Stage → List (Leg β) → Prop
  | finished : Course M R [] []
  | failed {name : Stage} {rest : List Stage} {exchanges : List Exchange} {b : β} :
    M name exchanges → R name b → Course M R (name :: rest) [⟨name, exchanges, some b⟩]
  | passed {name : Stage} {rest : List Stage} {exchanges : List Exchange} {legs : List (Leg β)} :
    M name exchanges → Course M R rest legs →
      Course M R (name :: rest) (⟨name, exchanges, none⟩ :: legs)

/-- Work on a host that is planned in the given stages, with what each may call, how it may end the
work and what is reached after the last of them. -/
inductive Plan (h : Handler σ) (M : Stage → List Exchange → Prop) (R : Stage → β → Prop)
    (D : β → Prop) : List Stage → Work β → Prop
  | done {b : β} : D b → Plan h M R D [] (.done b)
  | stage {ε α : Type} {name : Stage} {rest : List Stage} {p : Attempt ε α} {blame : ε → β}
    {next : α → Work β} : (∀ s, M name (p.run.exchanges h s)) → (∀ e, R name (blame e)) →
      (∀ s a, (p.run.run h s).1 = .ok a → Plan h M R D rest (next a)) →
        Plan h M R D (name :: rest) (.stage name p blame next)

section

variable {h : Handler σ} {M : Stage → List Exchange → Prop} {R : Stage → β → Prop} {D : β → Prop}
  {stages : List Stage} {w : Work β} {legs : List (Leg β)}

/-- Work that is planned takes its course. -/
theorem Plan.course (hw : Plan h M R D stages w) (s : σ) : Course M R stages (w.legs h s) := by
  induction hw generalizing s with
  | done _ => exact .finished
  | @stage ε α name rest p blame next hM hR _ ih =>
    rw [Work.legs]
    cases hrun : (p.run.run h s).1 with
    | error e => exact .failed (hM s) (hR e)
    | ok a => exact .passed (hM s) (ih s a hrun _)

/-- What work comes to is what the stage that failed made of it, or else what is reached after the
last stage. -/
theorem Plan.result (hw : Plan h M R D stages w) (s : σ) :
    (w.legs h s).findSome? Leg.stop? = some (w.program.run h s).1 ∨
      (w.legs h s).findSome? Leg.stop? = none ∧ D (w.program.run h s).1 := by
  induction hw generalizing s with
  | done hb => exact .inr ⟨rfl, hb⟩
  | @stage ε α name rest p blame next _ _ _ ih =>
    rw [Work.legs, Work.program, Program.run_bind]
    cases hrun : (p.run.run h s).1 with
    | error e => exact .inl rfl
    | ok a =>
      rw [List.findSome?_cons_of_isNone rfl]
      exact ih s a hrun _

end

section

variable {M : Stage → List Exchange → Prop} {R : Stage → β → Prop} {stages : List Stage}
  {legs : List (Leg β)} {leg : Leg β} {b : β}

theorem Course.calls (hc : Course M R stages legs) (hleg : leg ∈ legs) :
    M leg.stage leg.exchanges := by
  induction hc with
  | finished => cases hleg
  | failed hM _ =>
    rw [List.mem_singleton.1 hleg]
    exact hM
  | passed hM _ ih =>
    rcases List.mem_cons.1 hleg with rfl | hleg
    · exact hM
    · exact ih hleg

/-- At most one stage fails, and it ends the work as it may. -/
theorem Course.fails (hc : Course M R stages legs) (hleg : leg ∈ legs) (hend : leg.stop? = some b) :
    R leg.stage b ∧ legs.findSome? Leg.stop? = some b := by
  induction hc with
  | finished => cases hleg
  | failed _ hR =>
    rw [List.mem_singleton.1 hleg] at hend ⊢
    cases hend
    exact ⟨hR, rfl⟩
  | passed _ _ ih =>
    rcases List.mem_cons.1 hleg with rfl | hleg
    · cases hend
    · exact ih hleg

/-- If none fails then all have been gone through. -/
theorem Course.map_stage (hc : Course M R stages legs) (h : ∀ leg ∈ legs, leg.stop? = none) :
    legs.map Leg.stage = stages := by
  induction hc with
  | finished => rfl
  | failed _ _ => cases h _ (List.mem_singleton_self _)
  | passed _ _ ih =>
    obtain ⟨-, hrest⟩ := List.forall_mem_cons.1 h
    rw [List.map_cons, ih hrest]

end

/-! ## The work of an install -/

/-- What an install comes to: its outcome, and the paths that its guards then remove. -/
structure Ending where
  outcome : Outcome
  guarded : List Path

/-- Removes what is at some paths, one after another. -/
def removeAll : List Path → Program Unit
  | [] => return ()
  | path :: rest => do
    Guard.remove path
    removeAll rest

/-- Announces the download and makes the `bin` directory. -/
def makeBin (c : Config) (key : Key) (version : String) : Attempt Report Unit := do
  announce key (Release.asset c.host version key.naming)
  (Attempt.createDirs (Locate.binDir c.root)).context
    ("Failed to create " ++ (Locate.binDir c.root).quoted)

/-- Downloads to a path, without the guard. -/
def transfer (url : String) (path : Path) : Attempt FetchError Nat := do
  logInfo ("Downloading file from " ++ url ++ "...")
  let size ← Fetch.run (Download.createAt path) url
  logInfo "Download complete."
  return size

/-- Says how much has been downloaded and stages it. -/
def unpack (c : Config) (key : Key) (version : String) (size : Nat) : Attempt Report Path := do
  logInfo ("Downloaded " ++ (Release.asset c.host version key.naming).name ++ " (" ++ toString size
    ++ " bytes)")
  stage c.extractor key (archivePath c key version) (stagingPath c key version)

/-- Puts the staged binary in place. -/
def putInPlace (c : Config) (key : Key) (staged : Path) : Attempt Report Unit :=
  finalize key staged (Locate.binDir c.root) (Locate.binaryIn c.root key)

/-- The work of an install after the manifest. A failed download is guarded twice, by the download
itself and by the install. -/
def laterStages (c : Config) (key : Key) (version : String) : Work Ending :=
  let failed (problem : Problem) : Outcome := .failed problem (Release.pageUrl c.host version)
  let archive := archivePath c key version
  let staging := stagingPath c key version
  .stage .directory (makeBin c key version) (fun e => ⟨failed (.finalize e), []⟩) fun _ =>
  .stage .download (transfer (Release.asset c.host version key.naming).url archive)
    (fun e => ⟨failed (.network e), [archive, archive]⟩) fun size =>
  .stage .staging (unpack c key version size)
    (fun e => ⟨failed (.extraction e), [staging, archive]⟩) fun staged =>
  .stage .finalize (putInPlace c key staged)
    (fun e => ⟨failed (.finalize e), [staging, archive]⟩) fun _ =>
  .done ⟨.installed key (Locate.binaryIn c.root key), [staging, archive]⟩

/-- The work of an install that has found no binary. -/
def allStages (c : Config) (key : Key) : Work Ending :=
  .stage .manifest (Manifest.loadFrom c.root)
    (fun e => ⟨.failed (.metadata e) (Release.indexUrl c.host), []⟩)
    fun m => laterStages c key m.releaseVersion

/-- A download is a transfer and a guard. -/
theorem run_download_eq (url : String) (path : Path) :
    (Download.run url path).run =
      ((transfer url path).run >>= fun r => do
        if let .error _ := r then Guard.remove path
        return r) := by
  unfold Download.run transfer Guard.onFailure Attempt.ofProgram
  simp only [ExceptT.run_bind, ExceptT.run_mk, bind_assoc, run_lift_bind]
  refine bind_congr fun _ => bind_congr fun r => ?_
  cases r with
  | error e => simp only [bind_assoc, pure_bind]
  | ok size => rfl

/-- An install is the check for the binary, its work and its guards. -/
theorem runFor_eq_stages (c : Config) (key : Key) :
    runFor c key = (do
      if ← .ask (.isFile (Locate.binaryIn c.root key)) then
        return .alreadyInstalled (Locate.binaryIn c.root key)
      let ending ← (allStages c key).program
      removeAll ending.guarded
      return ending.outcome) := by
  rw [runFor_eq]
  unfold fetchArchive
  rw [bind_assoc]
  refine bind_congr fun found => ?_
  cases found with
  | true => rfl
  | false =>
    rw [if_neg (by simp), if_neg (by simp), allStages, Work.program, bind_assoc, bind_assoc]
    refine bind_congr fun manifest => ?_
    cases manifest with
    | error e => rfl
    | ok m =>
      simp only [laterStages, Work.program, makeBin, unpack, putInPlace, stageArchive, settle,
        moveAccepted, run_download_eq, Attempt.context, Attempt.mapFailure, Attempt.ofProgram,
        ExceptT.run_bind, ExceptT.run_mk, bind_assoc, pure_bind, run_lift_bind]
      refine bind_congr fun _ => bind_congr fun made => ?_
      cases made with
      | error e => rfl
      | ok _ =>
        simp only [Except.mapError, bind_assoc]
        refine bind_congr fun downloaded => ?_
        cases downloaded with
        | error e => simp only [removeAll, bind_assoc, pure_bind]
        | ok size =>
          simp only [bind_assoc, pure_bind]
          refine bind_congr fun _ => bind_congr fun accepted => ?_
          cases accepted with
          | error e =>
            simp only [removeAll, bind_assoc, pure_bind]
          | ok staged =>
            simp only [bind_assoc, pure_bind]
            refine bind_congr fun moved => ?_
            cases moved with
            | error e => simp only [removeAll, bind_assoc, pure_bind]
            | ok _ => simp only [removeAll, bind_assoc, pure_bind]

/-! ## The calls of the stages -/

/-- A call that prepares a download: it prints a message or makes a directory. -/
inductive Prepares (directory : Path) : Call → Prop
  | print {channel : Channel} {line : String} : Prepares directory (.print channel line)
  | make : Prepares directory (.createDirs directory)

/-- A call that transfers data: it asks for an address or fills one file. -/
inductive Transfers (target : Path) : Call → Prop
  | log {level : Level} {message : String} : Transfers target (.log level message)
  | request {url : Url} : Transfers target (.request url)
  | create : Transfers target (.create target)
  | write {file : Writer} {chunk : Bytes} : Transfers target (.write file chunk)
  | flush {file : Writer} : Transfers target (.flush file)

/-- A call that unpacks an archive or looks at what has been unpacked. -/
inductive Unpacks : Call → Prop
  | log {level : Level} {message : String} : Unpacks (.log level message)
  | openFile {p : Path} : Unpacks (.openFile p)
  | createDirs {p : Path} : Unpacks (.createDirs p)
  | create {p : Path} : Unpacks (.create p)
  | write {file : Writer} {chunk : Bytes} : Unpacks (.write file chunk)
  | setMode {p : Path} {mode : Nat} : Unpacks (.setMode p mode)
  | runTool {tool : Tool} : Unpacks (.runTool tool)
  | isFile {p : Path} : Unpacks (.isFile p)
  | isDir {p : Path} : Unpacks (.isDir p)
  | list {p : Path} : Unpacks (.list p)
  | size {p : Path} : Unpacks (.size p)

/-- A call that stages an archive: it clears the staging directory or unpacks. -/
inductive Stages (staging : Path) : Call → Prop
  | look : Stages staging (.pathExists staging)
  | clear : Stages staging (.removeTree staging)
  | unpack {c : Call} : Unpacks c → Stages staging c

/-- A call that a guard makes: it looks at a path or removes what is there. -/
inductive GuardCall (path : Path) : Call → Prop
  | look : GuardCall path (.pathExists path)
  | kind : GuardCall path (.isDir path)
  | tree : GuardCall path (.removeTree path)
  | file : GuardCall path (.removeFile path)

theorem Prepares.isOffline {directory : Path} {c : Call} (h : Prepares directory c) :
    c.isOffline := by
  cases h <;> trivial

theorem Unpacks.isOffline {c : Call} (h : Unpacks c) : c.isOffline := by
  cases h <;> trivial

theorem Stages.isOffline {staging : Path} {c : Call} (h : Stages staging c) : c.isOffline := by
  cases h with
  | look => trivial
  | clear => trivial
  | unpack hc => exact hc.isOffline

theorem GuardCall.isOffline {path : Path} {c : Call} (h : GuardCall path c) : c.isOffline := by
  cases h <;> trivial

section Calls

variable {P : Call → Prop} {h : Handler σ}

theorem exchanges_loadFrom (root : Path) (s : σ) :
    (Manifest.loadFrom root).run.exchanges h s =
      [⟨.readText (Manifest.pathIn root), (h (.readText (Manifest.pathIn root)) s).1⟩] := by
  show ⟨_, _⟩ :: Program.exchanges h _ _ = _
  cases (h (.readText (Manifest.pathIn root)) s).1 <;> rfl

theorem allCalls_makeBin (c : Config) (key : Key) (version : String) :
    Attempt.AllCalls (Prepares (Locate.binDir c.root)) (makeBin c key version) := by
  unfold makeBin announce
  exact Attempt.allCalls_bind (Attempt.allCalls_lift (Program.allCalls_bind
    (Program.allCalls_ask .print) fun _ => Program.allCalls_ask .print)) fun _ =>
      Attempt.allCalls_context (Attempt.allCalls_ofProgram (Program.allCalls_ask .make))

/-- A fetch asks for addresses and saves a body. -/
theorem allCalls_fetch {create : Attempt Report Writer} (hcreate : Attempt.AllCalls P create)
    (hrequest : ∀ url, P (.request url)) (hwrite : ∀ file chunk, P (.write file chunk))
    (hflush : ∀ file, P (.flush file)) (url : String) :
    Attempt.AllCalls P (Fetch.run create url) := by
  have hsave (r : Response) : Attempt.AllCalls P (Fetch.save create r) :=
    Fetch.allCalls_save hcreate hwrite hflush r
  have hfollow (hops : Nat) (u : Url) : Attempt.AllCalls P (Fetch.follow create hops u) := by
    induction hops generalizing u with
    | zero =>
      rw [Attempt.AllCalls, Fetch.follow_eq]
      refine ⟨hrequest u, fun answer => ?_⟩
      rcases answer with e | r
      · exact Attempt.allCalls_throw _
      · unfold Fetch.react
        dsimp only
        split_ifs
        · exact Attempt.allCalls_throw _
        · exact hsave r
        · exact Attempt.allCalls_throw _
    | succ hops ih =>
      rw [Attempt.AllCalls, Fetch.follow_eq]
      refine ⟨hrequest u, fun answer => ?_⟩
      rcases answer with e | r
      · exact Attempt.allCalls_throw _
      · unfold Fetch.react
        dsimp only
        split_ifs
        · cases Fetch.target? u r with
          | none => exact Attempt.allCalls_throw _
          | some next => exact ih next
        · exact hsave r
        · exact Attempt.allCalls_throw _
  unfold Fetch.run
  cases Url.parse? url with
  | none => exact Attempt.allCalls_throw _
  | some parsed => exact hfollow _ parsed

theorem allCalls_createAt (path : Path) :
    Attempt.AllCalls (Transfers path) (Download.createAt path) :=
  Attempt.allCalls_context (Attempt.allCalls_ofProgram (Program.allCalls_ask .create))

theorem allCalls_transfer (url : String) (path : Path) :
    Attempt.AllCalls (Transfers path) (transfer url path) := by
  have hlog (message : String) : (logInfo message).AllCalls (Transfers path) :=
    Program.allCalls_ask .log
  unfold transfer
  refine Attempt.allCalls_bind (Attempt.allCalls_lift (hlog _)) fun _ => ?_
  refine Attempt.allCalls_bind (allCalls_fetch (allCalls_createAt path) (fun _ => .request)
    (fun _ _ => .write) (fun _ => .flush) url) fun size => ?_
  exact Attempt.allCalls_bind (Attempt.allCalls_lift (hlog _)) fun _ => Attempt.allCalls_pure _

/-- The first request of a transfer is for its address. -/
theorem requests_transfer (url : String) (path : Path) (s : σ) :
    ∀ asked ∈ ((transfer url path).run.requests h s).head?, Url.parse? url = some asked.1 := by
  have hfetch (create : Attempt Report Writer) (t : σ) :
      ∀ asked ∈ ((Fetch.run create url).run.requests h t).head?,
        Url.parse? url = some asked.1 := by
    unfold Fetch.run
    cases Url.parse? url with
    | none =>
      intro asked hasked
      cases hasked
    | some parsed =>
      intro asked hasked
      dsimp only at hasked
      rw [Fetch.follow_eq] at hasked
      cases hasked
      rfl
  have hrest (size : Nat) : Attempt.AllCalls Call.isOffline (do
      logInfo "Download complete."
      return size : Attempt FetchError Nat) :=
    Attempt.allCalls_bind (Attempt.allCalls_lift (Program.allCalls_ask trivial))
      fun _ => Attempt.allCalls_pure _
  have hrequests : (transfer url path).run.requests h s =
      (Fetch.run (Download.createAt path) url).run.requests h
        (h (.log .info ("Downloading file from " ++ url ++ "...")) s).2 := by
    unfold transfer Program.requests
    rw [Attempt.exchanges_bind]
    show List.filterMap Exchange.asked? (⟨_, _⟩ :: Program.exchanges h _ _) = _
    rw [List.filterMap_cons_none rfl, Attempt.exchanges_bind, List.filterMap_append]
    refine (congrArg (_ ++ ·) ?_).trans (List.append_nil _)
    cases ((Fetch.run (Download.createAt path) url).run.run h _).1 with
    | error e => rfl
    | ok size => exact Program.requests_eq_nil (hrest size) h _
  rw [hrequests]
  exact hfetch _ _

/-- Extracting only unpacks, with the library's own readers and with a tool. -/
theorem allCalls_extract (extractor : Extractor) (format : ArchiveFormat)
    (archive directory : Path) :
    Attempt.AllCalls Unpacks (extractor.run format archive directory) := by
  have hpermits (read : Stream → Except Report Archive.Listing) :
      Attempt.AllCalls Unpacks (Extract.reading read archive directory) := by
    refine (Extract.allCalls_reading read).mono fun c hc => ?_
    cases c <;> first | exact hc.elim | constructor
  cases extractor with
  | native =>
    cases format with
    | tarGz =>
      show Attempt.AllCalls Unpacks (Extract.tarGz archive directory)
      rw [Extract.tarGz_eq_reading]
      exact hpermits _
    | zip =>
      show Attempt.AllCalls Unpacks (Extract.zip archive directory)
      rw [Extract.zip_eq_reading]
      exact hpermits _
  | system os =>
    show Attempt.AllCalls Unpacks (Extract.withTool os format archive directory)
    unfold Extract.withTool Tool.run
    refine Attempt.allCalls_bind (Attempt.allCalls_bind (Attempt.allCalls_context
      (Attempt.allCalls_ofProgram (Program.allCalls_ask .runTool))) fun result => ?_)
        fun _ => Attempt.allCalls_lift (Program.allCalls_ask .log)
    split_ifs
    · exact Attempt.allCalls_throw _
    · exact Attempt.allCalls_pure _

theorem allCalls_findBinary (staging : Path) (name : String) :
    Attempt.AllCalls Unpacks (findBinary staging name) := by
  have honly (items : List Path) : (onlyDirectory? items).AllCalls Unpacks := by
    rcases items with _ | ⟨only, _ | ⟨_, _⟩⟩
    · exact Program.allCalls_pure _
    · refine Program.allCalls_bind (Program.allCalls_ask .isDir) fun isDir => ?_
      cases isDir <;> exact Program.allCalls_pure _
    · exact Program.allCalls_pure _
  unfold findBinary
  refine Attempt.allCalls_bind (Attempt.allCalls_lift (Program.allCalls_ask .isFile))
    fun found => ?_
  cases found with
  | true => exact Attempt.allCalls_pure _
  | false =>
    refine Attempt.allCalls_bind (Attempt.allCalls_ofProgram (Program.allCalls_ask .list))
      fun items => Attempt.allCalls_bind (Attempt.allCalls_lift (honly items)) fun wrapper => ?_
    cases wrapper with
    | none => exact Attempt.allCalls_throw _
    | some wrapper =>
      refine Attempt.allCalls_bind (Attempt.allCalls_lift (Program.allCalls_ask .isFile))
        fun found => ?_
      cases found with
      | true => exact Attempt.allCalls_pure _
      | false => exact Attempt.allCalls_throw _

/-- Unpacks into a staging directory that has been cleared, and accepts a binary there. -/
def unpackCleared (extractor : Extractor) (key : Key) (archive staging : Path) :
    Attempt Report Path := do
  extractor.run key.naming.format archive staging
  let binary ← findBinary staging key.binary
  if (← Attempt.size binary) = 0 then
    throw (.ofMessage ("Extracted " ++ key.binary ++ " is empty"))
  if !(← isNative binary key) then
    logWarn (binary.quoted ++ " does not look like a native " ++ key.name ++ " executable")
  return binary

theorem stage_eq (extractor : Extractor) (key : Key) (archive staging : Path) :
    stage extractor key archive staging = (do
      clearStaging staging
      unpackCleared extractor key archive staging) := rfl

theorem allCalls_unpackCleared (extractor : Extractor) (key : Key) (archive staging : Path) :
    Attempt.AllCalls Unpacks (unpackCleared extractor key archive staging) := by
  have hnative (binary : Path) : (isNative binary key).AllCalls Unpacks := by
    refine Program.allCalls_bind (Program.allCalls_ask .openFile) fun opened => ?_
    cases opened <;> exact Program.allCalls_pure _
  unfold unpackCleared
  refine Attempt.allCalls_bind (allCalls_extract extractor _ archive staging) fun _ =>
    Attempt.allCalls_bind (allCalls_findBinary staging _) fun binary =>
      Attempt.allCalls_bind (Attempt.allCalls_ofProgram (Program.allCalls_ask .size)) fun size => ?_
  have haccept : Attempt.AllCalls Unpacks (do
      if !(← isNative binary key) then
        logWarn (binary.quoted ++ " does not look like a native " ++ key.name ++ " executable")
      return binary : Attempt Report Path) := by
    refine Attempt.allCalls_bind (Attempt.allCalls_lift (hnative binary)) fun native => ?_
    cases native with
    | true => exact Attempt.allCalls_pure _
    | false =>
      exact Attempt.allCalls_bind (Attempt.allCalls_lift (Program.allCalls_ask .log))
        fun _ => Attempt.allCalls_pure _
  by_cases hempty : size = 0
  · rw [if_pos hempty]
    exact Attempt.allCalls_throw _
  · rw [if_neg hempty]
    exact haccept

theorem allCalls_clearStaging (staging : Path) :
    Attempt.AllCalls (Stages staging) (clearStaging staging) := by
  have hmake : Attempt.AllCalls (Stages staging) (Attempt.createDirs staging) :=
    Attempt.allCalls_ofProgram (Program.allCalls_ask (.unpack .createDirs))
  unfold clearStaging
  refine Attempt.allCalls_bind (Attempt.allCalls_lift (Program.allCalls_ask .look)) fun found => ?_
  cases found with
  | false => exact hmake
  | true =>
    exact Attempt.allCalls_bind (Attempt.allCalls_ofProgram (Program.allCalls_ask .clear))
      fun _ => hmake

theorem allCalls_unpack (c : Config) (key : Key) (version : String) (size : Nat) :
    Attempt.AllCalls (Stages (stagingPath c key version)) (unpack c key version size) := by
  unfold unpack
  refine Attempt.allCalls_bind (Attempt.allCalls_lift
    (Program.allCalls_ask (.unpack .log))) fun _ => ?_
  rw [stage_eq]
  exact Attempt.allCalls_bind (allCalls_clearStaging _) fun _ =>
    (allCalls_unpackCleared c.extractor key _ _).mono fun _ hc => .unpack hc

/-- What has been staged is a binary in some directory, under its own name. -/
theorem gives_unpack (c : Config) (key : Key) (version : String) (size : Nat) :
    Attempt.Gives (fun staged => ∃ directory : Path, staged = directory.entry key.binary)
      (unpack c key version size) := by
  have hfind (staging : Path) : Attempt.Gives
      (fun staged => ∃ directory : Path, staged = directory.entry key.binary)
      (findBinary staging key.binary) := by
    unfold findBinary
    refine Attempt.gives_bind _ fun found => ?_
    cases found with
    | true => exact Attempt.gives_pure ⟨staging, rfl⟩
    | false =>
      refine Attempt.gives_bind _ fun items => Attempt.gives_bind _ fun wrapper => ?_
      cases wrapper with
      | none => exact Attempt.gives_throw _
      | some wrapper =>
        refine Attempt.gives_bind _ fun found => ?_
        cases found with
        | true => exact Attempt.gives_pure ⟨wrapper, rfl⟩
        | false => exact Attempt.gives_throw _
  unfold unpack
  rw [stage_eq]
  refine Attempt.gives_bind _ fun _ => Attempt.gives_bind _ fun _ => ?_
  unfold unpackCleared
  refine Attempt.gives_bind _ fun _ => Attempt.gives_bind_of (hfind _) fun binary hbinary =>
    Attempt.gives_bind _ fun size => ?_
  have haccept : Attempt.Gives
      (fun staged => ∃ directory : Path, staged = directory.entry key.binary) (do
      if !(← isNative binary key) then
        logWarn (binary.quoted ++ " does not look like a native " ++ key.name ++ " executable")
      return binary : Attempt Report Path) := by
    refine Attempt.gives_bind _ fun native => ?_
    cases native with
    | true => exact Attempt.gives_pure hbinary
    | false => exact Attempt.gives_bind _ fun _ => Attempt.gives_pure hbinary
  by_cases hempty : size = 0
  · rw [if_pos hempty]
    exact Attempt.gives_throw _
  · rw [if_neg hempty]
    exact haccept

/-- Moving the other items makes calls to replace things that are not the staged binary. -/
theorem allCalls_moveOthersOf {staged : Path} (directory : Path)
    (hlook : ∀ p, P (.isDir p)) (hclear : ∀ p, P (.removeTree p))
    (hmove : ∀ p q, p.sameAs staged = false → P (.rename p q))
    (hwarn : ∀ message, P (.log .warn message)) (items : List Path) :
    (moveOthers staged directory items).AllCalls P := by
  induction items with
  | nil => exact Program.allCalls_pure _
  | cons item items ih =>
    rw [moveOthers]
    cases hsame : item.sameAs staged with
    | true => exact ih
    | false =>
      cases item.fileName? with
      | none => exact ih
      | some name =>
        refine Program.allCalls_bind (p := (replace _ _).run)
          (allCalls_replace (hlook _) (hclear _) (hmove _ _ hsame)) fun r => ?_
        cases r with
        | error e => exact Program.allCalls_bind (Program.allCalls_ask (hwarn _)) fun _ => ih
        | ok _ => exact ih

/-- Finalizing makes no other calls than these. -/
theorem allCalls_finalize (key : Key) {staged source : Path} (directory binary : Path)
    (hparent : staged.parent? = some source) :
    Attempt.AllCalls Memory.Call.Finalizes (finalize key staged directory binary) := by
  have hreplace (p q : Path) : Attempt.AllCalls Memory.Call.Finalizes (replace p q) :=
    allCalls_replace .look (.point rfl) (.point rfl)
  have hothers (items : List Path) :
      (moveOthers staged directory items).AllCalls Memory.Call.Finalizes :=
    allCalls_moveOthersOf directory (fun _ => .look) (fun _ => .point rfl)
      (fun _ _ _ => .point rfl) (fun _ => .warn) items
  rw [finalize_eq key hparent]
  refine Attempt.allCalls_bind (allCalls_chmod key (.point rfl)) fun _ => ?_
  exact Attempt.allCalls_bind (Attempt.allCalls_ofProgram (Program.allCalls_ask (.point rfl)))
    fun items => Attempt.allCalls_bind (Attempt.allCalls_lift (hothers items))
      fun _ => Attempt.allCalls_context (hreplace _ _)

/-- Removing paths makes only the calls of their guards. -/
theorem allCalls_removeAll (paths : List Path) :
    (removeAll paths).AllCalls fun c => ∃ path ∈ paths, GuardCall path c := by
  induction paths with
  | nil => exact Program.allCalls_pure _
  | cons path rest ih =>
    have hself : path ∈ path :: rest := List.mem_cons_self
    refine Program.allCalls_bind (Guard.allCalls_remove ⟨path, hself, .look⟩ ⟨path, hself, .kind⟩
      ⟨path, hself, .tree⟩ ⟨path, hself, .file⟩) fun _ => ?_
    exact ih.mono fun c ⟨p, hp, hc⟩ => ⟨p, List.mem_cons_of_mem _ hp, hc⟩

end Calls

end Install

end Provision
