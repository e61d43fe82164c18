import Provision.CommandLine
import Provision.Proofs.Calls
import Provision.Proofs.Locating

/-!
# The root of the package

The command line and a search on the host find the directory of the main package by two rules: the
one reads the variable as the value of an option, the other looks at it itself.

* `Locate.run_packageRoot` and `CommandLine.run_ofOptions` are the two rules on a host.
* `CommandLine.run_name` is a run with the name of a command as its only argument.
* `CommandLine.path_and_install`: where the variable is not empty, the two agree, and an install
  ends with exit status 0. The empty variable is no value of the option, and both commands end with
  a usage error.
-/

namespace Provision

/-! ## Printed lines -/

namespace Program

variable {α β σ : Type}

/-- What a call prints. -/
def printed? : Call → Option (Channel × String)
  | .print channel line => some (channel, line)
  | _ => none

/-- The lines that a run prints. -/
def printed (h : Handler σ) (p : Program α) (s : σ) : List (Channel × String) :=
  (p.trace h s).filterMap printed?

theorem printed_bind (h : Handler σ) (p : Program α) (f : α → Program β) (s : σ) :
    (p >>= f).printed h s = p.printed h s ++ (f (p.run h s).1).printed h (p.run h s).2 := by
  rw [printed, trace_bind, List.filterMap_append, printed, printed]

/-- A program that does not print prints nothing. -/
theorem printed_eq_nil {p : Program α} (hp : p.AllCalls fun c => printed? c = none) (h : Handler σ)
    (s : σ) : p.printed h s = [] :=
  List.filterMap_eq_nil_iff.2 (hp.of_mem_trace h s)

end Program

/-! ## The root for a search -/

namespace Locate

section

variable {P : Call → Prop} (henv : ∀ name, P (.env name)) (hexists : ∀ p, P (.pathExists p))
  (hexecutable : ∀ p, P (.isExecutable p))

include hexists in
theorem allCalls_firstExisting (paths : List Path) : (Resolve.firstExisting paths).AllCalls P := by
  induction paths with
  | nil => exact Program.allCalls_pure _
  | cons p paths ih =>
    refine Program.allCalls_bind (Program.allCalls_ask (hexists p)) fun found => ?_
    cases found with
    | true => exact Program.allCalls_pure _
    | false => exact ih

include hexecutable in
theorem allCalls_ifExecutable {α ε : Type} (p : Path) {yes no : Attempt ε α}
    (hyes : Attempt.AllCalls P yes) (hno : Attempt.AllCalls P no) : Attempt.AllCalls P (do
      if ← Program.ask (.isExecutable p) then yes else no) := by
  refine Attempt.allCalls_bind (Attempt.allCalls_lift (Program.allCalls_ask (hexecutable p)))
    fun found => ?_
  cases found with
  | true => exact hyes
  | false => exact hno

include henv hexists hexecutable in
/-- A search looks at variables, at what exists and at what can be executed. -/
theorem allCalls_run (root : Path) (platform : Platform) :
    Attempt.AllCalls P (run root platform) := by
  unfold run
  cases platform.key? with
  | none => exact Attempt.allCalls_throw _
  | some key =>
    have hpackaged : (packagedBinary? root key).AllCalls P :=
      Program.allCalls_bind (Program.allCalls_bind (Program.allCalls_bind
        (Program.allCalls_ask (henv _)) fun _ => Program.allCalls_pure _)
        (allCalls_firstExisting hexists)) fun _ => Program.allCalls_pure _
    refine Attempt.allCalls_bind (Attempt.allCalls_lift hpackaged) fun packaged => ?_
    cases packaged with
    | none =>
      exact allCalls_ifExecutable hexecutable _ (Attempt.allCalls_pure _) (Attempt.allCalls_throw _)
    | some p =>
      exact allCalls_ifExecutable hexecutable _ (Attempt.allCalls_pure _)
        (allCalls_ifExecutable hexecutable _ (Attempt.allCalls_pure _) (Attempt.allCalls_throw _))

end

/-- A search prints nothing. -/
theorem printed_run {σ : Type} (h : Handler σ) (s : σ) (root : Path) (platform : Platform) :
    (run root platform).run.printed h s = [] :=
  Program.printed_eq_nil
    (allCalls_run (fun _ => rfl) (fun _ => rfl) (fun _ => rfl) root platform) h s

variable {σ : Type} (H : UnixHost σ) (s : σ)

/-- The root that the host comes to, and the host after that. -/
def rootOn : Except Report Path × σ :=
  match H.env? s rootVariable with
  | some root => if root.isEmpty then H.handler .currentDir s else (.ok (.ofText root), s)
  | none => H.handler .currentDir s

theorem run_packageRoot : packageRoot.run.run H.handler s = rootOn H s := by
  unfold packageRoot rootOn
  rw [ExceptT.run_bind, Install.run_lift_bind, Program.run_bind, Program.run_ask, H.handler_env]
  cases H.env? s rootVariable with
  | none => rfl
  | some root =>
    dsimp only
    split_ifs <;> rfl

theorem rootOn_of_ne_empty (h : H.env? s rootVariable ≠ some "") :
    rootOn H s = match H.env? s rootVariable with
      | some root => (.ok (.ofText root), s)
      | none => H.handler .currentDir s := by
  unfold rootOn
  cases hvalue : H.env? s rootVariable with
  | none => rfl
  | some root =>
    rw [hvalue, ne_eq, Option.some.injEq, ← String.isEmpty_iff] at h
    exact if_neg h

/-- What a search from a root comes to. -/
def searchFrom (r : Except Report Path × σ) : Except Report (Except Problem Path) :=
  r.1.map fun root => ((run root .host).run.run H.handler r.2).1

theorem run_onHost : (onHost.run.run H.handler s).1 = searchFrom H (rootOn H s) := by
  unfold onHost searchFrom
  rw [ExceptT.run_bind, Program.run_bind, run_packageRoot]
  cases (rootOn H s).1 with
  | error e => rfl
  | ok root =>
    exact congrArg Prod.fst (Program.run_bind H.handler (run root .host).run
      (fun found => pure (Except.ok found)) (rootOn H s).2)

end Locate

/-! ## The root on the command line -/

namespace CommandLine

/-- What the environment says about the options. -/
def environment (root releaseUrl : Option String) : Opt → Option String
  | .root => root
  | .releaseUrl => releaseUrl
  | _ => none

/-- The settings that come from the environment alone. -/
def fromEnvironment (root releaseUrl : Option String) : Settings where
  root := root.map fun value => (.environment, .ofText value)
  releaseUrl := releaseUrl.map fun value => (.environment, value)

/-- Without options a level comes to what the environment says. -/
theorem finish_environment (root releaseUrl : Option String) :
    ({} : Level).finish (environment root releaseUrl) =
      if root = some "" then .error (.missingValue .root)
      else .ok (fromEnvironment root releaseUrl) := by
  have hset (value : String) : ({} : Settings).set .environment .root value =
      if value = "" then .error (.missingValue .root)
      else .ok { root := some (.environment, .ofText value) } := by
    simp only [Settings.set, String.isEmpty_iff]
  cases root with
  | none => cases releaseUrl <;> rfl
  | some value =>
    have hfirst : ({} : Level).finish (environment (some value) releaseUrl) = (do
        let settings ← ({} : Settings).set .environment .root value
        let l ← Level.addEnvironment (environment (some value) releaseUrl) Opt.all.tail { settings }
        return l.settings) := by
      show (do
        let l ← (do
          let settings ← ({} : Settings).set .environment .root value
          Level.addEnvironment (environment (some value) releaseUrl) Opt.all.tail { settings })
        return l.settings) = _
      rw [bind_assoc]
    rw [hfirst, hset]
    by_cases hempty : value = ""
    · rw [if_pos hempty, if_pos (congrArg some hempty)]
      rfl
    · rw [if_neg hempty, if_neg (mt Option.some.inj hempty)]
      cases releaseUrl <;> rfl

/-- The name of a command as the only argument. -/
theorem read_name {name : String} {c : Command} (hname : Command.ofName? name = some c)
    (root releaseUrl : Option String) :
    Arguments.read (environment root releaseUrl) [name] =
      if root = some "" then .error (.usage (.missingValue .root))
      else .ok (c, fromEnvironment root releaseUrl) := by
  have hlevel : readLevel true {} [name] = .ok ({}, some (c, [])) := by
    have hhelp : name ≠ helpName := by
      rintro rfl
      cases hname
    simp [readLevel, Level.waiting?, hhelp, hname]
  have hmerge : (fromEnvironment root releaseUrl).merge (fromEnvironment root releaseUrl) =
      fromEnvironment root releaseUrl := by
    cases root <;> cases releaseUrl <;> rfl
  unfold Arguments.read
  rw [hlevel]
  show (do
    let inner ← (({} : Level).finish (environment root releaseUrl)).mapError Stop.usage
    let outer ← (({} : Level).finish (environment root releaseUrl)).mapError Stop.usage
    pure (c, outer.merge inner)) = _
  rw [finish_environment]
  split_ifs
  · rfl
  · exact congrArg (fun settings => Except.ok (c, settings)) hmerge

variable {σ : Type} (H : UnixHost σ) (s : σ)

/-- What the name of a command comes to as the only argument. -/
def named (c : Command) : Program Nat :=
  if H.env? s Locate.rootVariable = some "" then (Stop.usage (.missingValue .root)).run
  else c.run (fromEnvironment (H.env? s Locate.rootVariable)
    (H.env? s "COMMENT_CHECKER_RELEASE_URL"))

/-- Reading the variables leaves the host as it is and prints nothing. -/
theorem run_singleton (name : String) : run [name] = (do
    let root ← Program.ask (.env Locate.rootVariable)
    let releaseUrl ← Program.ask (.env "COMMENT_CHECKER_RELEASE_URL")
    match Arguments.read (environment root releaseUrl) [name] with
    | .ok (command, settings) => command.run settings
    | .error stop => stop.run) := rfl

theorem run_name {name : String} {c : Command} (hname : Command.ofName? name = some c) :
    (run [name]).run H.handler s = (named H s c).run H.handler s ∧
      (run [name]).printed H.handler s = (named H s c).printed H.handler s := by
  have hask (variableName : String) :
      (Program.ask (.env variableName)).printed H.handler s = [] := rfl
  unfold named
  constructor
  · rw [run_singleton, Program.run_bind, Program.run_ask, H.handler_env, Program.run_bind,
      Program.run_ask, H.handler_env, read_name hname]
    split_ifs <;> rfl
  · rw [run_singleton, Program.printed_bind, Program.run_ask, H.handler_env, hask,
      Program.printed_bind, Program.run_ask, H.handler_env, hask, read_name hname]
    split_ifs <;> rfl

/-- The settings for a root. -/
def configAt (o : Options) (root : Path) : Config where
  root
  host := o.host.getD Release.defaultHost
  platform := o.platform.getD .host
  extractor := match o.extractor with
    | .native => .native
    | .system => .system (o.platform.getD .host).os
  timeout := o.timeout.getD (1000 * Config.downloadTimeout)

theorem ofOptions_given {o : Options} {root : Path} (h : o.root = some root) :
    Config.ofOptions o = pure (configAt o root) := by
  unfold Config.ofOptions
  rw [h]
  rfl

theorem ofOptions_missing {o : Options} (h : o.root = none) :
    Config.ofOptions o = do return configAt o (← Attempt.ofProgram (.ask .currentDir)) := by
  unfold Config.ofOptions
  rw [h]
  rfl

theorem printed_ofOptions {σ : Type} (h : Handler σ) (s : σ) (o : Options) :
    (Config.ofOptions o).run.printed h s = [] := by
  refine Program.printed_eq_nil ?_ h s
  cases hroot : o.root with
  | some root =>
    rw [ofOptions_given hroot]
    exact Attempt.allCalls_pure _
  | none =>
    rw [ofOptions_missing hroot]
    exact Attempt.allCalls_bind (Attempt.allCalls_ofProgram (Program.allCalls_ask rfl))
      fun _ => Attempt.allCalls_pure _

/-- A variable that is not empty leads to one root by both rules. -/
theorem run_ofOptions (releaseUrl : Option String) (h : H.env? s Locate.rootVariable ≠ some "") :
    (Config.ofOptions (fromEnvironment (H.env? s Locate.rootVariable) releaseUrl).options).run.run
        H.handler s =
      ((Locate.rootOn H s).1.map
          (configAt (fromEnvironment (H.env? s Locate.rootVariable) releaseUrl).options),
        (Locate.rootOn H s).2) := by
  rw [Locate.rootOn_of_ne_empty H s h]
  cases H.env? s Locate.rootVariable with
  | some root => rw [ofOptions_given rfl]; rfl
  | none =>
    rw [ofOptions_missing rfl, ExceptT.run_bind, Program.run_bind, Attempt.ofProgram,
      ExceptT.run_mk, Program.run_ask]
    dsimp only
    cases (H.handler .currentDir s).1 <;> rfl

/-! ## What is said about a path -/

/-- The exit status and the lines for what a search came to. -/
def shown : Except Report (Except Problem Path) → Nat × List (Channel × String)
  | .ok (.ok p) => (0, [(.out, p.display)])
  | .ok (.error problem) =>
    (1, [(.err, failureText (.ofChain (problem.message :: problem.sources)))])
  | .error e => (1, [(.err, failureText e)])

/-- Only a path that has been found is shown on the output channel with exit status 0. -/
theorem shown_eq_iff {r : Except Report (Except Problem Path)} {line : String} :
    shown r = (0, [(.out, line)]) ↔ ∃ p, r = .ok (.ok p) ∧ p.display = line := by
  rcases r with e | problem | p <;> simp [shown]

/-- The path that the command prints is the one that a search comes to. -/
theorem run_path (releaseUrl : Option String) (h : H.env? s Locate.rootVariable ≠ some "") :
    (((runPath (fromEnvironment (H.env? s Locate.rootVariable) releaseUrl)).run H.handler s).1,
        (runPath (fromEnvironment (H.env? s Locate.rootVariable) releaseUrl)).printed H.handler s) =
      shown (Locate.onHost.run.run H.handler s).1 := by
  rw [Locate.run_onHost]
  unfold runPath Locate.searchFrom
  rw [Program.run_bind, Program.printed_bind, printed_ofOptions, run_ofOptions H s releaseUrl h,
    List.nil_append]
  cases (Locate.rootOn H s).1 with
  | error e => rfl
  | ok root =>
    dsimp only [Except.map]
    have hroot : (configAt (fromEnvironment (H.env? s Locate.rootVariable) releaseUrl).options
        root).root = root := rfl
    have hplatform : (configAt (fromEnvironment (H.env? s Locate.rootVariable) releaseUrl).options
        root).platform = .host := rfl
    rw [Program.run_bind, Program.printed_bind, Locate.printed_run, List.nil_append, hroot,
      hplatform]
    cases ((Locate.run root .host).run.run H.handler (Locate.rootOn H s).2).1 <;> rfl

/-- An install that has its settings ends with exit status 0, whatever it is answered. -/
theorem run_install (h : Handler σ) (s : σ) (settings : Settings) :
    ((runInstall settings).run h s).1 = 0 := by
  unfold runInstall
  rw [Program.run_bind]
  cases ((Config.ofOptions settings.options).run.run h s).1 with
  | error e => rfl
  | ok c =>
    dsimp only
    rw [Program.run_bind, Program.run_bind]
    rfl

/-! ## Both commands -/

/-- The directory of the main package on the command line and in a search. Unless the variable is
set to the empty text, the command for the path ends with exit status 0 after a single line exactly
if a search finds a binary with that path, and an install ends with exit status 0, whatever else the
host answers. A search takes the empty text for no directory at all; on the command line it is no
value of the option, and both commands end with exit status 2 after saying so. -/
theorem path_and_install {σ : Type} (H : UnixHost σ) (s : σ) :
    (H.env? s Locate.rootVariable ≠ some "" →
      (∀ line, (((run ["path"]).run H.handler s).1 = 0 ∧
          (run ["path"]).printed H.handler s = [(.out, line)]) ↔
        ∃ p, (Locate.onHost.run.run H.handler s).1 = .ok (.ok p) ∧ p.display = line) ∧
      ((run ["install"]).run H.handler s).1 = 0) ∧
    (H.env? s Locate.rootVariable = some "" → ∀ name ∈ ["path", "install"],
      ((run [name]).run H.handler s).1 = 2 ∧
      (run [name]).printed H.handler s = [(.err, (UsageError.missingValue .root).message)]) := by
  refine ⟨fun h => ⟨fun line => ?_, ?_⟩, fun h name hname => ?_⟩
  · obtain ⟨hrun, hprinted⟩ := run_name H s (show Command.ofName? "path" = some .path from rfl)
    rw [hrun, hprinted, named, if_neg h, ← shown_eq_iff, ← run_path H s _ h, Prod.mk.injEq]
    rfl
  · rw [(run_name H s (show Command.ofName? "install" = some .install from rfl)).1, named, if_neg h]
    exact run_install H.handler s _
  · obtain ⟨c, hc⟩ : ∃ c, Command.ofName? name = some c := by
      rcases List.mem_cons.1 hname with rfl | hname
      · exact ⟨.path, rfl⟩
      · rw [List.mem_singleton.1 hname]
        exact ⟨.install, rfl⟩
    rw [(run_name H s hc).1, (run_name H s hc).2, named, if_pos h]
    exact ⟨rfl, rfl⟩

namespace Sample

/-- A process in the directory of a package that has the binary, with a value of the variable. -/
def packageHost (value : Option String) : Memory where
  tree := (Install.Sample.hostWith 0o755).tree
  cwd := .ofText "/p"
  env := value.toList.map fun v => (Locate.rootVariable, v)

end Sample

/-- With the variable set to the directory, or not set, the path is printed. -/
theorem path_and_install_sample :
    ∀ value ∈ [none, some "/p"],
      ((run ["path"]).run (Memory.handle noNetwork) (Sample.packageHost value, ())).1 = 0 ∧
      (run ["path"]).printed (Memory.handle noNetwork) (Sample.packageHost value, ()) =
        [(.out, "/p/bin/comment-checker")] ∧
      ((run ["install"]).run (Memory.handle noNetwork) (Sample.packageHost value, ())).1 =
        0 := by
  have hset : ∀ value ∈ [none, some "/p"],
      (Sample.packageHost value).env.lookup Locate.rootVariable ≠ some "" := by decide
  have hfound : ∀ value ∈ [none, some "/p"],
      (Locate.onHost.run.run (Memory.handle noNetwork) (Sample.packageHost value, ())).1 =
        .ok (.ok (.ofText "/p/bin/comment-checker")) := by decide +kernel
  intro value hvalue
  obtain ⟨hpath, hinstall⟩ := (path_and_install (.memory noNetwork)
    (Sample.packageHost value, ())).1 (hset value hvalue)
  obtain ⟨hexit, hprinted⟩ := (hpath "/p/bin/comment-checker").2
    ⟨_, hfound value hvalue, by decide +kernel⟩
  exact ⟨hexit, hprinted, hinstall⟩

/-- With the variable set to the empty text a search finds the binary, but both commands fail. -/
theorem empty_root_fails :
    (Locate.onHost.run.run (Memory.handle noNetwork) (Sample.packageHost (some ""), ())).1 =
        .ok (.ok (.ofText "/p/bin/comment-checker")) ∧
      ((run ["path"]).run (Memory.handle noNetwork) (Sample.packageHost (some ""), ())).1 = 2 ∧
      ((run ["install"]).run (Memory.handle noNetwork) (Sample.packageHost (some ""), ())).1 =
        2 := by
  decide +kernel

end CommandLine

end Provision
