import Mathlib.Data.List.Chain
import Provision.Proofs.Locating

/-!
# One install after another

A package can be installed any number of times, each time with another network, another release
host, other failures and, since the manifest may be replaced in between, another version.

* `Visit` is one such run and `Visit.Follows` says that nothing but the manifest has changed since
  the one before.
* `Visit.idle_of_provided` is the step: where the binary is, a run looks at it and does nothing.
  `Visit.idle_of_mem` carries this through all later runs.
* `installs_once` is the result: at most one run of a sequence installs the binary.
-/

namespace Provision.Install

open Memory

/-- One run that installs the binary for a key into the package at a root, with the host and the
network that it finds. -/
structure Visit (cwd root : Path) (key : Key) where
  Net : Type
  serve : Url → Net → Except NoResponse Response × Net
  net : Net
  host : Memory
  config : Config
  root_eq : config.root = root
  key?_eq : config.platform.key? = some key
  native : config.extractor = .native
  cwd_eq : host.cwd = cwd
  sound : Sound host.tree
  slashFree : ∀ version, versionIn? host.cwd config.root host.tree = some version →
    '/' ∉ version.toList

namespace Visit

variable {cwd root path : Path} {key : Key}

/-- What the run ends in: its outcome and what has become of the host and the network. -/
def result (v : Visit cwd root key) : Outcome × (Memory × v.Net) :=
  (run v.config).run (handle v.serve) (v.host, v.net)

def outcome (v : Visit cwd root key) : Outcome := v.result.1

/-- The files after the run. -/
def after (v : Visit cwd root key) : Tree Node := v.result.2.1.tree

/-- The calls of the run. -/
def calls (v : Visit cwd root key) : List Call :=
  (run v.config).trace (handle v.serve) (v.host, v.net)

/-- Does the run say that it has installed the binary? -/
def installs (v : Visit cwd root key) : Bool :=
  match v.outcome with
  | .installed .. => true
  | _ => false

/-- Between two runs nothing has happened, but that the manifest may have been replaced. -/
def Follows (v u : Visit cwd root key) : Prop :=
  OnlyIn (placeIn cwd (Manifest.pathIn root)) v.after u.host.tree

/-- The run finds the binary: it makes the one call that looks at it, and host and network are as
they were. -/
structure Idle (v : Visit cwd root key) (path : Path) : Prop where
  outcome_eq : v.outcome = .alreadyInstalled path
  calls_eq : v.calls = [.isFile path]
  unchanged : v.result.2 = (v.host, v.net)

/-! ## One run -/

/-- There is a file in the place of the binary. -/
def Provided (cwd root : Path) (key : Key) (t : Tree Node) : Prop :=
  ∃ bytes mode, node? t (placeIn cwd (Locate.binaryIn root key)) = some (.file bytes mode)

theorem place_binary (v : Visit cwd root key) :
    v.host.place (Locate.binaryIn v.config.root key) = placeIn cwd (Locate.binaryIn root key) := by
  rw [place_eq, v.cwd_eq, v.root_eq]

theorem trace_runFor {σ : Type} {h : Handler σ} {c : Config} {s : σ}
    (hfile : (h (.isFile (Locate.binaryIn c.root key)) s).1 = true) :
    (runFor c key).trace h s = [.isFile (Locate.binaryIn c.root key)] := by
  unfold runFor
  show Call.isFile _ :: Program.trace h (if (h (.isFile _) s).1 then _ else _) _ = _
  rw [if_pos hfile]
  rfl

/-- Where the binary is, a run does nothing. -/
theorem idle_of_provided {v : Visit cwd root key} (h : Provided cwd root key v.host.tree) :
    v.Idle (Locate.binaryIn root key) := by
  have hlook : (handle v.serve (.isFile (Locate.binaryIn v.config.root key))
      (v.host, v.net)).1 = true := by
    rw [handle_isFile_iff, v.place_binary]
    exact h
  have hresult : v.result =
      (.alreadyInstalled (Locate.binaryIn root key), (v.host, v.net)) := by
    rw [result, run_eq v.key?_eq]
    rcases outcome_cases (handle v.serve) v.config key (v.host, v.net) with ⟨-, hrun⟩ | ⟨hnone, -⟩
    · rw [hrun, v.root_eq]
      rfl
    · rw [hlook] at hnone
      cases hnone
  refine ⟨?_, ?_, ?_⟩
  · rw [outcome, hresult]
  · rw [calls, run_eq v.key?_eq, trace_runFor hlook, v.root_eq]
  · rw [hresult]

/-- A run that installs the binary leaves it in its place. -/
theorem provided_after {v : Visit cwd root key} {key' : Key}
    (h : v.outcome = .installed key' path) :
    path = Locate.binaryIn root key ∧ Provided cwd root key v.after := by
  obtain ⟨-, rfl, bytes, mode, hfile, -⟩ :=
    file_of_installed v.key?_eq v.native v.sound v.slashFree h
  rw [v.place_binary] at hfile
  exact ⟨by rw [v.root_eq], bytes, mode, hfile⟩

/-- What happens between two runs does not touch the binary. -/
theorem Follows.provided {v u : Visit cwd root key} (h : v.Follows u)
    (hv : Provided cwd root key v.after) : Provided cwd root key u.host.tree := by
  obtain ⟨bytes, mode, hfile⟩ := hv
  refine ⟨bytes, mode, ?_⟩
  rw [h _ ?_, hfile]
  -- the manifest lies beside the `bin` directory, not above the binary
  rw [place_manifest, place_binaryIn, List.prefix_append_right_inj, List.cons_prefix_cons]
  rintro ⟨hname, -⟩
  exact absurd hname (by decide)

theorem Idle.after_eq {v : Visit cwd root key} (h : v.Idle path) : v.after = v.host.tree := by
  rw [after, h.unchanged]

theorem Idle.not_installs {v : Visit cwd root key} (h : v.Idle path) : v.installs = false := by
  rw [installs, h.outcome_eq]

/-! ## Many runs -/

/-- Once the binary is there, all later runs are idle. -/
theorem idle_of_mem {v : Visit cwd root key} {visits : List (Visit cwd root key)}
    (hchain : (v :: visits).IsChain Follows) (hv : Provided cwd root key v.after) :
    ∀ u ∈ visits, u.Idle (Locate.binaryIn root key) := by
  -- on the runs after `v`: the first of them finds the binary, so it leaves it for the rest
  induction visits generalizing v with
  | nil =>
    intro u hu
    cases hu
  | cons next visits ih =>
    rw [List.isChain_cons_cons] at hchain
    have hnext : Provided cwd root key next.host.tree := hchain.1.provided hv
    have hidle : next.Idle (Locate.binaryIn root key) := idle_of_provided hnext
    rw [List.forall_mem_cons]
    refine ⟨hidle, ih hchain.2 ?_⟩
    rw [hidle.after_eq]
    exact hnext

/-- Each run that installs the binary is followed by idle ones only. -/
theorem pairwise_idle {visits : List (Visit cwd root key)} (hchain : visits.IsChain Follows) :
    visits.Pairwise fun v u => ∀ key' path, v.outcome = .installed key' path → u.Idle path := by
  induction visits with
  | nil => exact .nil
  | cons v visits ih =>
    refine .cons ?_ (ih hchain.tail)
    intro u hu key' path hv
    obtain ⟨rfl, hprovided⟩ := provided_after hv
    exact idle_of_mem hchain hprovided u hu

theorem exists_of_installs {v : Visit cwd root key} (h : v.installs = true) :
    ∃ key' path, v.outcome = .installed key' path := by
  unfold installs at h
  split at h
  · exact ⟨_, _, ‹_›⟩
  · cases h

theorem countP_installs_le_one {visits : List (Visit cwd root key)}
    (h : visits.Pairwise fun v u => ∀ key' path, v.outcome = .installed key' path → u.Idle path) :
    visits.countP installs ≤ 1 := by
  induction h with
  | nil => exact Nat.zero_le 1
  | @cons v visits hv _ ih =>
    rw [List.countP_cons]
    split
    · obtain ⟨key', path, ho⟩ := exists_of_installs ‹_›
      have hnone : visits.countP installs = 0 := by
        rw [List.countP_eq_zero]
        intro u hu
        rw [(hv u hu key' path ho).not_installs]
        exact Bool.false_ne_true
      omega
    · omega

end Visit

/-- Installing is idempotent over whole sequences of runs. Whatever the networks, the release hosts,
the versions and the failures of the runs are, at most one of them installs the binary, and every
run after that one finds it, makes no other call and leaves all as it was. -/
theorem installs_once {cwd root : Path} {key : Key} (visits : List (Visit cwd root key))
    (hchain : visits.IsChain Visit.Follows) :
    visits.countP Visit.installs ≤ 1 ∧
      visits.Pairwise fun v u =>
        ∀ key' path, v.outcome = .installed key' path → u.Idle path := by
  have hidle := Visit.pairwise_idle hchain
  exact ⟨Visit.countP_installs_le_one hidle, hidle⟩

namespace Sample

/-- An install of the small archive. -/
def first : Visit host.cwd config.root .win32X64 where
  Net := Unit
  serve := serve
  net := ()
  host := host
  config := config
  root_eq := rfl
  key?_eq := rfl
  native := rfl
  cwd_eq := rfl
  sound := sound_host
  slashFree := slashFree_host

/-- The files with the manifest of another version. -/
def republished (t : Tree Node) : Tree Node :=
  t.set (placeIn host.cwd (Manifest.pathIn config.root)) (.file (manifestOf "2") 0o644)

theorem sound_republished : Sound (republished first.after) := by decide +kernel

theorem versionIn?_republished :
    versionIn? host.cwd config.root (republished first.after) = some "2" := by
  decide +kernel

/-- An install of another version, from another host and without a network. -/
def second : Visit host.cwd config.root .win32X64 where
  Net := Unit
  serve := noNetwork
  net := ()
  host := { tree := republished first.after }
  config := { config with host := "http://h" }
  root_eq := rfl
  key?_eq := rfl
  native := rfl
  cwd_eq := rfl
  sound := sound_republished
  slashFree := by
    intro v hv
    have htwo := versionIn?_republished.symm.trans hv
    cases htwo
    decide

end Sample

/-- The small archive is installed, and with another manifest and no network the binary is found
again. -/
theorem installs_once_sample :
    Sample.first.outcome =
        .installed .win32X64 (Locate.binaryIn Sample.config.root .win32X64) ∧
      Sample.second.Idle (Locate.binaryIn Sample.config.root .win32X64) := by
  have hfirst : Sample.first.outcome =
      .installed .win32X64 (Locate.binaryIn Sample.config.root .win32X64) := by decide +kernel
  have hfollows : Sample.first.Follows Sample.second :=
    onlyIn_set _ _ (by decide +kernel) (List.prefix_refl _)
  have h := installs_once [Sample.first, Sample.second] (.cons_cons hfollows (.singleton _))
  exact ⟨hfirst, List.rel_of_pairwise_cons h.2 (List.mem_singleton_self _) _ _ hfirst⟩

end Provision.Install
