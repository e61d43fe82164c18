import Provision.Proofs.Files
import Provision.Proofs.Runs

/-!
# What one call can do

The steps of the memory host, without its log of calls, its messages and the bookkeeping of injected
failures: a call either meets an injected failure, of a kind that the setting allows, or does to the
tree what the operation says.

* `Memory.Setting` fixes the current directory, the network and the points at which failures may be
  injected; `Setting.Effect` says what each call can do there.
* `keeps_step`: the memory host keeps to it and its tree stays sound.
* `meets_rename` and its like say of every call what a program that makes it meets.
-/

namespace Provision.Memory

open Provision.Path (IsName)

variable {α η : Type}

/-- What a call depends on and changes: the tree of files and the network. -/
@[ext] structure View (η : Type) where
  tree : Tree Node
  net : η

/-- What a run depends on and changes: a sound tree and the network. -/
@[ext] structure World (η : Type) extends View η where
  sound : Sound tree

/-- What stays the same during a run. -/
structure Setting (η : Type) where
  /-- The current directory. -/
  cwd : Path
  /-- How the network answers. -/
  serve : Url → η → Except NoResponse Response × η
  /-- The points at which failures may be injected. -/
  mayFail : Point → Prop

namespace Setting

variable (S : Setting η)

/-- The place of a path. -/
abbrev place (p : Path) : Place := placeIn S.cwd p

/-- An injected failure at a point. -/
def Fails (point : Point) (r : Except Report α) : Prop := S.mayFail point ∧ ∃ e, r = .error e

/-- A change of the tree, unless a failure is injected. -/
def Changes (point : Point) (result : Except Report (Tree Node)) (w : View η)
    (r : Except Report Unit) (w' : View η) : Prop :=
  (S.Fails point r ∧ w' = w) ∨ (∃ e, result = .error e ∧ r = .error e ∧ w' = w) ∨
    ∃ t, result = .ok t ∧ r = .ok () ∧ w' = { w with tree := t }

/-- A look at the tree, unless a failure is injected. -/
def Looks (point : Point) (result : Except Report α) (w : View η) (r : Except Report α)
    (w' : View η) : Prop :=
  (S.Fails point r ∨ r = result) ∧ w' = w

/-- What the writer of a created file is like. -/
structure Writes (path : Path) (f : Writer) : Prop where
  path_eq : f.path = path
  limit : f.limit.isSome → S.mayFail .write
  flush : f.flushFault.isSome → S.mayFail .flush

/-- What the stream of an opened file is like: all its bytes, or some of them before a failure. -/
def Reads (bytes : Bytes) (s : Stream) : Prop :=
  s = ⟨bytes, none⟩ ∨ S.mayFail .read ∧ ∃ k message, s = ⟨bytes.take k, some message⟩

/-- What each call can do. -/
def Effect : Rule (View η)
  | .env _, w, _, w' => w' = w
  | .currentDir, w, _, w' => w' = w
  | .readText path, w, r, w' =>
    S.Looks .readText (do
      let (bytes, _) ← file w.tree (S.place path)
      match Utf8.decode? bytes with
      | some text => return text
      | none => throw (failure "invalid utf-8")) w r w'
  | .rename source target, w, r, w' =>
    S.Changes .rename (moveNode w.tree (S.place source) (S.place target)) w r w'
  | .createDirs path, w, r, w' =>
    (S.Fails .createDirs r ∧ w' = w) ∨
      r = (makeDirs w.tree [] (S.place path)).1 ∧
        w' = { w with tree := (makeDirs w.tree [] (S.place path)).2 }
  | .removeFile path, w, r, w' => S.Changes .removeFile (dropFile w.tree (S.place path)) w r w'
  | .removeTree path, w, r, w' => S.Changes .removeTree (dropDir w.tree (S.place path)) w r w'
  | .pathExists path, w, r, w' => r = (node? w.tree (S.place path)).isSome ∧ w' = w
  | .isDir path, w, r, w' => r = hasDir w.tree (S.place path) ∧ w' = w
  | .isFile path, w, r, w' => r = (file w.tree (S.place path)).isOk ∧ w' = w
  | .list path, w, r, w' =>
    S.Looks .list (if hasDir w.tree (S.place path) then
      .ok ((w.tree.names (S.place path)).map path.child) else .error notDirectory) w r w'
  | .create path, w, r, w' =>
    (S.Fails .create r ∧ w' = w) ∨
      (∃ e, makeFile w.tree (S.place path) = .error e ∧ r = .error e ∧ w' = w) ∨
      ∃ t f, makeFile w.tree (S.place path) = .ok t ∧ S.Writes path f ∧ r = .ok f ∧
        w' = { w with tree := t }
  | .write f chunk, w, r, w' =>
    (r = .ok () ∧ w' = { w with tree := append w.tree (S.place f.path) chunk }) ∨
      f.limit.isSome ∧ (∃ e, r = .error e) ∧
        ∃ k, w' = { w with tree := append w.tree (S.place f.path) (chunk.take k) }
  | .flush f, w, r, w' => (r = .ok () ∨ f.flushFault.isSome ∧ ∃ e, r = .error e) ∧ w' = w
  | .openFile path, w, r, w' =>
    (S.Fails .openFile r ∨ (∃ e, file w.tree (S.place path) = .error e ∧ r = .error e) ∨
      ∃ bytes mode s, file w.tree (S.place path) = .ok (bytes, mode) ∧ S.Reads bytes s ∧
        r = .ok s) ∧ w' = w
  | .size path, w, r, w' =>
    S.Looks .size ((file w.tree (S.place path)).map (·.1.length)) w r w'
  | .isExecutable _, w, _, w' => w' = w
  | .setMode path mode, w, r, w' =>
    S.Changes .setMode (changeMode w.tree (S.place path) mode) w r w'
  | .request url, w, r, w' => (r, w'.net) = S.serve url w.net ∧ w'.tree = w.tree
  | .runTool _, w, r, w' => (∃ e, r = .error e) ∧ w' = w
  | .log .., w, _, w' => w' = w
  | .print .., w, _, w' => w' = w

/-- A step: what a call can do, from a sound tree to a sound tree. -/
def Step : Rule (World η) := fun c w a w' => S.Effect c w.toView a w'.toView

/-- A host in the setting. -/
structure Hosts (m : Memory) : Prop where
  cwd : m.cwd = S.cwd
  faults : ∀ f ∈ m.faults, S.mayFail f.point
  sound : Sound m.tree

/-- What a host and its network look like. -/
def view (s : Memory × η) : View η := ⟨s.1.tree, s.2⟩

/-- A host in the setting and its network show a world. -/
def Shows (s : Memory × η) (w : World η) : Prop := S.Hosts s.1 ∧ view s = w.toView

/-- The setting of a host with a network. -/
def ofHost (serve : Url → η → Except NoResponse Response × η) (m : Memory) : Setting η where
  cwd := m.cwd
  serve := serve
  mayFail point := ∃ f ∈ m.faults, f.point = point

end Setting

theorem Setting.Shows.tree {S : Setting η} {s : Memory × η} {w : World η} (h : S.Shows s w) :
    s.1.tree = w.tree := (View.ext_iff.1 h.2).1

theorem Setting.Shows.net {S : Setting η} {s : Memory × η} {w : World η} (h : S.Shows s w) :
    s.2 = w.net := (View.ext_iff.1 h.2).2

/-- The world that a host and its network show. -/
def World.ofHost (m : Memory) (n : η) (h : Sound m.tree) : World η := ⟨⟨m.tree, n⟩, h⟩

theorem shows_ofHost (serve : Url → η → Except NoResponse Response × η) {m : Memory} (n : η)
    (h : Sound m.tree) : (Setting.ofHost serve m).Shows (m, n) (.ofHost m n h) :=
  ⟨⟨rfl, fun f hf => ⟨f, hf, rfl⟩, h⟩, rfl⟩

/-! ## The host keeps to it -/

/-- A fault that fires was injected at its point, and no other points come up. -/
theorem fire_spec (point : Point) (place : Place) {P : Point → Prop} {faults : List Fault}
    (h : ∀ f ∈ faults, P f.point) :
    (∀ f, (fire point place faults).1 = some f → P point) ∧
      ∀ f ∈ (fire point place faults).2, P f.point := by
  induction faults with
  | nil => simp [fire]
  | cons f rest ih =>
    have hf : P f.point := h f (List.mem_cons_self ..)
    obtain ⟨ih₁, ih₂⟩ := ih fun g hg => h g (List.mem_cons_of_mem _ hg)
    have hpass : ∀ g : Fault, g.point = f.point →
        (∀ x, (fire point place rest).1 = some x → P point) ∧
          ∀ x ∈ g :: (fire point place rest).2, P x.point := by
      intro g hg
      refine ⟨ih₁, fun x hx => ?_⟩
      rcases List.mem_cons.1 hx with rfl | hx
      · rwa [hg]
      · exact ih₂ x hx
    rw [fire]
    by_cases hc : f.concerns point place = true
    · have hpoint : P point := by
        unfold Fault.concerns at hc
        rw [Bool.and_eq_true] at hc
        rw [← eq_of_beq hc.1]
        exact hf
      rw [if_neg (not_not.2 hc)]
      split_ifs with hs
      · exact hpass _ rfl
      · split
        · exact ⟨fun _ _ => hpoint, h⟩
        · exact hpass f rfl
        · refine ⟨fun _ _ => hpoint, fun x hx => ?_⟩
          rcases List.mem_cons.1 hx with rfl | hx
          · exact hf
          · exact h x (List.mem_cons_of_mem _ hx)
    · rw [if_pos hc]
      exact hpass f rfl

section Host

variable {S : Setting η} {m : Memory} {point : Point} {p : Place}

theorem Setting.Hosts.withTree (hm : S.Hosts m) {t : Tree Node} (ht : Sound t) :
    S.Hosts { m with tree := t } := ⟨hm.cwd, hm.faults, ht⟩

/-- A call meets an injected failure, or is made by the host after the faults have been looked
through. -/
theorem attempt_cases (hm : S.Hosts m) (point : Point) (p : Place)
    (act : Memory → Except Report α × Memory) :
    (∃ e m', m.attempt point p act = (.error e, m') ∧ S.mayFail point ∧ m'.tree = m.tree ∧
      S.Hosts m') ∨
    ∃ m', m.attempt point p act = act m' ∧ m'.tree = m.tree ∧ S.Hosts m' := by
  obtain ⟨hfire, hrest⟩ := fire_spec point p hm.faults
  unfold attempt
  cases hf : fire point p m.faults with
  | mk found faults =>
    rw [hf] at hfire hrest
    cases found with
    | some f => exact .inl ⟨_, _, rfl, hfire f rfl, rfl, hm.cwd, hrest, hm.sound⟩
    | none => exact .inr ⟨_, rfl, rfl, hm.cwd, hrest, hm.sound⟩

theorem query_step (hm : S.Hosts m) (n : η) (look : Tree Node → Except Report α) :
    S.Looks point (look m.tree) ⟨m.tree, n⟩ (m.query point p look).1
        ⟨(m.query point p look).2.tree, n⟩ ∧
      S.Hosts (m.query point p look).2 := by
  rcases attempt_cases hm point p fun m => (look m.tree, m) with
    ⟨e, m', he, hfail, ht, hm'⟩ | ⟨m', he, ht, hm'⟩
  · rw [query, he]
    exact ⟨⟨.inl ⟨hfail, e, rfl⟩, by rw [ht]⟩, hm'⟩
  · rw [query, he]
    exact ⟨⟨.inr (by rw [ht]), by rw [ht]⟩, hm'⟩

theorem change_step (hm : S.Hosts m) (n : η) (point : Point) (p : Place)
    (act : Tree Node → Except Report (Tree Node)) (hs : ∀ t, act m.tree = .ok t → Sound t) :
    S.Changes point (act m.tree) ⟨m.tree, n⟩ (m.change point p act).1
        ⟨(m.change point p act).2.tree, n⟩ ∧
      S.Hosts (m.change point p act).2 := by
  rw [change]
  rcases attempt_cases hm point p _ with
    ⟨e, m', he, hfail, ht, hm'⟩ | ⟨m', he, ht, hm'⟩
  · rw [he]
    exact ⟨.inl ⟨⟨hfail, e, rfl⟩, by rw [ht]⟩, hm'⟩
  · rw [he]
    rw [ht]
    cases hact : act m.tree with
    | error e => exact ⟨.inr (.inl ⟨e, rfl, rfl, by rw [ht]⟩), hm'⟩
    | ok t => exact ⟨.inr (.inr ⟨t, rfl, rfl, rfl⟩), hm'.withTree (hs t hact)⟩

theorem hosts_record (c : Call) {r : Except Report α × Memory} (h : S.Hosts r.2) :
    S.Hosts (record c r).2 := ⟨h.cwd, h.faults, h.sound⟩

theorem writer_spec (hm : S.Hosts m) (path : Path) :
    S.Writes path (m.writer path p).1 ∧ (m.writer path p).2.tree = m.tree ∧
      S.Hosts (m.writer path p).2 := by
  obtain ⟨hw, hrest⟩ := fire_spec .write p hm.faults
  obtain ⟨hf, hrest'⟩ := fire_spec .flush p hrest
  refine ⟨⟨rfl, fun h => ?_, fun h => ?_⟩, rfl, hm.cwd, hrest', hm.sound⟩
  · simp only [writer, Option.isSome_map] at h
    obtain ⟨f, hf⟩ := Option.isSome_iff_exists.1 h
    exact hw f hf
  · simp only [writer, Option.isSome_map] at h
    obtain ⟨f, hf'⟩ := Option.isSome_iff_exists.1 h
    exact hf f hf'

theorem stream_spec (hm : S.Hosts m) (bytes : Bytes) :
    S.Reads bytes (m.stream p bytes).1 ∧ (m.stream p bytes).2.tree = m.tree ∧
      S.Hosts (m.stream p bytes).2 := by
  obtain ⟨hr, hrest⟩ := fire_spec .read p hm.faults
  refine ⟨?_, rfl, hm.cwd, hrest, hm.sound⟩
  unfold stream
  dsimp only
  cases hf : (fire .read p m.faults).1 with
  | none => exact .inl rfl
  | some f =>
    dsimp only
    split_ifs
    · exact .inr ⟨hr f hf, _, _, rfl⟩
    · exact .inl rfl

theorem sound_append (hs : Sound m.tree) (hn : ∀ n ∈ p, IsName n) (chunk : Bytes) :
    Sound (append m.tree p chunk) := by
  rcases append_cases m.tree p chunk with ⟨bytes, mode, hp, hf, he⟩ | ⟨-, he⟩
  · rw [he]
    exact hs.replaceFile hp hn hf
  · rwa [he]

theorem sound_makeFile {t : Tree Node} (hs : Sound m.tree) (hn : ∀ n ∈ p, IsName n)
    (h : makeFile m.tree p = .ok t) : Sound t := by
  obtain ⟨hp, ⟨bytes, mode, hf, rfl⟩ | ⟨hnone, hd, rfl⟩⟩ := makeFile_ok h
  · exact hs.replaceFile hp hn hf
  · exact hs.setFile hp hn hd (by rw [hnone]; simp)

theorem sound_changeMode {t : Tree Node} {mode : Nat} (hs : Sound m.tree)
    (hn : ∀ n ∈ p, IsName n) (h : changeMode m.tree p mode = .ok t) : Sound t := by
  rcases changeMode_ok h with ⟨-, rfl⟩ | ⟨bytes, old, hp, hf, rfl⟩
  · exact hs
  · exact hs.replaceFile hp hn hf

theorem sound_removeAt (hs : Sound m.tree) : Sound (m.tree.removeAt p) := by
  by_cases hp : p = []
  · subst hp
    refine ⟨fun a n h => ?_, fun a n h => ?_⟩ <;>
    · rw [node?_concat, Tree.get?_removeAt] at h
      simp [Tree.isAtOrBelow] at h
  · exact hs.removeAt hp

end Host

/-- The memory host keeps to the setting. -/
theorem keeps_step (S : Setting η) :
    Program.Keeps (handle S.serve) S.Step S.Shows := by
  rintro c ⟨m, n⟩ w ⟨hm, hw⟩
  suffices h : S.Effect c ⟨m.tree, n⟩ (handle S.serve c (m, n)).1
      (Setting.view (handle S.serve c (m, n)).2) ∧ S.Hosts (handle S.serve c (m, n)).2.1 from
    ⟨⟨_, h.2.sound⟩, by rw [Setting.Step, ← hw]; exact h.1, h.2, rfl⟩
  have hplace : ∀ q, m.place q = S.place q := by
    intro q
    rw [place_eq, Setting.place, hm.cwd]
  have hname : ∀ q, ∀ x ∈ S.place q, IsName x := fun q => isName_of_mem_placeIn
  cases c with
  | env name => exact ⟨rfl, hm⟩
  | currentDir =>
    rcases attempt_cases hm .currentDir [] fun m => (.ok m.cwd, m) with
      ⟨e, m', he, -, ht, hm'⟩ | ⟨m', he, ht, hm'⟩
    · simp only [handle, he]
      exact ⟨congrArg (View.mk · n) ht, hm'⟩
    · simp only [handle, he]
      exact ⟨congrArg (View.mk · n) ht, hm'⟩
  | readText path =>
    simp only [handle, hplace]
    exact query_step hm n _
  | rename source target =>
    simp only [handle, hplace]
    have := change_step hm n .rename (S.place source)
      (fun t => moveNode t (S.place source) (S.place target))
      fun t ht => hm.sound.moveNode (hname target) ht
    exact ⟨this.1, hosts_record _ this.2⟩
  | createDirs path =>
    simp only [handle, hplace]
    rcases attempt_cases hm .createDirs (S.place path) fun m =>
      ((makeDirs m.tree [] (S.place path)).1,
        { m with tree := (makeDirs m.tree [] (S.place path)).2 }) with
      ⟨e, m', he, hfail, ht, hm'⟩ | ⟨m', he, ht, hm'⟩
    · rw [he]
      exact ⟨.inl ⟨⟨hfail, e, rfl⟩, by simp only [Setting.view, record, ht]⟩, hosts_record _ hm'⟩
    · rw [he]
      refine ⟨.inr ?_, hosts_record _ (hm'.withTree ?_)⟩
      · simp only [Setting.view, record, ht, and_self]
      · rw [ht]
        exact hm.sound.makeDirs (node?_nil _) (hname path)
  | removeFile path =>
    simp only [handle, hplace]
    have := change_step hm n .removeFile (S.place path) (fun t => dropFile t (S.place path))
      fun t ht => by rw [(dropFile_ok ht).2]; exact sound_removeAt hm.sound
    exact ⟨this.1, hosts_record _ this.2⟩
  | removeTree path =>
    simp only [handle, hplace]
    have := change_step hm n .removeTree (S.place path) (fun t => dropDir t (S.place path))
      fun t ht => by rw [(dropDir_ok ht).2]; exact sound_removeAt hm.sound
    exact ⟨this.1, hosts_record _ this.2⟩
  | pathExists path => exact ⟨⟨by simp only [handle, hplace], rfl⟩, hm⟩
  | isDir path => exact ⟨⟨by simp only [handle, hplace], rfl⟩, hm⟩
  | isFile path => exact ⟨⟨by simp only [handle, hplace], rfl⟩, hm⟩
  | list path =>
    simp only [handle, hplace]
    exact query_step hm n _
  | create path =>
    simp only [handle, hplace]
    rcases attempt_cases hm .create (S.place path) _ with
      ⟨e, m', he, hfail, ht, hm'⟩ | ⟨m', he, ht, hm'⟩
    · rw [he]
      exact ⟨.inl ⟨⟨hfail, e, rfl⟩, by simp only [Setting.view, record, ht]⟩, hosts_record _ hm'⟩
    · rw [he]
      rw [ht]
      cases hmake : makeFile m.tree (S.place path) with
      | error e =>
        exact ⟨.inr (.inl ⟨e, hmake, rfl, by simp only [Setting.view, record, ht]⟩),
          hosts_record _ hm'⟩
      | ok t =>
        obtain ⟨hw, htree, hm''⟩ := writer_spec (p := S.place path)
          (hm'.withTree (sound_makeFile hm.sound (hname path) hmake)) path
        refine ⟨.inr (.inr ⟨t, _, hmake, hw, rfl, ?_⟩), hosts_record _ hm''⟩
        simp only [Setting.view, record, htree]
  | write f chunk =>
    simp only [handle, write, hplace]
    cases hl : f.limit with
    | none => exact ⟨.inl ⟨rfl, rfl⟩, hm.withTree (sound_append hm.sound (hname f.path) chunk)⟩
    | some limit =>
      dsimp only
      split_ifs with hroom
      · exact ⟨.inl ⟨rfl, rfl⟩, hm.withTree (sound_append hm.sound (hname f.path) chunk)⟩
      · exact ⟨.inr ⟨by rw [hl]; rfl, ⟨_, rfl⟩, _, rfl⟩,
          hm.withTree (sound_append hm.sound (hname f.path) _)⟩
  | flush f =>
    simp only [handle]
    cases hf : f.flushFault with
    | none => exact ⟨⟨.inl rfl, rfl⟩, hm⟩
    | some message => exact ⟨⟨.inr ⟨by rw [hf]; rfl, _, rfl⟩, rfl⟩, hm⟩
  | openFile path =>
    simp only [handle, hplace]
    rcases attempt_cases hm .openFile (S.place path) _ with
      ⟨e, m', he, hfail, ht, hm'⟩ | ⟨m', he, ht, hm'⟩
    · rw [he]
      exact ⟨⟨.inl ⟨hfail, e, rfl⟩, by rw [Setting.view, ht]⟩, hm'⟩
    · rw [he]
      rw [ht]
      cases hfile : file m.tree (S.place path) with
      | error e => exact ⟨⟨.inr (.inl ⟨e, hfile, rfl⟩), by rw [Setting.view, ht]⟩, hm'⟩
      | ok content =>
        obtain ⟨hr, htree, hm''⟩ := stream_spec (p := S.place path) hm' content.1
        exact ⟨⟨.inr (.inr ⟨content.1, content.2, _, hfile, hr, rfl⟩), by
          rw [Setting.view, htree, ht]⟩, hm''⟩
  | size path =>
    simp only [handle, hplace]
    exact query_step hm n _
  | isExecutable path => exact ⟨rfl, hm⟩
  | setMode path mode =>
    simp only [handle, hplace]
    have := change_step hm n .setMode (S.place path) (fun t => changeMode t (S.place path) mode)
      fun t ht => sound_changeMode hm.sound (hname path) ht
    exact ⟨this.1, hosts_record _ this.2⟩
  | request url => exact ⟨⟨rfl, rfl⟩, hm⟩
  | runTool tool => exact ⟨⟨⟨_, rfl⟩, rfl⟩, hm⟩
  | log level message => exact ⟨rfl, hm.cwd, hm.faults, hm.sound⟩
  | print channel line => exact ⟨rfl, hm.cwd, hm.faults, hm.sound⟩

theorem keeps_ofHost (serve : Url → η → Except NoResponse Response × η) (m : Memory) :
    Program.Keeps (handle serve) (Setting.ofHost serve m).Step (Setting.ofHost serve m).Shows :=
  keeps_step (.ofHost serve m)

/-! ## What the calls meet -/

section Calls

variable {S : Setting η} {I : World η → Prop} {w w' : World η} {point : Point}

theorem World.eq_of_view (h : w'.toView = w.toView) : w' = w :=
  World.ext (View.ext_iff.1 h).1 (View.ext_iff.1 h).2

/-- A call may fail: at this point failures may be injected, or the operation fails by itself. -/
def Setting.Refuses (S : Setting η) (point : Point) (result : Except Report α) : Prop :=
  S.mayFail point ∨ ∃ e, result = .error e

theorem Setting.Changes.elim {result : Except Report (Tree Node)} {r : Except Report Unit}
    {Q : Unit → World η → Prop} {R : Report → World η → Prop}
    (h : S.Changes point result w.toView r w'.toView)
    (hok : result = .ok w'.tree → w'.net = w.net → Q () w')
    (herr : ∀ e, S.Refuses point result → R e w) : Attempt.Ends Q R r w' := by
  rcases h with ⟨⟨hf, e, rfl⟩, hw⟩ | ⟨e, he, rfl, hw⟩ | ⟨t, ht, rfl, hw⟩
  · rw [World.eq_of_view hw]
    exact herr e (.inl hf)
  · rw [World.eq_of_view hw]
    exact herr e (.inr ⟨e, he⟩)
  · refine hok ?_ (View.ext_iff.1 hw).2
    rw [ht, (View.ext_iff.1 hw).1]

theorem Setting.Looks.elim {result r : Except Report α} {Q : α → World η → Prop}
    {R : Report → World η → Prop} (h : S.Looks point result w.toView r w'.toView)
    (hok : ∀ a, result = .ok a → Q a w) (herr : ∀ e, S.Refuses point result → R e w) :
    Attempt.Ends Q R r w' := by
  obtain ⟨hr, hw⟩ := h
  rw [World.eq_of_view hw]
  rcases hr with ⟨hf, e, rfl⟩ | rfl
  · exact herr e (.inl hf)
  · cases r with
    | ok a => exact hok a rfl
    | error e => exact herr e (.inr ⟨e, rfl⟩)

theorem meets_log {Q : Unit → World η → Prop} (hI : I w) (h : Q () w) (level : Level)
    (message : String) : (Program.ask (.log level message)).Meets S.Step I Q w :=
  Program.meets_ask hI fun _ _ hstep => by rwa [World.eq_of_view hstep]

theorem meets_print {Q : Unit → World η → Prop} (hI : I w) (h : Q () w) (channel : Channel)
    (line : String) : (Program.ask (.print channel line)).Meets S.Step I Q w :=
  Program.meets_ask hI fun _ _ hstep => by rwa [World.eq_of_view hstep]

section Look

variable {path : Path} {Q : Bool → World η → Prop}

theorem meets_pathExists (hI : I w) (h : Q (node? w.tree (S.place path)).isSome w) :
    (Program.ask (.pathExists path)).Meets S.Step I Q w := by
  refine Program.meets_ask hI ?_
  rintro r w' ⟨rfl, hw⟩
  rwa [World.eq_of_view hw]

theorem meets_isDir (hI : I w) (h : Q (hasDir w.tree (S.place path)) w) :
    (Program.ask (.isDir path)).Meets S.Step I Q w := by
  refine Program.meets_ask hI ?_
  rintro r w' ⟨rfl, hw⟩
  rwa [World.eq_of_view hw]

theorem meets_isFile (hI : I w) (h : Q (file w.tree (S.place path)).isOk w) :
    (Program.ask (.isFile path)).Meets S.Step I Q w := by
  refine Program.meets_ask hI ?_
  rintro r w' ⟨rfl, hw⟩
  rwa [World.eq_of_view hw]

end Look

variable {path : Path} {R : Report → World η → Prop}

theorem meets_rename {source target : Path} {Q : Unit → World η → Prop} (hI : I w)
    (hok : ∀ w' : World η, moveNode w.tree (S.place source) (S.place target) = .ok w'.tree →
      w'.net = w.net → Q () w')
    (herr : ∀ e, S.Refuses .rename (moveNode w.tree (S.place source) (S.place target)) → R e w) :
    Attempt.Meets S.Step I Q R (Attempt.rename source target) w :=
  Attempt.meets_ofProgram (Program.meets_ask hI fun _ w' h => Setting.Changes.elim h (hok w') herr)

theorem meets_removeTree {Q : Unit → World η → Prop} (hI : I w)
    (hok : ∀ w' : World η, dropDir w.tree (S.place path) = .ok w'.tree → w'.net = w.net → Q () w')
    (herr : ∀ e, S.Refuses .removeTree (dropDir w.tree (S.place path)) → R e w) :
    Attempt.Meets S.Step I Q R (Attempt.removeTree path) w :=
  Attempt.meets_ofProgram (Program.meets_ask hI fun _ w' h => Setting.Changes.elim h (hok w') herr)

theorem meets_setMode {mode : Nat} {Q : Unit → World η → Prop} (hI : I w)
    (hok : ∀ w' : World η, changeMode w.tree (S.place path) mode = .ok w'.tree →
      w'.net = w.net → Q () w')
    (herr : ∀ e, S.Refuses .setMode (changeMode w.tree (S.place path) mode) → R e w) :
    Attempt.Meets S.Step I Q R (Attempt.setMode path mode) w :=
  Attempt.meets_ofProgram (Program.meets_ask hI fun _ w' h => Setting.Changes.elim h (hok w') herr)

theorem meets_createDirs {Q : Unit → World η → Prop} (hI : I w)
    (hok : ∀ w' : World η, makeDirs w.tree [] (S.place path) = (.ok (), w'.tree) →
      w'.net = w.net → Q () w')
    (hfault : ∀ e, S.mayFail .createDirs → R e w)
    (herr : ∀ e, ∀ w' : World η, makeDirs w.tree [] (S.place path) = (.error e, w'.tree) →
      w'.net = w.net → R e w') :
    Attempt.Meets S.Step I Q R (Attempt.createDirs path) w := by
  refine Attempt.meets_ofProgram (Program.meets_ask hI ?_)
  rintro r w' (⟨⟨hf, e, rfl⟩, hw⟩ | ⟨hr, hw⟩)
  · rw [World.eq_of_view hw]
    exact hfault e hf
  · have htree : w'.tree = (makeDirs w.tree [] (S.place path)).2 := (View.ext_iff.1 hw).1
    have hnet : w'.net = w.net := (View.ext_iff.1 hw).2
    cases r with
    | ok _ => exact hok w' (Prod.ext hr.symm htree.symm) hnet
    | error e => exact herr e w' (Prod.ext hr.symm htree.symm) hnet

theorem meets_list {Q : List Path → World η → Prop} (hI : I w)
    (hok : node? w.tree (S.place path) = some .dir →
      Q ((w.tree.names (S.place path)).map path.child) w)
    (herr : ∀ e, S.mayFail .list ∨ node? w.tree (S.place path) ≠ some .dir → R e w) :
    Attempt.Meets S.Step I Q R (Attempt.list path) w := by
  refine Attempt.meets_ofProgram (Program.meets_ask hI fun r w' h => Setting.Looks.elim h ?_ ?_)
  · intro items hitems
    split_ifs at hitems with hd
    rw [← Except.ok.inj hitems]
    exact hok (hasDir_iff.1 hd)
  · intro e he
    refine herr e (he.imp_right ?_)
    rintro ⟨e', he'⟩ hd
    rw [if_pos (hasDir_iff.2 hd)] at he'
    cases he'

theorem meets_create {Q : Writer → World η → Prop} (hI : I w)
    (hok : ∀ f, ∀ w' : World η, S.Writes path f → makeFile w.tree (S.place path) = .ok w'.tree →
      w'.net = w.net → Q f w')
    (herr : ∀ e, S.Refuses .create (makeFile w.tree (S.place path)) → R e w) :
    Attempt.Meets S.Step I Q R (Attempt.create path) w := by
  refine Attempt.meets_ofProgram (Program.meets_ask hI ?_)
  rintro r w' (⟨⟨hf, e, rfl⟩, hw⟩ | ⟨e, he, rfl, hw⟩ | ⟨t, f, ht, hfile, rfl, hw⟩)
  · rw [World.eq_of_view hw]
    exact herr e (.inl hf)
  · rw [World.eq_of_view hw]
    exact herr e (.inr ⟨e, he⟩)
  · refine hok f w' hfile ?_ (View.ext_iff.1 hw).2
    rw [ht, (View.ext_iff.1 hw).1]

theorem meets_write {f : Writer} {chunk : Bytes} {Q : Unit → World η → Prop}
    {R : String → World η → Prop} (hI : I w)
    (hok : ∀ w' : World η, w'.tree = append w.tree (S.place f.path) chunk → w'.net = w.net →
      Q () w')
    (herr : ∀ e, ∀ k, ∀ w' : World η, f.limit.isSome →
      w'.tree = append w.tree (S.place f.path) (chunk.take k) → w'.net = w.net → R e w') :
    Attempt.Meets S.Step I Q R (Attempt.ofProgram (.ask (.write f chunk))) w := by
  refine Attempt.meets_ofProgram (Program.meets_ask hI ?_)
  rintro r w' (⟨rfl, hw⟩ | ⟨hl, ⟨e, rfl⟩, k, hw⟩)
  · exact hok w' (View.ext_iff.1 hw).1 (View.ext_iff.1 hw).2
  · exact herr e k w' hl (View.ext_iff.1 hw).1 (View.ext_iff.1 hw).2

theorem meets_flush {f : Writer} {Q : Unit → World η → Prop} {R : String → World η → Prop}
    (hI : I w) (hok : Q () w) (herr : ∀ e, f.flushFault.isSome → R e w) :
    Attempt.Meets S.Step I Q R (Attempt.ofProgram (.ask (.flush f))) w := by
  refine Attempt.meets_ofProgram (Program.meets_ask hI ?_)
  rintro r w' ⟨rfl | ⟨hf, e, rfl⟩, hw⟩
  · rwa [World.eq_of_view hw]
  · rw [World.eq_of_view hw]
    exact herr e hf

theorem meets_openFile {Q : Stream → World η → Prop} (hI : I w)
    (hok : ∀ bytes mode s, node? w.tree (S.place path) = some (.file bytes mode) →
      S.Reads bytes s → Q s w)
    (herr : ∀ e, S.Refuses .openFile (file w.tree (S.place path)) → R e w) :
    Attempt.Meets S.Step I Q R (Attempt.openFile path) w := by
  refine Attempt.meets_ofProgram (Program.meets_ask hI ?_)
  rintro r w' ⟨⟨hf, e, rfl⟩ | ⟨e, he, rfl⟩ | ⟨bytes, mode, s, hfile, hs, rfl⟩, hw⟩
  · rw [World.eq_of_view hw]
    exact herr e (.inl hf)
  · rw [World.eq_of_view hw]
    exact herr e (.inr ⟨e, he⟩)
  · rw [World.eq_of_view hw]
    exact hok bytes mode s (file_eq_ok_iff.1 hfile) hs

theorem meets_size {Q : Nat → World η → Prop} (hI : I w)
    (hok : ∀ bytes mode, node? w.tree (S.place path) = some (.file bytes mode) →
      Q bytes.length w)
    (herr : ∀ e, S.Refuses .size (file w.tree (S.place path)) → R e w) :
    Attempt.Meets S.Step I Q R (Attempt.size path) w := by
  refine Attempt.meets_ofProgram (Program.meets_ask hI fun r w' h => Setting.Looks.elim h ?_ ?_)
  · intro size hsize
    cases hfile : file w.tree (S.place path) with
    | error e =>
      rw [hfile] at hsize
      cases hsize
    | ok content =>
      rw [hfile] at hsize
      rw [← Except.ok.inj hsize]
      exact hok content.1 content.2 (file_eq_ok_iff.1 hfile)
  · intro e he
    refine herr e (he.imp_right ?_)
    rintro ⟨e', he'⟩
    cases hfile : file w.tree (S.place path) with
    | error e => exact ⟨e, rfl⟩
    | ok content =>
      rw [hfile] at he'
      cases he'

theorem meets_readText {Q : String → World η → Prop} (hI : I w)
    (hok : ∀ bytes mode text, node? w.tree (S.place path) = some (.file bytes mode) →
      Utf8.decode? bytes = some text → Q text w)
    (herr : ∀ e, (S.mayFail .readText ∨ ∀ bytes mode,
      node? w.tree (S.place path) = some (.file bytes mode) → Utf8.decode? bytes = none) → R e w) :
    Attempt.Meets S.Step I Q R (Attempt.readText path) w := by
  refine Attempt.meets_ofProgram (Program.meets_ask hI fun r w' h => Setting.Looks.elim h ?_ ?_)
  · intro text htext
    cases hfile : file w.tree (S.place path) with
    | error e =>
      rw [hfile] at htext
      cases htext
    | ok content =>
      rw [hfile] at htext
      cases hdecode : Utf8.decode? content.1 with
      | none =>
        simp only [bind, Except.bind, hdecode] at htext
        cases htext
      | some decoded =>
        simp only [bind, Except.bind, hdecode] at htext
        cases htext
        exact hok content.1 content.2 _ (file_eq_ok_iff.1 hfile) hdecode
  · intro e he
    refine herr e (he.imp_right ?_)
    rintro ⟨e', he'⟩ bytes mode hn
    rw [file_eq_ok_iff.2 hn] at he'
    cases hdecode : Utf8.decode? bytes with
    | none => rfl
    | some decoded =>
      simp only [bind, Except.bind, hdecode] at he'
      cases he'

theorem meets_request {url : Url} {Q : Response → World η → Prop}
    {R : NoResponse → World η → Prop} (hI : I w)
    (hok : ∀ response, ∀ w' : World η, S.serve url w.net = (.ok response, w'.net) →
      w'.tree = w.tree → Q response w')
    (herr : ∀ e, ∀ w' : World η, S.serve url w.net = (.error e, w'.net) →
      w'.tree = w.tree → R e w') :
    Attempt.Meets S.Step I Q R (Attempt.ofProgram (.ask (.request url))) w := by
  refine Attempt.meets_ofProgram (Program.meets_ask hI ?_)
  rintro r w' ⟨hserve, htree⟩
  cases r with
  | ok response => exact hok response w' hserve.symm htree
  | error e => exact herr e w' hserve.symm htree

end Calls

end Provision.Memory
