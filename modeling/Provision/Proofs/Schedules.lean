import Provision.Proofs.Sparing
import Provision.Proofs.Transfer

/-!
# Schedules of failures

The failures that are injected into a run may depend on all that has been called and answered
before. Two schedules that differ in removals by guards only cannot be told apart by a run without
such removals.

* `Memory.Schedule` says which failures are injected into each call; `Memory.scheduled` is the
  memory host under a schedule.
* `run_replayed`: a list of failures that act, skip and run out is a case of it.
* `Memory.IsCleanUp` are the removals by guards, `Memory.Agree` says that schedules differ in these
  only and `Memory.Clean` that there are none.
* `run_eq_of_clean`: a run without any is the same under schedules that agree.
-/

namespace Provision

variable {α η : Type}

namespace Memory

/-- Which failures are injected into a call, given the calls before it and their answers. -/
abbrev Schedule := List Exchange → Call → List Fault

/-- The memory host under a schedule. It keeps a record of its calls and their answers. -/
def scheduled (serve : Url → η → Except NoResponse Response × η) (f : Schedule) :
    Handler (List Exchange × Memory × η) := fun c s =>
  let r := handle serve c ({ s.2.1 with faults := f s.1 c }, s.2.2)
  (r.1, s.1 ++ [⟨c, r.1⟩], r.2)

/-! ## A list of failures is a schedule -/

/-- The points at which a call can be made to fail; for a writer or a reader those of what it gives.
-/
def Call.points : Call → List Point
  | .currentDir => [.currentDir]
  | .readText _ => [.readText]
  | .rename .. => [.rename]
  | .createDirs _ => [.createDirs]
  | .removeFile _ => [.removeFile]
  | .removeTree _ => [.removeTree]
  | .list _ => [.list]
  | .create _ => [.create, .write, .flush]
  | .openFile _ => [.openFile, .read]
  | .size _ => [.size]
  | .setMode .. => [.setMode]
  | _ => []

/-- The host with the failures at some points only. -/
def restrict (P : Point → Bool) (m : Memory) : Memory :=
  { m with faults := m.faults.filter (P ·.point) }

/-- The failures that a host injects into a call after the calls on record. -/
def replayed (serve : Url → η → Except NoResponse Response × η) (m : Memory) (n : η) : Schedule :=
  fun past c =>
    (restrict (· ∈ Call.points c) (past.foldl (fun s e => (handle serve e.1 s).2) (m, n)).1).faults

section Replay

variable {P : Point → Bool} {point : Point} {p : Place}

theorem place_restrict (m : Memory) (path : Path) : (restrict P m).place path = m.place path := rfl

/-- Failures at other points neither act nor change. -/
theorem fire_filter (hP : P point = true) (p : Place) (faults : List Fault) :
    fire point p (faults.filter (P ·.point)) =
      ((fire point p faults).1, (fire point p faults).2.filter (P ·.point)) := by
  induction faults with
  | nil => rfl
  | cons f rest ih =>
    cases hf : P f.point with
    | false =>
      have hother : f.concerns point p = false := by
        have hne : f.point ≠ point := by
          rintro rfl
          rw [hP] at hf
          cases hf
        rw [Fault.concerns, beq_false_of_ne hne, Bool.false_and]
      rw [List.filter_cons_of_neg (by simp [hf]), fire, if_pos (by simp [hother]),
        List.filter_cons_of_neg (by simp [hf]), ih]
    | true =>
      have hkeep (g : Fault) (hg : g.point = f.point) (l : List Fault) :
          (g :: l).filter (P ·.point) = g :: l.filter (P ·.point) :=
        List.filter_cons_of_pos (by rw [hg, hf])
      have hpass (g : Fault) (hg : g.point = f.point) :
          ((fire point p (rest.filter (P ·.point))).1,
              g :: (fire point p (rest.filter (P ·.point))).2) =
            ((fire point p rest).1, (g :: (fire point p rest).2).filter (P ·.point)) := by
        rw [ih, hkeep g hg]
      rw [hkeep f rfl, fire, fire]
      split_ifs
      · exact hpass _ rfl
      · split
        · exact congrArg (Prod.mk _) (hkeep f rfl rest).symm
        · exact hpass f rfl
        · exact congrArg (Prod.mk _) (hkeep { f with count := some _ } rfl rest).symm
      · exact hpass f rfl

theorem attempt_restrict (hP : P point = true) {m : Memory}
    {act : Memory → Except Report α × Memory}
    (hact : ∀ m, act (restrict P m) = ((act m).1, restrict P (act m).2)) :
    (restrict P m).attempt point p act =
      ((m.attempt point p act).1, restrict P (m.attempt point p act).2) := by
  have hfire := fire_filter hP p m.faults
  unfold attempt
  rw [show (restrict P m).faults = m.faults.filter (P ·.point) from rfl, hfire]
  cases hm : fire point p m.faults with
  | mk found faults =>
    cases found with
    | some f => rfl
    | none => exact hact { m with faults }

theorem query_restrict (hP : P point = true) (m : Memory) (look : Tree Node → Except Report α) :
    (restrict P m).query point p look =
      ((m.query point p look).1, restrict P (m.query point p look).2) :=
  attempt_restrict hP fun _ => rfl

theorem change_restrict (hP : P point = true) (m : Memory)
    (act : Tree Node → Except Report (Tree Node)) :
    (restrict P m).change point p act =
      ((m.change point p act).1, restrict P (m.change point p act).2) := by
  refine attempt_restrict hP fun m' => ?_
  dsimp only [restrict]
  cases act m'.tree <;> rfl

theorem writer_restrict (hwrite : P .write = true) (hflush : P .flush = true) (m : Memory)
    (path : Path) :
    (restrict P m).writer path p = ((m.writer path p).1, restrict P (m.writer path p).2) := by
  unfold writer
  rw [show (restrict P m).faults = m.faults.filter (P ·.point) from rfl, fire_filter hwrite]
  dsimp only
  rw [fire_filter hflush]
  rfl

theorem stream_restrict (hread : P .read = true) (m : Memory) (bytes : Bytes) :
    (restrict P m).stream p bytes = ((m.stream p bytes).1, restrict P (m.stream p bytes).2) := by
  unfold stream
  rw [show (restrict P m).faults = m.faults.filter (P ·.point) from rfl, fire_filter hread]
  rfl

theorem write_restrict (m : Memory) (f : Writer) (chunk : Bytes) :
    (restrict P m).write f chunk = ((m.write f chunk).1, restrict P (m.write f chunk).2) := by
  unfold write
  cases f.limit with
  | none => rfl
  | some limit =>
    dsimp only
    split_ifs with h h' h'
    · rfl
    · exact absurd h h'
    · exact absurd h' h
    · rfl

/-- A call depends only on the failures at its own points, and only these change. -/
theorem handle_restrict (serve : Url → η → Except NoResponse Response × η) {c : Call}
    (hP : ∀ point ∈ Call.points c, P point = true) (m : Memory) (n : η) :
    handle serve c (restrict P m, n) = ((handle serve c (m, n)).1,
      restrict P (handle serve c (m, n)).2.1, (handle serve c (m, n)).2.2) := by
  have hone {point : Point} (hc : Call.points c = [point]) : P point = true :=
    hP point (by rw [hc]; exact List.mem_singleton_self _)
  cases c with
  | readText | size =>
    simp only [handle, place_restrict]
    rw [query_restrict (hone rfl)]
  | list path =>
    simp only [handle, place_restrict]
    rw [query_restrict (hone rfl)]
    rfl
  | rename | removeFile | removeTree | setMode =>
    simp only [handle, place_restrict]
    rw [change_restrict (hone rfl)]
    rfl
  | currentDir =>
    simp only [handle]
    rw [attempt_restrict (hone rfl) fun _ => rfl]
  | createDirs path =>
    simp only [handle, place_restrict]
    rw [attempt_restrict (hone rfl) fun _ => rfl]
    rfl
  | create path =>
    simp only [handle, place_restrict]
    rw [attempt_restrict (hP _ (by simp [Call.points]))]
    · rfl
    · intro m'
      dsimp only [restrict]
      cases makeFile m'.tree (m.place path) with
      | error e => rfl
      | ok t =>
        have hwriter := writer_restrict (p := m.place path) (hP _ (by simp [Call.points]))
          (hP _ (by simp [Call.points])) { m' with tree := t } path
        exact congrArg (fun r => (Except.ok r.1, r.2)) hwriter
  | openFile path =>
    simp only [handle, place_restrict]
    rw [attempt_restrict (hP _ (by simp [Call.points]))]
    intro m'
    dsimp only [restrict]
    cases file m'.tree (m.place path) with
    | error e => rfl
    | ok content =>
      exact congrArg (fun r => (Except.ok r.1, r.2)) (stream_restrict (p := m.place path)
        (hP _ (by simp [Call.points])) m' content.1)
  | write file chunk =>
    simp only [handle]
    rw [write_restrict]
  | _ => rfl

/-- A run on a host with a list of failures is one under a schedule. -/
theorem run_replayed (serve : Url → η → Except NoResponse Response × η) (p : Program α) (m : Memory)
    (n : η) : ∃ faults, p.run (scheduled serve (replayed serve m n)) ([], m, n) =
        ((p.run (handle serve) (m, n)).1, p.exchanges (handle serve) (m, n),
          { (p.run (handle serve) (m, n)).2.1 with faults }, (p.run (handle serve) (m, n)).2.2) ∧
      p.exchanges (scheduled serve (replayed serve m n)) ([], m, n) =
        p.exchanges (handle serve) (m, n) := by
  -- the host with the list is always where the record leads, the other one is there but for the
  -- list
  suffices h : ∀ (past : List Exchange) (m' : Memory) (n' : η) (faults : List Fault),
      past.foldl (fun s e => (handle serve e.1 s).2) (m, n) = (m', n') → ∃ faults',
        p.run (scheduled serve (replayed serve m n)) (past, { m' with faults }, n') =
          ((p.run (handle serve) (m', n')).1, past ++ p.exchanges (handle serve) (m', n'),
            { (p.run (handle serve) (m', n')).2.1 with faults := faults' },
              (p.run (handle serve) (m', n')).2.2) ∧
        p.exchanges (scheduled serve (replayed serve m n)) (past, { m' with faults }, n') =
          p.exchanges (handle serve) (m', n') from h [] m n m.faults rfl
  induction p with
  | done a =>
    intro past m' n' faults _
    exact ⟨faults, by rw [Program.exchanges, List.append_nil]; rfl, rfl⟩
  | call c next ih =>
    intro past m' n' faults hpast
    have hstep : scheduled serve (replayed serve m n) c (past, { m' with faults }, n') =
        ((handle serve c (m', n')).1, past ++ [⟨c, (handle serve c (m', n')).1⟩],
          restrict (· ∈ Call.points c) (handle serve c (m', n')).2.1,
            (handle serve c (m', n')).2.2) := by
      have hrestrict := handle_restrict serve (c := c) (P := (· ∈ Call.points c))
        (fun point hpoint => decide_eq_true hpoint) m' n'
      unfold scheduled replayed
      rw [hpast]
      exact congrArg (fun r => (r.1, past ++ [⟨c, r.1⟩], r.2)) hrestrict
    obtain ⟨faults', hrun, hexchanges⟩ := ih (handle serve c (m', n')).1
      (past ++ [⟨c, (handle serve c (m', n')).1⟩]) (handle serve c (m', n')).2.1
      (handle serve c (m', n')).2.2 _ (by
        rw [List.foldl_append, hpast]
        rfl)
    refine ⟨faults', ?_, ?_⟩
    · rw [Program.run, hstep]
      refine hrun.trans ?_
      rw [List.append_assoc]
      rfl
    · rw [Program.exchanges, hstep]
      exact congrArg (_ :: ·) hexchanges

end Replay

/-- A removal that a guard makes: of a file, or of a directory about which it has just asked both
whether anything is there and whether that is a directory. -/
def IsCleanUp (past : List Exchange) : Call → Prop
  | .removeFile _ => True
  | .removeTree path => [⟨.pathExists path, true⟩, ⟨.isDir path, true⟩] <:+ past
  | _ => False

/-- Two schedules agree on the calls on record, but perhaps for removals by guards. -/
def Agree (f g : Schedule) (record : List Exchange) : Prop :=
  ∀ before e after, record = before ++ e :: after → ¬ IsCleanUp before e.1 →
    f before e.1 = g before e.1

/-- Nothing on record is a removal by a guard. -/
def Clean (record : List Exchange) : Prop :=
  ∀ before e after, record = before ++ e :: after → ¬ IsCleanUp before e.1

section Clean

variable {past rest : List Exchange} {c : Call}

theorem Agree.of_append {f g : Schedule} (h : Agree f g (past ++ rest)) : Agree f g past :=
  fun before e after he => h before e (after ++ rest) (by rw [he, List.append_assoc,
    List.cons_append])

theorem clean_nil : Clean [] := fun before e after he => by cases before <;> cases he

theorem Clean.snoc (h : Clean past) (hc : ¬ IsCleanUp past c) (a : c.Answer) :
    Clean (past ++ [⟨c, a⟩]) := by
  intro before e after he
  rcases Download.snoc_eq_append_cons he with ⟨rfl, rfl⟩ | ⟨after', rfl⟩
  · exact hc
  · exact h before e after' rfl

end Clean

/-! ## Runs without removals by guards -/

section Coupling

variable {serve : Url → η → Except NoResponse Response × η} {f g : Schedule}

/-- A run without removals by guards is the same under every schedule that agrees. -/
theorem run_eq_of_clean (p : Program α) (past : List Exchange) (m : Memory) (n : η)
    (hfg : Agree f g (past ++ p.exchanges (scheduled serve f) (past, m, n)))
    (h : Clean (past ++ p.exchanges (scheduled serve f) (past, m, n))) :
    p.run (scheduled serve g) (past, m, n) = p.run (scheduled serve f) (past, m, n) ∧
      p.exchanges (scheduled serve g) (past, m, n) =
        p.exchanges (scheduled serve f) (past, m, n) := by
  induction p generalizing past m n with
  | done a => exact ⟨rfl, rfl⟩
  | call c next ih =>
    -- both hosts are in one state with one record, and the call is none on which they may differ
    have hsame : scheduled serve g c (past, m, n) = scheduled serve f c (past, m, n) := by
      unfold scheduled
      rw [hfg past _ _ rfl (h past _ _ rfl)]
    rw [Program.exchanges, ← List.singleton_append, ← List.append_assoc] at hfg h
    obtain ⟨hrun, hexchanges⟩ := ih _ _ _ _ hfg h
    rw [Program.run, Program.run, Program.exchanges, Program.exchanges, hsame]
    exact ⟨hrun, congrArg (_ :: ·) hexchanges⟩

end Coupling

/-! ## The current directory -/

section

variable {serve : Url → η → Except NoResponse Response × η} {f : Schedule}

/-- Nothing changes the current directory. -/
theorem cwd_handle (c : Call) (s : Memory × η) : (handle serve c s).2.1.cwd = s.1.cwd :=
  (handle_holds (K := fun _ => True) (fun _ _ _ _ _ => trivial) serve c s
    ⟨fun _ _ => trivial, rfl⟩).2

theorem cwd_run (p : Program α) (s : List Exchange × Memory × η) :
    (p.run (scheduled serve f) s).2.2.1.cwd = s.2.1.cwd :=
  (Program.allCalls_of_forall (P := fun _ => True) (fun _ => trivial) p).run_kept
    (J := fun t : List Exchange × Memory × η => t.2.1.cwd = s.2.1.cwd)
    (fun c _ _ h => (cwd_handle c _).trans h) rfl

end

end Memory

end Provision
