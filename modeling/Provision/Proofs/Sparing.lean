import Provision.Proofs.Calls
import Provision.Proofs.Downloads

/-!
# Calls that are spared

Injected failures may hit some calls of a program and spare others. Whether a call is hit depends on
the host at the moment when it is made.

* `Program.visits` lists the calls of a run with the states in which they are made;
  `Program.run_of_visits` needs a rule to be kept only there.
* `Memory.Hit` says that a call meets an injected failure, and `Setting.Sparing` is the rule of a
  host on which certain calls meet none (`keeps_sparing`).
* `Memory.not_hit_of_mem_visits`: injected failures that concern other calls spare the certain ones
  all along a run.
-/

namespace Provision

variable {α β ε ω σ : Type}

namespace Program

variable {P : Call → Prop} {E F : Rule ω} {I : ω → Prop} {Q : α → ω → Prop} {w : ω}

/-- The calls that a run makes, each with the state in which it is made. -/
def visits (h : Handler σ) : Program α → σ → List (Call × σ)
  | .done _, _ => []
  | .call c next, s => (c, s) :: (next (h c s).1).visits h (h c s).2

/-- A run ends as the program says if the rule is kept wherever a call is made. -/
theorem run_of_visits {h : Handler σ} {R : σ → ω → Prop} {P : Call × σ → Prop}
    (hk : ∀ c s w, P (c, s) → R s w → ∃ w', E c w (h c s).1 w' ∧ R (h c s).2 w') {p : Program α}
    {s : σ} (hp : ∀ v ∈ p.visits h s, P v) (hs : R s w) (hm : p.Meets E I Q w) :
    ∃ w', R (p.run h s).2 w' ∧ Q (p.run h s).1 w' := by
  induction p generalizing s w with
  | done a => exact ⟨w, hs, hm⟩
  | call c next ih =>
    obtain ⟨hc, hrest⟩ := List.forall_mem_cons.1 hp
    obtain ⟨w', hE, hR⟩ := hk c s w hc hs
    exact ih _ hrest hR (hm.2 _ _ hE)

/-- What the calls of a program preserve holds wherever one is made. -/
theorem AllCalls.of_mem_visits {J : σ → Prop} {p : Program α} (hp : p.AllCalls P) {h : Handler σ}
    (hstep : ∀ c, P c → ∀ s, J s → J (h c s).2) {s : σ} (hs : J s) :
    ∀ v ∈ p.visits h s, J v.2 := by
  induction p generalizing s with
  | done a => exact List.forall_mem_nil _
  | call c next ih =>
    exact List.forall_mem_cons.2 ⟨hs, ih _ (hp.2 _) (hstep c hp.1 s hs)⟩

theorem allCalls_of_forall (h : ∀ c, P c) (p : Program α) : p.AllCalls P := by
  induction p with
  | done a => trivial
  | call c next ih => exact ⟨h c, ih⟩

/-- A rule may be exchanged for one that allows less to the calls of a program. -/
theorem AllCalls.meets_of_rule {p : Program α} (hp : p.AllCalls P)
    (h : ∀ c, P c → ∀ w a w', F c w a w' → E c w a w') (hm : p.Meets E I Q w) :
    p.Meets F I Q w := by
  induction p generalizing w with
  | done a => exact hm
  | call c next ih =>
    exact ⟨hm.1, fun a w' ha => ih a (hp.2 a) (hm.2 a w' (h c hp.1 w a w' ha))⟩

end Program

/-! ## Calls that are spared -/

/-- The point at which a call that moves, removes, lists or sets a mode can be made to fail, and the
path that it concerns. -/
def Call.point? : Call → Option (Memory.Point × Path)
  | .setMode path _ => some (.setMode, path)
  | .list path => some (.list, path)
  | .removeTree path => some (.removeTree, path)
  | .rename source _ => some (.rename, source)
  | _ => none

namespace Memory

variable {η : Type} {S : Setting η} {m : Memory} {c : Call}

/-- A call meets an injected failure. -/
def Hit (m : Memory) (c : Call) : Prop :=
  (c.point?.bind fun (point, path) => (fire point (m.place path) m.faults).1).isSome = true

instance (m : Memory) (c : Call) : Decidable (Hit m c) := inferInstanceAs (Decidable (_ = true))

theorem attempt_of_none {point : Point} {p : Place} (act : Memory → Except Report α × Memory)
    (h : (fire point p m.faults).1 = none) :
    m.attempt point p act = act { m with faults := (fire point p m.faults).2 } := by
  unfold attempt
  cases hfire : fire point p m.faults with
  | mk found faults =>
    rw [hfire] at h
    cases h
    rfl

theorem change_of_none {point : Point} {p : Place} (act : Tree Node → Except Report (Tree Node))
    (h : (fire point p m.faults).1 = none) :
    (m.change point p act).1 = ({ m with faults := [] }.change point p act).1 ∧
      (m.change point p act).2.tree = ({ m with faults := [] }.change point p act).2.tree := by
  unfold change
  rw [attempt_of_none _ h, attempt_of_none _ rfl]
  dsimp only
  cases act m.tree <;> exact ⟨rfl, rfl⟩

theorem query_of_none {point : Point} {p : Place} (look : Tree Node → Except Report α)
    (h : (fire point p m.faults).1 = none) :
    (m.query point p look).1 = ({ m with faults := [] }.query point p look).1 ∧
      (m.query point p look).2.tree = ({ m with faults := [] }.query point p look).2.tree := by
  unfold query
  rw [attempt_of_none _ h, attempt_of_none _ rfl]
  exact ⟨rfl, rfl⟩

/-- A call that meets no injected failure does what it does where there are none. -/
theorem handle_of_not_hit (serve : Url → η → Except NoResponse Response × η) (n : η)
    (hpoint : c.point?.isSome) (h : ¬ Hit m c) :
    (handle serve c (m, n)).1 = (handle serve c ({ m with faults := [] }, n)).1 ∧
      Setting.view (handle serve c (m, n)).2 =
        Setting.view (handle serve c ({ m with faults := [] }, n)).2 := by
  have hnone : ∀ point path, c.point? = some (point, path) →
      (fire point (m.place path) m.faults).1 = none := by
    intro point path hc
    rw [Hit, hc, Option.bind_some, Option.not_isSome_iff_eq_none] at h
    exact h
  cases c with
  | setMode path mode =>
    have hchange := change_of_none (fun t => changeMode t (m.place path) mode) (hnone _ _ rfl)
    exact ⟨hchange.1, congrArg (View.mk · n) hchange.2⟩
  | list path =>
    have hquery := query_of_none (fun t => if hasDir t (m.place path) then
      .ok ((t.names (m.place path)).map path.child) else .error notDirectory) (hnone _ _ rfl)
    exact ⟨hquery.1, congrArg (View.mk · n) hquery.2⟩
  | removeTree path =>
    have hchange := change_of_none (fun t => dropDir t (m.place path)) (hnone _ _ rfl)
    exact ⟨hchange.1, congrArg (View.mk · n) hchange.2⟩
  | rename source target =>
    have hchange := change_of_none (fun t => moveNode t (m.place source) (m.place target))
      (hnone _ _ rfl)
    exact ⟨hchange.1, congrArg (View.mk · n) hchange.2⟩
  | _ => cases hpoint

/-! ### Injected failures elsewhere -/

section Elsewhere

variable {K : Fault → Prop} (hK : ∀ f g : Fault, f.point = g.point → f.place = g.place → K f → K g)

include hK in
/-- Looking for a failure changes only how often failures still act. -/
theorem fire_kept (point : Point) (p : Place) {faults : List Fault} (h : ∀ f ∈ faults, K f) :
    ∀ f ∈ (fire point p faults).2, K f := by
  induction faults with
  | nil => exact h
  | cons f rest ih =>
    obtain ⟨hf, hrest⟩ := List.forall_mem_cons.1 h
    have hpass : ∀ g : Fault, f.point = g.point → f.place = g.place →
        ∀ x ∈ g :: (fire point p rest).2, K x := fun g hpoint hplace =>
      List.forall_mem_cons.2 ⟨hK f g hpoint hplace hf, ih hrest⟩
    rw [fire]
    by_cases hc : f.concerns point p = true
    · rw [if_neg (not_not.2 hc)]
      split_ifs with hs
      · exact hpass _ rfl rfl
      · split
        · exact h
        · exact hpass f rfl rfl
        · exact List.forall_mem_cons.2 ⟨hK f _ rfl rfl hf, hrest⟩
    · rw [if_pos hc]
      exact hpass f rfl rfl

theorem fire_eq_none {point : Point} {p : Place} {faults : List Fault}
    (h : ∀ f ∈ faults, f.concerns point p = false) : (fire point p faults).1 = none := by
  induction faults with
  | nil => rfl
  | cons f rest ih =>
    obtain ⟨hf, hrest⟩ := List.forall_mem_cons.1 h
    rw [fire, if_pos (by rw [hf]; exact Bool.false_ne_true)]
    exact ih hrest

/-- A call that finalizing makes: one that can be made to fail, a look at a directory or a message.
-/
inductive Call.Finalizes : Call → Prop
  | point {c : Call} : c.point?.isSome → Call.Finalizes c
  | look {p : Path} : Call.Finalizes (.isDir p)
  | warn {message : String} : Call.Finalizes (.log .warn message)

/-- The injected failures have a property, and the current directory is a given one. -/
def Injects (K : Fault → Prop) (cwd : Path) (m : Memory) : Prop :=
  (∀ f ∈ m.faults, K f) ∧ m.cwd = cwd

variable {cwd : Path}

include hK in
theorem attempt_holds {point : Point} {p : Place} {act : Memory → Except Report α × Memory}
    (hact : ∀ m', Injects K cwd m' → Injects K cwd (act m').2) (h : Injects K cwd m) :
    Injects K cwd (m.attempt point p act).2 := by
  have hfire := fire_kept hK point p h.1
  unfold attempt
  cases hf : fire point p m.faults with
  | mk found faults =>
    rw [hf] at hfire
    cases found with
    | some f => exact ⟨hfire, h.2⟩
    | none => exact hact _ ⟨hfire, h.2⟩

include hK in
theorem change_holds {point : Point} {p : Place} {f : Tree Node → Except Report (Tree Node)}
    (h : Injects K cwd m) : Injects K cwd (m.change point p f).2 := by
  refine attempt_holds hK (fun m' hm' => ?_) h
  cases f m'.tree <;> exact hm'

include hK in
/-- A call changes only how often failures still act. -/
theorem handle_holds (serve : Url → η → Except NoResponse Response × η) (c : Call) (s : Memory × η)
    (h : Injects K cwd s.1) : Injects K cwd (handle serve c s).2.1 := by
  obtain ⟨m, n⟩ := s
  cases c with
  | rename | removeFile | removeTree | setMode => exact change_holds hK h
  | currentDir | readText | list | size | createDirs =>
    simp only [handle, query]
    exact attempt_holds hK (fun _ hm' => hm') h
  | create path =>
    simp only [handle]
    refine attempt_holds hK (fun m' hm' => ?_) h
    cases makeFile m'.tree (m.place path) with
    | error e => exact hm'
    | ok t => exact ⟨fire_kept hK _ _ (fire_kept hK _ _ hm'.1), hm'.2⟩
  | openFile path =>
    simp only [handle]
    refine attempt_holds hK (fun m' hm' => ?_) h
    cases file m'.tree (m.place path) with
    | error e => exact hm'
    | ok content => exact ⟨fire_kept hK _ _ hm'.1, hm'.2⟩
  | write file chunk =>
    simp only [handle, write]
    split
    · exact h
    · split_ifs
      · exact h
      · exact h
  | _ => exact h

end Elsewhere

/-- Where no injected failure concerns certain calls, they meet none in a run. -/
theorem not_hit_of_mem_visits {serve : Url → η → Except NoResponse Response × η} {n : η}
    (p : Program α) {P : Call → Prop}
    (h : ∀ f ∈ m.faults, ∀ c, P c → ∀ point path, c.point? = some (point, path) →
      f.concerns point (m.place path) = false) :
    ∀ v ∈ p.visits (handle serve) (m, n), P v.1 → ¬ Hit v.2.1 v.1 := by
  let K (f : Fault) : Prop := ∀ c, P c → ∀ point path, c.point? = some (point, path) →
    f.concerns point (placeIn m.cwd path) = false
  have hK : ∀ f g : Fault, f.point = g.point → f.place = g.place → K f → K g := by
    intro f g hpoint hplace hf c hc point path hcp
    have hconcerns := hf c hc point path hcp
    rwa [Fault.concerns, hpoint, hplace] at hconcerns
  intro v hv hc hhit
  obtain ⟨hfaults, hcwd⟩ := (Program.allCalls_of_forall (P := fun _ => True) (fun _ => trivial)
    p).of_mem_visits (J := fun s => Injects K m.cwd s.1)
      (fun c _ s hs => handle_holds hK serve c s hs) ⟨h, rfl⟩ v hv
  cases hpoint : v.1.point? with
  | none =>
    rw [Hit, hpoint] at hhit
    cases hhit
  | some spot =>
    have hnone : (fire spot.1 (v.2.1.place spot.2) v.2.1.faults).1 = none := by
      refine fire_eq_none fun f hf => ?_
      rw [place_eq, hcwd]
      exact hfaults f hf _ hc spot.1 spot.2 hpoint
    rw [Hit, hpoint] at hhit
    change (fire spot.1 (v.2.1.place spot.2) v.2.1.faults).1.isSome = true at hhit
    rw [hnone] at hhit
    cases hhit

/-- The setting without injected failures. -/
def Setting.calm (S : Setting η) : Setting η := { S with mayFail := fun _ => False }

theorem Setting.calm_calm (S : Setting η) : S.calm.Calm := fun _ h => h

/-- The steps of a host on which some calls meet no injected failure. -/
def Setting.Sparing (S : Setting η) (P : Call → Prop) : Rule (World η) := fun c w a w' =>
  S.Step c w a w' ∧ (P c → S.calm.Step c w a w')

/-- The memory host keeps to it where those calls are not hit. -/
theorem keeps_sparing {P : Call → Prop} (hpoint : ∀ c, P c → c.point?.isSome) (c : Call)
    (s : Memory × η) (w : World η) (hspared : P c → ¬ Hit s.1 c) (hs : S.Shows s w) :
    ∃ w', S.Sparing P c w (handle S.serve c s).1 w' ∧ S.Shows (handle S.serve c s).2 w' := by
  obtain ⟨m, n⟩ := s
  obtain ⟨w', hstep, hshow⟩ := keeps_step S c (m, n) w hs
  refine ⟨w', ⟨hstep, fun hc => ?_⟩, hshow⟩
  have hcalm : S.calm.Shows ({ m with faults := [] }, n) w :=
    ⟨⟨hs.1.cwd, fun f hf => absurd hf List.not_mem_nil, hs.1.sound⟩, hs.2⟩
  obtain ⟨w'', hstep', hshow'⟩ := keeps_step S.calm c _ w hcalm
  obtain ⟨hanswer, hview⟩ := handle_of_not_hit S.serve n (hpoint c hc) (hspared hc)
  have heq : w'' = w' := World.eq_of_view (hshow'.2.symm.trans (hview.symm.trans hshow.2))
  rw [heq] at hstep'
  rw [hanswer]
  exact hstep'

end Memory

end Provision
