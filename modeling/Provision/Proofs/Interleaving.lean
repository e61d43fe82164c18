import Mathlib.Logic.Function.Basic
import Provision.Proofs.Steps

/-!
# Two programs on one host

Two programs make their calls in turn, in any order, on the same files; each has a network of its
own. Nothing coordinates them.

* `Pair.run` follows a schedule: a list that says whose call is next.
* `Pair.Apart` is about schedules on which the programs take turns in changing files: one makes a
  call that may change a file only while the other has not begun to, or is at its end.
* `Patient` says of a program that it only looks until its first change, and that it keeps an
  invariant of the tree from then on, wherever it starts. Then the invariant holds all along
  (`Good.run`).
-/

namespace Provision

/-- May a call change a file? -/
def Call.changes : Call → Bool
  | .rename .. => true
  | .createDirs _ => true
  | .removeFile _ => true
  | .removeTree _ => true
  | .create _ => true
  | .write .. => true
  | .setMode .. => true
  | _ => false

/-- Does a call only look: does it change no file and send no request? -/
def Call.looks : Call → Bool
  | .request _ => false
  | c => !c.changes

namespace Interleaving

open Memory

/-- One of two programs. -/
inductive Side where
  | left
  | right
deriving DecidableEq, Repr

/-- The other program. -/
def Side.other : Side → Side
  | .left => .right
  | .right => .left

theorem Side.eq_or_eq_other (x y : Side) : y = x ∨ y = x.other := by
  cases x <;> cases y <;> simp [other]

theorem Side.other_ne (x : Side) : x.other ≠ x := by
  cases x <;> simp [other]

@[simp] theorem Side.other_other (x : Side) : x.other.other = x := by
  cases x <;> rfl

/-- A program on its way. -/
structure Thread (α η : Type) where
  /-- What is left of it. -/
  rest : Program α
  net : η
  /-- Has it made a call that may change a file? -/
  begun : Bool := false

/-- Two programs on their way on one host. -/
structure Pair (α η : Type) where
  memory : Memory
  threads : Side → Thread α η

variable {α η : Type}

/-- Is a program between its first call that may change a file and its end? -/
def Thread.isBusy (t : Thread α η) : Bool :=
  match t.rest with
  | .done _ => false
  | .call _ _ => t.begun

/-- The result of a program that is at its end. -/
def Thread.result? (t : Thread α η) : Option α :=
  match t.rest with
  | .done a => some a
  | .call _ _ => none

/-- May the next call change a file? -/
def Thread.nextChanges (t : Thread α η) : Bool :=
  match t.rest with
  | .done _ => false
  | .call c _ => c.changes

namespace Pair

/-- One program has made a call. -/
def put (p : Pair α η) (x : Side) (memory : Memory) (t : Thread α η) : Pair α η :=
  ⟨memory, Function.update p.threads x t⟩

section Put

variable (p : Pair α η) (x : Side) (memory : Memory) (t : Thread α η)

@[simp] theorem memory_put : (p.put x memory t).memory = memory := rfl

@[simp] theorem threads_put_self : (p.put x memory t).threads x = t := Function.update_self ..

@[simp] theorem threads_put_other : (p.put x memory t).threads x.other = p.threads x.other :=
  Function.update_of_ne (Side.other_ne x) ..

end Put

/-- One program makes its next call; at its end it makes none. -/
def step (serve : Url → η → Except NoResponse Response × η) (p : Pair α η) (x : Side) : Pair α η :=
  match (p.threads x).rest with
  | .done _ => p
  | .call c next =>
    let (answer, memory, net) := handle serve c (p.memory, (p.threads x).net)
    p.put x memory ⟨next answer, net, (p.threads x).begun || c.changes⟩

/-- The programs make calls in the order of a schedule. -/
def run (serve : Url → η → Except NoResponse Response × η) (p : Pair α η) (schedule : List Side) :
    Pair α η :=
  schedule.foldl (step serve) p

/-- On a schedule the programs take turns in changing files: none makes a call that may change one
while the other is busy. -/
def Apart (serve : Url → η → Except NoResponse Response × η) : Pair α η → List Side → Prop
  | _, [] => True
  | p, x :: rest =>
    ((p.threads x).nextChanges = true → (p.threads x.other).isBusy = false) ∧
      Apart serve (p.step serve x) rest

instance decidableApart (serve : Url → η → Except NoResponse Response × η) :
    (p : Pair α η) → (schedule : List Side) → Decidable (p.Apart serve schedule)
  | _, [] => .isTrue trivial
  | p, x :: rest =>
    have := decidableApart serve (p.step serve x) rest
    inferInstanceAs (Decidable (_ ∧ _))

/-- Two programs before their first calls. -/
def start (m : Memory) (programs : Side → Program α) (net : Side → η) : Pair α η :=
  ⟨m, fun x => ⟨programs x, net x, false⟩⟩

end Pair

/-! ## Programs that look before they change -/

section Patient

variable {S : Setting η} {G : Tree Node → Prop} {n : η} {β : Type}

theorem not_changes_of_looks {c : Call} (h : c.looks = true) : c.changes = false := by
  cases c <;> first | rfl | cases h

/-- A call that only looks changes nothing. -/
theorem eq_of_looks {c : Call} {w w' : World η} {a : c.Answer} (h : c.looks = true)
    (hstep : S.Step c w a w') : w' = w := by
  apply World.eq_of_view
  cases c with
  | env | currentDir | isExecutable | log | print => exact hstep
  | readText | pathExists | isDir | isFile | list | flush | openFile | size | runTool =>
    exact hstep.2
  | rename | createDirs | removeFile | removeTree | create | write | setMode | request => cases h

/-- What a call may be answered in some world with a tree of the invariant. -/
def Answers (S : Setting η) (G : Tree Node → Prop) (n : η) (c : Call) (a : c.Answer) : Prop :=
  ∃ w w' : World η, G w.tree ∧ w.net = n ∧ S.Step c w a w'

/-- A program that only looks, at worlds that may change between its calls, and ends with `Q`. -/
def Looks (S : Setting η) (G : Tree Node → Prop) (n : η) (Q : β → Prop) : Program β → Prop
  | .done b => Q b
  | .call c next => c.looks = true ∧ ∀ a, Answers S G n c a → Looks S G n Q (next a)

/-- A program that keeps the invariant from any world that has it. -/
def Preserves (S : Setting η) (G : Tree Node → Prop) (n : η) (p : Program α) : Prop :=
  ∀ w : World η, G w.tree → w.net = n →
    p.Meets S.Step (fun w' => G w'.tree) (fun _ w' => G w'.tree) w

/-- A program that only looks until its first change, and from there keeps the invariant. -/
def Patient (S : Setting η) (G : Tree Node → Prop) (n : η) : Program α → Prop
  | .done _ => True
  | .call c next =>
    (c.looks = true ∧ ∀ a, Answers S G n c a → Patient S G n (next a)) ∨
      c.changes = true ∧ Preserves S G n (.call c next)

theorem looks_pure {Q : β → Prop} {b : β} (h : Q b) : Looks S G n Q (pure b) := h

theorem looks_bind {γ : Type} {Q : γ → Prop} {p : Program β} {f : β → Program γ}
    (h : Looks S G n (fun b => Looks S G n Q (f b)) p) : Looks S G n Q (p >>= f) := by
  show Looks S G n Q (p.bind f)
  induction p with
  | done b => exact h
  | call c next ih => exact ⟨h.1, fun a ha => ih a (h.2 a ha)⟩

theorem looks_ask {c : Call} {Q : c.Answer → Prop} (hc : c.looks = true)
    (h : ∀ a, Answers S G n c a → Q a) : Looks S G n Q (.ask c) := ⟨hc, h⟩

theorem Looks.mono {Q R : β → Prop} {p : Program β} (h : Looks S G n Q p) (hQ : ∀ b, Q b → R b) :
    Looks S G n R p := by
  induction p with
  | done b => exact hQ b h
  | call c next ih => exact ⟨h.1, fun a ha => ih a (h.2 a ha)⟩

theorem Looks.patient_bind {Q : β → Prop} {p : Program β} {f : β → Program α}
    (h : Looks S G n Q p) (hf : ∀ b, Q b → Patient S G n (f b)) : Patient S G n (p >>= f) := by
  show Patient S G n (p.bind f)
  induction p with
  | done b => exact hf b h
  | call c next ih => exact .inl ⟨h.1, fun a ha => ih a (h.2 a ha)⟩

end Patient

/-! ## The invariant of two programs -/

section Good

variable {S : Setting η} {G : Tree Node → Prop} {p : Pair α η} {t t' : Tree Node} {x : Thread α η}

/-- From a tree on, what is left of a program keeps the invariant. -/
def Runs (S : Setting η) (G : Tree Node → Prop) (t : Tree Node) (x : Thread α η) : Prop :=
  ∀ w : World η, w.tree = t → w.net = x.net →
    x.rest.Meets S.Step (fun w' => G w'.tree) (fun _ w' => G w'.tree) w

/-- Where a program stands: it waits, or it has begun and keeps the invariant from here. -/
def Stands (S : Setting η) (G : Tree Node → Prop) (t : Tree Node) (x : Thread α η) : Prop :=
  x.begun = false ∧ Patient S G x.net x.rest ∨ x.begun = true ∧ Runs S G t x

/-- The invariant holds, both programs stand where they keep it, and at most one is busy. -/
structure Good (S : Setting η) (G : Tree Node → Prop) (p : Pair α η) : Prop where
  hosts : S.Hosts p.memory
  tree : G p.memory.tree
  stands : ∀ x, Stands S G p.memory.tree (p.threads x)
  single : ∀ x, (p.threads x).isBusy = true → (p.threads x.other).isBusy = false

theorem not_isBusy_of_not_begun (hx : x.begun = false) : x.isBusy = false := by
  unfold Thread.isBusy
  cases x.rest with
  | done _ => rfl
  | call _ _ => exact hx

/-- A program that is not busy stands as well on any other tree of the invariant. -/
theorem Stands.of_not_busy (h : Stands S G t x) (hbusy : x.isBusy = false) (hG : G t') :
    Stands S G t' x := by
  rcases h with hwait | ⟨hbegun, -⟩
  · exact .inl hwait
  · refine .inr ⟨hbegun, ?_⟩
    intro w hw hnet
    unfold Thread.isBusy at hbusy
    cases hrest : x.rest with
    | done a =>
      show G w.tree
      rwa [hw]
    | call c next =>
      rw [hrest, hbegun] at hbusy
      cases hbusy

/-- What a call of a program that keeps the invariant leaves. -/
theorem runs_next {c : Call} {next : c.Answer → Program α} {w w' : World η} {a : c.Answer}
    (h : (Program.call c next).Meets S.Step (fun w' => G w'.tree) (fun _ w' => G w'.tree) w)
    (hstep : S.Step c w a w') : G w'.tree ∧ Runs S G w'.tree ⟨next a, w'.net, true⟩ := by
  have hnext := h.2 a w' hstep
  refine ⟨?_, ?_⟩
  · cases hrest : next a with
    | done b =>
      rw [hrest] at hnext
      exact hnext
    | call d more =>
      rw [hrest] at hnext
      exact hnext.1
  · intro w'' htree hnet
    have hw : w'' = w' := World.ext htree hnet
    rw [hw]
    exact hnext

/-- After a call of one program the invariant holds and the program stands. Either the call has only
looked, or the other program is not busy. -/
theorem Stands.next {c : Call} {next : c.Answer → Program α} {n : η} {begun busy : Bool}
    {w w' : World η} {a : c.Answer} (h : Stands S G w.tree ⟨.call c next, n, begun⟩)
    (hG : G w.tree) (hn : w.net = n) (hchanges : c.changes = true → busy = false)
    (hbegun : begun = true → busy = false) (hstep : S.Step c w a w') :
    G w'.tree ∧ Stands S G w'.tree ⟨next a, w'.net, begun || c.changes⟩ ∧
      ((w' = w ∧ (begun || c.changes) = false) ∨ busy = false) := by
  rcases h with ⟨hno, ⟨hlooks, hnext⟩ | ⟨hc, hpreserves⟩⟩ | ⟨hyes, hruns⟩
  · have hw := eq_of_looks hlooks hstep
    have hstill : (begun || c.changes) = false := by
      rw [not_changes_of_looks hlooks, Bool.or_false]
      exact hno
    refine ⟨by rw [hw]; exact hG, .inl ⟨hstill, ?_⟩, .inl ⟨hw, hstill⟩⟩
    show Patient S G w'.net (next a)
    rw [hw, hn]
    exact hnext a ⟨w, w', hG, hn, hstep⟩
  · obtain ⟨hG', hruns⟩ := runs_next (hpreserves w hG hn) hstep
    exact ⟨hG', .inr ⟨by rw [hc, Bool.or_true], hruns⟩, .inr (hchanges hc)⟩
  · obtain ⟨hG', hruns'⟩ := runs_next (hruns w rfl hn) hstep
    have hbegun' : begun = true := hyes
    exact ⟨hG', .inr ⟨by rw [hbegun', Bool.true_or], hruns'⟩, .inr (hbegun hbegun')⟩

/-- The invariant after a call of one program, when that has only looked or the other program is not
busy. -/
theorem Good.put (h : Good S G p) {y : Side} {m : Memory} (hm : S.Hosts m) (hG : G m.tree)
    (hstands : Stands S G m.tree x)
    (hother : (m.tree = p.memory.tree ∧ x.isBusy = false) ∨
      (p.threads y.other).isBusy = false) : Good S G (p.put y m x) where
  hosts := hm
  tree := hG
  stands z := by
    rcases Side.eq_or_eq_other y z with rfl | rfl
    · simpa using hstands
    · rw [Pair.threads_put_other, Pair.memory_put]
      rcases hother with ⟨hsame, -⟩ | hfree
      · rw [hsame]
        exact h.stands y.other
      · exact (h.stands y.other).of_not_busy hfree hG
  single z := by
    rcases Side.eq_or_eq_other y z with rfl | rfl
    · rw [Pair.threads_put_self, Pair.threads_put_other]
      intro hbusy
      refine hother.resolve_left fun hlook => ?_
      rw [hlook.2] at hbusy
      cases hbusy
    · rw [Side.other_other, Pair.threads_put_self, Pair.threads_put_other]
      intro hbusy
      refine (hother.resolve_right fun hfree => ?_).2
      rw [hfree] at hbusy
      cases hbusy

/-- One call keeps the invariant of two programs, if it changes files only while the other program
is not busy. -/
theorem Good.step (h : Good S G p) {y : Side}
    (hapart : (p.threads y).nextChanges = true → (p.threads y.other).isBusy = false) :
    Good S G (p.step S.serve y) := by
  unfold Pair.step
  have hstands := h.stands y
  have hsingle := h.single y
  generalize p.threads y = thread at hstands hsingle hapart
  obtain ⟨rest, n, begun⟩ := thread
  cases rest with
  | done a => exact h
  | call c next =>
    have hshow : S.Shows (p.memory, n) (⟨⟨p.memory.tree, n⟩, h.hosts.sound⟩ : World η) :=
      ⟨h.hosts, rfl⟩
    obtain ⟨w', hstep, hshow'⟩ := keeps_step S c _ _ hshow
    obtain ⟨hG, hnew, hother⟩ := Stands.next hstands h.tree rfl hapart hsingle hstep
    rw [← hshow'.tree] at hG hnew
    rw [← hshow'.net] at hnew
    refine h.put hshow'.1 hG hnew (hother.imp_left ?_)
    rintro ⟨hw, hno⟩
    have hsame : w'.tree = p.memory.tree := by rw [hw]
    exact ⟨hshow'.tree.trans hsame, not_isBusy_of_not_begun hno⟩

/-- On a schedule on which the programs take turns the invariant holds all along. -/
theorem Good.run {schedule : List Side} (h : Good S G p) (hapart : p.Apart S.serve schedule) :
    Good S G (p.run S.serve schedule) := by
  induction schedule generalizing p with
  | nil => exact h
  | cons y rest ih => exact ih (h.step hapart.1) hapart.2

/-- Before their first calls patient programs stand where they keep the invariant. -/
theorem good_start {m : Memory} {programs : Side → Program α} {net : Side → η}
    (hm : S.Hosts m) (hG : G m.tree) (h : ∀ x, Patient S G (net x) (programs x)) :
    Good S G (.start m programs net) where
  hosts := hm
  tree := hG
  stands x := .inl ⟨rfl, h x⟩
  single x hbusy := by
    rw [not_isBusy_of_not_begun rfl] at hbusy
    cases hbusy

end Good

end Interleaving

end Provision
