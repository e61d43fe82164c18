import Provision.Proofs.Finalizing
import Provision.Proofs.Sparing

/-!
# Carrying over the side files

What is staged next to the binary is moved into the binary's directory. That can take the binary
away in one way only: when the destination of a side file is the directory that it comes from, or
above it.

* `Install.Clash` is that one case.
* `Install.Standing` is what moving the side files preserves without a clash (`meets_standing`), and
  `meets_moveOthersClash` is what happens with one.
* `meets_replaceStaged` and `meets_replaceGone` move the binary itself afterwards.
-/

namespace Provision

variable {α : Type}

/-! ## What moving side files preserves -/

namespace Install

open Memory
open Provision.Path (IsName)

section Tree

variable {t t' : Tree Node} {d bin : Place} {n b : Bytes} {v : Node}

/-- What is moved with the binary has the directory that it comes from, or one above it, in its way.
-/
def Clash (bin d : Place) (n : Bytes) : Prop := bin ++ [n] <+: d

/-- The destination of a side file is not where the staged binary is, nor above it. -/
theorem not_prefix_staged (hn : n ≠ b) (hclash : ¬ Clash bin d n) : ¬ bin ++ [n] <+: d ++ [b] := by
  intro hp
  rcases List.prefix_concat_iff.1 hp with heq | hp
  · exact hn (List.singleton_inj.1 (List.append_inj_right' heq rfl))
  · exact hclash hp

/-- The directory that items are moved to is there, and so is the staged binary. -/
structure Standing (d bin : Place) (b : Bytes) (v : Node) (t : Tree Node) : Prop where
  directory : node? t bin = some .dir
  staged : node? t (d ++ [b]) = some v

theorem not_prefix_self (bin : Place) (n : Bytes) : ¬ bin ++ [n] <+: bin := by
  intro hp
  have hlen := hp.length_le
  rw [List.length_append, List.length_singleton] at hlen
  omega

theorem Standing.dropDir (h : Standing d bin b v t) (hn : n ≠ b) (hclash : ¬ Clash bin d n)
    (hdrop : dropDir t (bin ++ [n]) = .ok t') : Standing d bin b v t' := by
  rw [(dropDir_ok hdrop).2]
  constructor
  · rw [node?_removeAt _ (by simp), if_neg (not_prefix_self bin n), h.directory]
  · rw [node?_removeAt _ (by simp), if_neg (not_prefix_staged hn hclash), h.staged]

theorem Standing.moveNode (h : Standing d bin b v t) (hn : n ≠ b) (hclash : ¬ Clash bin d n)
    (hmove : moveNode t (d ++ [n]) (bin ++ [n]) = .ok t') : Standing d bin b v t' := by
  rcases moveNode_ok hmove with ⟨-, rfl⟩ | ⟨hinside, -, -, -, rfl⟩
  · exact h
  · have hbin : ¬ d ++ [n] <+: bin := fun hp => hinside (hp.trans (List.prefix_append bin [n]))
    have hstaged : ¬ d ++ [n] <+: d ++ [b] := by
      rw [List.prefix_append_right_inj, List.cons_prefix_cons]
      exact fun hp => hn hp.1
    constructor
    · rw [node?_move _ (by simp) (by simp), if_neg (not_prefix_self bin n), if_neg hbin,
        h.directory]
    · rw [node?_move _ (by simp) (by simp), if_neg (not_prefix_staged hn hclash), if_neg hstaged,
        h.staged]

/-- What is gone does not come back when a side file is moved. -/
theorem gone_moveNode (hgone : node? t (d ++ [b]) = none) (hn : n ≠ b) (hclash : ¬ Clash bin d n)
    (hmove : Memory.moveNode t (d ++ [n]) (bin ++ [n]) = .ok t') :
    node? t' (d ++ [b]) = none := by
  rcases moveNode_ok hmove with ⟨-, rfl⟩ | ⟨-, -, -, -, rfl⟩
  · exact hgone
  · rw [node?_move _ (by simp) (by simp), if_neg (not_prefix_staged hn hclash)]
    split_ifs
    · rfl
    · exact hgone

theorem gone_dropDir {p q : Place} (hgone : node? t q = none) (hdrop : Memory.dropDir t p = .ok t')
    (hp : p ≠ []) : node? t' q = none := by
  rw [(dropDir_ok hdrop).2, node?_removeAt _ hp]
  split_ifs
  · rfl
  · exact hgone

/-- The staged binary can be moved to a place where no directory is. -/
theorem Standing.moves (h : Standing d bin b v t) (hs : Sound t) (hv : v ≠ .dir)
    (hfree : node? t (bin ++ [b]) ≠ some .dir) : ∃ t',
      Memory.moveNode t (d ++ [b]) (bin ++ [b]) = .ok t' ∧ node? t' (bin ++ [b]) = some v := by
  by_cases heq : d ++ [b] = bin ++ [b]
  · refine ⟨t, ?_, heq ▸ h.staged⟩
    unfold Memory.moveNode
    rw [h.staged]
    exact if_pos heq
  · have hinside : ¬ d ++ [b] <+: bin ++ [b] := by
      intro hp
      rcases List.prefix_concat_iff.1 hp with h' | hp
      · exact heq h'
      · have hdir := hs.dir_of_prefix h.directory hp
        rw [h.staged] at hdir
        exact hv (Option.some.inj hdir)
    refine ⟨_, moveNode_eq h.staged hinside (by rw [List.dropLast_concat, h.directory]) ?_, ?_⟩
    · cases hnode : node? t (bin ++ [b]) with
      | none => exact .inl rfl
      | some u =>
        cases u with
        | dir => exact absurd hnode hfree
        | file bytes mode => exact .inr ⟨hv, bytes, mode, rfl⟩
    · rw [node?_move _ (by simp) (by simp), if_pos (List.prefix_refl _), List.drop_length,
        List.append_nil, h.staged]

end Tree

/-! ## Moving the side files -/

section Loop

variable {η : Type} {S : Setting η} {source directory staged : Path} {d bin : Place} {b : Bytes}
  {w : World η} {names : List Bytes}

/-- A path leads to the binary in a directory, from which items are moved to another. -/
structure Sources (S : Setting η) (source directory staged : Path) (d bin : Place) (b : Bytes) :
    Prop where
  source_eq : S.place source = d
  directory_eq : S.place directory = bin
  staged_eq : staged.components = source.components ++ [.normal b]

theorem Sources.place_staged (hi : Sources S source directory staged d bin b) :
    S.place staged = d ++ [b] := by
  rw [← hi.source_eq]
  exact placeIn_of_components hi.staged_eq

/-- A call made for a side file with one of the names: it looks or warns, clears the way or moves.
-/
inductive ForSideFile (source directory : Path) (b : Bytes) (names : List Bytes) : Call → Prop
  | look {p : Path} : ForSideFile source directory b names (.isDir p)
  | warn {message : String} : ForSideFile source directory b names (.log .warn message)
  | clear {n : Bytes} : n ∈ names → n ≠ b →
      ForSideFile source directory b names (.removeTree (directory.child n))
  | move {n : Bytes} : n ∈ names → n ≠ b →
      ForSideFile source directory b names (.rename (source.child n) (directory.child n))

theorem allCalls_replace {P : Call → Prop} {p q : Path} (hlook : P (.isDir q))
    (hclear : P (.removeTree q)) (hmove : P (.rename p q)) : Attempt.AllCalls P (replace p q) := by
  have hrename : Attempt.AllCalls P (Attempt.rename p q) :=
    Attempt.allCalls_ofProgram (Program.allCalls_ask hmove)
  unfold replace
  refine Attempt.allCalls_bind (Attempt.allCalls_lift (Program.allCalls_ask hlook)) fun isDir => ?_
  cases isDir with
  | false => exact hrename
  | true =>
    exact Attempt.allCalls_bind (Attempt.allCalls_ofProgram (Program.allCalls_ask hclear))
      fun _ => hrename

/-- Moves one side file, or warns that it cannot be moved. -/
def moveSide (item target : Path) : Program Unit := do
  if let .error e ← (replace item target).run then
    logWarn ("Failed to install " ++ target.quoted ++ ": " ++ e.message)

/-- The items are dealt with one by one, all but the staged binary. -/
theorem moveOthers_cons (hi : Sources S source directory staged d bin b) {n : Bytes}
    (hn : IsName n) (l : List Bytes) :
    moveOthers staged directory ((n :: l).map source.child) =
      if n = b then moveOthers staged directory (l.map source.child)
      else (do
        moveSide (source.child n) (directory.child n)
        moveOthers staged directory (l.map source.child)) := by
  have hcomp := Path.components_child source hn
  have hsame : (source.child n).sameAs staged = decide (n = b) := by
    rw [Bool.eq_iff_iff, Path.sameAs_iff, hcomp, hi.staged_eq, decide_eq_true_iff]
    refine ⟨fun he => ?_, fun he => by rw [he]⟩
    simpa using List.append_inj_right' he rfl
  rw [List.map_cons, moveOthers, hsame]
  by_cases hb : n = b
  · rw [decide_eq_true hb, if_pos hb]
    rfl
  · rw [decide_eq_false hb, if_neg hb, Path.fileName?_of_components hcomp]
    show ((replace _ _).run >>= fun r => _) = ((replace _ _).run >>= fun r => _) >>= fun _ => _
    rw [bind_assoc]
    refine bind_congr fun r => ?_
    cases r <;> rfl

theorem allCalls_moveSide {n : Bytes} (hn : n ∈ names) (hb : n ≠ b) :
    (moveSide (source.child n) (directory.child n)).AllCalls
      (ForSideFile source directory b names) := by
  refine Program.allCalls_bind (p := (replace _ _).run)
    (allCalls_replace .look (.clear hn hb) (.move hn hb)) fun r => ?_
  cases r with
  | error e => exact Program.allCalls_ask .warn
  | ok _ => exact Program.allCalls_pure _

/-- Moving the items next to the binary makes only such calls. -/
theorem allCalls_moveOthers (hi : Sources S source directory staged d bin b)
    (hn : ∀ n ∈ names, IsName n) {l : List Bytes} (hl : ∀ n ∈ l, n ∈ names) :
    (moveOthers staged directory (l.map source.child)).AllCalls
      (ForSideFile source directory b names) := by
  induction l with
  | nil => exact Program.allCalls_pure _
  | cons n l ih =>
    obtain ⟨hmem, hrest⟩ := List.forall_mem_cons.1 hl
    rw [moveOthers_cons hi (hn n hmem)]
    split_ifs with hb
    · exact ih hrest
    · exact Program.allCalls_bind (allCalls_moveSide hmem hb) fun _ => ih hrest

/-- What a call for a side file does to the tree: nothing, or it clears the way or moves. -/
theorem ForSideFile.step_cases (hi : Sources S source directory staged d bin b)
    (hn : ∀ n ∈ names, IsName n) {c : Call} (hc : ForSideFile source directory b names c)
    {a : c.Answer} {w' : World η} (hstep : S.Step c w a w') :
    w'.tree = w.tree ∨ ∃ n ∈ names, n ≠ b ∧
      (dropDir w.tree (bin ++ [n]) = .ok w'.tree ∨
        moveNode w.tree (d ++ [n]) (bin ++ [n]) = .ok w'.tree) := by
  have htarget : ∀ n ∈ names, S.place (directory.child n) = bin ++ [n] := by
    intro n hmem
    rw [← hi.directory_eq]
    exact placeIn_child S.cwd directory (hn n hmem)
  cases hc with
  | look => exact .inl (View.ext_iff.1 hstep.2).1
  | warn => exact .inl (View.ext_iff.1 hstep).1
  | @clear n hmem hb =>
    rcases hstep with ⟨-, hw⟩ | ⟨e, -, -, hw⟩ | ⟨t, ht, -, hw⟩
    · exact .inl (View.ext_iff.1 hw).1
    · exact .inl (View.ext_iff.1 hw).1
    · refine .inr ⟨n, hmem, hb, .inl ?_⟩
      rw [← htarget n hmem, ht, (View.ext_iff.1 hw).1]
  | @move n hmem hb =>
    have hsource : S.place (source.child n) = d ++ [n] := by
      rw [← hi.source_eq]
      exact placeIn_child S.cwd source (hn n hmem)
    rcases hstep with ⟨-, hw⟩ | ⟨e, -, -, hw⟩ | ⟨t, ht, -, hw⟩
    · exact .inl (View.ext_iff.1 hw).1
    · exact .inl (View.ext_iff.1 hw).1
    · refine .inr ⟨n, hmem, hb, .inr ?_⟩
      rw [← hsource, ← htarget n hmem, ht, (View.ext_iff.1 hw).1]

section Kept

variable (hi : Sources S source directory staged d bin b) (hn : ∀ n ∈ names, IsName n)
  (hclash : ∀ n ∈ names, n ≠ b → ¬ Clash bin d n) {p : Program α}
  (hp : p.AllCalls (ForSideFile source directory b names))

include hi hn hclash hp

/-- Calls for side files without a clash leave the staged binary where it is. -/
theorem meets_standing {v : Node} (h : Standing d bin b v w.tree) :
    p.Meets S.Step (fun w' => Standing d bin b v w'.tree) (fun _ w' => Standing d bin b v w'.tree)
      w := by
  refine hp.meets_kept (J := fun w' : World η => Standing d bin b v w'.tree) ?_ h
  intro c hc w a w' hw hstep
  rcases hc.step_cases hi hn hstep with heq | ⟨n, hmem, hb, hdrop | hmove⟩
  · rwa [heq]
  · exact hw.dropDir hb (hclash n hmem hb) hdrop
  · exact hw.moveNode hb (hclash n hmem hb) hmove

/-- Calls for side files without a clash bring nothing back. -/
theorem meets_gone (h : node? w.tree (d ++ [b]) = none) :
    p.Meets S.Step (fun w' => node? w'.tree (d ++ [b]) = none)
      (fun _ w' => node? w'.tree (d ++ [b]) = none) w := by
  refine hp.meets_kept (J := fun w' : World η => node? w'.tree (d ++ [b]) = none) ?_ h
  intro c hc w a w' hw hstep
  rcases hc.step_cases hi hn hstep with heq | ⟨n, hmem, hb, hdrop | hmove⟩
  · rwa [heq]
  · exact gone_dropDir hw hdrop (by simp)
  · exact gone_moveNode hw hb (hclash n hmem hb) hmove

end Kept

/-! ### A side file in the way -/

theorem Clash.unique {n n' : Bytes} (h : Clash bin d n) (h' : Clash bin d n') : n = n' := by
  have heq := List.prefix_of_prefix_length_le h h' (by simp)
  exact (List.singleton_inj.1 (List.append_inj_right' (heq.eq_of_length (by simp)) rfl))

/-- Where the destination lies above the source, moving removes the source or fails. -/
theorem meets_replaceClash {p q : Path} {n : Bytes} {Q : Unit → World η → Prop}
    {R : Report → World η → Prop} (hp : S.place p = d ++ [n]) (hq : S.place q = bin ++ [n])
    (hclash : Clash bin d n) (hdir : node? w.tree d = some .dir)
    (hcleared : ∀ e, ∀ w' : World η, Cleared (bin ++ [n]) w.tree w'.tree → R e w')
    (hkept : ∀ e, ¬ S.Calm → R e w) :
    Attempt.Meets S.Step (fun _ => True) Q R (replace p q) w := by
  have habove : bin ++ [n] <+: d ++ [n] := hclash.trans (List.prefix_append d [n])
  refine meets_replace hp hq (by simp) (by simp) ?_ trivial (fun _ _ => trivial) ?_ ?_ ?_
  · intro hlong
    have hlen := hclash.length_le
    have hlen' := hlong.length_le
    simp only [List.length_append, List.length_singleton] at hlen hlen'
    omega
  · exact fun w' hmoved => absurd habove hmoved.outside
  · exact fun e hwhy => hkept e fun hc => (hwhy hc).1 (w.sound.dir_of_prefix hdir hclash)
  · exact fun e w' hc _ => hcleared e w' hc

/-- Without injected failures a side file that is in the way takes the staged binary away. -/
theorem meets_moveSideClash (hcalm : S.Calm) (hi : Sources S source directory staged d bin b)
    {v : Node} {n : Bytes} (hn : IsName n) (hclash : Clash bin d n)
    (h : Standing d bin b v w.tree) :
    (moveSide (source.child n) (directory.child n)).Meets S.Step (fun _ => True)
      (fun _ w' => node? w'.tree (d ++ [b]) = none) w := by
  have hdir : node? w.tree d = some .dir := w.sound.above d b (by rw [h.staged]; rfl)
  refine Program.meets_bind (p := (replace _ _).run) (Program.Meets.mono
    (meets_replaceClash (Q := fun _ _ => False)
      (R := fun _ w' => node? w'.tree (d ++ [b]) = none) ?_ ?_ hclash hdir ?_ ?_)
    (fun _ hw => hw) ?_)
  · rw [← hi.source_eq]
    exact placeIn_child S.cwd source hn
  · rw [← hi.directory_eq]
    exact placeIn_child S.cwd directory hn
  · intro e w' hcleared
    rw [hcleared.view, if_pos (hclash.trans (List.prefix_append d [b]))]
  · exact fun e hnot => absurd hcalm hnot
  · rintro (e | _) w' hgone
    · exact meets_log trivial hgone _ _
    · exact hgone.elim

/-- So it is for all of them, once the one that is in the way comes. -/
theorem meets_moveOthersClash (hcalm : S.Calm) (hi : Sources S source directory staged d bin b)
    {v : Node} {k : Bytes} (hk : Clash bin d k) (hkb : k ≠ b) {l : List Bytes}
    (hn : ∀ n ∈ l, IsName n) (hmem : k ∈ l) (hl : l.Nodup) (h : Standing d bin b v w.tree) :
    (moveOthers staged directory (l.map source.child)).Meets S.Step (fun _ => True)
      (fun _ w' => node? w'.tree (d ++ [b]) = none) w := by
  induction l generalizing w with
  | nil => cases hmem
  | cons n l ih =>
    obtain ⟨hname, hnames⟩ := List.forall_mem_cons.1 hn
    obtain ⟨hnot, hl'⟩ := List.nodup_cons.1 hl
    rw [moveOthers_cons hi hname]
    by_cases hb : n = b
    · rw [if_pos hb]
      exact ih hnames ((List.mem_cons.1 hmem).resolve_left fun he => hkb (he.trans hb)) hl' h
    rw [if_neg hb]
    by_cases hkn : k = n
    · -- the other names do not clash, so the binary stays away
      subst hkn
      have hclash : ∀ n ∈ l, n ≠ b → ¬ Clash bin d n := fun n hn' _ hc =>
        hnot (hk.unique hc ▸ hn')
      refine Program.meets_bind (Program.Meets.mono (meets_moveSideClash hcalm hi hname hk h)
        (fun _ hw => hw) fun _ w' hgone => ?_)
      exact Program.Meets.mono
        (meets_gone hi hnames hclash (allCalls_moveOthers hi hnames fun _ hm => hm) hgone)
        (fun _ _ => trivial) fun _ _ hw => hw
    · have hone : ∀ m ∈ [n], IsName m := by simpa using hname
      have hclash : ∀ m ∈ [n], m ≠ b → ¬ Clash bin d m := fun m hm _ hc =>
        hkn (hk.unique (List.mem_singleton.1 hm ▸ hc))
      refine Program.meets_bind (Program.Meets.mono
        (meets_standing hi hone hclash (allCalls_moveSide (List.mem_singleton_self n) hb) h)
        (fun _ _ => trivial) fun _ w' hw => ?_)
      exact ih hnames ((List.mem_cons.1 hmem).resolve_left hkn) hl' hw

/-! ### The binary itself -/

/-- Without injected failures the staged binary takes its place. -/
theorem meets_replaceStaged {binary : Path} (hcalm : S.Calm)
    (hi : Sources S source directory staged d bin b) (hbinary : S.place binary = bin ++ [b])
    {v : Node} (hv : v ≠ .dir) (hclash : ¬ Clash bin d b) (h : Standing d bin b v w.tree) :
    Attempt.Meets S.Step (fun _ => True) (fun _ w' => node? w'.tree (bin ++ [b]) = some v)
      (fun _ _ => False) (replace staged binary) w := by
  have hstaged := hi.place_staged
  have hrename : ∀ w₁ : World η, Standing d bin b v w₁.tree →
      node? w₁.tree (bin ++ [b]) ≠ some .dir →
      Attempt.Meets S.Step (fun _ => True) (fun _ w' => node? w'.tree (bin ++ [b]) = some v)
        (fun _ _ => False) (Attempt.rename staged binary) w₁ := by
    intro w₁ h₁ hfree
    obtain ⟨t, hmove, ht⟩ := h₁.moves w₁.sound hv hfree
    refine meets_rename trivial ?_ ?_
    · intro w' hok _
      rw [hstaged, hbinary, hmove] at hok
      rw [← Except.ok.inj hok]
      exact ht
    · intro e he
      obtain ⟨e', he'⟩ := he.error hcalm
      rw [hstaged, hbinary, hmove] at he'
      cases he'
  unfold replace
  refine Attempt.meets_bind (Attempt.meets_lift (meets_isDir trivial ?_))
  rw [hbinary]
  by_cases hd : hasDir w.tree (bin ++ [b]) = true
  · have hdir := hasDir_iff.1 hd
    have hapart : ¬ bin ++ [b] <+: d ++ [b] := by
      intro hp
      rcases List.prefix_concat_iff.1 hp with heq | hp
      · rw [heq, h.staged] at hdir
        exact hv (Option.some.inj hdir)
      · exact hclash hp
    rw [if_pos hd]
    refine Attempt.meets_bind (meets_removeTree trivial ?_ ?_)
    · intro w₁ hdrop _
      rw [hbinary] at hdrop
      have hview := node?_removeAt w.tree (p := bin ++ [b]) (by simp)
      have htree : w₁.tree = w.tree.removeAt (bin ++ [b]) := (dropDir_ok hdrop).2
      refine hrename w₁ ⟨?_, ?_⟩ ?_
      · rw [htree, hview, if_neg (not_prefix_self bin b), h.directory]
      · rw [htree, hview, if_neg hapart, h.staged]
      · rw [htree, hview, if_pos (List.prefix_refl _)]
        simp
    · intro e he
      obtain ⟨e', he'⟩ := he.error hcalm
      rw [hbinary] at he'
      exact dropDir_error he' hdir
  · rw [if_neg hd]
    exact hrename w h fun hdir => hd (hasDir_iff.2 hdir)

/-- Nothing can be moved that is not there. -/
theorem meets_replaceGone {binary : Path} (hstaged : S.place staged = d ++ [b])
    (hbinary : S.place binary = bin ++ [b]) (h : node? w.tree (d ++ [b]) = none) :
    Attempt.Meets S.Step (fun _ => True) (fun _ _ => False) (fun _ _ => True)
      (replace staged binary) w := by
  have hrename : ∀ w₁ : World η, node? w₁.tree (d ++ [b]) = none →
      Attempt.Meets S.Step (fun _ => True) (fun _ _ => False) (fun _ _ => True)
        (Attempt.rename staged binary) w₁ := by
    intro w₁ hgone
    refine meets_rename trivial (fun w' hok _ => ?_) fun _ _ => trivial
    rw [hstaged, Memory.moveNode, hgone] at hok
    cases hok
  unfold replace
  refine Attempt.meets_bind (Attempt.meets_lift (meets_isDir trivial ?_))
  split_ifs
  · refine Attempt.meets_bind (meets_removeTree trivial (fun w₁ hdrop _ => ?_) fun _ _ => trivial)
    rw [hbinary] at hdrop
    exact hrename w₁ (gone_dropDir h hdrop (by simp))
  · exact hrename w h

end Loop

end Install

end Provision
