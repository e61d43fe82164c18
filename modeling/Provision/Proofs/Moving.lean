import Provision.Proofs.Staging

/-!
# What moving into place does

A move clears a directory that is in its way, then renames; so three trees can be left: the old one,
the one without that directory and the one with the source moved. Everything about the loop over the
staged items and about the binary at the end follows from these three cases.

* `Memory.Cleared` and `Memory.Moved` describe the last two; `meets_replace` is the rule.
* `meets_moveOthers` is the rule for the loop, for any invariant that may speak of the items left.
-/

namespace Provision.Memory

open Provision.Path (IsName)

variable {η : Type} {S : Setting η} {I : World η → Prop} {w : World η} {a b : Place}
  {t t' t'' : Tree Node}

/-- The tree after the directory at a place has been removed. -/
structure Cleared (b : Place) (t t' : Tree Node) : Prop where
  dir : node? t b = some .dir
  view : ∀ q, node? t' q = if b <+: q then none else node? t q

/-- The tree after what was at `a` has been moved to `b`. -/
structure Moved (a b : Place) (t t' : Tree Node) : Prop where
  there : (node? t a).isSome
  outside : ¬ b <+: a
  /-- A directory takes the place of no file. -/
  kind : node? t a = some .dir → ∀ bytes mode, node? t b ≠ some (.file bytes mode)
  view : ∀ q, node? t' q =
    if b <+: q then node? t (a ++ q.drop b.length) else if a <+: q then none else node? t q

theorem Cleared.of_dropDir (hb : b ≠ []) (h : dropDir t b = .ok t') : Cleared b t t' where
  dir := (dropDir_ok h).1
  view q := by rw [(dropDir_ok h).2, node?_removeAt _ hb]

/-- A rename that succeeds has moved something. -/
theorem Moved.of_moveNode (hs : Sound t) (ha : a ≠ []) (hab : ¬ a <+: b)
    (hd : node? t b ≠ some .dir) (h : moveNode t a b = .ok t') : Moved a b t t' := by
  rcases moveNode_ok h with ⟨rfl, -⟩ | ⟨-, -, hb, ⟨v, hv, hkind⟩, rfl⟩
  · exact absurd (List.prefix_refl a) hab
  · refine ⟨by rw [hv]; rfl, ?_, ?_, node?_move _ ha hb⟩
    · rintro ⟨rest, rfl⟩
      have hrest : rest ≠ [] := by
        rintro rfl
        simp at hab
      rw [hs.none_below hrest hd] at hv
      cases hv
    · intro hdir bytes mode hfile
      rw [hv] at hdir
      cases hdir
      rcases hkind with hnone | ⟨_, _, -, hv'⟩
      · rw [hfile] at hnone
        cases hnone
      · exact hv' rfl

/-- Renaming after the way has been cleared is moving all the same. -/
theorem Cleared.moved (hc : Cleared b t t') (hab : ¬ a <+: b) (hm : Moved a b t' t'') :
    Moved a b t t'' := by
  have hview : ∀ r, node? t' (a ++ r) = node? t (a ++ r) := by
    intro r
    rw [hc.view, if_neg]
    intro hp
    rcases List.prefix_or_prefix_of_prefix hp (List.prefix_append a r) with h | h
    · exact hm.outside h
    · exact hab h
  have ha : node? t' a = node? t a := by
    have := hview []
    rwa [List.append_nil] at this
  refine ⟨?_, hm.outside, ?_, ?_⟩
  · rw [← ha]
    exact hm.there
  · intro _ bytes mode hfile
    rw [hc.dir] at hfile
    cases hfile
  · intro q
    rw [hm.view, hview]
    by_cases hq : b <+: q
    · rw [if_pos hq, if_pos hq]
    · rw [if_neg hq, if_neg hq, hc.view, if_neg hq]

/-- Moving something to a place, where a directory is removed first. `hkept` and `hcleared` say when
it fails without injected failures. -/
theorem meets_replace {source target : Path} {Q : Unit → World η → Prop}
    {R : Report → World η → Prop} (hsource : S.place source = a) (htarget : S.place target = b)
    (ha : a ≠ []) (hb : b ≠ []) (hab : ¬ a <+: b) (hI : I w)
    (hclear : ∀ w' : World η, Cleared b w.tree w'.tree → I w')
    (hmoved : ∀ w' : World η, Moved a b w.tree w'.tree → Q () w')
    (hkept : ∀ e, (S.Calm → node? w.tree b ≠ some .dir ∧
      ∃ e', moveNode w.tree a b = .error e') → R e w)
    (hcleared : ∀ e, ∀ w' : World η, Cleared b w.tree w'.tree →
      (S.Calm → ∃ e', moveNode w'.tree a b = .error e') → R e w') :
    Attempt.Meets S.Step I Q R (Install.replace source target) w := by
  unfold Install.replace
  refine Attempt.meets_bind (Attempt.meets_lift (meets_isDir hI ?_))
  rw [htarget]
  by_cases hd : hasDir w.tree b = true
  · rw [if_pos hd]
    refine Attempt.meets_bind (meets_removeTree hI ?_ ?_)
    · intro w₁ hdrop hnet
      rw [htarget] at hdrop
      have hc : Cleared b w.tree w₁.tree := .of_dropDir hb hdrop
      have hgone : node? w₁.tree b ≠ some .dir := by
        rw [hc.view, if_pos (List.prefix_refl b)]
        simp
      refine meets_rename (hclear w₁ hc) ?_ ?_
      · intro w₂ hmove hnet'
        rw [hsource, htarget] at hmove
        exact hmoved w₂ (hc.moved hab (.of_moveNode w₁.sound ha hab hgone hmove))
      · intro e he
        rw [hsource, htarget] at he
        exact hcleared e w₁ hc he.error
    · intro e he
      refine hkept e fun hcalm => ?_
      obtain ⟨e', he'⟩ := he.error hcalm
      rw [htarget] at he'
      exact absurd (hasDir_iff.1 hd) (dropDir_error he')
  · rw [if_neg hd]
    have hd' : node? w.tree b ≠ some .dir := fun h => hd (hasDir_iff.2 h)
    refine meets_rename hI ?_ ?_
    · intro w₁ hmove hnet
      rw [hsource, htarget] at hmove
      exact hmoved w₁ (.of_moveNode w.sound ha hab hd' hmove)
    · intro e he
      rw [hsource, htarget] at he
      exact hkept e fun hcalm => ⟨hd', he.error hcalm⟩

/-- Items of a directory `source` that are moved below `directory`, all but the staged binary. -/
structure Items (S : Setting η) (source directory staged : Path) (d bin : Place) (binary : Bytes) :
    Prop where
  source_eq : S.place source = d
  directory_eq : S.place directory = bin
  staged_eq : staged.components = source.components ++ [.normal binary]
  longer : bin.length < d.length

theorem Items.not_prefix {source directory staged : Path} {d bin : Place} {binary : Bytes}
    (hi : Items S source directory staged d bin binary) (n n' : Bytes) :
    ¬ d ++ [n] <+: bin ++ [n'] := by
  intro hp
  have hlen := hp.length_le
  have := hi.longer
  simp only [List.length_append, List.length_singleton] at hlen
  omega

theorem Items.place_staged {source directory staged : Path} {d bin : Place} {binary : Bytes}
    (hi : Items S source directory staged d bin binary) : S.place staged = d ++ [binary] := by
  rw [← hi.source_eq]
  exact placeIn_of_components hi.staged_eq

/-- The loop that moves the other items. `J` may speak of the items that are left; it has to survive
every way in which one of them is dealt with. -/
theorem meets_moveOthers {source directory staged : Path} {d bin : Place} {binary : Bytes}
    {J : List Bytes → World η → Prop} (hi : Items S source directory staged d bin binary)
    (hI : ∀ l w, J l w → I w) (hskip : ∀ l w, J (binary :: l) w → J l w)
    (hkept : ∀ n l w, n ≠ binary → J (n :: l) w →
      (S.Calm → node? w.tree (bin ++ [n]) ≠ some .dir ∧
        ∃ e, moveNode w.tree (d ++ [n]) (bin ++ [n]) = .error e) → J l w)
    (hclear : ∀ n l w, ∀ w' : World η, n ≠ binary → J (n :: l) w →
      Cleared (bin ++ [n]) w.tree w'.tree →
      I w' ∧ ((S.Calm → ∃ e, moveNode w'.tree (d ++ [n]) (bin ++ [n]) = .error e) → J l w'))
    (hmoved : ∀ n l w, ∀ w' : World η, n ≠ binary → J (n :: l) w →
      Moved (d ++ [n]) (bin ++ [n]) w.tree w'.tree → J l w')
    {names : List Bytes} (hn : ∀ n ∈ names, IsName n) (h : J names w) :
    (Install.moveOthers staged directory (names.map source.child)).Meets S.Step I
      (fun _ w' => J [] w') w := by
  induction names generalizing w with
  | nil => exact Program.meets_pure h
  | cons n l ih =>
    have hname : IsName n := hn n (List.mem_cons_self ..)
    have hrest : ∀ m ∈ l, IsName m := fun m hm => hn m (List.mem_cons_of_mem _ hm)
    have hcomp := Path.components_child source hname
    rw [List.map_cons, Install.moveOthers]
    by_cases hb : n = binary
    · have hsame : (source.child n).sameAs staged = true := by
        rw [Path.sameAs_iff, hcomp, hi.staged_eq, hb]
      rw [hsame]
      exact ih hrest (hskip l w (hb ▸ h))
    · have hsame : (source.child n).sameAs staged = false := by
        rw [← Bool.not_eq_true, Path.sameAs_iff, hcomp, hi.staged_eq]
        intro he
        have := List.append_inj_right' he rfl
        simp [hb] at this
      have hsource : S.place (source.child n) = d ++ [n] := by
        rw [← hi.source_eq]
        exact placeIn_child S.cwd source hname
      have htarget : S.place (directory.child n) = bin ++ [n] := by
        rw [← hi.directory_eq]
        exact placeIn_child S.cwd directory hname
      have hreplace : Attempt.Meets S.Step I (fun _ w' => J l w') (fun _ w' => J l w')
          (Install.replace (source.child n) (directory.child n)) w :=
        meets_replace hsource htarget (by simp) (by simp) (hi.not_prefix n n) (hI _ w h)
          (fun w' hc => (hclear n l w w' hb h hc).1) (fun w' hm => hmoved n l w w' hb h hm)
          (fun _ hwhy => hkept n l w hb h hwhy)
          fun _ w' hc hwhy => (hclear n l w w' hb h hc).2 hwhy
      rw [hsame, Path.fileName?_of_components hcomp]
      refine Program.meets_bind (Program.Meets.mono hreplace (fun _ hw => hw) ?_)
      rintro (e | _) w' hw
      · exact Program.meets_bind (meets_log (hI l w' hw) (ih hrest hw) _ _)
      · exact ih hrest hw

end Provision.Memory
