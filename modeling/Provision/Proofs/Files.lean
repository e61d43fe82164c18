import Mathlib.Data.List.Induction
import Mathlib.Tactic.ByContra
import Provision.Proofs.Paths

/-!
# File trees

What the operations of the memory host do to the nodes of its tree, and what makes a tree a file
system.

* `Memory.Sound` says that every node lies in a directory and has an ordinary name; the operations
  keep it.
* `moveNode_ok`, `dropDir_ok`, `dropFile_ok`, `changeMode_ok` and `makeFile_ok` invert the
  operations that succeed; `makeDirs_node?` and `makeDirs_cases` say what creating directories
  does.
* `OnlyIn` says that two trees differ in one place and below it only, as after an operation there.
* `mem_names_iff`: the names below a place are those of its nodes.
-/

namespace Provision.Memory

open Provision.Path (IsName)

variable {t t' : Tree Node} {p q : Place}

/-! ## The view of a tree -/

@[simp] theorem node?_nil (t : Tree Node) : node? t [] = some .dir := rfl

theorem node?_of_ne_nil (t : Tree Node) (h : q ≠ []) : node? t q = t.get? q := by
  rw [node?, if_neg h]

theorem node?_concat (t : Tree Node) (p : Place) (name : Bytes) :
    node? t (p ++ [name]) = t.get? (p ++ [name]) := node?_of_ne_nil t (by simp)

theorem node?_set (t : Tree Node) (v : Node) (hp : p ≠ []) (q : Place) :
    node? (t.set p v) q = if q = p then some v else node? t q := by
  by_cases hq : q = []
  · subst hq
    rw [if_neg (Ne.symm hp), node?_nil, node?_nil]
  · rw [node?_of_ne_nil _ hq, node?_of_ne_nil _ hq, Tree.get?_set]

theorem node?_removeAt (t : Tree Node) (hp : p ≠ []) (q : Place) :
    node? (t.removeAt p) q = if p <+: q then none else node? t q := by
  by_cases hq : q = []
  · subst hq
    rw [if_neg (by simpa using hp), node?_nil, node?_nil]
  · rw [node?_of_ne_nil _ hq, node?_of_ne_nil _ hq, Tree.get?_removeAt]
    simp only [Tree.isAtOrBelow_iff]

theorem node?_move (t : Tree Node) {source target : Place} (hs : source ≠ []) (ht : target ≠ [])
    (q : Place) :
    node? (t.move source target) q =
      if target <+: q then node? t (source ++ q.drop target.length)
      else if source <+: q then none else node? t q := by
  by_cases hq : q = []
  · subst hq
    rw [if_neg (by simpa using ht), if_neg (by simpa using hs), node?_nil, node?_nil]
  · rw [node?_of_ne_nil _ hq, node?_of_ne_nil _ hq, node?_of_ne_nil _ (by simp [hs]),
      Tree.get?_move]
    simp only [Tree.isAtOrBelow_iff]

theorem hasDir_iff : hasDir t p = true ↔ node? t p = some .dir := by
  simp [hasDir]

theorem file_eq_ok_iff {bytes : Bytes} {mode : Nat} :
    file t p = .ok (bytes, mode) ↔ node? t p = some (.file bytes mode) := by
  unfold file
  cases h : node? t p with
  | none => simp
  | some v => cases v <;> simp

theorem isOk_file_iff :
    (file t p).isOk = true ↔ ∃ bytes mode, node? t p = some (.file bytes mode) := by
  unfold file
  cases h : node? t p with
  | none => simp [Except.isOk, Except.toBool]
  | some v => cases v <;> simp [Except.isOk, Except.toBool]

/-- A place above another is at or above the one it lies in. -/
theorem prefix_dropLast (h : p <+: q) (hne : p ≠ q) : p <+: q.dropLast := by
  obtain ⟨rest, rfl⟩ := h
  have hrest : rest ≠ [] := by
    rintro rfl
    simp at hne
  rw [List.dropLast_append_of_ne_nil hrest]
  exact List.prefix_append _ _

/-! ## Sound trees -/

/-- A tree that can be a file system: every node lies in a directory and has an ordinary name. -/
structure Sound (t : Tree Node) : Prop where
  above : ∀ p name, (node? t (p ++ [name])).isSome → node? t p = some .dir
  isName : ∀ p name, (node? t (p ++ [name])).isSome → IsName name

/-- What has something below it is a directory. -/
theorem Sound.dir_above (hs : Sound t) {rest : Place} (hne : rest ≠ [])
    (h : (node? t (p ++ rest)).isSome) : node? t p = some .dir := by
  induction rest using List.reverseRecOn with
  | nil => exact absurd rfl hne
  | append_singleton front name ih =>
    rw [← List.append_assoc] at h
    have hdir := hs.above _ _ h
    by_cases hf : front = []
    · rwa [hf, List.append_nil] at hdir
    · exact ih hf (by rw [hdir]; rfl)

/-- Nothing is below what is not a directory. -/
theorem Sound.none_below (hs : Sound t) {rest : Place} (hne : rest ≠ [])
    (h : node? t p ≠ some .dir) : node? t (p ++ rest) = none := by
  by_contra hsome
  exact h (hs.dir_above hne (Option.isSome_iff_ne_none.2 hsome))

/-- The places above a directory are directories. -/
theorem Sound.dir_of_prefix (hs : Sound t) (h : node? t q = some .dir) (hp : p <+: q) :
    node? t p = some .dir := by
  obtain ⟨rest, rfl⟩ := hp
  by_cases hr : rest = []
  · rwa [hr, List.append_nil] at h
  · exact hs.dir_above hr (by rw [h]; rfl)

/-- Whether a tree is sound can be seen from its entries. -/
theorem sound_iff : Sound t ↔ ∀ e ∈ t.entries,
    node? t e.1.dropLast = some .dir ∧ ∀ name ∈ e.1.getLast?, IsName name := by
  constructor
  · intro hs e he
    rcases List.eq_nil_or_concat e.1 with hnil | ⟨p, name, hp⟩
    · simp [hnil]
    · have hsome : (node? t (p ++ [name])).isSome := by
        rw [node?_concat, Tree.get?, List.lookup_isSome_iff]
        exact ⟨e, he, by simp [hp]⟩
      simp only [hp, List.concat_eq_append, List.dropLast_concat, List.getLast?_concat,
        Option.mem_some_iff]
      exact ⟨hs.above p name hsome, fun _ hname => hname ▸ hs.isName p name hsome⟩
  · intro h
    have hentry : ∀ p name, (node? t (p ++ [name])).isSome →
        node? t p = some .dir ∧ IsName name := by
      intro p name hsome
      rw [node?_concat, Tree.get?, List.lookup_isSome_iff] at hsome
      obtain ⟨e, he, heq⟩ := hsome
      have := h e he
      simpa [← eq_of_beq heq] using this
    exact ⟨fun p name hsome => (hentry p name hsome).1, fun p name hsome => (hentry p name hsome).2⟩

instance : DecidablePred Sound := fun _ => decidable_of_iff _ sound_iff.symm

theorem Sound.set (hs : Sound t) {name : Bytes} {v : Node} (hp : node? t p = some .dir)
    (hn : IsName name) (hv : v = .dir ∨ node? t (p ++ [name]) ≠ some .dir) :
    Sound (t.set (p ++ [name]) v) where
  above a n h := by
    rw [node?_set _ _ (by simp)] at h ⊢
    split_ifs at h with he
    · obtain ⟨rfl, -⟩ := List.append_inj' he rfl
      rw [if_neg (by simp)]
      exact hp
    · have ha := hs.above a n h
      split_ifs with hap
      · subst hap
        rcases hv with rfl | hv
        · rfl
        · exact absurd ha hv
      · exact ha
  isName a n h := by
    rw [node?_set _ _ (by simp)] at h
    split_ifs at h with he
    · obtain ⟨-, he⟩ := List.append_inj' he rfl
      rwa [List.singleton_inj.1 he]
    · exact hs.isName a n h

theorem Sound.removeAt (hs : Sound t) (hp : p ≠ []) : Sound (t.removeAt p) where
  above a n h := by
    rw [node?_removeAt _ hp] at h ⊢
    split_ifs at h with hpre
    · simp at h
    · rw [if_neg fun ha => hpre (ha.trans (List.prefix_append ..))]
      exact hs.above a n h
  isName a n h := by
    rw [node?_removeAt _ hp] at h
    split_ifs at h with hpre
    · simp at h
    · exact hs.isName a n h

theorem Sound.move (hs : Sound t) {source : Place} {name : Bytes} (hsource : source ≠ [])
    (hp : node? t p = some .dir) (hn : IsName name) (hinside : ¬ source <+: p ++ [name]) :
    Sound (t.move source (p ++ [name])) where
  above a n h := by
    rw [node?_move _ hsource (by simp)] at h ⊢
    by_cases hat : p ++ [name] <+: a
    · rw [if_pos (hat.trans (List.prefix_append ..))] at h
      rw [if_pos hat]
      obtain ⟨rest, rfl⟩ := hat
      rw [List.append_assoc, List.drop_left] at h
      rw [List.drop_left]
      rw [← List.append_assoc] at h
      exact hs.above _ _ h
    · by_cases hcat : p ++ [name] <+: a ++ [n]
      · -- the node is the target itself
        obtain he : p ++ [name] = a ++ [n] := (List.prefix_concat_iff.1 hcat).resolve_right hat
        obtain ⟨rfl, -⟩ := List.append_inj' he rfl
        rw [if_neg hat, if_neg fun hsa => hinside (hsa.trans (List.prefix_append ..))]
        exact hp
      · rw [if_neg hcat] at h
        rw [if_neg hat]
        split_ifs at h with hsa
        · simp at h
        · rw [if_neg fun ha => hsa (ha.trans (List.prefix_append ..))]
          exact hs.above a n h
  isName a n h := by
    rw [node?_move _ hsource (by simp)] at h
    split_ifs at h with hat hsa
    · by_cases hat' : p ++ [name] <+: a
      · obtain ⟨rest, rfl⟩ := hat'
        rw [List.append_assoc, List.drop_left, ← List.append_assoc] at h
        exact hs.isName _ _ h
      · obtain he : p ++ [name] = a ++ [n] := (List.prefix_concat_iff.1 hat).resolve_right hat'
        obtain ⟨-, he⟩ := List.append_inj' he rfl
        rwa [← List.singleton_inj.1 he]
    · simp at h
    · exact hs.isName a n h

/-! ## Creating directories -/

/-- A place at which directories are created below `above` on the way down `names`. -/
def OnTheWay (above : Place) (names : List Bytes) (q : Place) : Prop :=
  above <+: q ∧ q ≠ above ∧ q <+: above ++ names

theorem onTheWay_nil_iff : OnTheWay [] p q ↔ q ≠ [] ∧ q <+: p := by
  simp [OnTheWay]

theorem not_onTheWay_nil (above : Place) : ¬ OnTheWay above [] q := by
  rintro ⟨h₁, h₂, h₃⟩
  rw [List.append_nil] at h₃
  exact h₂ (h₃.eq_of_length_le h₁.length_le)

theorem onTheWay_cons_iff {above : Place} {name : Bytes} {names : List Bytes} :
    OnTheWay above (name :: names) q ↔
      q = above ++ [name] ∨ OnTheWay (above ++ [name]) names q := by
  constructor
  · rintro ⟨⟨rest, rfl⟩, hne, hpre⟩
    rw [List.prefix_append_right_inj] at hpre
    cases rest with
    | nil => simp at hne
    | cons n rest =>
      obtain ⟨rfl, hrest⟩ := List.cons_prefix_cons.1 hpre
      by_cases hr : rest = []
      · left
        rw [hr]
      · right
        refine ⟨⟨rest, by simp⟩, by simpa using hr, ?_⟩
        simpa [List.prefix_append_right_inj] using hrest
  · rintro (rfl | ⟨⟨rest, rfl⟩, hne, hpre⟩)
    · exact ⟨List.prefix_append .., by simp, by simp [List.prefix_append_right_inj]⟩
    · refine ⟨⟨name :: rest, by simp⟩, by simp, ?_⟩
      simpa [List.prefix_append_right_inj] using hpre

/-- One step of creating directories: a file stops it, and otherwise there is a directory at the
next place and nothing else has changed. -/
theorem makeDirs_cons (t : Tree Node) (above : Place) (name : Bytes) (names : List Bytes) :
    (∃ bytes mode e, node? t (above ++ [name]) = some (.file bytes mode) ∧
      makeDirs t above (name :: names) = (.error e, t)) ∨
    ∃ u, makeDirs t above (name :: names) = makeDirs u (above ++ [name]) names ∧
      (u = t ∧ node? t (above ++ [name]) = some .dir ∨
        u = t.set (above ++ [name]) .dir ∧ node? t (above ++ [name]) = none) := by
  cases hn : node? t (above ++ [name]) with
  | some v =>
    cases v with
    | file bytes mode => exact .inl ⟨bytes, mode, _, rfl, by rw [makeDirs, hn]⟩
    | dir => exact .inr ⟨t, by rw [makeDirs, hn], .inl ⟨rfl, rfl⟩⟩
  | none => exact .inr ⟨_, by rw [makeDirs, hn], .inr ⟨rfl, rfl⟩⟩

/-- Creating directories only puts directories where nothing was, on the way. -/
theorem makeDirs_node? (t : Tree Node) (above : Place) (names : List Bytes) (q : Place) :
    node? (makeDirs t above names).2 q = node? t q ∨
      (OnTheWay above names q ∧ node? t q = none ∧
        node? (makeDirs t above names).2 q = some .dir) := by
  induction names generalizing t above with
  | nil => exact .inl rfl
  | cons name names ih =>
    rcases makeDirs_cons t above name names with ⟨_, _, _, -, he⟩ | ⟨u, he, ⟨rfl, -⟩ | ⟨rfl, hn⟩⟩
    · rw [he]
      exact .inl rfl
    · rw [he]
      rcases ih u (above ++ [name]) with h | ⟨hway, h⟩
      · exact .inl h
      · exact .inr ⟨onTheWay_cons_iff.2 (.inr hway), h⟩
    · rw [he]
      have hset := node?_set t .dir (p := above ++ [name]) (by simp) q
      rcases ih (t.set (above ++ [name]) .dir) (above ++ [name]) with h | ⟨hway, h₁, h₂⟩
      · rw [hset] at h
        split_ifs at h with hq
        · exact .inr ⟨onTheWay_cons_iff.2 (.inl hq), by rw [hq, hn], h⟩
        · exact .inl h
      · rw [hset] at h₁
        split_ifs at h₁ with hq
        exact .inr ⟨onTheWay_cons_iff.2 (.inr hway), h₁, h₂⟩

/-- Creating directories leaves what was there. -/
theorem makeDirs_node?_of_some {above : Place} {names : List Bytes} {v : Node}
    (h : node? t q = some v) : node? (makeDirs t above names).2 q = some v := by
  rcases makeDirs_node? t above names q with hq | ⟨-, hq, -⟩
  · rw [hq, h]
  · rw [h] at hq
    simp at hq

/-- Creating directories fails only at a file on the way. -/
theorem makeDirs_cases (t : Tree Node) (above : Place) (names : List Bytes) :
    ((makeDirs t above names).1 = .ok () ∧
      ∀ q, OnTheWay above names q → node? (makeDirs t above names).2 q = some .dir) ∨
    ((∃ e, (makeDirs t above names).1 = .error e) ∧
      ∃ q bytes mode, OnTheWay above names q ∧ node? t q = some (.file bytes mode)) := by
  induction names generalizing t above with
  | nil => exact .inl ⟨rfl, fun q hq => absurd hq (not_onTheWay_nil above)⟩
  | cons name names ih =>
    rcases makeDirs_cons t above name names with ⟨bytes, mode, e, hn, he⟩ | ⟨u, he, hu⟩
    · rw [he]
      exact .inr ⟨⟨e, rfl⟩, _, bytes, mode, onTheWay_cons_iff.2 (.inl rfl), hn⟩
    · have hdir : node? u (above ++ [name]) = some .dir := by
        rcases hu with ⟨rfl, hn⟩ | ⟨rfl, -⟩
        · exact hn
        · rw [node?_set _ _ (by simp), if_pos rfl]
      have hsame : ∀ q, q ≠ above ++ [name] → node? u q = node? t q := by
        intro q hq
        rcases hu with ⟨rfl, -⟩ | ⟨rfl, -⟩
        · rfl
        · rw [node?_set _ _ (by simp), if_neg hq]
      rw [he]
      rcases ih u (above ++ [name]) with ⟨hok, hall⟩ | ⟨herr, q, bytes, mode, hway, hq⟩
      · refine .inl ⟨hok, fun q hq => ?_⟩
        rcases onTheWay_cons_iff.1 hq with rfl | hq
        · exact makeDirs_node?_of_some hdir
        · exact hall q hq
      · refine .inr ⟨herr, q, bytes, mode, onTheWay_cons_iff.2 (.inr hway), ?_⟩
        rwa [← hsame q hway.2.1]

theorem Sound.makeDirs (hs : Sound t) {above : Place} {names : List Bytes}
    (ha : node? t above = some .dir) (hn : ∀ n ∈ names, IsName n) :
    Sound (makeDirs t above names).2 := by
  induction names generalizing t above with
  | nil => exact hs
  | cons name names ih =>
    have hname : IsName name := hn name (List.mem_cons_self ..)
    have hrest : ∀ n ∈ names, IsName n := fun n h => hn n (List.mem_cons_of_mem _ h)
    rcases makeDirs_cons t above name names with ⟨_, _, _, -, he⟩ | ⟨u, he, ⟨rfl, hd⟩ | ⟨rfl, -⟩⟩
    · rw [he]
      exact hs
    · rw [he]
      exact ih hs hd hrest
    · rw [he]
      refine ih (hs.set ha hname (.inl rfl)) ?_ hrest
      rw [node?_set _ _ (by simp), if_pos rfl]

/-! ## The other operations -/

theorem eq_dropLast_concat (h : p ≠ []) : ∃ above name, p = above ++ [name] :=
  ⟨p.dropLast, p.getLast h, (List.dropLast_concat_getLast h).symm⟩

theorem makeFile_ok (h : makeFile t p = .ok t') :
    p ≠ [] ∧ ((∃ bytes mode, node? t p = some (.file bytes mode) ∧ t' = t.set p (.file [] mode)) ∨
      (node? t p = none ∧ node? t p.dropLast = some .dir ∧ t' = t.set p (.file [] 0o644))) := by
  unfold makeFile at h
  have hp : p ≠ [] := by
    rintro rfl
    simp at h
  refine ⟨hp, ?_⟩
  cases hn : node? t p with
  | some v =>
    rw [hn] at h
    cases v with
    | dir => simp at h
    | file bytes mode => exact .inl ⟨bytes, mode, rfl, by simpa using h.symm⟩
  | none =>
    rw [hn] at h
    dsimp only at h
    split_ifs at h with hd
    exact .inr ⟨rfl, hasDir_iff.1 hd, by simpa using h.symm⟩

/-- Creating a file fails only at a directory or outside one. -/
theorem makeFile_error {e : Report} (h : makeFile t p = .error e) :
    node? t p = some .dir ∨ node? t p = none ∧ node? t p.dropLast ≠ some .dir := by
  unfold makeFile at h
  cases hn : node? t p with
  | some v =>
    rw [hn] at h
    cases v with
    | dir => exact .inl rfl
    | file bytes mode => simp at h
  | none =>
    rw [hn] at h
    dsimp only at h
    split_ifs at h with hd
    exact .inr ⟨rfl, fun hd' => hd (hasDir_iff.2 hd')⟩

/-- What makes a move succeed, and what it does. -/
theorem moveNode_ok {source target : Place} (h : moveNode t source target = .ok t') :
    (source = target ∧ t' = t) ∨
      (¬ source <+: target ∧ node? t target.dropLast = some .dir ∧ target ≠ [] ∧
        (∃ v, node? t source = some v ∧
          (node? t target = none ∨
            ∃ bytes mode, node? t target = some (.file bytes mode) ∧ v ≠ .dir)) ∧
        t' = t.move source target) := by
  unfold moveNode at h
  cases hs : node? t source with
  | none => simp [hs] at h
  | some v =>
    simp only [hs] at h
    by_cases heq : source = target
    · rw [if_pos heq] at h
      exact .inl ⟨heq, by simpa using h.symm⟩
    rw [if_neg heq] at h
    by_cases hin : source <+: target
    · rw [if_pos (Tree.isAtOrBelow_iff.2 hin)] at h
      simp at h
    rw [if_neg fun hp => hin (Tree.isAtOrBelow_iff.1 hp)] at h
    by_cases hdir : node? t target.dropLast = some .dir
    · rw [if_neg (by simp [hasDir_iff, hdir])] at h
      have hne : target ≠ [] := by
        rintro rfl
        simp at h
      cases ht : node? t target with
      | none =>
        rw [ht] at h
        exact .inr ⟨hin, hdir, hne, ⟨v, rfl, .inl rfl⟩, by simpa using h.symm⟩
      | some w =>
        cases w with
        | dir => simp [ht] at h
        | file bytes mode =>
          simp only [ht] at h
          by_cases hv : v = .dir
          · simp [hv] at h
          · rw [if_neg hv] at h
            exact .inr ⟨hin, hdir, hne, ⟨v, rfl, .inr ⟨bytes, mode, rfl, hv⟩⟩,
              by simpa using h.symm⟩
    · simp [hasDir, hdir] at h

/-- What lets a move succeed. -/
theorem moveNode_eq {source target : Place} {v : Node} (hs : node? t source = some v)
    (hin : ¬ source <+: target) (hdir : node? t target.dropLast = some .dir)
    (ht : node? t target = none ∨
      v ≠ .dir ∧ ∃ bytes mode, node? t target = some (.file bytes mode)) :
    moveNode t source target = .ok (t.move source target) := by
  have hne : source ≠ target := by
    rintro rfl
    exact hin (List.prefix_refl _)
  simp only [moveNode, hs, if_neg hne, Tree.isAtOrBelow_iff, if_neg hin, hasDir, hdir, decide_true]
  rcases ht with ht | ⟨hv, bytes, mode, ht⟩
  · simp [ht]
  · simp [ht, hv]

theorem dropFile_ok (h : dropFile t p = .ok t') :
    (∃ bytes mode, node? t p = some (.file bytes mode)) ∧ t' = t.removeAt p := by
  unfold dropFile file at h
  cases hn : node? t p with
  | none =>
    rw [hn] at h
    simp [Except.map] at h
  | some v =>
    rw [hn] at h
    cases v with
    | dir => simp [Except.map] at h
    | file bytes mode => exact ⟨⟨bytes, mode, rfl⟩, by simpa [Except.map] using h.symm⟩

theorem dropFile_error {e : Report} (h : dropFile t p = .error e) :
    ¬ ∃ bytes mode, node? t p = some (.file bytes mode) := by
  rintro ⟨bytes, mode, hn⟩
  simp [dropFile, file, hn, Except.map] at h

theorem dropDir_ok (h : dropDir t p = .ok t') : node? t p = some .dir ∧ t' = t.removeAt p := by
  unfold dropDir at h
  cases hn : node? t p with
  | none =>
    rw [hn] at h
    simp at h
  | some v =>
    rw [hn] at h
    cases v with
    | dir => exact ⟨rfl, by simpa using h.symm⟩
    | file bytes mode => simp at h

theorem dropDir_error {e : Report} (h : dropDir t p = .error e) : node? t p ≠ some .dir := by
  intro hn
  simp [dropDir, hn] at h

theorem changeMode_ok {mode : Nat} (h : changeMode t p mode = .ok t') :
    (node? t p = some .dir ∧ t' = t) ∨
      ∃ bytes old, p ≠ [] ∧ node? t p = some (.file bytes old) ∧
        t' = t.set p (.file bytes mode) := by
  unfold changeMode at h
  cases hn : node? t p with
  | none =>
    rw [hn] at h
    simp at h
  | some v =>
    rw [hn] at h
    cases v with
    | dir => exact .inl ⟨rfl, by simpa using h.symm⟩
    | file bytes old =>
      refine .inr ⟨bytes, old, ?_, rfl, by simpa using h.symm⟩
      rintro rfl
      simp at hn

theorem node?_changeMode_self {mode old : Nat} {bytes : Bytes}
    (hf : node? t p = some (.file bytes old)) (h : changeMode t p mode = .ok t') :
    node? t' p = some (.file bytes mode) := by
  rcases changeMode_ok h with ⟨hd, -⟩ | ⟨bytes', old', hp, hf', rfl⟩
  · rw [hf] at hd
    cases hd
  · rw [hf] at hf'
    cases hf'
    rw [node?_set _ _ hp, if_pos rfl]

theorem changeMode_error {mode : Nat} {e : Report} (h : changeMode t p mode = .error e) :
    node? t p = none := by
  unfold changeMode at h
  cases hn : node? t p with
  | none => rfl
  | some v =>
    rw [hn] at h
    cases v <;> simp at h

theorem append_cases (t : Tree Node) (p : Place) (chunk : Bytes) :
    (∃ bytes mode, p ≠ [] ∧ node? t p = some (.file bytes mode) ∧
      append t p chunk = t.set p (.file (bytes ++ chunk) mode)) ∨
    ((¬ ∃ bytes mode, node? t p = some (.file bytes mode)) ∧ append t p chunk = t) := by
  unfold append
  cases hn : node? t p with
  | none => exact .inr ⟨by simp, rfl⟩
  | some v =>
    cases v with
    | dir => exact .inr ⟨by simp, rfl⟩
    | file bytes mode =>
      refine .inl ⟨bytes, mode, ?_, rfl, rfl⟩
      rintro rfl
      simp at hn

theorem node?_append_self {bytes : Bytes} {mode : Nat} (h : node? t p = some (.file bytes mode))
    (chunk : Bytes) : node? (append t p chunk) p = some (.file (bytes ++ chunk) mode) := by
  rcases append_cases t p chunk with ⟨bytes', mode', hp, h', he⟩ | ⟨hno, -⟩
  · rw [h] at h'
    cases h'
    rw [he, node?_set _ _ hp, if_pos rfl]
  · exact absurd ⟨bytes, mode, h⟩ hno

/-- A created file is empty. -/
theorem node?_makeFile_self (h : makeFile t p = .ok t') :
    ∃ mode, node? t' p = some (.file [] mode) := by
  obtain ⟨hp, ⟨bytes, mode, -, rfl⟩ | ⟨-, -, rfl⟩⟩ := makeFile_ok h
  · exact ⟨mode, by rw [node?_set _ _ hp, if_pos rfl]⟩
  · exact ⟨_, by rw [node?_set _ _ hp, if_pos rfl]⟩

/-! ## Operations keep a tree sound -/

/-- Putting a file where a file is, or into a directory. -/
theorem Sound.setFile (hs : Sound t) {bytes : Bytes} {mode : Nat} (hp : p ≠ [])
    (hn : ∀ n ∈ p, IsName n) (hd : node? t p.dropLast = some .dir) (hf : node? t p ≠ some .dir) :
    Sound (t.set p (.file bytes mode)) := by
  obtain ⟨above, name, rfl⟩ := eq_dropLast_concat hp
  rw [List.dropLast_concat] at hd
  exact hs.set hd (hn name (by simp)) (.inr hf)

theorem Sound.dropLast_dir (hs : Sound t) (hp : p ≠ []) (h : (node? t p).isSome) :
    node? t p.dropLast = some .dir := by
  obtain ⟨above, name, rfl⟩ := eq_dropLast_concat hp
  rw [List.dropLast_concat]
  exact hs.above _ _ h

theorem Sound.replaceFile (hs : Sound t) {bytes old : Bytes} {mode oldMode : Nat} (hp : p ≠ [])
    (hn : ∀ n ∈ p, IsName n) (hf : node? t p = some (.file old oldMode)) :
    Sound (t.set p (.file bytes mode)) :=
  hs.setFile hp hn (hs.dropLast_dir hp (by rw [hf]; rfl)) (by rw [hf]; simp)

theorem Sound.moveNode {source target : Place} (hs : Sound t) (hn : ∀ n ∈ target, IsName n)
    (h : moveNode t source target = .ok t') : Sound t' := by
  rcases moveNode_ok h with ⟨-, rfl⟩ | ⟨hin, hd, hne, -, rfl⟩
  · exact hs
  · obtain ⟨above, name, rfl⟩ := eq_dropLast_concat hne
    rw [List.dropLast_concat] at hd
    have hsource : source ≠ [] := by
      rintro rfl
      exact hin (List.nil_prefix ..)
    exact hs.move hsource hd (hn name (by simp)) hin

/-! ## Changes in one place -/

/-- Nothing has changed but at a place and below it. -/
def OnlyIn (d : Place) (t t' : Tree Node) : Prop := ∀ q, ¬ d <+: q → node? t' q = node? t q

section OnlyIn

variable {d : Place}

theorem OnlyIn.refl (d : Place) (t : Tree Node) : OnlyIn d t t := fun _ _ => rfl

theorem OnlyIn.trans {t₁ t₂ t₃ : Tree Node} (h : OnlyIn d t₁ t₂) (h' : OnlyIn d t₂ t₃) :
    OnlyIn d t₁ t₃ := fun q hq => (h' q hq).trans (h q hq)

theorem onlyIn_set (t : Tree Node) (v : Node) (hp : p ≠ []) (hd : d <+: p) :
    OnlyIn d t (t.set p v) := by
  intro q hq
  rw [node?_set _ _ hp, if_neg]
  rintro rfl
  exact hq hd

theorem onlyIn_removeAt (t : Tree Node) (hp : p ≠ []) (hd : d <+: p) :
    OnlyIn d t (t.removeAt p) := by
  intro q hq
  rw [node?_removeAt _ hp, if_neg]
  intro hpq
  exact hq (hd.trans hpq)

theorem onlyIn_makeFile (h : makeFile t p = .ok t') (hd : d <+: p) : OnlyIn d t t' := by
  obtain ⟨hp, ⟨bytes, mode, -, rfl⟩ | ⟨-, -, rfl⟩⟩ := makeFile_ok h
  · exact onlyIn_set _ _ hp hd
  · exact onlyIn_set _ _ hp hd

theorem onlyIn_append (t : Tree Node) (chunk : Bytes) (hd : d <+: p) :
    OnlyIn d t (append t p chunk) := by
  rcases append_cases t p chunk with ⟨bytes, mode, hp, -, he⟩ | ⟨-, he⟩
  · rw [he]
    exact onlyIn_set _ _ hp hd
  · rw [he]
    exact .refl d t

theorem onlyIn_changeMode {mode : Nat} (h : changeMode t p mode = .ok t') (hd : d <+: p) :
    OnlyIn d t t' := by
  rcases changeMode_ok h with ⟨-, rfl⟩ | ⟨bytes, old, hp, -, rfl⟩
  · exact .refl d _
  · exact onlyIn_set _ _ hp hd

/-- Directories are created only where there is none, so not above a directory. -/
theorem onlyIn_makeDirs (hs : Sound t) (hd : d <+: p) (habove : node? t d.dropLast = some .dir) :
    OnlyIn d t (makeDirs t [] p).2 := by
  intro q hq
  rcases makeDirs_node? t [] p q with h | ⟨hway, hnone, -⟩
  · exact h
  · exfalso
    have hqp : q <+: p := (onTheWay_nil_iff.1 hway).2
    have hqd : q <+: d := by
      rcases List.prefix_or_prefix_of_prefix hqp hd with h | h
      · exact h
      · exact absurd h hq
    have hne : q ≠ d := by
      rintro rfl
      exact hq (List.prefix_refl q)
    rw [hs.dir_of_prefix habove (prefix_dropLast hqd hne)] at hnone
    cases hnone

end OnlyIn

/-! ## Listing -/

theorem nameBelow?_eq_some_iff {name : Bytes} :
    Tree.nameBelow? p q = some name ↔ ∃ rest, q = p ++ name :: rest := by
  unfold Tree.nameBelow?
  constructor
  · intro h
    split_ifs at h with hp
    obtain ⟨rest, rfl⟩ := Tree.isAtOrBelow_iff.1 hp
    rw [List.drop_left] at h
    cases rest with
    | nil => simp at h
    | cons n rest => exact ⟨rest, by rw [List.head?_cons, Option.some.injEq] at h; rw [h]⟩
  · rintro ⟨rest, rfl⟩
    rw [if_pos (Tree.isAtOrBelow_iff.2 (List.prefix_append ..)), List.drop_left, List.head?_cons]

/-- The names below a place are those of the nodes there. -/
theorem mem_names_iff (hs : Sound t) {name : Bytes} :
    name ∈ t.names p ↔ (node? t (p ++ [name])).isSome := by
  rw [Tree.names, List.mem_mergeSort, List.mem_eraseDups, List.mem_filterMap]
  constructor
  · rintro ⟨e, he, hname⟩
    obtain ⟨rest, hrest⟩ := nameBelow?_eq_some_iff.1 hname
    have hsome : (node? t ((p ++ [name]) ++ rest)).isSome := by
      rw [node?_of_ne_nil _ (by simp), Tree.get?, List.lookup_isSome_iff]
      exact ⟨e, he, by simp [hrest]⟩
    by_cases hr : rest = []
    · rwa [hr, List.append_nil] at hsome
    · rw [hs.dir_above hr hsome]
      rfl
  · intro h
    rw [node?_concat, Tree.get?, List.lookup_isSome_iff] at h
    obtain ⟨e, he, hkey⟩ := h
    exact ⟨e, he, nameBelow?_eq_some_iff.2 ⟨[], (eq_of_beq hkey).symm⟩⟩

theorem nodup_eraseDups (l : List Bytes) : l.eraseDups.Nodup := by
  induction hn : l.length using Nat.strongRecOn generalizing l with
  | _ n ih =>
    cases l with
    | nil => simp
    | cons a l =>
      rw [List.eraseDups_cons, List.nodup_cons]
      refine ⟨by simp, ih (l.filter fun b => !b == a).length ?_ _ rfl⟩
      have := List.length_filter_le (fun b => !b == a) l
      simp only [List.length_cons] at hn
      omega

/-- Every name is listed once. -/
theorem nodup_names (t : Tree Node) (p : Place) : (t.names p).Nodup :=
  (List.mergeSort_perm _ _).nodup_iff.2 (nodup_eraseDups _)

end Provision.Memory
