import Provision.Proofs.Moving

/-!
# Where the items of an archive are

The items beside the staged binary are moved into the `bin` directory one after another. They come
from an archive and may have any names, also those of the archive and of the staging directory.

* `Install.Settled` and `Install.Keeping` hold all along, whatever fails: outside the `bin`
  directory nothing changes, the archive stays a file, and the place of the binary is left alone.
* `Install.Tracks` says exactly where the items are after some of them have been dealt with and no
  failure was injected.
* `Install.Left` adds what happens to the staging directory: only an item named like it makes an end
  of it, and of the staged binary with it.
-/

namespace Provision.Install

open Memory

/-! ## Places in the bin directory -/

section Prefix

variable {p q r : Place} {n m : Bytes}

theorem not_prefix_of_length (h : q.length < p.length) : ¬ p <+: q := by
  intro hp
  have := hp.length_le
  omega

/-- What lies under one name does not lie under another. -/
theorem not_prefix_of_ne (h : n ≠ m) : ¬ p ++ [n] <+: p ++ m :: r := by
  intro hp
  rw [List.prefix_append_right_inj, List.cons_prefix_cons] at hp
  exact h hp.1

theorem prefix_cons (p : Place) (n : Bytes) (r : Place) : p ++ [n] <+: p ++ n :: r := by
  rw [List.prefix_append_right_inj, List.cons_prefix_cons]
  exact ⟨rfl, List.nil_prefix⟩

end Prefix

namespace Layout

variable (L : Layout)

/-- The directory below the staging directory in which the binary is found. -/
def source (src : Place) : Place := L.stagingPlace ++ src

theorem source_append (src r : Place) : L.source src ++ r = L.bin ++ L.staging :: (src ++ r) := by
  rw [source, stagingPlace, List.append_assoc, List.append_assoc, List.singleton_append]

theorem length_bin_lt (src : Place) : L.bin.length < (L.source src).length := by
  simp only [source, stagingPlace, List.length_append, List.length_singleton]
  omega

/-- A place that is not inside the `bin` directory. -/
def Above (q : Place) : Prop := ∀ m r, q ≠ L.bin ++ m :: r

theorem above_bin : L.Above L.bin := by
  intro m r h
  have := congrArg List.length h
  simp at this

end Layout

variable {L : Layout} {t t' t'' : Tree Node} {src : Place} {v : Node} {n m : Bytes}

/-! ## One item -/

section Item

theorem cleared_above {q : Place} (hc : Cleared (L.bin ++ [n]) t t') (hq : L.Above q) :
    node? t' q = node? t q := by
  rw [hc.view, if_neg]
  rintro ⟨r, rfl⟩
  exact hq n r (by rw [List.append_assoc, List.singleton_append])

theorem cleared_entry_ne (hc : Cleared (L.bin ++ [n]) t t') (hm : m ≠ n) (r : Place) :
    node? t' (L.bin ++ m :: r) = node? t (L.bin ++ m :: r) := by
  rw [hc.view, if_neg (not_prefix_of_ne hm.symm)]

theorem cleared_entry_self (hc : Cleared (L.bin ++ [n]) t t') (r : Place) :
    node? t' (L.bin ++ n :: r) = none := by
  rw [hc.view, if_pos (prefix_cons _ _ _)]

/-- What has been moved was not the staging directory into itself. -/
theorem moved_ne_staging (hm : Moved (L.source src ++ [n]) (L.bin ++ [n]) t t') :
    n ≠ L.staging := by
  rintro rfl
  apply hm.outside
  rw [Layout.source_append]
  exact prefix_cons _ _ _

theorem moved_above {q : Place} (hm : Moved (L.source src ++ [n]) (L.bin ++ [n]) t t')
    (hq : L.Above q) : node? t' q = node? t q := by
  rw [hm.view, if_neg, if_neg]
  · rintro ⟨r, rfl⟩
    rw [Layout.source_append, List.append_assoc, List.cons_append] at hq
    exact hq _ _ rfl
  · rintro ⟨r, rfl⟩
    exact hq n r (by rw [List.append_assoc, List.singleton_append])

theorem moved_entry_ne (hm : Moved (L.source src ++ [n]) (L.bin ++ [n]) t t') (hn : m ≠ n)
    (hs : m ≠ L.staging) (r : Place) :
    node? t' (L.bin ++ m :: r) = node? t (L.bin ++ m :: r) := by
  rw [hm.view, if_neg (not_prefix_of_ne hn.symm), if_neg]
  rw [Layout.source_append]
  intro hp
  rw [List.prefix_append_right_inj, List.cons_prefix_cons] at hp
  exact hs hp.1.symm

theorem moved_entry_self (hm : Moved (L.source src ++ [n]) (L.bin ++ [n]) t t') (r : Place) :
    node? t' (L.bin ++ n :: r) = node? t (L.source src ++ n :: r) := by
  rw [hm.view, if_pos (prefix_cons _ _ _)]
  congr 1
  rw [List.append_assoc, List.singleton_append, List.append_cancel_left_eq, List.length_append,
    List.drop_append]
  simp

theorem moved_source_ne (hm : Moved (L.source src ++ [n]) (L.bin ++ [n]) t t') (hn : m ≠ n)
    (r : Place) : node? t' (L.source src ++ m :: r) = node? t (L.source src ++ m :: r) := by
  rw [hm.view, if_neg, if_neg (not_prefix_of_ne hn.symm)]
  rw [Layout.source_append]
  exact not_prefix_of_ne (moved_ne_staging hm)

theorem moved_staging (hm : Moved (L.source src ++ [n]) (L.bin ++ [n]) t t') :
    node? t' L.stagingPlace = node? t L.stagingPlace := by
  have hlen := L.length_bin_lt src
  rw [hm.view, if_neg, if_neg]
  · apply not_prefix_of_length
    simp only [Layout.stagingPlace, List.length_append, List.length_singleton]
    omega
  · exact not_prefix_of_ne (moved_ne_staging hm)

end Item

/-! ## What holds all along -/

section Keeping

variable (L)

/-- What is the same all along: nothing outside the `bin` directory has changed, the archive is a
file and the staging directory is none. -/
structure Settled (t t' : Tree Node) : Prop where
  outside : ∀ q, L.Above q → node? t' q = node? t q
  archive : ∃ bytes mode, node? t' L.archivePlace = some (.file bytes mode)
  staging : ∀ bytes mode, node? t' L.stagingPlace ≠ some (.file bytes mode)

/-- What is the same before the binary is moved: also the place of the binary, and the staged binary
is as it was or gone. -/
structure Keeping (src : Place) (v : Node) (t t' : Tree Node) : Prop extends Settled L t t' where
  slot : node? t' L.slot = node? t L.slot
  staged : node? t' (L.source src ++ [L.binary]) = some v ∨
    node? t' (L.source src ++ [L.binary]) = none

end Keeping

/-- A directory in the way of another item has been removed. -/
theorem Keeping.cleared (h : Keeping L src v t t') (hn : n ≠ L.binary)
    (hc : Cleared (L.bin ++ [n]) t' t'') : Keeping L src v t t'' := by
  refine ⟨⟨?_, ?_, ?_⟩, ?_, ?_⟩
  · intro q hq
    rw [cleared_above hc hq, h.outside q hq]
  · obtain ⟨bytes, mode, hf⟩ := h.archive
    have hne : n ≠ L.archive := by
      rintro rfl
      have hd := hc.dir
      rw [← Layout.archivePlace, hf] at hd
      cases hd
    exact ⟨bytes, mode, (cleared_entry_ne hc hne.symm []).trans hf⟩
  · intro bytes mode hf
    rw [hc.view] at hf
    split_ifs at hf
    exact h.staging bytes mode hf
  · exact (cleared_entry_ne hc hn.symm []).trans h.slot
  · rw [hc.view]
    split_ifs
    · exact .inr rfl
    · exact h.staged

/-- Another item has been moved. -/
theorem Keeping.moved (h : Keeping L src v t t') (hn : n ≠ L.binary)
    (hm : Moved (L.source src ++ [n]) (L.bin ++ [n]) t' t'') : Keeping L src v t t'' := by
  refine ⟨⟨?_, ?_, ?_⟩, ?_, ?_⟩
  · intro q hq
    rw [moved_above hm hq, h.outside q hq]
  · obtain ⟨bytes, mode, hf⟩ := h.archive
    by_cases hne : n = L.archive
    · -- what replaces the archive is a file, since a directory takes the place of no file
      subst hne
      have hview : node? t'' L.archivePlace = node? t' (L.source src ++ [L.archive]) :=
        moved_entry_self hm []
      cases hv : node? t' (L.source src ++ [L.archive]) with
      | none =>
        have := hm.there
        rw [hv] at this
        cases this
      | some node =>
        cases node with
        | dir => exact absurd hf (hm.kind hv bytes mode)
        | file bytes' mode' => exact ⟨bytes', mode', by rw [hview, hv]⟩
    · exact ⟨bytes, mode, (moved_entry_ne hm (Ne.symm hne) L.staging_ne_archive.symm []).trans hf⟩
  · intro bytes mode hf
    rw [moved_staging hm] at hf
    exact h.staging bytes mode hf
  · exact (moved_entry_ne hm hn.symm L.staging_ne_binary.symm []).trans h.slot
  · rw [moved_source_ne hm hn.symm []]
    exact h.staged

/-! ## Where the items are -/

/-- An item that cannot be moved: a directory where a file is in the way. -/
def Stuck (L : Layout) (src : Place) (t : Tree Node) (n : Bytes) : Prop :=
  node? t (L.source src ++ [n]) = some .dir ∧
    ∃ bytes mode, node? t (L.bin ++ [n]) = some (.file bytes mode)

/-- Where everything is after some items have been dealt with: what is not stuck has been moved, and
nothing else has changed. -/
structure Tracks (L : Layout) (src : Place) (t : Tree Node) (done : Bytes → Prop) (t' : Tree Node) :
    Prop where
  above : ∀ q, L.Above q → node? t' q = node? t q
  moved : ∀ n r, n ≠ L.staging → done n → ¬ Stuck L src t n →
    node? t' (L.bin ++ n :: r) = node? t (L.source src ++ n :: r)
  stuck : ∀ n r, n ≠ L.staging → done n → Stuck L src t n →
    node? t' (L.bin ++ n :: r) = node? t (L.bin ++ n :: r)
  others : ∀ n r, n ≠ L.staging → ¬ done n →
    node? t' (L.bin ++ n :: r) = node? t (L.bin ++ n :: r)
  left : ∀ n r, ¬ done n → node? t' (L.source src ++ n :: r) = node? t (L.source src ++ n :: r)

section Tracks

variable {done : Bytes → Prop}

theorem Tracks.start (L : Layout) (src : Place) (t : Tree Node) {done : Bytes → Prop}
    (h : ∀ n, ¬ done n) : Tracks L src t done t where
  above _ _ := rfl
  moved n _ _ hd := absurd hd (h n)
  stuck n _ _ hd := absurd hd (h n)
  others _ _ _ _ := rfl
  left _ _ _ := rfl

/-- One more item has been moved. -/
theorem Tracks.step {done' : Bytes → Prop} (h : Tracks L src t done t') (hn : ¬ done n)
    (hdone : ∀ m, done' m ↔ m = n ∨ done m)
    (hm : Moved (L.source src ++ [n]) (L.bin ++ [n]) t' t'') : Tracks L src t done' t'' := by
  have hns : n ≠ L.staging := moved_ne_staging hm
  have hsource : node? t' (L.source src ++ [n]) = node? t (L.source src ++ [n]) := h.left n [] hn
  have htarget : node? t' (L.bin ++ [n]) = node? t (L.bin ++ [n]) := h.others n [] hns hn
  have hfree : ¬ Stuck L src t n := by
    rintro ⟨hd, bytes, mode, hf⟩
    exact hm.kind (hsource.trans hd) bytes mode (htarget.trans hf)
  refine ⟨?_, ?_, ?_, ?_, ?_⟩
  · intro q hq
    rw [moved_above hm hq, h.above q hq]
  · intro m r hms hd hs
    by_cases hmn : m = n
    · subst hmn
      rw [moved_entry_self hm, h.left m r hn]
    · rw [moved_entry_ne hm hmn hms, h.moved m r hms (((hdone m).1 hd).resolve_left hmn) hs]
  · intro m r hms hd hs
    have hmn : m ≠ n := by
      rintro rfl
      exact hfree hs
    rw [moved_entry_ne hm hmn hms, h.stuck m r hms (((hdone m).1 hd).resolve_left hmn) hs]
  · intro m r hms hd
    rw [hdone, not_or] at hd
    rw [moved_entry_ne hm hd.1 hms, h.others m r hms hd.2]
  · intro m r hd
    rw [hdone, not_or] at hd
    rw [moved_source_ne hm hd.1, h.left m r hd.2]

/-- One more item turned out to be stuck. -/
theorem Tracks.skip {done' : Bytes → Prop} (h : Tracks L src t done t') (hn : ¬ done n)
    (hdone : ∀ m, done' m ↔ m = n ∨ done m) (hs : Stuck L src t n) : Tracks L src t done' t' := by
  refine ⟨h.above, ?_, ?_, ?_, ?_⟩
  · intro m r hms hd hfree
    have hmn : m ≠ n := by
      rintro rfl
      exact hfree hs
    exact h.moved m r hms (((hdone m).1 hd).resolve_left hmn) hfree
  · intro m r hms hd hs'
    by_cases hmn : m = n
    · subst hmn
      exact h.others m r hms hn
    · exact h.stuck m r hms (((hdone m).1 hd).resolve_left hmn) hs'
  · intro m r hms hd
    rw [hdone, not_or] at hd
    exact h.others m r hms hd.2
  · intro m r hd
    rw [hdone, not_or] at hd
    exact h.left m r hd.2

end Tracks

/-- Where everything is when the items `l` are left. An item named like the staging directory makes
an end of that directory. -/
structure Left (L : Layout) (src : Place) (t : Tree Node) (names l : List Bytes) (t' : Tree Node) :
    Prop where
  nodup : l.Nodup
  mem : ∀ n ∈ l, n ∈ names
  state : (L.staging ∈ names ∧ L.staging ∉ l ∧ node? t' L.stagingPlace = none) ∨
    ((L.staging ∈ names → L.staging ∈ l) ∧
      Tracks L src t (fun n => n ∈ names ∧ n ∉ l ∧ n ≠ L.binary) t')

section Left

variable {names l : List Bytes}

theorem Left.start (L : Layout) (src : Place) (t : Tree Node) (hnames : names.Nodup) :
    Left L src t names names t :=
  ⟨hnames, fun _ hn => hn, .inr ⟨fun hn => hn, .start L src t fun _ hn => hn.2.1 hn.1⟩⟩

theorem Left.skip (h : Left L src t names (L.binary :: l) t') : Left L src t names l t' := by
  refine ⟨(List.nodup_cons.1 h.nodup).2, fun n hn => h.mem n (List.mem_cons_of_mem _ hn), ?_⟩
  rcases h.state with ⟨hs, hl, hnone⟩ | ⟨hs, htracks⟩
  · exact .inl ⟨hs, fun hl' => hl (List.mem_cons_of_mem _ hl'), hnone⟩
  · refine .inr ⟨fun hn => (List.mem_cons.1 (hs hn)).resolve_left L.staging_ne_binary, ?_⟩
    have hdone : (fun n => n ∈ names ∧ n ∉ L.binary :: l ∧ n ≠ L.binary) =
        fun n => n ∈ names ∧ n ∉ l ∧ n ≠ L.binary := by
      funext n
      simp only [List.mem_cons, not_or, eq_iff_iff]
      constructor
      · rintro ⟨hn, ⟨-, hl⟩, hb⟩
        exact ⟨hn, hl, hb⟩
      · rintro ⟨hn, hl, hb⟩
        exact ⟨hn, ⟨hb, hl⟩, hb⟩
    rwa [hdone] at htracks

/-- Dealing with an item takes it from the list. -/
theorem Left.done_iff (h : Left L src t names (n :: l) t') (hn : n ≠ L.binary) (m : Bytes) :
    (m ∈ names ∧ m ∉ l ∧ m ≠ L.binary) ↔
      m = n ∨ (m ∈ names ∧ m ∉ n :: l ∧ m ≠ L.binary) := by
  rw [List.mem_cons, not_or]
  constructor
  · rintro ⟨hm, hl, hb⟩
    by_cases hmn : m = n
    · exact .inl hmn
    · exact .inr ⟨hm, ⟨hmn, hl⟩, hb⟩
  · rintro (rfl | ⟨hm, ⟨-, hl⟩, hb⟩)
    · exact ⟨h.mem m (List.mem_cons_self ..), (List.nodup_cons.1 h.nodup).1, hn⟩
    · exact ⟨hm, hl, hb⟩

/-- The list without an item that was dealt with, given where everything is now. -/
theorem Left.next (h : Left L src t names (n :: l) t')
    (hstate : (L.staging ∈ names ∧ L.staging ∉ l ∧ node? t'' L.stagingPlace = none) ∨
      (n ≠ L.staging ∧ (L.staging ∈ names → L.staging ∈ n :: l) ∧
        Tracks L src t (fun m => m ∈ names ∧ m ∉ l ∧ m ≠ L.binary) t'')) :
    Left L src t names l t'' := by
  refine ⟨(List.nodup_cons.1 h.nodup).2, fun m hm => h.mem m (List.mem_cons_of_mem _ hm), ?_⟩
  rcases hstate with hlost | ⟨hn, hs, htracks⟩
  · exact .inl hlost
  · exact .inr ⟨fun hm => (List.mem_cons.1 (hs hm)).resolve_left (Ne.symm hn), htracks⟩

theorem Left.moved (h : Left L src t names (n :: l) t') (hs : Sound t') (hn : n ≠ L.binary)
    (hm : Moved (L.source src ++ [n]) (L.bin ++ [n]) t' t'') : Left L src t names l t'' := by
  have hdone := h.done_iff hn
  refine h.next ?_
  rcases h.state with ⟨-, -, hnone⟩ | ⟨hstaging, htracks⟩
  · -- nothing is left below the staging directory that could have been moved
    have hthere := hm.there
    rw [Layout.source, List.append_assoc, hs.none_below (by simp) (by simp [hnone])] at hthere
    cases hthere
  · exact .inr ⟨moved_ne_staging hm, hstaging,
      htracks.step (fun hd => hd.2.1 (List.mem_cons_self ..)) hdone hm⟩

/-- A rename of an item succeeds unless a directory would take the place of a file. -/
theorem moveNode_item {v : Node} (hbin : node? t L.bin = some .dir)
    (hv : node? t (L.source src ++ [n]) = some v) (hd : node? t (L.bin ++ [n]) ≠ some .dir)
    (hfree : v = .dir → ∀ bytes mode, node? t (L.bin ++ [n]) ≠ some (.file bytes mode)) :
    ∃ t', moveNode t (L.source src ++ [n]) (L.bin ++ [n]) = .ok t' := by
  refine ⟨_, moveNode_eq hv ?_ ?_ ?_⟩
  · apply not_prefix_of_length
    have := L.length_bin_lt src
    simp only [List.length_append, List.length_singleton]
    omega
  · rw [List.dropLast_concat, hbin]
  · cases ht : node? t (L.bin ++ [n]) with
    | none => exact .inl rfl
    | some node =>
      cases node with
      | dir => exact absurd ht hd
      | file bytes mode => exact .inr ⟨fun hv' => hfree hv' bytes mode ht, bytes, mode, rfl⟩

/-- The items of the directory in which the staged binary is. -/
structure Source (L : Layout) (src : Place) (t : Tree Node) (names : List Bytes) : Prop where
  bin : node? t L.bin = some .dir
  staged : (node? t (L.source src ++ [L.binary])).isSome
  names : ∀ n ∈ names, (node? t (L.source src ++ [n])).isSome

/-- As long as the staged binary is there, the staging directory is. -/
theorem Tracks.staging {done : Bytes → Prop} (h : Tracks L src t done t') (hs : Sound t')
    (hsource : Source L src t names) (hb : ¬ done L.binary) :
    node? t' L.stagingPlace = some .dir := by
  have hne : src ++ [L.binary] ≠ [] := by simp
  refine hs.dir_above hne ?_
  rw [← List.append_assoc, ← Layout.source, h.left L.binary [] hb]
  exact hsource.staged

theorem Left.kept (h : Left L src t names (n :: l) t') (hs : Sound t')
    (hsource : Source L src t names) (hn : n ≠ L.binary)
    (hd : node? t' (L.bin ++ [n]) ≠ some .dir) {e : Report}
    (he : moveNode t' (L.source src ++ [n]) (L.bin ++ [n]) = .error e) :
    Left L src t names l t' := by
  have hdone := h.done_iff hn
  refine h.next ?_
  rcases h.state with ⟨hstaging, hl, hnone⟩ | ⟨hstaging, htracks⟩
  · exact .inl ⟨hstaging, fun hl' => hl (List.mem_cons_of_mem _ hl'), hnone⟩
  · have hns : n ≠ L.staging := by
      rintro rfl
      exact hd (htracks.staging hs hsource fun hb => hb.2.2 rfl)
    have hnd : ¬ (n ∈ names ∧ n ∉ n :: l ∧ n ≠ L.binary) := fun hc =>
      hc.2.1 (List.mem_cons_self ..)
    have hv : node? t' (L.source src ++ [n]) = node? t (L.source src ++ [n]) :=
      htracks.left n [] hnd
    have ht : node? t' (L.bin ++ [n]) = node? t (L.bin ++ [n]) := htracks.others n [] hns hnd
    obtain ⟨v, hsome⟩ :=
      Option.isSome_iff_exists.1 (hsource.names n (h.mem n (List.mem_cons_self ..)))
    have hstuck : Stuck L src t n := by
      by_contra hfree
      have hbin : node? t' L.bin = some .dir := by rw [htracks.above _ L.above_bin, hsource.bin]
      obtain ⟨u, hu⟩ := moveNode_item hbin (hv.trans hsome) hd (by
        rintro rfl bytes mode hf
        exact hfree ⟨hsome, bytes, mode, ht ▸ hf⟩)
      rw [hu] at he
      cases he
    exact .inr ⟨hns, hstaging, htracks.skip hnd hdone hstuck⟩

theorem Left.cleared (h : Left L src t names (n :: l) t') (hsource : Source L src t names)
    (hc : Cleared (L.bin ++ [n]) t' t'') {e : Report}
    (he : moveNode t'' (L.source src ++ [n]) (L.bin ++ [n]) = .error e) :
    Left L src t names l t'' := by
  refine h.next ?_
  rcases h.state with ⟨hstaging, hl, hnone⟩ | ⟨-, htracks⟩
  · refine .inl ⟨hstaging, fun hl' => hl (List.mem_cons_of_mem _ hl'), ?_⟩
    rw [hc.view, hnone]
    split_ifs <;> rfl
  · by_cases hns : n = L.staging
    · subst hns
      exact .inl ⟨h.mem _ (List.mem_cons_self ..), (List.nodup_cons.1 h.nodup).1,
        cleared_entry_self hc []⟩
    · -- nothing is in the way any more, so the rename cannot have failed
      exfalso
      have hnd : ¬ (n ∈ names ∧ n ∉ n :: l ∧ n ≠ L.binary) := fun hd =>
        hd.2.1 (List.mem_cons_self ..)
      obtain ⟨v, hsome⟩ :=
        Option.isSome_iff_exists.1 (hsource.names n (h.mem n (List.mem_cons_self ..)))
      have hv : node? t'' (L.source src ++ [n]) = some v := by
        rw [Layout.source_append, cleared_entry_ne hc (Ne.symm hns), ← Layout.source_append,
          htracks.left n [] hnd, hsome]
      have hbin : node? t'' L.bin = some .dir := by
        rw [cleared_above hc L.above_bin, htracks.above _ L.above_bin, hsource.bin]
      have hgone : node? t'' (L.bin ++ [n]) = none := cleared_entry_self hc []
      obtain ⟨u, hu⟩ := moveNode_item hbin hv (by simp [hgone]) (by simp [hgone])
      rw [hu] at he
      cases he

end Left

end Provision.Install
