import Provision.Proofs.Tracking

/-!
# What finalizing does

Finalizing makes the staged binary executable, moves the items beside it into the `bin` directory
and at last the binary itself.

* `Install.Placed` says where everything is afterwards.
* `meets_moveItems` and `meets_moveBinary` are about the two kinds of moves, `meets_finalize` about
  the whole.
-/

namespace Provision.Install

open Memory

variable {L : Layout} {t t' t'' : Tree Node} {src : Place} {v : Node} {n m : Bytes}

/-! ## The last move -/

/-- Where everything is after the binary has been moved as well. -/
structure Placed (L : Layout) (src : Place) (v : Node) (t t' : Tree Node) : Prop where
  above : ∀ q, L.Above q → node? t' q = node? t q
  binary : ∀ r, node? t' (L.bin ++ L.binary :: r) = if r = [] then some v else none
  moved : ∀ n r, n ≠ L.staging → n ≠ L.binary → (node? t (L.source src ++ [n])).isSome →
    ¬ Stuck L src t n → node? t' (L.bin ++ n :: r) = node? t (L.source src ++ n :: r)
  kept : ∀ n r, n ≠ L.staging → n ≠ L.binary →
    (node? t (L.source src ++ [n]) = none ∨ Stuck L src t n) →
    node? t' (L.bin ++ n :: r) = node? t (L.bin ++ n :: r)

section Last

variable {names : List Bytes}

theorem Settled.cleared (h : Settled L t t') (hc : Cleared L.slot t' t'') : Settled L t t'' := by
  obtain ⟨bytes, mode, hf⟩ := h.archive
  refine ⟨?_, ?_, ?_⟩
  · intro q hq
    exact (cleared_above hc hq).trans (h.outside q hq)
  · exact ⟨bytes, mode, (cleared_entry_ne hc L.archive_ne_binary []).trans hf⟩
  · intro bytes mode hs
    exact h.staging bytes mode ((cleared_entry_ne hc L.staging_ne_binary []).symm.trans hs)

theorem Settled.moved (h : Settled L t t')
    (hm : Moved (L.source src ++ [L.binary]) L.slot t' t'') : Settled L t t'' := by
  obtain ⟨bytes, mode, hf⟩ := h.archive
  refine ⟨?_, ?_, ?_⟩
  · intro q hq
    exact (moved_above hm hq).trans (h.outside q hq)
  · exact ⟨bytes, mode,
      (moved_entry_ne hm L.archive_ne_binary L.staging_ne_archive.symm []).trans hf⟩
  · intro bytes mode hs
    exact h.staging bytes mode ((moved_staging hm).symm.trans hs)

/-- The staged binary has been moved after all items have been dealt with. -/
theorem Tracks.placed {bytes : Bytes} {mode : Nat} (hs : Sound t)
    (hv : node? t (L.source src ++ [L.binary]) = some (.file bytes mode))
    (hnames : ∀ n, n ∈ names ↔ (node? t (L.source src ++ [n])).isSome)
    (h : Tracks L src t (fun n => n ∈ names ∧ n ∉ [] ∧ n ≠ L.binary) t')
    (hm : Moved (L.source src ++ [L.binary]) L.slot t' t'') :
    Placed L src (.file bytes mode) t t'' := by
  refine ⟨fun q hq => (moved_above hm hq).trans (h.above q hq), ?_, ?_, ?_⟩
  · intro r
    rw [show node? t'' (L.bin ++ L.binary :: r) = _ from moved_entry_self hm r,
      h.left L.binary r fun hd => hd.2.2 rfl]
    split_ifs with hr
    · rw [hr, hv]
    · have := hs.none_below hr (by rw [hv]; simp)
      rwa [List.append_assoc] at this
  · intro n r hns hnb hsome hfree
    rw [moved_entry_ne hm hnb hns]
    exact h.moved n r hns ⟨(hnames n).2 hsome, by simp, hnb⟩ hfree
  · intro n r hns hnb hkept
    rw [moved_entry_ne hm hnb hns]
    rcases hkept with hnone | hstuck
    · refine h.others n r hns fun hd => ?_
      have := (hnames n).1 hd.1
      rw [hnone] at this
      cases this
    · by_cases hd : n ∈ names ∧ n ∉ [] ∧ n ≠ L.binary
      · exact h.stuck n r hns hd hstuck
      · exact h.others n r hns hd

/-- When all items have been dealt with and the binary cannot be moved, one of them was named like
the staging directory. -/
theorem Left.staging_mem {bytes : Bytes} {mode : Nat} {e : Report} (h : Left L src t names [] t')
    (hs : Sound t') (hv : node? t (L.source src ++ [L.binary]) = some (.file bytes mode))
    (hbin : node? t'' L.bin = node? t' L.bin)
    (hsource : node? t'' (L.source src ++ [L.binary]) = node? t' (L.source src ++ [L.binary]))
    (hd : node? t'' L.slot ≠ some .dir)
    (he : moveNode t'' (L.source src ++ [L.binary]) L.slot = .error e) : L.staging ∈ names := by
  rcases h.state with ⟨hstaging, -, -⟩ | ⟨-, htracks⟩
  · exact hstaging
  · -- the staged binary is there, so the rename cannot have failed
    exfalso
    have hv' : node? t' (L.source src ++ [L.binary]) = some (.file bytes mode) := by
      rw [htracks.left L.binary [] fun hd' => hd'.2.2 rfl, hv]
    have hdir : node? t' L.bin = some .dir := by
      have hne : L.staging :: (src ++ [L.binary]) ≠ [] := by simp
      refine hs.dir_above hne ?_
      rw [← Layout.source_append, hv']
      rfl
    obtain ⟨u, hu⟩ := moveNode_item (hbin.trans hdir) (hsource.trans hv') hd (by simp)
    rw [show L.slot = L.bin ++ [L.binary] from rfl, hu] at he
    cases he

end Last

/-! ## Finalizing -/

section Meets

variable {η : Type} {S : Setting η} {w : World η} {directory binary staged source : Path}

/-- The place of the binary while it is moved: as before, cleared or with the staged binary. -/
def SlotIn (L : Layout) (v : Node) (t t' : Tree Node) : Prop :=
  node? t' L.slot = node? t L.slot ∨ node? t' L.slot = none ∨ node? t' L.slot = some v

/-- The invariant of the loop over the items: what holds all along and, without injected failures,
where everything is. -/
def Loop (S : Setting η) (L : Layout) (src : Place) (v : Node) (t : Tree Node) (l : List Bytes)
    (w : World η) : Prop :=
  Keeping L src v t w.tree ∧ (S.Calm → Left L src t (t.names (L.source src)) l w.tree)

/-- Moving all items but the staged binary. -/
theorem meets_moveItems (hi : Items S source directory staged (L.source src) L.bin L.binary)
    (hsource : Source L src w.tree (w.tree.names (L.source src)))
    (h : Keeping L src v w.tree w.tree) :
    (moveOthers staged directory ((w.tree.names (L.source src)).map source.child)).Meets S.Step
      (fun w' => Keeping L src v w.tree w'.tree) (fun _ w' => Loop S L src v w.tree [] w') w := by
  refine meets_moveOthers hi (fun _ _ hJ => hJ.1) ?_ ?_ ?_ ?_ ?_ ?_
  · intro l w' hJ
    exact ⟨hJ.1, fun hc => (hJ.2 hc).skip⟩
  · intro n l w' hn hJ hwhy
    refine ⟨hJ.1, fun hc => ?_⟩
    obtain ⟨hd, e, he⟩ := hwhy hc
    exact (hJ.2 hc).kept w'.sound hsource hn hd he
  · intro n l w' w'' hn hJ hcleared
    refine ⟨hJ.1.cleared hn hcleared, fun hwhy => ⟨hJ.1.cleared hn hcleared, fun hc => ?_⟩⟩
    obtain ⟨e, he⟩ := hwhy hc
    exact (hJ.2 hc).cleared hsource hcleared he
  · intro n l w' w'' hn hJ hmoved
    exact ⟨hJ.1.moved hn hmoved, fun hc => (hJ.2 hc).moved w'.sound hn hmoved⟩
  · intro n hn
    exact w.sound.isName _ n ((mem_names_iff w.sound).1 hn)
  · exact ⟨h, fun _ => .start L src w.tree (nodup_names _ _)⟩

/-- Moving the staged binary at the end. -/
theorem meets_moveBinary {bytes : Bytes} {mode : Nat} (hs : Sound t)
    (hi : Items S source directory staged (L.source src) L.bin L.binary)
    (hslot : S.place binary = L.slot)
    (hstaged : S.place staged = L.source src ++ [L.binary])
    (hv : node? t (L.source src ++ [L.binary]) = some (.file bytes mode))
    (h : Loop S L src (.file bytes mode) t [] w) :
    Attempt.Meets S.Step
      (fun w' => Settled L t w'.tree ∧ SlotIn L (.file bytes mode) t w'.tree)
      (fun _ w' => Settled L t w'.tree ∧ node? w'.tree L.slot = some (.file bytes mode) ∧
        (S.Calm → node? t (L.source src ++ [L.staging]) = none ∧
          Placed L src (.file bytes mode) t w'.tree))
      (fun _ w' => Settled L t w'.tree ∧
        (node? w'.tree L.slot = node? t L.slot ∨ node? w'.tree L.slot = none) ∧
        (S.Calm → (node? t (L.source src ++ [L.staging])).isSome))
      (replace staged binary) w := by
  obtain ⟨hkeep, hleft⟩ := h
  have hnames : ∀ n, n ∈ t.names (L.source src) ↔ (node? t (L.source src ++ [n])).isSome :=
    fun n => mem_names_iff hs
  refine meets_replace hstaged hslot (by simp) L.slot_ne_nil (hi.not_prefix _ _)
    ⟨hkeep.toSettled, .inl hkeep.slot⟩ ?_ ?_ ?_ ?_
  · intro w' hcleared
    exact ⟨hkeep.toSettled.cleared hcleared, .inr (.inl (cleared_entry_self hcleared []))⟩
  · intro w' hmoved
    have hthere := hmoved.there
    have hview : node? w'.tree L.slot = node? w.tree (L.source src ++ [L.binary]) :=
      moved_entry_self hmoved []
    refine ⟨hkeep.toSettled.moved hmoved, ?_, fun hc => ?_⟩
    · rcases hkeep.staged with hsome | hnone
      · rw [hview, hsome]
      · rw [hnone] at hthere
        cases hthere
    · rcases (hleft hc).state with ⟨-, -, hnone⟩ | ⟨hstaging, htracks⟩
      · rw [Layout.source, List.append_assoc,
          w.sound.none_below (by simp) (by simp [hnone])] at hthere
        cases hthere
      · refine ⟨?_, htracks.placed hs hv hnames hmoved⟩
        rw [← Option.not_isSome_iff_eq_none, ← hnames]
        intro hmem
        exact absurd (hstaging hmem) (by simp)
  · intro e hwhy
    refine ⟨hkeep.toSettled, .inl hkeep.slot, fun hc => ?_⟩
    obtain ⟨hd, e', he'⟩ := hwhy hc
    exact (hnames _).1 ((hleft hc).staging_mem w.sound hv rfl rfl hd he')
  · intro e w' hcleared hwhy
    have hgone : node? w'.tree L.slot = none := cleared_entry_self hcleared []
    refine ⟨hkeep.toSettled.cleared hcleared, .inr hgone, fun hc => ?_⟩
    obtain ⟨e', he'⟩ := hwhy hc
    refine (hnames _).1 ((hleft hc).staging_mem w.sound hv (cleared_above hcleared L.above_bin) ?_
      (by simp [hgone]) he')
    rw [Layout.source_append, show node? w'.tree _ = _ from
      cleared_entry_ne hcleared L.staging_ne_binary _]

/-- All items and the binary, once that has its mode. -/
theorem meets_moveAll {bytes : Bytes} {mode : Nat} {message : String}
    (hi : Items S source directory staged (L.source src) L.bin L.binary)
    (hslot : S.place binary = L.slot)
    (harchive : ∃ bytes mode, node? w.tree L.archivePlace = some (.file bytes mode))
    (hv : node? w.tree (L.source src ++ [L.binary]) = some (.file bytes mode)) :
    Attempt.Meets S.Step
      (fun w' => Settled L w.tree w'.tree ∧ SlotIn L (.file bytes mode) w.tree w'.tree)
      (fun _ w' => Settled L w.tree w'.tree ∧ node? w'.tree L.slot = some (.file bytes mode) ∧
        (S.Calm → node? w.tree (L.source src ++ [L.staging]) = none ∧
          Placed L src (.file bytes mode) w.tree w'.tree))
      (fun _ w' => Settled L w.tree w'.tree ∧
        (node? w'.tree L.slot = node? w.tree L.slot ∨ node? w'.tree L.slot = none) ∧
        (S.Calm → (node? w.tree (L.source src ++ [L.staging])).isSome))
      (do
        moveOthers staged directory (← Attempt.list source)
        (replace staged binary).context message) w := by
  have hsourceDir : node? w.tree (L.source src) = some .dir :=
    w.sound.above _ L.binary (by rw [hv]; rfl)
  have hstagingDir : node? w.tree L.stagingPlace = some .dir :=
    w.sound.dir_of_prefix hsourceDir (List.prefix_append _ _)
  have hbin : node? w.tree L.bin = some .dir :=
    w.sound.dir_of_prefix hstagingDir (List.prefix_append _ _)
  have hsource : Source L src w.tree (w.tree.names (L.source src)) :=
    ⟨hbin, by rw [hv]; rfl, fun n hn => (mem_names_iff w.sound).1 hn⟩
  have hkeep : Keeping L src (.file bytes mode) w.tree w.tree :=
    ⟨⟨fun _ _ => rfl, harchive, fun _ _ hf => by rw [hstagingDir] at hf; cases hf⟩, rfl, .inl hv⟩
  have hI : ∀ w' : World η, Keeping L src (.file bytes mode) w.tree w'.tree →
      Settled L w.tree w'.tree ∧ SlotIn L (.file bytes mode) w.tree w'.tree := fun w' h =>
    ⟨h.toSettled, .inl h.slot⟩
  refine Attempt.meets_bind (meets_list (hI w hkeep) ?_ ?_)
  · intro _
    rw [hi.source_eq]
    refine Attempt.meets_bind (Attempt.meets_lift (Program.Meets.mono
      (meets_moveItems hi hsource hkeep) hI ?_))
    intro _ w' hloop
    exact Attempt.meets_context (meets_moveBinary w.sound hi hslot hi.place_staged hv hloop)
  · intro e he
    refine ⟨hkeep.toSettled, .inl rfl, fun hc => ?_⟩
    rcases he with hf | hd
    · exact absurd hf (hc _)
    · rw [hi.source_eq] at hd
      exact absurd hsourceDir hd

/-! ### The mode of the staged binary -/

section Chmod

variable (h : OnlyIn (L.source src ++ [L.binary]) t t')

include h

theorem above_of_onlyIn {q : Place} (hq : L.Above q) : node? t' q = node? t q := by
  refine h q ?_
  rintro ⟨r, rfl⟩
  rw [Layout.source_append, List.append_assoc] at hq
  exact hq _ _ rfl

theorem entry_of_onlyIn (hn : n ≠ L.staging) (r : Place) :
    node? t' (L.bin ++ n :: r) = node? t (L.bin ++ n :: r) := by
  refine h _ ?_
  rw [Layout.source_append]
  intro hp
  rw [List.prefix_append_right_inj, List.cons_prefix_cons] at hp
  exact hn hp.1.symm

theorem item_of_onlyIn (hn : n ≠ L.binary) (r : Place) :
    node? t' (L.source src ++ n :: r) = node? t (L.source src ++ n :: r) :=
  h _ (not_prefix_of_ne hn.symm)

theorem Settled.of_chmod (hs : Settled L t' t'') : Settled L t t'' where
  outside q hq := by rw [hs.outside q hq, above_of_onlyIn h hq]
  archive := hs.archive
  staging := hs.staging

theorem Placed.of_chmod (hp : Placed L src v t' t'') : Placed L src v t t'' := by
  have hstuck : ∀ n, n ≠ L.staging → n ≠ L.binary → (Stuck L src t' n ↔ Stuck L src t n) := by
    intro n hns hnb
    unfold Stuck
    rw [item_of_onlyIn h hnb [], entry_of_onlyIn h hns []]
  refine ⟨?_, hp.binary, ?_, ?_⟩
  · intro q hq
    rw [hp.above q hq, above_of_onlyIn h hq]
  · intro n r hns hnb hsome hfree
    rw [hp.moved n r hns hnb (by rwa [item_of_onlyIn h hnb []]) (by rwa [hstuck n hns hnb]),
      item_of_onlyIn h hnb r]
  · intro n r hns hnb hkept
    rw [hp.kept n r hns hnb (by rwa [item_of_onlyIn h hnb [], hstuck n hns hnb]),
      entry_of_onlyIn h hns r]

end Chmod

/-- Where a staged binary is there is a staging directory. -/
theorem Staged.dir {staging p : Path} {d : Place} {name bytes : Bytes} {mode : Nat} (hs : Sound t)
    (h : Staged staging d name t p src bytes mode) : node? t d = some .dir := by
  have hne : src ++ [name] ≠ [] := by simp
  have hfile : node? t (d ++ (src ++ [name])) = some (.file bytes mode) := h.finds.file
  exact hs.dir_above hne (by rw [hfile]; rfl)

/-- The path of a staged binary lies in a directory, whose items are moved. -/
theorem Staged.exists_items {staging : Path} {bytes : Bytes} {mode : Nat}
    (hdirectory : S.place directory = L.bin) (hstaging : S.place staging = L.stagingPlace)
    (h : Staged staging L.stagingPlace L.binary t staged src bytes mode) :
    ∃ source, staged.parent? = some source ∧
      Items S source directory staged (L.source src) L.bin L.binary := by
  have hcomp : staged.components =
      (staging.components ++ src.map .normal) ++ [.normal L.binary] := by
    rw [h.components, List.map_append, List.append_assoc]
    rfl
  obtain ⟨source, hparent, hsource⟩ := Path.exists_parent? hcomp
  refine ⟨source, hparent, ?_, hdirectory, by rw [hcomp, hsource], L.length_bin_lt src⟩
  rw [Layout.source, ← hstaging]
  exact placeIn_of_components hsource

/-- The mode of an installed binary: the staged one on Windows. -/
def finalMode (key : Key) (mode : Nat) : Nat := if key.isWindows then mode else binaryMode

theorem finalMode_of_ne {key : Key} (mode : Nat) (h : key ≠ .win32X64) :
    finalMode key mode = 0o755 := by
  cases key with
  | win32X64 => exact absurd rfl h
  | darwinArm64 | darwinX64 | linuxArm64 | linuxX64 => rfl

/-- Finalizing. Whatever fails, nothing outside the `bin` directory changes and the place of the
binary gets the staged one or loses a directory. Without injected failures it fails only if an item
is named like the staging directory. -/
theorem meets_finalize (key : Key) {staging : Path} {bytes : Bytes} {mode : Nat}
    (hdirectory : S.place directory = L.bin) (hslot : S.place binary = L.slot)
    (hstaging : S.place staging = L.stagingPlace)
    (hstaged : Staged staging L.stagingPlace L.binary w.tree staged src bytes mode)
    (harchive : ∃ bytes mode, node? w.tree L.archivePlace = some (.file bytes mode)) :
    Attempt.Meets S.Step
      (fun w' => Settled L w.tree w'.tree ∧
        SlotIn L (.file bytes (finalMode key mode)) w.tree w'.tree)
      (fun _ w' => Settled L w.tree w'.tree ∧
        node? w'.tree L.slot = some (.file bytes (finalMode key mode)) ∧
        (S.Calm → node? w.tree (L.source src ++ [L.staging]) = none ∧
          Placed L src (.file bytes (finalMode key mode)) w.tree w'.tree))
      (fun _ w' => Settled L w.tree w'.tree ∧
        (node? w'.tree L.slot = node? w.tree L.slot ∨ node? w'.tree L.slot = none) ∧
        (S.Calm → (node? w.tree (L.source src ++ [L.staging])).isSome))
      (finalize key staged directory binary) w := by
  obtain ⟨source, hparent, hi⟩ := hstaged.exists_items hdirectory hstaging
  have hv : node? w.tree (L.source src ++ [L.binary]) = some (.file bytes mode) := by
    rw [Layout.source, List.append_assoc]
    exact hstaged.finds.file
  unfold finalize
  rw [hparent]
  cases hwin : key.isWindows with
  | true =>
    have hmode : finalMode key mode = mode := by simp [finalMode, hwin]
    rw [hmode]
    exact meets_moveAll hi hslot harchive hv
  | false =>
    have hmode : finalMode key mode = binaryMode := by simp [finalMode, hwin]
    rw [hmode]
    have hstagingDir := Staged.dir w.sound hstaged
    have hstart : Settled L w.tree w.tree :=
      ⟨fun _ _ => rfl, harchive, fun _ _ hf => by rw [hstagingDir] at hf; cases hf⟩
    refine Attempt.meets_bind (Attempt.meets_context (meets_setMode ⟨hstart, .inl rfl⟩ ?_ ?_))
    · intro w₁ hchange hnet
      rw [hi.place_staged] at hchange
      have honly := onlyIn_changeMode hchange (List.prefix_refl _)
      have hv₁ : node? w₁.tree (L.source src ++ [L.binary]) = some (.file bytes binaryMode) :=
        node?_changeMode_self hv hchange
      have harchive₁ : ∃ bytes mode, node? w₁.tree L.archivePlace = some (.file bytes mode) := by
        rw [show node? w₁.tree L.archivePlace = _ from
          entry_of_onlyIn honly L.staging_ne_archive.symm []]
        exact harchive
      have hslot₁ : node? w₁.tree L.slot = node? w.tree L.slot :=
        entry_of_onlyIn honly L.staging_ne_binary.symm []
      have hitem := item_of_onlyIn honly L.staging_ne_binary []
      refine Attempt.Meets.mono (meets_moveAll hi hslot harchive₁ hv₁) ?_ ?_ ?_
      · rintro w' ⟨hsettled, hin⟩
        rw [SlotIn, hslot₁] at hin
        exact ⟨.of_chmod honly hsettled, hin⟩
      · rintro _ w' ⟨hsettled, hin, hcalm⟩
        rw [hitem] at hcalm
        exact ⟨.of_chmod honly hsettled, hin, fun hc =>
          ⟨(hcalm hc).1, .of_chmod honly (hcalm hc).2⟩⟩
      · rintro e w' ⟨hsettled, hin, hcalm⟩
        rw [hslot₁] at hin
        rw [hitem] at hcalm
        exact ⟨.of_chmod honly hsettled, hin, hcalm⟩
    · intro e he
      refine ⟨hstart, .inl rfl, fun hc => ?_⟩
      obtain ⟨e', he'⟩ := he.error hc
      rw [hi.place_staged] at he'
      rw [changeMode_error he'] at hv
      cases hv

end Meets

end Provision.Install
