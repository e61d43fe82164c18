import Provision.Proofs.Integrity

/-!
# What a run leaves alone

A run creates, moves and removes whole trees at places that it computes, also from names in an
archive. Still, whatever fails, all that it changes is of four kinds: the archive, the staging
directory, items of the directory in which the binary was found, and directories that lead to the
`bin` directory and were missing.

* `Install.Touched` lists the kinds and `Install.Framed` says that there are no others; it is
  closed under steps (`Framed.trans`).
* `framed_fetchArchive`, `framed_settle_error` and `framed_settle` are about the phases.
* `install_frame` is about the whole run, with what each outcome excludes.
-/

namespace Provision

/-- Does an outcome say that there was nothing to do, or not enough to start with? -/
def Outcome.isIdle : Outcome → Bool
  | .skipped _ => true
  | .alreadyInstalled _ => true
  | .failed (.metadata _) _ => true
  | _ => false

/-- Does an outcome say that no binary was staged, because of the network or of the archive? -/
def Outcome.isUnstaged : Outcome → Bool
  | .failed (.network _) _ => true
  | .failed (.extraction _) _ => true
  | _ => false

namespace Install

open Memory

/-! ## The kinds of changes -/

/-- The places that a run may change, given those of the archive, of the staging directory and of
the `bin` directory, and the items that it may move. -/
inductive Touched (archive staging bin : Place) (items : Bytes → Prop) (t t' : Tree Node)
    (q : Place) : Prop
  | archive (h : archive <+: q)
  | staging (h : staging <+: q)
  | item (n : Bytes) (hn : items n) (h : bin ++ [n] <+: q)
  /-- A directory on the way to the `bin` directory, or that itself, has been created. -/
  | created (h : q <+: bin) (hnone : node? t q = none) (hdir : node? t' q = some .dir)

/-- Nothing else has changed. -/
def Framed (L : Layout) (items : Bytes → Prop) (t t' : Tree Node) : Prop :=
  ∀ q, node? t' q ≠ node? t q → Touched L.archivePlace L.stagingPlace L.bin items t t' q

section Framed

variable {L : Layout} {items items' : Bytes → Prop} {t t' t'' : Tree Node} {src : Place} {n : Bytes}

theorem Framed.refl (L : Layout) (items : Bytes → Prop) (t : Tree Node) : Framed L items t t :=
  fun _ hq => absurd rfl hq

theorem Framed.trans (h : Framed L items t t') (h' : Framed L items t' t'') :
    Framed L items t t'' := by
  intro q hq
  by_cases hlast : node? t'' q = node? t' q
  · rw [hlast] at hq
    cases h q hq with
    | archive hp => exact .archive hp
    | staging hp => exact .staging hp
    | item n hn hp => exact .item n hn hp
    | created hp hnone hdir => exact .created hp hnone (hlast.trans hdir)
  · cases h' q hlast with
    | archive hp => exact .archive hp
    | staging hp => exact .staging hp
    | item n hn hp => exact .item n hn hp
    | created hp hnone hdir =>
      -- there was nothing before the second step, so the first one has created nothing
      by_cases hfirst : node? t' q = node? t q
      · exact .created hp (hfirst.symm.trans hnone) hdir
      · cases h q hfirst with
        | archive hp => exact .archive hp
        | staging hp => exact .staging hp
        | item n hn hp => exact .item n hn hp
        | created _ _ hdir' =>
          rw [hnone] at hdir'
          cases hdir'

theorem Framed.mono (h : Framed L items t t') (hitems : ∀ n, items n → items' n) :
    Framed L items' t t' := by
  intro q hq
  cases h q hq with
  | archive hp => exact .archive hp
  | staging hp => exact .staging hp
  | item n hn hp => exact .item n (hitems n hn) hp
  | created hp hnone hdir => exact .created hp hnone hdir

theorem Framed.of_archive (h : OnlyIn L.archivePlace t t') : Framed L items t t' := by
  intro q hq
  by_contra hno
  exact hq (h q fun hp => hno (.archive hp))

theorem Framed.of_staging (h : OnlyIn L.stagingPlace t t') : Framed L items t t' := by
  intro q hq
  by_contra hno
  exact hq (h q fun hp => hno (.staging hp))

theorem Framed.makeDirs (L : Layout) (items : Bytes → Prop) (t : Tree Node) :
    Framed L items t (makeDirs t [] L.bin).2 := by
  intro q hq
  rcases makeDirs_node? t [] L.bin q with h | ⟨hway, hnone, hdir⟩
  · exact absurd h hq
  · exact .created (onTheWay_nil_iff.1 hway).2 hnone hdir

theorem Framed.cleared (hn : items n) (h : Cleared (L.bin ++ [n]) t t') : Framed L items t t' := by
  intro q hq
  by_cases hp : L.bin ++ [n] <+: q
  · exact .item n hn hp
  · rw [h.view, if_neg hp] at hq
    exact absurd rfl hq

theorem Framed.moved (hn : items n) (h : Moved (L.source src ++ [n]) (L.bin ++ [n]) t t') :
    Framed L items t t' := by
  intro q hq
  by_cases hp : L.bin ++ [n] <+: q
  · exact .item n hn hp
  · by_cases hsource : L.source src ++ [n] <+: q
    · refine .staging (List.IsPrefix.trans ?_ hsource)
      rw [Layout.source, List.append_assoc]
      exact List.prefix_append _ _
    · rw [h.view, if_neg hp, if_neg hsource] at hq
      exact absurd rfl hq

/-- A guard has removed the archive or the staging directory. -/
theorem onlyIn_of_removed {p : Place}
    (h : ∀ q, node? t' q = if p <+: q then none else node? t q) : OnlyIn p t t' := by
  intro q hq
  rw [h, if_neg hq]

end Framed

/-! ## What the phases change -/

section Meets

variable {η : Type} {S : Setting η} {w : World η} {c : Config} {key : Key} {version : String}
  {L : Layout} {items : Bytes → Prop} {t : Tree Node}

/-- A guard for the archive. -/
theorem framed_removeArchive (hp : Places S c key version L) (h : Framed L items t w.tree) :
    (Guard.remove (archivePath c key version)).Meets S.Step
      (fun w' => Framed L items t w'.tree) (fun _ w' => Framed L items t w'.tree) w := by
  refine meets_remove (by rw [hp.archive]; exact L.archivePlace_ne_nil) h ?_ fun _ => h
  intro w' hgone hnet
  rw [hp.archive] at hgone
  exact h.trans (.of_archive (onlyIn_of_removed hgone))

/-- A guard for the staging directory. -/
theorem framed_removeStaging (hp : Places S c key version L) (h : Framed L items t w.tree) :
    (Guard.remove (stagingPath c key version)).Meets S.Step
      (fun w' => Framed L items t w'.tree) (fun _ w' => Framed L items t w'.tree) w := by
  refine meets_remove (by rw [hp.staging]; exact L.stagingPlace_ne_nil) h ?_ fun _ => h
  intro w' hgone hnet
  rw [hp.staging] at hgone
  exact h.trans (.of_staging (onlyIn_of_removed hgone))

/-- Creating the `bin` directory, also when it cannot be created to its end. -/
theorem framed_createBin (hp : Places S c key version L) :
    Attempt.Meets S.Step (fun w' => Framed L items w.tree w'.tree)
      (fun _ w' => Framed L items w.tree w'.tree) (fun _ w' => Framed L items w.tree w'.tree)
      (Attempt.createDirs (Locate.binDir c.root)) w := by
  have hmade : ∀ {r : Except Report Unit} {w' : World η},
      makeDirs w.tree [] (S.place (Locate.binDir c.root)) = (r, w'.tree) →
      Framed L items w.tree w'.tree := by
    intro r w' hmake
    rw [hp.directory] at hmake
    rw [show w'.tree = (makeDirs w.tree [] L.bin).2 by rw [hmake]]
    exact .makeDirs L items w.tree
  refine meets_createDirs (.refl L items w.tree) ?_ (fun _ _ => .refl L items w.tree) ?_
  · exact fun w' hmake _ => hmade hmake
  · exact fun _ w' hmake _ => hmade hmake

/-- How the first phase ends early: with an idle outcome and nothing changed, or with a problem that
came up while the archive was fetched. -/
def Stops (S : Setting η) (c : Config) (version : String) (L : Layout) (w : World η) (o : Outcome)
    (w' : World η) : Prop :=
  o.isIdle = true ∧ w' = w ∨
    o.isIdle = false ∧ versionIn? S.cwd c.root w.tree = some version ∧
      Framed L (fun _ => False) w.tree w'.tree

/-- Obtaining the archive moves no items. -/
theorem framed_obtainArchive (hp : Places S c key version L) :
    (obtainArchive c key version).Meets S.Step
      (fun w' => Framed L (fun _ => False) w.tree w'.tree)
      (Attempt.Ends
        (fun v w' => v = version ∧ Framed L (fun _ => False) w.tree w'.tree ∧
          ∃ body mode, node? w'.tree L.archivePlace = some (.file body mode))
        (fun o w' => o.isIdle = false ∧ Framed L (fun _ => False) w.tree w'.tree)) w := by
  unfold obtainArchive
  refine Program.meets_bind (Program.Meets.mono (framed_createBin hp) (fun _ hw => hw) ?_)
  rintro (e | _) w₁ h₁
  · exact Program.meets_pure ⟨rfl, h₁⟩
  · refine Program.meets_bind (Program.Meets.mono
      (meets_download _ hp.archive L.archivePlace_ne_nil rfl)
      (fun _ hf => h₁.trans (.of_archive hf.only)) ?_)
    rintro (e | size) w₂ ⟨hfetching, hend⟩
    · have h₂ := h₁.trans (.of_archive hfetching.only)
      refine Program.meets_bind (Program.Meets.mono (framed_removeArchive hp h₂)
        (fun _ hw => hw) fun _ w₃ h₃ => ?_)
      exact Program.meets_pure ⟨rfl, h₃⟩
    · have h₂ := h₁.trans (.of_archive hfetching.only)
      obtain ⟨-, body, mode, -, hfile, -⟩ := hend
      refine Program.meets_bind (meets_log h₂ ?_ _ _)
      exact Program.meets_pure ⟨rfl, h₂, body, mode, hfile⟩

/-- The first phase moves no items, and while nothing is known about the version it changes nothing.
-/
theorem framed_fetchArchive (hp : Places S c key version L)
    (hversion : ∀ v, versionIn? S.cwd c.root w.tree = some v → v = version) :
    (fetchArchive c key).Meets S.Step (fun w' => Framed L (fun _ => False) w.tree w'.tree)
      (Attempt.Ends
        (fun v w' => v = version ∧ versionIn? S.cwd c.root w.tree = some version ∧
          Framed L (fun _ => False) w.tree w'.tree ∧
          ∃ body mode, node? w'.tree L.archivePlace = some (.file body mode))
        (Stops S c version L w)) w := by
  rw [fetchArchive_eq]
  refine Program.meets_bind (Program.Meets.mono
    (meets_findVersion hp (Framed.refl L _ w.tree) hversion) (fun _ hw => hw) ?_)
  rintro (o | v) w' hfind
  · obtain ⟨rfl, ⟨rfl, -⟩ | ⟨⟨e, url, rfl⟩, -⟩⟩ := hfind
    · exact Program.meets_pure (.inl ⟨rfl, rfl⟩)
    · exact Program.meets_pure (.inl ⟨rfl, rfl⟩)
  · obtain ⟨rfl, rfl, -, hrelease⟩ := hfind
    refine Program.Meets.mono (framed_obtainArchive hp) (fun _ hw => hw) ?_
    rintro (o | v') w'' hobtain
    · exact .inr ⟨hobtain.1, hrelease, hobtain.2⟩
    · exact ⟨hobtain.1, hrelease, hobtain.2⟩

/-- The guards at the end of a run. -/
theorem framed_cleanUp {α : Type} {next : Program α} {Q : α → World η → Prop}
    (hp : Places S c key version L) (h : Framed L items t w.tree)
    (hnext : ∀ w' : World η, Framed L items t w'.tree →
      next.Meets S.Step (fun w' => Framed L items t w'.tree) Q w') :
    (do
      Guard.remove (stagingPath c key version)
      Guard.remove (archivePath c key version)
      next).Meets S.Step (fun w' => Framed L items t w'.tree) Q w := by
  refine Program.meets_bind (Program.Meets.mono (framed_removeStaging hp h) (fun _ hw => hw) ?_)
  intro _ w₁ h₁
  refine Program.meets_bind (Program.Meets.mono (framed_removeArchive hp h₁) (fun _ hw => hw) ?_)
  exact fun _ w₂ h₂ => hnext w₂ h₂

/-- The third phase when nothing was accepted. -/
theorem framed_settle_error (hp : Places S c key version L) (e : Report)
    (h : Framed L items t w.tree) :
    (settle c key version (.error e)).Meets S.Step (fun w' => Framed L items t w'.tree)
      (fun o w' => (∃ url, o = .failed (.extraction e) url) ∧ Framed L items t w'.tree) w := by
  refine Program.meets_bind (Program.meets_pure ?_)
  exact framed_cleanUp hp h fun w' h' => Program.meets_pure ⟨⟨_, rfl⟩, h'⟩

variable {src : Place} {source directory staged binary : Path}

/-- Moving the items and the binary, once that has its mode. -/
theorem framed_moveAll {message : String}
    (hi : Items S source directory staged (L.source src) L.bin L.binary)
    (hslot : S.place binary = L.slot) (hbinary : items L.binary)
    (hitems : ∀ n, (node? w.tree (L.source src ++ [n])).isSome → items n)
    (h : Framed L items t w.tree) :
    Attempt.Meets S.Step (fun w' => Framed L items t w'.tree)
      (fun _ w' => Framed L items t w'.tree) (fun _ w' => Framed L items t w'.tree)
      (do
        moveOthers staged directory (← Attempt.list source)
        (replace staged binary).context message) w := by
  refine Attempt.meets_bind (meets_list h ?_ fun _ _ => h)
  intro _
  rw [hi.source_eq]
  have hmem : ∀ n ∈ w.tree.names (L.source src), (node? w.tree (L.source src ++ [n])).isSome :=
    fun n hn => (mem_names_iff w.sound).1 hn
  refine Attempt.meets_bind (Attempt.meets_lift (Program.Meets.mono (meets_moveOthers
    (J := fun l w' => Framed L items t w'.tree ∧ ∀ n ∈ l, items n) hi (fun _ _ hJ => hJ.1) ?_ ?_ ?_
    ?_ (fun n hn => w.sound.isName _ n (hmem n hn)) ⟨h, fun n hn => hitems n (hmem n hn)⟩)
    (fun _ hw => hw) ?_))
  · rintro l w' ⟨hf, hl⟩
    exact ⟨hf, fun m hm => hl m (List.mem_cons_of_mem _ hm)⟩
  · rintro n l w' - ⟨hf, hl⟩ -
    exact ⟨hf, fun m hm => hl m (List.mem_cons_of_mem _ hm)⟩
  · rintro n l w' w'' - ⟨hf, hl⟩ hcleared
    have hf' := hf.trans (.cleared (hl n (List.mem_cons_self ..)) hcleared)
    exact ⟨hf', fun _ => ⟨hf', fun m hm => hl m (List.mem_cons_of_mem _ hm)⟩⟩
  · rintro n l w' w'' - ⟨hf, hl⟩ hmoved
    exact ⟨hf.trans (.moved (hl n (List.mem_cons_self ..)) hmoved),
      fun m hm => hl m (List.mem_cons_of_mem _ hm)⟩
  · rintro _ w' ⟨hf, -⟩
    refine Attempt.meets_context (meets_replace hi.place_staged hslot (by simp) L.slot_ne_nil
      (hi.not_prefix _ _) hf ?_ ?_ (fun _ _ => hf) ?_)
    · exact fun w'' hcleared => hf.trans (.cleared hbinary hcleared)
    · exact fun w'' hmoved => hf.trans (.moved hbinary hmoved)
    · exact fun _ w'' hcleared _ => hf.trans (.cleared hbinary hcleared)

/-- Finalizing changes nothing but the staging directory and the places of the items beside the
staged binary. -/
theorem framed_finalize {staging : Path} {bytes : Bytes} {mode : Nat} (key : Key)
    (hdirectory : S.place directory = L.bin) (hslot : S.place binary = L.slot)
    (hstaging : S.place staging = L.stagingPlace)
    (hstaged : Staged staging L.stagingPlace L.binary w.tree staged src bytes mode)
    (hitems : ∀ n, (node? w.tree (L.source src ++ [n])).isSome → items n)
    (h : Framed L items t w.tree) :
    Attempt.Meets S.Step (fun w' => Framed L items t w'.tree)
      (fun _ w' => Framed L items t w'.tree) (fun _ w' => Framed L items t w'.tree)
      (finalize key staged directory binary) w := by
  obtain ⟨source, hparent, hi⟩ := hstaged.exists_items hdirectory hstaging
  have hv : node? w.tree (L.source src ++ [L.binary]) = some (.file bytes mode) := by
    rw [Layout.source, List.append_assoc]
    exact hstaged.finds.file
  have hbinary : items L.binary := hitems L.binary (by rw [hv]; rfl)
  unfold finalize
  rw [hparent]
  cases key.isWindows with
  | true => exact framed_moveAll hi hslot hbinary hitems h
  | false =>
    refine Attempt.meets_bind (Attempt.meets_context (meets_setMode h ?_ fun _ _ => h))
    intro w₁ hchange hnet
    rw [hi.place_staged] at hchange
    have honly := onlyIn_changeMode hchange (List.prefix_refl _)
    have hbelow : L.stagingPlace <+: L.source src ++ [L.binary] := by
      rw [Layout.source, List.append_assoc]
      exact List.prefix_append _ _
    refine framed_moveAll hi hslot hbinary ?_ (h.trans (.of_staging (honly.below hbelow)))
    intro n hn
    by_cases hb : n = L.binary
    · rw [hb]
      exact hbinary
    · rw [item_of_onlyIn honly hb []] at hn
      exact hitems n hn

/-- The third phase when a binary was accepted. -/
theorem framed_settle {bytes : Bytes} {mode : Nat} (hp : Places S c key version L)
    (hstaged : Staged (stagingPath c key version) L.stagingPlace L.binary w.tree staged src bytes
      mode)
    (hitems : ∀ n, (node? w.tree (L.source src ++ [n])).isSome → items n)
    (h : Framed L items t w.tree) :
    (settle c key version (.ok staged)).Meets S.Step (fun w' => Framed L items t w'.tree)
      (fun o w' => (o.isIdle = false ∧ o.isUnstaged = false) ∧ Framed L items t w'.tree) w := by
  have hmove := Attempt.meets_mapFailure (f := Problem.finalize)
    (R := fun e (w' : World η) => (∃ e', e = .finalize e') ∧ Framed L items t w'.tree)
    (Attempt.Meets.mono (framed_finalize key hp.directory hp.binary hp.staging hstaged hitems h)
      (fun _ hw => hw) (fun _ _ hw => hw) fun e _ hw => ⟨⟨e, rfl⟩, hw⟩)
  refine Program.meets_bind (Program.Meets.mono hmove (fun _ hw => hw) ?_)
  rintro (e | _) w₁ h₁
  · obtain ⟨⟨e', rfl⟩, hf⟩ := h₁
    exact framed_cleanUp hp hf fun w' h' => Program.meets_pure ⟨⟨rfl, rfl⟩, h'⟩
  · exact framed_cleanUp hp h₁ fun w' h' => Program.meets_pure ⟨⟨rfl, rfl⟩, h'⟩

end Meets

/-! ## What a run changes -/

section Runs

variable {η : Type}

/-- The names of the items that lie beside the staged binary when a run accepts that. -/
def Beside (h : Handler (Memory × η)) (c : Config) (key : Key) (s : Memory × η) (name : Bytes) :
    Prop :=
  ∃ version s₁ staged s₂ source, (fetchArchive c key).run h s = (.ok version, s₁) ∧
    (stageArchive c key version).run h s₁ = (.ok staged, s₂) ∧ staged.parent? = some source ∧
    (node? s₂.1.tree (s₂.1.place source ++ [name])).isSome

/-- What a run for a key has come to: an idle outcome and the same tree, or the version is known and
nothing but what may change has changed; items only if a binary was staged. -/
def Leaves (h : Handler (Memory × η)) (c : Config) (key : Key) (version : String) (L : Layout)
    (s : Memory × η) (r : Outcome × (Memory × η)) : Prop :=
  r.1.isIdle = true ∧ r.2.1.tree = s.1.tree ∨
    r.1.isIdle = false ∧ versionIn? s.1.cwd c.root s.1.tree = some version ∧
      Framed L (fun name => r.1.isUnstaged = false ∧ Beside h c key s name) s.1.tree r.2.1.tree

variable {c : Config} {key : Key} {version : String} {L : Layout}
  {serve : Url → η → Except NoResponse Response × η} {m : Memory} {n : η}

/-- The last two phases, from the state in which the archive has been downloaded. -/
theorem leaves_stage {s₁ : Memory × η} {w₁ : World η}
    (hp : Places (.ofHost serve m) c key version L)
    (hversion : versionIn? m.cwd c.root m.tree = some version)
    (hfetch : (fetchArchive c key).run (handle serve) (m, n) = (.ok version, s₁))
    (hshow : (Setting.ofHost serve m).Shows s₁ w₁)
    (hframed : Framed L (fun _ => False) m.tree w₁.tree)
    (hfile : ∃ body mode, node? w₁.tree L.archivePlace = some (.file body mode)) :
    Leaves (handle serve) c key version L (m, n)
      ((stageArchive c key version >>= settle c key version).run (handle serve) s₁) := by
  obtain ⟨body, mode, hfile⟩ := hfile
  obtain ⟨w₂, hshow₂, hend⟩ := (keeps_ofHost serve m).run hshow (meets_stageArchive hp hfile)
  rw [Program.run_bind]
  cases hstage : (stageArchive c key version).run (handle serve) s₁ with
  | mk accepted s₂ =>
    rw [hstage] at hshow₂ hend
    cases accepted with
    | error e =>
      obtain ⟨w', hshow', ⟨url, ho⟩, hframed'⟩ := (keeps_ofHost serve m).run hshow₂
        (framed_settle_error hp e (hframed.trans (.of_staging hend.1.only)))
      refine .inr ⟨by rw [ho]; rfl, hversion, ?_⟩
      rw [hshow'.tree]
      exact hframed'.mono fun _ hfalse => hfalse.elim
    | ok staged =>
      obtain ⟨-, hun, ⟨src, bytes, mode', hstaged⟩, -⟩ := hend
      obtain ⟨source, hparent, hi⟩ := hstaged.exists_items hp.directory hp.staging
      have hitems : ∀ name, (node? w₂.tree (L.source src ++ [name])).isSome →
          Beside (handle serve) c key (m, n) name := by
        intro name hsome
        refine ⟨version, s₁, staged, s₂, source, hfetch, hstage, hparent, ?_⟩
        have hplace : s₂.1.place source = L.source src := by
          rw [place_eq, hshow₂.1.cwd]
          exact hi.source_eq
        rwa [hplace, hshow₂.tree]
      have hframed₂ : Framed L (Beside (handle serve) c key (m, n)) m.tree w₂.tree :=
        (hframed.mono fun _ hfalse => hfalse.elim).trans (.of_staging hun.only)
      obtain ⟨w', hshow', ⟨hidle, hstagedOutcome⟩, hframed'⟩ := (keeps_ofHost serve m).run hshow₂
        (framed_settle hp hstaged hitems hframed₂)
      refine .inr ⟨hidle, hversion, ?_⟩
      rw [hshow'.tree]
      exact hframed'.mono fun _ hbeside => ⟨hstagedOutcome, hbeside⟩

/-- A run for a key. -/
theorem leaves_runFor (hp : Places (.ofHost serve m) c key version L) (hs : Sound m.tree)
    (hversion : ∀ v, versionIn? m.cwd c.root m.tree = some v → v = version) :
    Leaves (handle serve) c key version L (m, n) ((runFor c key).run (handle serve) (m, n)) := by
  obtain ⟨w₁, hshow, hend⟩ := (keeps_ofHost serve m).run (shows_ofHost serve n hs)
    (framed_fetchArchive hp hversion)
  rw [runFor_eq, Program.run_bind]
  cases hfetch : (fetchArchive c key).run (handle serve) (m, n) with
  | mk fetched s₁ =>
    rw [hfetch] at hshow hend
    cases fetched with
    | error o =>
      rcases hend with ⟨hidle, rfl⟩ | ⟨hidle, hrelease, hframed⟩
      · exact .inl ⟨hidle, hshow.tree⟩
      · refine .inr ⟨hidle, hrelease, ?_⟩
        rw [Program.run_pure, hshow.tree]
        exact hframed.mono fun _ hfalse => hfalse.elim
    | ok v =>
      obtain ⟨rfl, hrelease, hframed, hfile⟩ := hend
      exact leaves_stage hp hrelease hfetch hshow hframed hfile

/-- What differs from the tree of a host lies in places that a run may touch: the run has a key and
a version, which name the archive and the staging directory. -/
def Frames (c : Config) (m : Memory) (items : Key → Bytes → Prop) (t' : Tree Node) : Prop :=
  ∀ q, node? t' q ≠ node? m.tree q → ∃ key version, c.platform.key? = some key ∧
    versionIn? m.cwd c.root m.tree = some version ∧
    Touched (m.place (archivePath c key version)) (m.place (stagingPath c key version))
      (m.place (Locate.binDir c.root)) (items key) m.tree t' q

theorem Framed.frames {items : Key → Bytes → Prop} {t' : Tree Node}
    (hp : Places (.ofHost serve m) c key version L) (hkey : c.platform.key? = some key)
    (hversion : versionIn? m.cwd c.root m.tree = some version)
    (h : Framed L (items key) m.tree t') : Frames c m items t' := by
  intro q hq
  refine ⟨key, version, hkey, hversion, ?_⟩
  have harchive : m.place (archivePath c key version) = L.archivePlace := hp.archive
  have hstaging : m.place (stagingPath c key version) = L.stagingPlace := hp.staging
  have hbin : m.place (Locate.binDir c.root) = L.bin := hp.directory
  rw [harchive, hstaging, hbin]
  exact h q hq

end Runs

/-- The frame of a run, whatever the files are, the network answers and fails. What has changed lies
in the archive, in the staging directory, in an item of the directory in which the staged binary
was, or is a directory that was created on the way to the `bin` directory. No items have changed
when the outcome speaks of the network or of the archive, and nothing at all when it is idle. -/
theorem install_frame {η : Type} (serve : Url → η → Except NoResponse Response × η) (c : Config)
    (m : Memory) (n : η) (hnative : c.extractor = .native) (hs : Sound m.tree)
    (hversion : ∀ v, versionIn? m.cwd c.root m.tree = some v → '/' ∉ v.toList) :
    Frames c m (fun key => Beside (handle serve) c key (m, n))
        ((run c).run (handle serve) (m, n)).2.1.tree ∧
      (((run c).run (handle serve) (m, n)).1.isUnstaged = true →
        Frames c m (fun _ _ => False) ((run c).run (handle serve) (m, n)).2.1.tree) ∧
      (((run c).run (handle serve) (m, n)).1.isIdle = true →
        ∀ q, node? ((run c).run (handle serve) (m, n)).2.1.tree q = node? m.tree q) := by
  cases hkey : c.platform.key? with
  | none =>
    have hsame : ∀ q, node? ((run c).run (handle serve) (m, n)).2.1.tree q = node? m.tree q := by
      intro q
      unfold run
      rw [hkey]
      rfl
    exact ⟨fun q hq => absurd (hsame q) hq, fun _ q hq => absurd (hsame q) hq, fun _ => hsame⟩
  | some key =>
    obtain ⟨version, L, hp, hsame⟩ := exists_places key hnative hversion
    rw [run_eq hkey]
    rcases leaves_runFor (n := n) hp hs hsame with ⟨hidle, htree⟩ | ⟨hidle, hrelease, hframed⟩
    · have hnode : ∀ q, node? ((runFor c key).run (handle serve) (m, n)).2.1.tree q =
          node? m.tree q := by
        intro q
        rw [htree]
      exact ⟨fun q hq => absurd (hnode q) hq, fun _ q hq => absurd (hnode q) hq, fun _ => hnode⟩
    · refine ⟨(hframed.mono fun _ h => h.2).frames hp hkey hrelease, fun hunstaged => ?_,
        fun hidle' => ?_⟩
      · refine (hframed.mono fun _ h => ?_).frames hp hkey hrelease
        rw [hunstaged] at h
        cases h.1
      · rw [hidle] at hidle'
        cases hidle'

/-- The install of the small archive changes the place of the binary, and keeps to the frame. -/
theorem install_frame_sample :
    node? ((run Sample.config).run (handle Sample.serve) (Sample.host, ())).2.1.tree
        (Sample.host.place (Locate.binaryIn Sample.config.root .win32X64)) ≠
      node? Sample.host.tree (Sample.host.place (Locate.binaryIn Sample.config.root .win32X64)) ∧
      Frames Sample.config Sample.host
        (fun key => Beside (handle Sample.serve) Sample.config key (Sample.host, ()))
        ((run Sample.config).run (handle Sample.serve) (Sample.host, ())).2.1.tree := by
  have h := install_frame Sample.serve Sample.config Sample.host () rfl Sample.sound_host
    Sample.slashFree_host
  exact ⟨by decide +kernel, h.1⟩

end Install

end Provision
