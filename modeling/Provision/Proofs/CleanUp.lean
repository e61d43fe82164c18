import Provision.Proofs.Phases

/-!
# What is cleaned up

Once the `bin` directory is there, the archive is gone after every way out, and so is the staging
directory: except that a failed download leaves one from an earlier run.

* `provideFor_eq` cuts the part of a run that changes files in two, before and after the `bin`
  directory is created.
* `provide_leaves` says exactly what can be left.
-/

namespace Provision.Install

open Memory

/-- The part of a run that comes before its guards: the `bin` directory is created. -/
def prepareBin (c : Config) (key : Key) (version : String) : Program (Except Report Unit) := do
  announce key (Release.asset c.host version key.naming)
  (Attempt.createDirs (Locate.binDir c.root)).run

/-- The part of a run that is guarded: the archive is downloaded, unpacked and moved into place. -/
def provideInto (c : Config) (key : Key) (version : String) : Attempt Problem Unit :=
  Guard.always (archivePath c key version) do
    let size ← (Download.run (Release.asset c.host version key.naming).url
      (archivePath c key version)).mapFailure .network
    logInfo ("Downloaded " ++ (Release.asset c.host version key.naming).name ++ " ("
      ++ toString size ++ " bytes)")
    unpackAndFinalize c.extractor key (archivePath c key version) (stagingPath c key version)
      (Locate.binDir c.root) (Locate.binaryIn c.root key)

/-- What a run for a key does to change files. -/
def provideFor (c : Config) (key : Key) (version : String) : Attempt Problem Unit :=
  provide c.extractor key (Release.asset c.host version key.naming) (Locate.binDir c.root)
    (Locate.binaryIn c.root key)

theorem provideFor_eq (c : Config) (key : Key) (version : String) :
    (provideFor c key version).run = (do
      match ← prepareBin c key version with
      | .error e =>
        return .error (.finalize (e.context ("Failed to create " ++ (Locate.binDir c.root).quoted)))
      | .ok () => (provideInto c key version).run) := by
  unfold provideFor provide prepareBin provideInto Attempt.mapFailure Attempt.context
    Attempt.ofProgram
  simp only [ExceptT.run_bind, ExceptT.run_mk, bind_assoc, pure_bind, run_lift_bind]
  refine bind_congr fun _ => bind_congr fun made => ?_
  cases made with
  | error e => rfl
  | ok _ => rfl

section Meets

variable {η : Type} {S : Setting η} {w : World η} {c : Config} {key : Key} {version : String}
  {L : Layout}

/-- A guard leaves nothing in its place. -/
theorem meets_guard {path : Path} {p : Place} {Q : Unit → World η → Prop} (hr : Removes S)
    (hplace : S.place path = p) (hp : p ≠ [])
    (h : ∀ w' : World η,
      (∀ q, node? w'.tree q = if p <+: q then none else node? w.tree q) → Q () w') :
    (Guard.remove path).Meets S.Step (fun _ => True) Q w := by
  subst hplace
  refine meets_remove hp trivial (fun w' hgone _ => h w' hgone) ?_
  rintro (hf | hf)
  · exact absurd hf hr.1
  · exact absurd hf hr.2

/-- Unpacking and moving fail with other problems than the download, and leave no staging
directory. -/
theorem meets_unpackAndFinalize (hr : Removes S) (hp : Places S c key version L) :
    Attempt.Meets S.Step (fun _ => True) (fun _ w' => node? w'.tree L.stagingPlace = none)
      (fun e w' => (∀ e', e ≠ .network e') ∧ node? w'.tree L.stagingPlace = none)
      (unpackAndFinalize c.extractor key (archivePath c key version) (stagingPath c key version)
        (Locate.binDir c.root) (Locate.binaryIn c.root key)) w := by
  have hgone : ∀ (w₁ : World η) (Q : World η → Prop),
      (∀ w', node? w'.tree L.stagingPlace = none → Q w') →
      (Guard.remove (stagingPath c key version)).Meets S.Step (fun _ => True) (fun _ w' => Q w')
        w₁ := by
    intro w₁ Q hQ
    refine meets_guard hr hp.staging L.stagingPlace_ne_nil fun w' h => hQ w' ?_
    rw [h, if_pos (List.prefix_refl _)]
  unfold unpackAndFinalize
  refine meets_always (Attempt.meets_bind (Attempt.meets_mapFailure ?_))
  refine Program.Meets.mono (Program.meets_any _) (fun _ h => h) ?_
  rintro (e | staged) w₁ -
  · exact hgone w₁ _ fun w' h => ⟨by simp, h⟩
  · refine Attempt.meets_mapFailure (Program.Meets.mono (Program.meets_any _) (fun _ h => h) ?_)
    rintro (e | _) w₂ -
    · exact hgone w₂ _ fun w' h => ⟨by simp, h⟩
    · exact hgone w₂ _ fun w' h => h

/-- What the guarded part leaves: no archive, and a staging directory only if the download failed
and there was one before. -/
theorem meets_provideInto (hr : Removes S) (hp : Places S c key version L) :
    (provideInto c key version).run.Meets S.Step (fun _ => True)
      (fun r w' => node? w'.tree L.archivePlace = none ∧
        ((∃ e, r = .error (.network e)) ∧
            node? w'.tree L.stagingPlace = node? w.tree L.stagingPlace ∨
          (∀ e, r ≠ .error (.network e)) ∧ node? w'.tree L.stagingPlace = none)) w := by
  have hgone : ∀ (w₁ : World η) (Q : World η → Prop),
      (∀ w' : World η, node? w'.tree L.archivePlace = none →
        node? w'.tree L.stagingPlace = node? w₁.tree L.stagingPlace → Q w') →
      (Guard.remove (archivePath c key version)).Meets S.Step (fun _ => True) (fun _ w' => Q w')
        w₁ := by
    intro w₁ Q hQ
    refine meets_guard hr hp.archive L.archivePlace_ne_nil fun w' h => hQ w' ?_ ?_
    · rw [h, if_pos (List.prefix_refl _)]
    · have hout : ¬ L.archivePlace <+: L.stagingPlace :=
        not_prefix_of_ne L.staging_ne_archive.symm
      rw [h, if_neg hout]
  have hwork : Attempt.Meets S.Step (fun _ => True)
      (fun _ w' => node? w'.tree L.archivePlace = none ∧ node? w'.tree L.stagingPlace = none)
      (fun e w' => node? w'.tree L.archivePlace = none ∧
        ((∃ e', e = .network e') ∧ node? w'.tree L.stagingPlace = node? w.tree L.stagingPlace ∨
          (∀ e', e ≠ .network e') ∧ node? w'.tree L.stagingPlace = none))
      (provideInto c key version) w := by
    unfold provideInto
    refine meets_always (Attempt.meets_bind (Attempt.meets_mapFailure (Attempt.Meets.mono
      (meets_download _ hp.archive L.archivePlace_ne_nil rfl) (fun _ _ => trivial) ?_ ?_)))
    · rintro size w₁ -
      refine Attempt.meets_bind (Attempt.meets_lift (meets_log trivial ?_ _ _))
      refine Attempt.Meets.mono (meets_unpackAndFinalize hr hp) (fun _ h => h) ?_ ?_
      · intro _ w₂ hstaging
        exact hgone w₂ _ fun w' ha hs => ⟨ha, hs.trans hstaging⟩
      · rintro e w₂ ⟨he, hstaging⟩
        exact hgone w₂ _ fun w' ha hs => ⟨ha, .inr ⟨he, hs.trans hstaging⟩⟩
    · rintro e w₁ ⟨hfetching, -⟩
      -- the staging directory has not been looked at yet
      have hstaging : node? w₁.tree L.stagingPlace = node? w.tree L.stagingPlace :=
        onlyIn_entry hfetching.only L.staging_ne_archive
      exact hgone w₁ _ fun w' ha hs => ⟨ha, .inl ⟨⟨e, rfl⟩, hs.trans hstaging⟩⟩
  refine Program.Meets.mono hwork (fun _ h => h) ?_
  rintro (e | _) w' hend
  · obtain ⟨harchive, ⟨⟨e', rfl⟩, hsame⟩ | ⟨hother, hnone⟩⟩ := hend
    · exact ⟨harchive, .inl ⟨⟨e', rfl⟩, hsame⟩⟩
    · exact ⟨harchive, .inr ⟨fun e' he' => hother e' (Except.error.inj he'), hnone⟩⟩
  · exact ⟨hend.1, .inr ⟨by simp, hend.2⟩⟩

/-- Before the guards nothing happens to the staging directory. -/
theorem meets_prepareBin (hp : Places S c key version L) :
    (prepareBin c key version).Meets S.Step (fun _ => True)
      (fun r w' => r = .ok () →
        node? w'.tree L.stagingPlace = node? w.tree L.stagingPlace) w := by
  unfold prepareBin announce
  refine Program.meets_bind (Program.meets_bind (meets_print trivial ?_ _ _))
  refine meets_print trivial ?_ _ _
  refine Program.Meets.mono (meets_createBin hp) (fun _ _ => trivial) ?_
  rintro (e | _) w' hmade hok
  · cases hok
  · have htree : (makeDirs w.tree [] L.bin).2 = w'.tree := by rw [hmade.1]
    rw [← htree]
    exact makeDirs_entry L w.tree L.staging []

end Meets

/-- What is left once the `bin` directory has been created, when nothing fails to be removed. The
archive never is. The staging directory is exactly if the download failed and it was there before.
-/
theorem provide_leaves {η : Type} (serve : Url → η → Except NoResponse Response × η) (c : Config)
    (key : Key) (m : Memory) (n : η) (version : String) (L : Layout)
    (hnative : c.extractor = .native) (hs : Sound m.tree) (hslash : '/' ∉ version.toList)
    (hL : L = .ofRelease m.cwd c.root key version hslash)
    (hremove : ∀ f ∈ m.faults, f.point ≠ .removeFile ∧ f.point ≠ .removeTree)
    (hmade : ((prepareBin c key version).run (handle serve) (m, n)).1 = .ok ()) :
    node? ((provideFor c key version).run.run (handle serve) (m, n)).2.1.tree L.archivePlace =
        none ∧
      ((node? ((provideFor c key version).run.run (handle serve) (m, n)).2.1.tree
          L.stagingPlace).isSome ↔
        (∃ e, ((provideFor c key version).run.run (handle serve) (m, n)).1 = .error (.network e)) ∧
          (node? m.tree L.stagingPlace).isSome) := by
  have hp : Places (.ofHost serve m) c key version L := by
    rw [hL]
    exact places_ofRelease _ key hnative hslash
  have hr : Removes (Setting.ofHost serve m) := by
    refine ⟨?_, ?_⟩
    · rintro ⟨f, hf, hpoint⟩
      exact (hremove f hf).1 hpoint
    · rintro ⟨f, hf, hpoint⟩
      exact (hremove f hf).2 hpoint
  obtain ⟨w₁, hshow₁, hstaging⟩ := (keeps_ofHost serve m).run (shows_ofHost serve n hs)
    (meets_prepareBin hp)
  have hbefore : node? w₁.tree L.stagingPlace = node? m.tree L.stagingPlace := hstaging hmade
  obtain ⟨w', hshow, harchive, hend⟩ := (keeps_ofHost serve m).run hshow₁ (meets_provideInto hr hp)
  rw [provideFor_eq, Program.run_bind, hmade]
  dsimp only
  rw [hshow.tree]
  refine ⟨harchive, ?_⟩
  rcases hend with ⟨hfailed, hsame⟩ | ⟨hother, hnone⟩
  · rw [hsame, hbefore]
    exact ⟨fun h => ⟨hfailed, h⟩, fun h => h.2⟩
  · rw [hnone]
    constructor
    · intro h
      cases h
    · rintro ⟨⟨e, he⟩, -⟩
      exact absurd he (hother e)

namespace Sample

def remote : Config := ⟨.ofText "/work", "http://[::1]", ⟨"linux", "x64"⟩, .native, 1⟩

/-- A host with a staging directory that an earlier run has left. -/
def stale : Memory where
  tree := ⟨[([Bytes.ofText "work"], .dir), ([Bytes.ofText "work", Bytes.ofText "bin"], .dir),
    ([Bytes.ofText "work", Bytes.ofText "bin",
      Bytes.ofText ".comment-checker_v1.0.0_linux_amd64.tar.gz.staging"], .dir)]⟩

theorem made : ((prepareBin remote .linuxX64 "1.0.0").run (handle noNetwork) (stale, ())).1 =
    .ok () := by
  decide +kernel

end Sample

/-- On the host with the earlier staging directory the archive is not left, and that directory is
exactly if the download failed. -/
theorem provide_leaves_stale :
    node? ((provideFor Sample.remote .linuxX64 "1.0.0").run.run (handle noNetwork)
        (Sample.stale, ())).2.1.tree
      (Layout.ofRelease Sample.stale.cwd Sample.remote.root .linuxX64 "1.0.0"
        (by decide)).archivePlace = none ∧
      ((node? ((provideFor Sample.remote .linuxX64 "1.0.0").run.run (handle noNetwork)
          (Sample.stale, ())).2.1.tree
        (Layout.ofRelease Sample.stale.cwd Sample.remote.root .linuxX64 "1.0.0"
          (by decide)).stagingPlace).isSome ↔
        (∃ e, ((provideFor Sample.remote .linuxX64 "1.0.0").run.run (handle noNetwork)
          (Sample.stale, ())).1 = .error (.network e)) ∧
          (node? Sample.stale.tree (Layout.ofRelease Sample.stale.cwd Sample.remote.root .linuxX64
            "1.0.0" (by decide)).stagingPlace).isSome) :=
  provide_leaves noNetwork Sample.remote .linuxX64 Sample.stale () "1.0.0" _ rfl
    (by decide +kernel) (by decide) rfl (by intro f hf; cases hf) Sample.made

/-- No failure is injected and the `bin` directory is there, but the earlier staging directory is
left because the download fails. -/
theorem failed_download_leaves_staging :
    Sound Sample.stale.tree ∧ Sample.stale.faults = [] ∧ '/' ∉ "1.0.0".toList ∧
      ((prepareBin Sample.remote .linuxX64 "1.0.0").run (handle noNetwork)
        (Sample.stale, ())).1 = .ok () ∧
      node? ((provideFor Sample.remote .linuxX64 "1.0.0").run.run (handle noNetwork)
          (Sample.stale, ())).2.1.tree
        (Sample.stale.place (stagingPath Sample.remote .linuxX64 "1.0.0")) = some .dir :=
  ⟨by decide +kernel, rfl, by decide, Sample.made, by decide +kernel⟩

end Provision.Install
