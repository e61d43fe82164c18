import Provision.Proofs.Interleaving
import Provision.Proofs.Recovery

/-!
# Two installs at once

Two installs of one release into one package work in the same staging directory, so they can spoil
each other's work. They cannot as long as one changes files only while the other does not.

* `Install.runFor_eq_work` cuts a run into the part that only looks and the part that changes files.
* `installs_apart`: when the two take turns in changing files, the place of the binary never holds
  anything but the whole binary, however else their calls are interleaved.
* `overlapping_installs_leave_empty`: when they do not, an empty file can end up there.
-/

namespace Provision.Install

open Memory Interleaving

/-! ## Looking and working -/

/-- The part of a run that changes files. -/
def work (c : Config) (key : Key) (version : String) : Program Outcome := do
  match ← obtainArchive c key version with
  | .error outcome => return outcome
  | .ok version => settle c key version (← stageArchive c key version)

/-- A run looks before it changes files. -/
theorem runFor_eq_work (c : Config) (key : Key) :
    runFor c key = (do
      match ← findVersion c key with
      | .error outcome => return outcome
      | .ok version => work c key version) := by
  rw [runFor_eq, fetchArchive_eq, bind_assoc]
  refine bind_congr fun found => ?_
  cases found with
  | error outcome => rfl
  | ok version => rfl

section Apart

variable {η : Type} {S : Setting η} {w : World η} {c : Config} {key : Key} {version : String}
  {L : Layout} {t : Tree Node} {v : Node} {n : η}

theorem SlotIn.trans {t t' t'' : Tree Node} (h : SlotIn L v t t') (h' : SlotIn L v t' t'') :
    SlotIn L v t t'' := by
  rcases h' with hsame | hnone | hnew
  · unfold SlotIn
    rw [hsame]
    exact h
  · exact .inr (.inl hnone)
  · exact .inr (.inr hnew)

/-- What two installs of one release keep: what a later run needs stays, and in the place of the
binary is what was there, nothing or the binary. -/
def Keep (L : Layout) (v : Node) (t t' : Tree Node) : Prop := Steady L t t' ∧ SlotIn L v t t'

theorem Keep.trans {t t' t'' : Tree Node} (h : Keep L v t t') (h' : Keep L v t' t'') :
    Keep L v t t'' := ⟨h.1.trans h'.1, h.2.trans h'.2⟩

theorem Undisturbed.keep {t t' : Tree Node} (h : Undisturbed L t t') : Keep L v t t' :=
  ⟨h.toSteady, .inl h.slot⟩

/-- Whenever the manifest is read while the other install works, it has the same version. -/
theorem looks_loadFrom (hp : Places S c key version L)
    (hversion : versionIn? S.cwd c.root t = some version) :
    Looks S (Keep L v t) n
      (fun r => ∀ manifest : Manifest, r = .ok manifest → manifest.releaseVersion = version)
      (Manifest.loadFrom c.root).run := by
  refine ⟨rfl, ?_⟩
  rintro text ⟨w, w', ⟨hsteady, -⟩, -, hstep⟩
  have hrelease := (hp.release hsteady).trans hversion
  have hload := (meets_loadFrom (S := S) (I := fun _ => True) trivial).2 text w' hstep
  cases text with
  | error e => exact looks_pure fun _ h => by cases h
  | ok text =>
    refine looks_pure fun manifest hfile => ?_
    change Manifest.ofFile (Manifest.pathIn c.root) text = .ok manifest at hfile
    have hend : Attempt.Ends _ _ (Manifest.ofFile (Manifest.pathIn c.root) text) w' := hload
    rw [hfile] at hend
    have hfound : versionIn? S.cwd c.root w.tree = some manifest.releaseVersion := hend.2
    rw [hrelease] at hfound
    exact (Option.some.inj hfound).symm

/-- A run that finds a version finds that of the package, also while the other install works. -/
theorem looks_findVersion (hp : Places S c key version L)
    (hversion : versionIn? S.cwd c.root t = some version) :
    Looks S (Keep L v t) n (fun r => ∀ found, r = .ok found → found = version)
      (findVersion c key) := by
  unfold findVersion
  refine looks_bind (looks_ask rfl fun found _ => ?_)
  cases found with
  | true => exact looks_pure fun _ h => by cases h
  | false =>
    refine looks_bind ((looks_loadFrom hp hversion).mono ?_)
    rintro (e | manifest) hmanifest
    · exact looks_pure fun _ h => by cases h
    · refine looks_bind (looks_bind (looks_ask rfl fun _ _ => looks_ask rfl fun _ _ => ?_))
      refine looks_pure fun found hfound => ?_
      cases hfound
      exact hmanifest manifest rfl

/-- The part of a run that changes files puts nothing but the binary of the archive into its
place. -/
theorem meets_work {T : Tree Node} {src : Place} {bytes body : Bytes} {mode : Nat} {n : η}
    (hp : Places S c key version L) (hc : S.Calm)
    (hrelease : versionIn? S.cwd c.root w.tree = some version)
    (hserves : Fetch.Serves S.serve (Release.asset c.host version key.naming).url w.net body n)
    (hholds : Holds key.naming.format body L.binary T src bytes mode) :
    (work c key version).Meets S.Step
      (fun w' => Keep L (.file bytes (finalMode key mode)) w.tree w'.tree)
      (fun _ w' => Keep L (.file bytes (finalMode key mode)) w.tree w'.tree) w := by
  unfold work
  refine Program.meets_bind (Program.Meets.mono (meets_obtainArchive hp hrelease)
    (fun _ h => h.keep) ?_)
  rintro (o | found) w₁ hobtain
  · exact Program.meets_pure hobtain.2.1.keep
  · obtain ⟨rfl, body₁, hfetched⟩ := hobtain
    obtain ⟨rfl, -⟩ := hserves.unique hfetched.fetchable.serves
    obtain ⟨fileMode, hfile⟩ := hfetched.archive
    have hkeep₁ := hfetched.undisturbed.keep (v := .file bytes (finalMode key mode))
    refine Program.meets_bind (Program.Meets.mono (meets_stageArchive hp hfile)
      (fun _ h => hkeep₁.trans (Undisturbed.of_preparing h).keep) ?_)
    rintro (e | staged) w₂ hstage
    · have hkeep₂ := hkeep₁.trans (Undisturbed.of_preparing hstage.1).keep
      exact Program.Meets.mono (meets_settle_error hp e) (fun _ h => hkeep₂.trans h.keep)
        fun _ _ h => hkeep₂.trans h.2.keep
    · obtain ⟨-, hunpack, ⟨src', bytes', mode', hstaged⟩, hcontents⟩ := hstage
      have hkeep₂ := hkeep₁.trans (Undisturbed.of_preparing hunpack.preparing).keep
      have harchive : node? w₂.tree L.archivePlace = node? w₁.tree L.archivePlace :=
        onlyIn_entry hunpack.only L.staging_ne_archive.symm
      obtain ⟨T', hcontents, hmirrors⟩ := hcontents hc
      obtain ⟨-, rfl, rfl, rfl⟩ := hholds.unique (hstaged.holds hcontents hmirrors)
      refine Program.Meets.mono (meets_settle hp hstaged ⟨body, fileMode, harchive.trans hfile⟩)
        (fun _ h => hkeep₂.trans h) ?_
      rintro o w' ⟨hsteady, ⟨-, hnew, -⟩ | ⟨-, hslot, -⟩⟩
      · exact hkeep₂.trans ⟨hsteady, .inr (.inr hnew)⟩
      · exact hkeep₂.trans ⟨hsteady, hslot.imp_right .inl⟩

/-- A run waits until its first change, and from there it keeps what two installs keep. -/
theorem patient_runFor {T : Tree Node} {src : Place} {bytes body : Bytes} {mode : Nat} {n' : η}
    (hp : Places S c key version L) (hc : S.Calm)
    (hversion : versionIn? S.cwd c.root t = some version)
    (hserves : Fetch.Serves S.serve (Release.asset c.host version key.naming).url n body n')
    (hholds : Holds key.naming.format body L.binary T src bytes mode) :
    Patient S (Keep L (.file bytes (finalMode key mode)) t) n (runFor c key) := by
  rw [runFor_eq_work]
  refine (looks_findVersion hp hversion).patient_bind ?_
  rintro (outcome | found) hfound
  · trivial
  · obtain rfl : found = version := hfound found rfl
    refine .inr ⟨rfl, fun w hkeep hn => ?_⟩
    have hrelease := (hp.release hkeep.1).trans hversion
    have hwork := meets_work hp hc hrelease (by rwa [hn]) hholds
    exact Program.Meets.mono hwork (fun _ h => hkeep.trans h) fun _ _ h => hkeep.trans h

end Apart

/-- Two installs of one release that take turns in changing files. Whatever else their calls are
interleaved with, a file in the place of the binary is the one from before or the whole binary of
the archive with its mode: nothing half done is ever there. -/
theorem installs_apart {η : Type} (serve : Url → η → Except NoResponse Response × η)
    (c : Side → Config) (root : Path) (key : Key) (m : Memory) (net net' : Side → η)
    (version : String) (body : Bytes) (T : Tree Node) (src : Place) (bytes : Bytes) (mode : Nat)
    (schedule : List Side)
    (hkey : ∀ x, (c x).platform.key? = some key) (hnative : ∀ x, (c x).extractor = .native)
    (hroot : ∀ x, (c x).root = root) (hs : Sound m.tree) (hfaults : m.faults = [])
    (hversion : versionIn? m.cwd root m.tree = some version) (hslash : '/' ∉ version.toList)
    (hserves : ∀ x, Fetch.Serves serve (Release.asset (c x).host version key.naming).url (net x)
      body (net' x))
    (hholds : Holds key.naming.format body (Bytes.ofText key.binary) T src bytes mode)
    (hapart : (Pair.start m (fun x => run (c x)) net).Apart serve schedule) (content : Bytes)
    (mode' : Nat)
    (hfile : node? ((Pair.start m (fun x => run (c x)) net).run serve schedule).memory.tree
      (m.place (Locate.binaryIn root key)) = some (.file content mode')) :
    node? m.tree (m.place (Locate.binaryIn root key)) = some (.file content mode') ∨
      content = bytes ∧ content ≠ [] ∧ (key ≠ .win32X64 → mode' = 0o755) := by
  obtain ⟨L, hL⟩ : ∃ L, L = Layout.ofRelease m.cwd root key version hslash := ⟨_, rfl⟩
  have hp : ∀ x, Places (.ofHost serve m) (c x) key version L := by
    intro x
    rw [hL, ← hroot x]
    exact places_ofRelease _ key (hnative x) hslash
  have hslot : m.place (Locate.binaryIn root key) = L.slot := by
    rw [← hroot .left]
    exact (hp .left).binary
  have hname : Bytes.ofText key.binary = L.binary := (hp .left).name.symm
  rw [hname] at hholds
  have hpatient : ∀ x, Patient (.ofHost serve m)
      (Keep L (.file bytes (finalMode key mode)) m.tree) (net x) (run (c x)) := by
    intro x
    rw [run_eq (hkey x)]
    refine patient_runFor (hp x) (Setting.calm_ofHost hfaults) ?_ (hserves x) hholds
    rw [hroot x]
    exact hversion
  have hhosts : (Setting.ofHost serve m).Hosts m := (shows_ofHost serve (net .left) hs).1
  have hstart : Keep L (.file bytes (finalMode key mode)) m.tree m.tree :=
    (Undisturbed.refl L m.tree).keep
  have hgood := (good_start hhosts hstart hpatient).run hapart
  have hend : SlotIn L (.file bytes (finalMode key mode)) m.tree
      ((Pair.start m (fun x => run (c x)) net).run serve schedule).memory.tree := hgood.tree.2
  rw [hslot] at hfile ⊢
  unfold SlotIn at hend
  rw [hfile] at hend
  rcases hend with hsame | hnone | hnew
  · exact .inl hsame.symm
  · cases hnone
  · cases hnew
    exact .inr ⟨rfl, hholds.nonempty, finalMode_of_ne mode⟩

/-! ### Two installs of a small archive -/

namespace Sample

/-- Two installs on the host with the package. -/
def two : Pair Outcome Unit := .start host (fun _ => run linux) fun _ => ()

/-- The tree that the archive unpacks to. -/
def unpacked : Tree Node := ⟨[([Bytes.ofText "comment-checker"], .file [120] 0o644)]⟩

theorem holds_packed : Holds .tarGz packed (Bytes.ofText Key.linuxX64.binary) unpacked [] [120]
    0o644 := by
  have hlisting : Archive.listing .tarGz packed = binaryOnly := by
    show Archive.Tar.listing (Archive.Gzip.decode ⟨packed, none⟩) = binaryOnly
    rw [packed, Archive.Gzip.decode_packs (Archive.Gzip.packs_member length_tarball)]
    exact listing_tarball.1
  refine ⟨?_, ⟨by decide +kernel, .inl rfl⟩, by decide⟩
  rw [Archive.contents?, hlisting]
  decide +kernel

/-- Both look whether the binary is there, then one after the other installs it. -/
def inTurn : List Side :=
  [.left, .right, .left, .right] ++ List.replicate 32 .left ++ List.replicate 32 .right

/-- One is about to move the binary when the other has begun to unpack it again. -/
def overlapping : List Side :=
  List.replicate 27 .left ++ List.replicate 18 .right ++ List.replicate 7 .left

end Sample

/-- Two installs that both found no binary, one after the other. -/
theorem installs_apart_sample :
    node? (Sample.two.run Sample.servePacked Sample.inTurn).memory.tree
        (Sample.host.place (Locate.binaryIn Sample.linux.root .linuxX64)) =
          some (.file [120] 0o755) ∧
      (node? Sample.host.tree (Sample.host.place (Locate.binaryIn Sample.linux.root .linuxX64)) =
          some (.file [120] 0o755) ∨
        ([120] : Bytes) = [120] ∧ ([120] : Bytes) ≠ [] ∧
          (Key.linuxX64 ≠ .win32X64 → 0o755 = 0o755)) := by
  obtain ⟨happart, hfile⟩ : Sample.two.Apart Sample.servePacked Sample.inTurn ∧
      node? (Sample.two.run Sample.servePacked Sample.inTurn).memory.tree
        (Sample.host.place (Locate.binaryIn Sample.linux.root .linuxX64)) =
          some (.file [120] 0o755) := by
    unfold Sample.two run runFor provide unpackAndFinalize stage
    rw [Sample.extractor_run]
    decide +kernel
  unfold Sample.two at happart hfile ⊢
  exact ⟨hfile, installs_apart Sample.servePacked (fun _ => Sample.linux) Sample.linux.root
    .linuxX64 Sample.host (fun _ => ()) (fun _ => ()) "1" Sample.packed Sample.unpacked [] [120]
    0o644 Sample.inTurn (fun _ => rfl) (fun _ => rfl) (fun _ => rfl) Sample.sound_host rfl
    Sample.versionIn?_host (by decide) (fun _ => Sample.serves_packed) Sample.holds_packed happart
    [120] 0o755 hfile⟩

/-- Two installs that do not take turns can leave an empty file that nobody may execute, and one of
them says that it has installed the binary. -/
theorem overlapping_installs_leave_empty :
    node? (Sample.two.run Sample.servePacked Sample.overlapping).memory.tree
        (Sample.host.place (Locate.binaryIn Sample.linux.root .linuxX64)) =
          some (.file [] 0o644) ∧
      ((Sample.two.run Sample.servePacked Sample.overlapping).threads .left).result? =
        some (.installed .linuxX64 (Locate.binaryIn Sample.linux.root .linuxX64)) := by
  unfold Sample.two run runFor provide unpackAndFinalize stage
  rw [Sample.extractor_run]
  decide +kernel

end Provision.Install
