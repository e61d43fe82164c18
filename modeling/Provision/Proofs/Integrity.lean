import Provision.Proofs.Confinement
import Provision.Proofs.GzipMembers
import Provision.Proofs.Phases

/-!
# The place of the binary

Whatever fails and whenever a run is killed, the place of the binary never holds half a file: what
is there is what was there before, or the whole of the binary that was accepted.

* `Install.Accepted` says which staged binary a run accepts.
* `slot_integrity` is about every state between two calls and about the end.
-/

namespace Provision

/-- Does an outcome say that the binary is there? -/
def Outcome.hasBinary : Outcome → Bool
  | .installed .. => true
  | .alreadyInstalled _ => true
  | _ => false

namespace Install

open Memory

variable {η : Type}

/-- The content and the mode of the staged binary that a run accepts: it downloads the archive of a
version, staging that gives a path, and this is the file there. -/
def Accepted (h : Handler (Memory × η)) (c : Config) (key : Key) (s : Memory × η) (bytes : Bytes)
    (mode : Nat) : Prop :=
  ∃ version s₁ staged s₂, (fetchArchive c key).run h s = (.ok version, s₁) ∧
    (stageArchive c key version).run h s₁ = (.ok staged, s₂) ∧
    node? s₂.1.tree (s₂.1.place staged) = some (.file bytes mode)

/-- A file in the place of the binary was there before the run, or is the binary that the run
accepted. -/
def Intact (h : Handler (Memory × η)) (c : Config) (key : Key) (s s' : Memory × η) : Prop :=
  ∀ bytes mode,
    node? s'.1.tree (s.1.place (Locate.binaryIn c.root key)) = some (.file bytes mode) →
    node? s.1.tree (s.1.place (Locate.binaryIn c.root key)) = some (.file bytes mode) ∨
      bytes ≠ [] ∧ (∃ staged, Accepted h c key s bytes staged) ∧
        (key ≠ .win32X64 → mode = 0o755)

/-- A run, perhaps cut short, keeps the place of the binary intact, and if it has come to an
outcome, that says whether the binary is there. -/
def Guards (h : Handler (Memory × η)) (c : Config) (key : Key) (s : Memory × η)
    (r : Option Outcome × (Memory × η)) : Prop :=
  Intact h c key s r.2 ∧ ∀ o, r.1 = some o →
    ((∃ bytes mode,
      node? r.2.1.tree (s.1.place (Locate.binaryIn c.root key)) = some (.file bytes mode)) ↔
        o.hasBinary = true)

section Runs

variable {c : Config} {key : Key} {version : String} {L : Layout}
  {serve : Url → η → Except NoResponse Response × η} {m : Memory} {n : η}

/-- Nothing has happened in the place of the binary. -/
theorem guards_of_same {r : Option Outcome × (Memory × η)}
    (hp : Places (.ofHost serve m) c key version L)
    (hsame : node? r.2.1.tree L.slot = node? m.tree L.slot)
    (ho : ∀ o, r.1 = some o → (HasBinary L m.tree ↔ o.hasBinary = true)) :
    Guards (handle serve) c key (m, n) r := by
  have hplace : (m, n).1.place (Locate.binaryIn c.root key) = L.slot := hp.binary
  unfold Guards Intact
  rw [hplace, hsame]
  exact ⟨fun bytes mode hf => .inl hf, ho⟩

/-- The last phase, from the state in which a staged binary was accepted. -/
theorem guards_settle {s₁ s₂ : Memory × η} {w₂ : World η} {staged : Path} {src : Place}
    {bytes : Bytes} {mode : Nat} (hp : Places (.ofHost serve m) c key version L)
    (hfetch : (fetchArchive c key).run (handle serve) (m, n) = (.ok version, s₁))
    (hstage : (stageArchive c key version).run (handle serve) s₁ = (.ok staged, s₂))
    (hshow : (Setting.ofHost serve m).Shows s₂ w₂)
    (hstaged : Staged (stagingPath c key version) L.stagingPlace L.binary w₂.tree staged src bytes
      mode)
    (harchive : ∃ bytes mode, node? w₂.tree L.archivePlace = some (.file bytes mode))
    (hslot : node? w₂.tree L.slot = node? m.tree L.slot) (hnone : ¬ HasBinary L m.tree) (k : Nat) :
    Guards (handle serve) c key (m, n)
      ((settle c key version (.ok staged)).runUpTo (handle serve) k s₂) := by
  have hplace : m.place (Locate.binaryIn c.root key) = L.slot := hp.binary
  have hstagedPlace : s₂.1.place staged = L.stagingPlace ++ (src ++ [L.binary]) := by
    rw [place_eq, hshow.1.cwd, ← hp.staging]
    exact placeIn_of_components hstaged.components
  have haccepted : Accepted (handle serve) c key (m, n) bytes mode := by
    refine ⟨version, s₁, staged, s₂, hfetch, hstage, ?_⟩
    rw [hstagedPlace, hshow.tree]
    exact hstaged.finds.file
  have hmissing : ∀ {t : Tree Node}, (node? t L.slot = node? w₂.tree L.slot ∨
      node? t L.slot = none) → ∀ {bytes mode}, node? t L.slot ≠ some (.file bytes mode) := by
    rintro t (ht | ht) bytes mode hf
    · rw [ht, hslot] at hf
      exact hnone ⟨bytes, mode, hf⟩
    · rw [ht] at hf
      cases hf
  have hfound : ∀ {t : Tree Node} {bytes' mode'},
      node? t L.slot = some (.file bytes (finalMode key mode)) →
      node? t L.slot = some (.file bytes' mode') →
      bytes' ≠ [] ∧ (∃ staged, Accepted (handle serve) c key (m, n) bytes' staged) ∧
        (key ≠ .win32X64 → mode' = 0o755) := by
    intro t bytes' mode' ht hf
    rw [ht] at hf
    cases hf
    exact ⟨hstaged.nonempty, ⟨mode, haccepted⟩, finalMode_of_ne mode⟩
  obtain ⟨w', hshow', hend⟩ := (keeps_ofHost serve m).runUpTo hshow
    (meets_settle hp hstaged harchive) k
  unfold Guards Intact
  rw [show (m, n).1.place (Locate.binaryIn c.root key) = L.slot from hplace, hshow'.tree]
  generalize (settle c key version (.ok staged)).runUpTo (handle serve) k s₂ = r at hend
  obtain ⟨_ | o, s'⟩ := r
  · refine ⟨fun bytes' mode' hf => .inr ?_, by simp⟩
    obtain ⟨-, hsame | hgone | hnew⟩ := hend
    · exact absurd hf (hmissing (.inl hsame))
    · exact absurd hf (hmissing (.inr hgone))
    · exact hfound hnew hf
  · obtain ⟨-, ⟨rfl, hnew, -⟩ | ⟨⟨problem, url, rfl⟩, hold, -⟩⟩ := hend
    · refine ⟨fun bytes' mode' hf => .inr (hfound hnew hf), fun o ho => ?_⟩
      cases ho
      exact ⟨fun _ => rfl, fun _ => ⟨_, _, hnew⟩⟩
    · refine ⟨fun bytes' mode' hf => absurd hf (hmissing hold), fun o ho => ?_⟩
      cases ho
      refine ⟨?_, fun hb => by cases hb⟩
      rintro ⟨bytes', mode', hf⟩
      exact absurd hf (hmissing hold)

/-- The last two phases, from the state in which the archive has been downloaded. -/
theorem guards_stage {s₁ : Memory × η} {w w₁ : World η} {body : Bytes}
    (hp : Places (.ofHost serve m) c key version L) (htree : m.tree = w.tree)
    (hfetch : (fetchArchive c key).run (handle serve) (m, n) = (.ok version, s₁))
    (hshow : (Setting.ofHost serve m).Shows s₁ w₁)
    (hfetched : Fetched (.ofHost serve m) c key version L w body w₁)
    (hnone : ¬ HasBinary L m.tree) (k : Nat) :
    Guards (handle serve) c key (m, n)
      ((stageArchive c key version >>= settle c key version).runUpTo (handle serve) k s₁) := by
  have hslot₁ : node? w₁.tree L.slot = node? m.tree L.slot := by
    rw [htree]
    exact hfetched.undisturbed.slot
  obtain ⟨mode, hfile⟩ := hfetched.archive
  have hmeets := meets_stageArchive hp hfile
  rcases Program.runUpTo_bind (handle serve) (stageArchive c key version) (settle c key version)
      s₁ k with ⟨j, hcut, he⟩ | ⟨j, he⟩
  · obtain ⟨w', hshow', hend⟩ := (keeps_ofHost serve m).runUpTo hshow hmeets j
    rw [hcut] at hend
    rw [he]
    refine guards_of_same hp ?_ (by simp)
    rw [hshow'.tree, (Undisturbed.of_preparing hend).slot, hslot₁]
  · obtain ⟨w₂, hshow₂, hend⟩ := (keeps_ofHost serve m).run hshow hmeets
    rw [he]
    cases hstage : (stageArchive c key version).run (handle serve) s₁ with
    | mk accepted s₂ =>
      rw [hstage] at hshow₂ hend
      cases accepted with
      | error e =>
        obtain ⟨w', hshow', hend'⟩ := (keeps_ofHost serve m).runUpTo hshow₂
          (meets_settle_error hp e) j
        have hslot₂ : node? w₂.tree L.slot = node? w₁.tree L.slot :=
          (Undisturbed.of_preparing hend.1).slot
        dsimp only
        generalize (settle c key version (.error e)).runUpTo (handle serve) j s₂ = r at hshow' hend'
        obtain ⟨_ | o, s'⟩ := r
        · refine guards_of_same hp ?_ (by simp)
          rw [hshow'.tree, hend'.slot, hslot₂, hslot₁]
        · obtain ⟨⟨problem, url, rfl⟩, hend'⟩ := hend'
          refine guards_of_same hp ?_ ?_
          · rw [hshow'.tree, hend'.slot, hslot₂, hslot₁]
          · intro o ho
            cases ho
            exact ⟨fun hb => absurd hb hnone, fun hb => by cases hb⟩
      | ok staged =>
        obtain ⟨-, hun, ⟨src, bytes, mode', hstaged⟩, -⟩ := hend
        have harchive : node? w₂.tree L.archivePlace = node? w₁.tree L.archivePlace :=
          onlyIn_entry hun.only L.staging_ne_archive.symm
        have hslot₂ : node? w₂.tree L.slot = node? w₁.tree L.slot :=
          onlyIn_entry hun.only L.staging_ne_binary.symm
        exact guards_settle hp hfetch hstage hshow₂ hstaged ⟨body, mode, by rw [harchive, hfile]⟩
          (hslot₂.trans hslot₁) hnone j

/-- A run for a key, cut after any number of calls. -/
theorem guards_runFor (hp : Places (.ofHost serve m) c key version L) (hs : Sound m.tree)
    (hversion : ∀ v, versionIn? m.cwd c.root m.tree = some v → v = version) (k : Nat) :
    Guards (handle serve) c key (m, n) ((runFor c key).runUpTo (handle serve) k (m, n)) := by
  have hshow := shows_ofHost serve n hs
  have hmeets := meets_fetchArchive (w := .ofHost m n hs) hp hversion
  rw [runFor_eq]
  rcases Program.runUpTo_bind (handle serve) (fetchArchive c key) _ (m, n) k
    with ⟨j, hcut, he⟩ | ⟨j, he⟩
  · obtain ⟨w', hshow', hend⟩ := (keeps_ofHost serve m).runUpTo hshow hmeets j
    rw [hcut] at hend
    rw [he]
    refine guards_of_same hp ?_ (by simp)
    rw [hshow'.tree]
    exact hend.slot
  · obtain ⟨w₁, hshow₁, hend⟩ := (keeps_ofHost serve m).run hshow hmeets
    rw [he]
    cases hfetch : (fetchArchive c key).run (handle serve) (m, n) with
    | mk fetched s₁ =>
      rw [hfetch] at hshow₁ hend
      cases fetched with
      | error o =>
        have hdone : (pure o : Program Outcome).runUpTo (handle serve) j s₁ = (some o, s₁) := by
          cases j <;> rfl
        dsimp only
        rw [hdone]
        rcases hend with ⟨rfl, hthere, rfl⟩ | ⟨⟨problem, url, rfl⟩, hnone, hun, -⟩
        · refine guards_of_same hp ?_ ?_
          · rw [hshow₁.tree]
            rfl
          · intro o ho
            cases ho
            exact ⟨fun _ => rfl, fun _ => hthere⟩
        · refine guards_of_same hp ?_ ?_
          · rw [hshow₁.tree]
            exact hun.slot
          · intro o ho
            cases ho
            exact ⟨fun hb => absurd hb hnone, fun hb => by cases hb⟩
      | ok v =>
        obtain ⟨rfl, hnone, body, hfetched⟩ := hend
        exact guards_stage hp rfl hfetch hshow₁ hfetched hnone j

/-- Where a run works, when the version of the package has no slash. -/
theorem exists_places (key : Key) (hnative : c.extractor = .native)
    (hversion : ∀ v, versionIn? m.cwd c.root m.tree = some v → '/' ∉ v.toList) :
    ∃ version L, Places (.ofHost serve m) c key version L ∧
      ∀ v, versionIn? m.cwd c.root m.tree = some v → v = version := by
  cases hv : versionIn? m.cwd c.root m.tree with
  | none => exact ⟨"", _, places_ofRelease _ key hnative (by simp), by simp⟩
  | some version =>
    exact ⟨version, _, places_ofRelease _ key hnative (hversion version hv), by simp⟩

variable (serve n) in
/-- A run that comes to its end. -/
theorem guards_run (hkey : c.platform.key? = some key) (hnative : c.extractor = .native)
    (hs : Sound m.tree)
    (hversion : ∀ v, versionIn? m.cwd c.root m.tree = some v → '/' ∉ v.toList) :
    Guards (handle serve) c key (m, n) (some ((run c).run (handle serve) (m, n)).1,
      ((run c).run (handle serve) (m, n)).2) := by
  obtain ⟨version, L, hp, hsame⟩ := exists_places key hnative hversion
  obtain ⟨k, hk⟩ := Program.exists_runUpTo_eq_run (handle serve) (runFor c key) (m, n)
  rw [run_eq hkey, ← hk]
  exact guards_runFor hp hs hsame k

end Runs

/-- The place of the binary at every instant. Whatever the files are, whatever the network answers
and whatever fails, after any number of calls and at the end a file there is the one from before or
the accepted binary. At the end there is one exactly if the outcome says so. -/
theorem slot_integrity (serve : Url → η → Except NoResponse Response × η) (c : Config) (key : Key)
    (m : Memory) (n : η) (hkey : c.platform.key? = some key) (hnative : c.extractor = .native)
    (hs : Sound m.tree)
    (hversion : ∀ v, versionIn? m.cwd c.root m.tree = some v → '/' ∉ v.toList) :
    (∀ k, Intact (handle serve) c key (m, n) ((run c).runUpTo (handle serve) k (m, n)).2) ∧
      Intact (handle serve) c key (m, n) ((run c).run (handle serve) (m, n)).2 ∧
      ((∃ bytes mode, node? ((run c).run (handle serve) (m, n)).2.1.tree
          (m.place (Locate.binaryIn c.root key)) = some (.file bytes mode)) ↔
        ((run c).run (handle serve) (m, n)).1.hasBinary = true) := by
  obtain ⟨version, L, hp, hsame⟩ := exists_places key hnative hversion
  have hguards := guards_runFor (n := n) hp hs hsame
  obtain ⟨k, hk⟩ := Program.exists_runUpTo_eq_run (handle serve) (runFor c key) (m, n)
  have hend := hguards k
  rw [hk] at hend
  rw [run_eq hkey]
  exact ⟨fun j => (hguards j).1, hend.1, hend.2 _ rfl⟩

/-! ## Installs of small archives -/

namespace Sample

/-- The manifest of a package at a version. -/
def manifestOf (version : String) : Bytes :=
  Bytes.ofText "\x7b\"version\":\"" ++ Bytes.ofText version ++ Bytes.ofText "\"\x7d"

/-- A host with a package at a version. -/
def packageAt (version : String) : Memory where
  tree := ⟨[([Bytes.ofText "p"], .dir),
    ([Bytes.ofText "p", Bytes.ofText "package.json"], .file (manifestOf version) 0o644)]⟩

/-- A host with a package at version 1. -/
def host : Memory := packageAt "1"

theorem sound_host : Sound host.tree := by decide +kernel

/-! ### For Windows -/

/-- A zip archive with a binary of one byte. -/
def archive : Bytes :=
  [80, 75, 3, 4, 20, 0, 0, 0, 0, 0, 0, 0, 33, 0, 131, 22, 220, 140, 1, 0, 0, 0, 1, 0, 0, 0, 19,
    0, 0, 0, 99, 111, 109, 109, 101, 110, 116, 45, 99, 104, 101, 99, 107, 101, 114, 46, 101, 120,
    101, 120, 80, 75, 1, 2, 20, 3, 20, 0, 0, 0, 0, 0, 0, 0, 33, 0, 131, 22, 220, 140, 1, 0, 0, 0,
    1, 0, 0, 0, 19, 0, 0, 0, 0, 0, 0, 0, 0, 0, 0, 0, 128, 1, 0, 0, 0, 0, 99, 111, 109, 109, 101,
    110, 116, 45, 99, 104, 101, 99, 107, 101, 114, 46, 101, 120, 101, 80, 75, 5, 6, 0, 0, 0, 0, 1,
    0, 1, 0, 65, 0, 0, 0, 50, 0, 0, 0, 0, 0]

/-- A network that answers every request with the zip archive. -/
def serve (_ : Url) (n : Unit) : Except NoResponse Response × Unit :=
  (.ok ⟨200, none, [archive], .complete⟩, n)

def config : Config := ⟨.ofText "/p", "http://[::1]", ⟨"win32", "x64"⟩, .native, 1⟩

theorem versionIn?_host : versionIn? host.cwd config.root host.tree = some "1" := by
  decide +kernel

theorem slashFree_host :
    ∀ v, versionIn? host.cwd config.root host.tree = some v → '/' ∉ v.toList := by
  intro v hv
  rw [versionIn?_host] at hv
  cases hv
  decide

/-! ### For Linux -/

/-- A tar archive with a binary of one byte. -/
def tarball : Bytes :=
  Bytes.ofText "comment-checker" ++ List.replicate 85 0 ++ Bytes.ofText "644" ++
    List.replicate 21 0 ++ Bytes.ofText "1" ++ List.replicate 23 0 ++
    Bytes.ofText "003764\x00 0" ++ List.replicate 355 0 ++ 120 :: List.replicate 1023 0

/-- What is in it. -/
def binaryOnly : Archive.Listing :=
  ⟨[⟨some (.ofText "comment-checker"), .file, some 0o644, ⟨[120], none⟩⟩], none⟩

theorem length_tarball : tarball.length ≤ 65535 := by decide +kernel

theorem listing_tarball : Archive.Tar.listing ⟨tarball, .finished, []⟩ = binaryOnly ∧
    Archive.Tar.listing ⟨tarball, .after Archive.Gzip.endOfFile, []⟩ = binaryOnly ∧
    Archive.Tar.listing ⟨tarball, .after Archive.Gzip.badChecksum, []⟩ = binaryOnly := by
  decide +kernel

/-- The bytes of the tar archive that are read, as they are packed. -/
def front : Bytes := Archive.Gzip.Header.plain.bytes ++ Deflate.stored tarball

/-- How that archive is read, without decoding it bit by bit, so that runs can be evaluated. -/
def readFront (s : Stream) : Archive.Listing :=
  if s.fault = none ∧ front.isPrefixOf s.bytes then binaryOnly
  else Archive.Tar.listing (Archive.Gzip.decode s)

theorem listing_decode (s : Stream) :
    Archive.Tar.listing (Archive.Gzip.decode s) = readFront s := by
  unfold readFront
  split_ifs with h
  · obtain ⟨bytes, fault⟩ := s
    obtain ⟨rfl, hprefix⟩ := h
    obtain ⟨rest, rfl⟩ := List.isPrefixOf_iff_prefix.1 hprefix
    obtain ⟨hfinished, hshort, hbad⟩ := listing_tarball
    rw [front, List.append_assoc, Archive.Gzip.decode_stored length_tarball]
    rcases Archive.Gzip.trailerEnd_cases Archive.Gzip.endOfFile tarball rest with he | he | he
    · rw [he, hfinished]
    · rw [he, hshort]
    · rw [he, hbad]
  · rfl

/-- Extraction, with the archive read without decoding it. -/
def extractFront : Extractor → ArchiveFormat → Path → Path → Attempt Report Unit
  | .native, .tarGz, archive, directory =>
    Extract.reading (fun s => .ok (readFront s)) archive directory
  | e, format, archive, directory => e.run format archive directory

theorem extractor_run : Extractor.run = extractFront := by
  funext e format archive directory
  cases e with
  | system os => rfl
  | native =>
    cases format with
    | zip => rfl
    | tarGz =>
      show Extract.tarGz archive directory = Extract.reading _ archive directory
      rw [Extract.tarGz_eq_reading]
      simp only [listing_decode]

/-- The tar archive as it is downloaded. -/
def packed : Bytes := Archive.Gzip.member tarball

/-- A network that answers every request with it. -/
def servePacked (_ : Url) (n : Unit) : Except NoResponse Response × Unit :=
  (.ok ⟨200, none, [packed], .complete⟩, n)

def linux : Config := ⟨.ofText "/p", "http://[::1]", ⟨"linux", "x64"⟩, .native, 1⟩

/-- The tar archive is installed. -/
theorem run_linux : ((run linux).run (handle servePacked) (host, ())).1 =
      .installed .linuxX64 (Locate.binaryIn linux.root .linuxX64) ∧
    node? ((run linux).run (handle servePacked) (host, ())).2.1.tree
      (host.place (Locate.binaryIn linux.root .linuxX64)) = some (.file [120] 0o755) := by
  unfold run runFor provide unpackAndFinalize stage
  rw [extractor_run]
  decide +kernel

end Sample

/-- The binary of the tar archive arrives as the accepted one, and its place is intact all along. -/
theorem slot_integrity_sample :
    node? ((run Sample.linux).run (handle Sample.servePacked) (Sample.host, ())).2.1.tree
        (Sample.host.place (Locate.binaryIn Sample.linux.root .linuxX64)) =
          some (.file [120] 0o755) ∧
      (∃ staged, Accepted (handle Sample.servePacked) Sample.linux .linuxX64 (Sample.host, ()) [120]
        staged) ∧
      ∀ k, Intact (handle Sample.servePacked) Sample.linux .linuxX64 (Sample.host, ())
        ((run Sample.linux).runUpTo (handle Sample.servePacked) k (Sample.host, ())).2 := by
  obtain ⟨hcut, hend, -⟩ := slot_integrity Sample.servePacked Sample.linux .linuxX64 Sample.host ()
    rfl rfl Sample.sound_host Sample.slashFree_host
  have hfile := Sample.run_linux.2
  have hbefore : node? Sample.host.tree
      (Sample.host.place (Locate.binaryIn Sample.linux.root .linuxX64)) = none := by
    decide +kernel
  rcases hend [120] 0o755 hfile with hold | ⟨-, haccepted, -⟩
  · exact absurd (hbefore.symm.trans hold) (by simp)
  · exact ⟨hfile, haccepted, hcut⟩

end Install

end Provision
