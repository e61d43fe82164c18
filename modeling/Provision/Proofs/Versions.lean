import Provision.Proofs.Integrity

/-!
# Versions as parts of file names

The version in a manifest is any text that is not blank. It is spliced into the name of the archive
and of the staging directory, which an install creates, writes and removes.

* `releaseVersion_eq_empty_iff`: what is left of a version after trimming is empty only for a blank
  text and for a single `v`; of these, only the `v` is in a manifest that loads.
* `isName_assetName_iff`: the name of an archive is one ordinary name exactly if the version has no
  slash.
* `accepted_version_names` puts the two together for every manifest that loads, and
  `slash_version_leaves_bin` shows where a version with slashes leads.
-/

namespace Provision

/-! ## Names in texts -/

theorem Bytes.slash_mem_ofText {s : String} (h : '/' ∈ s.toList) : Path.slash ∈ ofText s := by
  rw [ofText_eq_flatMap]
  exact List.mem_flatMap.2 ⟨'/', h, by decide⟩

namespace Path

/-- A text is a path of one ordinary component exactly if it is an ordinary name. -/
theorem components_eq_singleton_iff {part : Bytes} :
    (⟨part⟩ : Path).components = [.normal part] ↔ IsName part := by
  constructor
  · intro h
    exact Memory.isName_of_normal_mem (p := ⟨part⟩) (by rw [h]; exact List.mem_cons_self ..)
  · intro h
    have hnames : ∀ n ∈ [part], IsName n := by simpa using h
    exact components_ofNames (List.cons_ne_nil _ _) hnames

end Path

/-! ## Accepted manifests -/

namespace Manifest

variable {σ : Type} {path : Path} {text : String} {m : Manifest}

theorem hasVersion_of_ofFile (h : ofFile path text = .ok m) : m.hasVersion = true := by
  unfold ofFile at h
  split at h
  · cases h
  · split at h
    · cases h
      assumption
    · cases h

/-- A manifest that loads has a version. -/
theorem hasVersion_of_load {h : Handler σ} {s : σ} (hload : ((load path).run.run h s).1 = .ok m) :
    m.hasVersion = true := by
  rw [run_load] at hload
  split at hload
  · exact hasVersion_of_ofFile hload
  · cases hload

/-- A version gives no text exactly if it is blank or a `v` among blanks. -/
theorem releaseVersion_eq_empty_iff :
    m.releaseVersion = "" ↔ Text.trim m.version = "" ∨ Text.trim m.version = "v" := by
  unfold releaseVersion Text.trim
  rcases Text.trimChars m.version.toList with _ | ⟨c, cs⟩
  · simp
  · by_cases hc : c = 'v'
    · subst hc
      simp [String.ext_iff]
    · simp [String.ext_iff, hc]

/-- The version of a manifest that loads gives no text exactly if it is a `v` among blanks. -/
theorem releaseVersion_eq_empty_iff_of_load {h : Handler σ} {s : σ}
    (hload : ((load path).run.run h s).1 = .ok m) :
    m.releaseVersion = "" ↔ Text.trim m.version = "v" := by
  have hversion : (Text.trim m.version).isEmpty = false := by
    simpa [hasVersion] using hasVersion_of_load hload
  rw [releaseVersion_eq_empty_iff, or_iff_right]
  intro hblank
  simp [hblank] at hversion

/-- A manifest with a bare `v` does load. -/
example : ((load (.ofText "/p/package.json")).run.run (Memory.handle noNetwork)
      (Install.Sample.packageAt "v", ())).1 = .ok ⟨none, "v"⟩ ∧
    (⟨none, "v"⟩ : Manifest).releaseVersion = "" := by
  decide +kernel

end Manifest

namespace Install

open Provision.Path (IsName)

/-! ## Names of archives and staging directories -/

section Names

variable {version : String}

/-- The name of an archive is ordinary exactly if the version has no slash. -/
theorem isName_assetName_iff (key : Key) :
    IsName (Bytes.ofText (Release.assetName version key.naming)) ↔ '/' ∉ version.toList := by
  refine ⟨fun h hs => h.noSlash ?_, isName_assetName key⟩
  rw [ofText_assetName]
  exact List.mem_append_right _ (List.mem_append_left _ (Bytes.slash_mem_ofText hs))

/-- So is the name of the staging directory. -/
theorem isName_stagingName_iff (key : Key) :
    IsName (Bytes.ofText (stagingName (Release.assetName version key.naming))) ↔
      '/' ∉ version.toList := by
  refine ⟨fun h hs => h.noSlash ?_, fun h => isName_stagingName (isName_assetName key h)⟩
  rw [ofText_stagingName, ofText_assetName]
  exact List.mem_cons_of_mem _ (List.mem_append_left _
    (List.mem_append_right _ (List.mem_append_left _ (Bytes.slash_mem_ofText hs))))

end Names

/-- Of every manifest that loads, for every key: the version to download is not empty unless the
manifest has a bare `v`. The names of the archive and of the staging directory are single ordinary
components exactly if that version has no slash, and then the two are entries of the `bin`
directory. -/
theorem accepted_version_names {σ : Type} (h : Handler σ) (s : σ) (path : Path) (m : Manifest)
    (key : Key) (hload : ((Manifest.load path).run.run h s).1 = .ok m) :
    (Text.trim m.version ≠ "v" → m.releaseVersion ≠ "") ∧
      ((Path.ofText (Release.assetName m.releaseVersion key.naming)).components =
          [.normal (Bytes.ofText (Release.assetName m.releaseVersion key.naming))] ↔
        '/' ∉ m.releaseVersion.toList) ∧
      ((Path.ofText (stagingName (Release.assetName m.releaseVersion key.naming))).components =
          [.normal (Bytes.ofText (stagingName (Release.assetName m.releaseVersion key.naming)))] ↔
        '/' ∉ m.releaseVersion.toList) ∧
      ('/' ∉ m.releaseVersion.toList → ∀ c : Config,
        (archivePath c key m.releaseVersion).components = (Locate.binDir c.root).components ++
            [.normal (Bytes.ofText (Release.assetName m.releaseVersion key.naming))] ∧
          (stagingPath c key m.releaseVersion).components = (Locate.binDir c.root).components ++
            [.normal (Bytes.ofText (stagingName
              (Release.assetName m.releaseVersion key.naming)))]) := by
  refine ⟨mt (Manifest.releaseVersion_eq_empty_iff_of_load hload).1,
    Path.components_eq_singleton_iff.trans (isName_assetName_iff key),
    Path.components_eq_singleton_iff.trans (isName_stagingName_iff key), fun hs c => ?_⟩
  exact ⟨Path.components_child _ ((isName_assetName_iff key).2 hs),
    Path.components_child _ ((isName_stagingName_iff key).2 hs)⟩

/-- The manifest of the small package, whose version is `1`. -/
theorem accepted_version_names_sample :
    ((Manifest.load (Manifest.pathIn Sample.config.root)).run.run (Memory.handle Sample.serve)
        (Sample.host, ())).1 = .ok ⟨none, "1"⟩ ∧
      (archivePath Sample.config .linuxX64 "1").components =
        (Locate.binDir Sample.config.root).components ++
          [.normal (Bytes.ofText "comment-checker_v1_linux_amd64.tar.gz")] := by
  have hload : ((Manifest.load (Manifest.pathIn Sample.config.root)).run.run
      (Memory.handle Sample.serve) (Sample.host, ())).1 = .ok ⟨none, "1"⟩ := by decide +kernel
  have h := accepted_version_names _ _ _ _ .linuxX64 hload
  have hversion : (⟨none, "1"⟩ : Manifest).releaseVersion = "1" := by decide +kernel
  rw [hversion] at h
  exact ⟨hload, (h.2.2.2 (by decide) Sample.config).1⟩

/-! ## A version that leads out of the directory -/

namespace Sample

/-- The small package with a version that goes two directories up. -/
def climbing : Memory := packageAt "1/../../evil"

end Sample

/-- A manifest with slashes in its version loads. The name of its archive is several components,
and the archive of such a package lies beside its `bin` directory and not in it. -/
theorem slash_version_leaves_bin :
    ((Manifest.loadFrom Sample.config.root).run.run (Memory.handle Sample.serve)
        (Sample.climbing, ())).1 = .ok ⟨none, "1/../../evil"⟩ ∧
      (Path.ofText (Release.assetName (⟨none, "1/../../evil"⟩ : Manifest).releaseVersion
          Key.linuxX64.naming)).components =
        [.normal (Bytes.ofText "comment-checker_v1"), .parent, .parent,
          .normal (Bytes.ofText "evil_linux_amd64.tar.gz")] ∧
      Sample.climbing.place (archivePath Sample.config .linuxX64
          (⟨none, "1/../../evil"⟩ : Manifest).releaseVersion) =
        [Bytes.ofText "p", Bytes.ofText "evil_linux_amd64.tar.gz"] ∧
      Sample.climbing.place (Locate.binDir Sample.config.root) =
        [Bytes.ofText "p", Bytes.ofText "bin"] := by
  decide +kernel

end Install

end Provision
