import Provision.Install
import Provision.Proofs.Paths

/-!
# Where an install works

An install puts three things into the `bin` directory of a package: the downloaded archive, the
staging directory for its contents and the binary. Their names are ordinary and differ from each
other, provided that the version of the release has no slash.

* `Install.Layout` holds the place of the package and the three names; `Layout.ofRelease` is the one
  that a release has.
* `place_binDir`, `place_binaryIn` and `place_manifest` place the paths that an install uses.
-/

namespace Provision

/-! ## The bytes of a text -/

namespace Bytes

theorem ofText_eq_flatMap (s : String) : ofText s = s.toList.flatMap String.utf8EncodeChar := by
  rw [ofText, String.toUTF8_eq_toByteArray, ← String.utf8Encode_toList, List.utf8Encode]
  simp

theorem ofText_append (s t : String) : ofText (s ++ t) = ofText s ++ ofText t := by
  simp only [ofText_eq_flatMap, String.toList_append, List.flatMap_append]

/-- The bytes of a character are itself or above ASCII. -/
theorem toNat_of_mem_utf8EncodeChar {c : Char} {b : UInt8} (h : b ∈ String.utf8EncodeChar c) :
    b.toNat = c.toNat ∨ 0x80 ≤ b.toNat := by
  have hbyte {n : Nat} (hn : n < 256) : (UInt8.ofNat n).toNat = n := by simp [Nat.mod_eq_of_lt hn]
  show b.toNat = c.val.toNat ∨ _
  unfold String.utf8EncodeChar at h
  generalize c.val.toNat = v at h
  dsimp only at h
  split_ifs at h <;> simp only [List.mem_cons, List.not_mem_nil, or_false] at h
  · rw [h, hbyte (by omega)]
    exact .inl rfl
  -- every byte of a longer encoding is at least 128
  all_goals
    right
    rcases h with rfl | rfl | rfl | rfl <;> rw [hbyte] <;> omega

/-- Only the slash itself is encoded with the byte of a slash. -/
theorem slash_not_mem_utf8EncodeChar {c : Char} (h : c ≠ '/') :
    Path.slash ∉ String.utf8EncodeChar c := by
  intro hm
  rcases toNat_of_mem_utf8EncodeChar hm with hc | hbig
  · exact h (Char.toNat_inj.1 hc.symm)
  · exact absurd hbig (by decide)

theorem slash_not_mem_ofText {s : String} (h : '/' ∉ s.toList) : Path.slash ∉ ofText s := by
  rw [ofText_eq_flatMap]
  intro hm
  obtain ⟨c, hc, hb⟩ := List.mem_flatMap.1 hm
  refine slash_not_mem_utf8EncodeChar ?_ hb
  rintro rfl
  exact h hc

end Bytes

theorem Path.isName_of_length {part : Bytes} (hlen : 2 < part.length) (hs : slash ∉ part) :
    IsName part where
  ne_nil h := by simp [h] at hlen
  ne_dot h := by simp [h, dot] at hlen
  ne_dotDot h := by simp [h, dotDot] at hlen
  noSlash := hs

namespace Install

open Provision.Path (IsName)

/-- The place of a package and the names of what an install puts into its `bin` directory. -/
structure Layout where
  root : Place
  binary : Bytes
  archive : Bytes
  staging : Bytes
  isName_binary : IsName binary
  isName_archive : IsName archive
  isName_staging : IsName staging
  archive_ne_binary : archive ≠ binary
  staging_ne_binary : staging ≠ binary
  staging_ne_archive : staging ≠ archive

namespace Layout

variable (L : Layout)

/-- The directory of the binary. -/
def bin : Place := L.root ++ [Bytes.ofText "bin"]

/-- The manifest of the package. -/
def manifest : Place := L.root ++ [Bytes.ofText Manifest.fileName]

/-- Where the binary goes. -/
def slot : Place := L.bin ++ [L.binary]

/-- Where the archive is downloaded to. -/
def archivePlace : Place := L.bin ++ [L.archive]

/-- Where the archive is unpacked. -/
def stagingPlace : Place := L.bin ++ [L.staging]

theorem bin_ne_nil : L.bin ≠ [] := by simp [bin]

theorem archivePlace_ne_nil : L.archivePlace ≠ [] := by simp [archivePlace]

theorem stagingPlace_ne_nil : L.stagingPlace ≠ [] := by simp [stagingPlace]

theorem slot_ne_nil : L.slot ≠ [] := by simp [slot]

end Layout

/-! ## The names of a release -/

theorem isName_bin : IsName (Bytes.ofText "bin") :=
  Path.isName_of_length (by decide) (by decide)

theorem isName_manifest : IsName (Bytes.ofText Manifest.fileName) :=
  Path.isName_of_length (by decide) (by decide)

theorem isName_binary (key : Key) : IsName (Bytes.ofText key.binary) := by
  cases key <;> exact Path.isName_of_length (by decide) (by decide)

section Names

variable {version : String} {n : Naming}

theorem ofText_assetName (version : String) (n : Naming) :
    Bytes.ofText (Release.assetName version n) =
      Bytes.ofText "comment-checker_v" ++ (Bytes.ofText version ++ (Bytes.ofText "_" ++
        (Bytes.ofText n.os ++ (Bytes.ofText "_" ++ (Bytes.ofText n.arch ++
          (Bytes.ofText "." ++ Bytes.ofText n.format.extension)))))) := by
  unfold Release.assetName
  rw [Bytes.ofText_append, Bytes.ofText_append, Bytes.ofText_append, Bytes.ofText_append,
    Bytes.ofText_append, Bytes.ofText_append, Bytes.ofText_append]
  rw [List.append_assoc, List.append_assoc, List.append_assoc, List.append_assoc,
    List.append_assoc, List.append_assoc]

theorem isName_assetName (key : Key) (h : '/' ∉ version.toList) :
    IsName (Bytes.ofText (Release.assetName version key.naming)) := by
  rw [ofText_assetName]
  apply Path.isName_of_length
  · have : (Bytes.ofText "comment-checker_v").length = 17 := by decide
    rw [List.length_append]
    omega
  · have hv := Bytes.slash_not_mem_ofText h
    have hrest : Path.slash ∉ Bytes.ofText "_" ++ (Bytes.ofText key.naming.os ++
        (Bytes.ofText "_" ++ (Bytes.ofText key.naming.arch ++ (Bytes.ofText "." ++
          Bytes.ofText key.naming.format.extension)))) := by
      cases key <;> decide
    rw [List.mem_append, List.mem_append]
    rintro (hm | hm | hm)
    · exact absurd hm (by decide)
    · exact hv hm
    · exact hrest hm

theorem assetName_ne_binary (key : Key) :
    Bytes.ofText (Release.assetName version n) ≠ Bytes.ofText key.binary := by
  intro he
  have hpre : Bytes.ofText "comment-checker_v" <+: Bytes.ofText key.binary := by
    rw [← he, ofText_assetName]
    exact List.prefix_append _ _
  revert hpre
  cases key <;> decide

theorem ofText_stagingName (asset : String) :
    Bytes.ofText (stagingName asset) =
      0x2E :: (Bytes.ofText asset ++ Bytes.ofText ".staging") := by
  rw [stagingName, Bytes.ofText_append, Bytes.ofText_append, List.append_assoc]
  rfl

theorem isName_stagingName {asset : String} (h : IsName (Bytes.ofText asset)) :
    IsName (Bytes.ofText (stagingName asset)) := by
  rw [ofText_stagingName]
  apply Path.isName_of_length
  · have : (Bytes.ofText ".staging").length = 8 := by decide
    rw [List.length_cons, List.length_append]
    omega
  · simp only [List.mem_cons, List.mem_append, not_or]
    exact ⟨by decide, h.noSlash, by decide⟩

theorem stagingName_ne_binary (asset : String) (key : Key) :
    Bytes.ofText (stagingName asset) ≠ Bytes.ofText key.binary := by
  intro he
  have hhead : (Bytes.ofText key.binary).head? = some 0x2E := by
    rw [← he, ofText_stagingName]
    rfl
  revert hhead
  cases key <;> decide

theorem stagingName_ne_assetName :
    Bytes.ofText (stagingName (Release.assetName version n)) ≠
      Bytes.ofText (Release.assetName version n) := by
  intro he
  have hlen := congrArg List.length he
  rw [ofText_stagingName, List.length_cons, List.length_append] at hlen
  omega

end Names

/-- The layout of an install of a release. -/
def Layout.ofRelease (cwd root : Path) (key : Key) (version : String)
    (h : '/' ∉ version.toList) : Layout where
  root := Memory.placeIn cwd root
  binary := Bytes.ofText key.binary
  archive := Bytes.ofText (Release.assetName version key.naming)
  staging := Bytes.ofText (stagingName (Release.assetName version key.naming))
  isName_binary := Install.isName_binary key
  isName_archive := isName_assetName key h
  isName_staging := isName_stagingName (isName_assetName key h)
  archive_ne_binary := assetName_ne_binary key
  staging_ne_binary := stagingName_ne_binary _ key
  staging_ne_archive := stagingName_ne_assetName

/-! ## The places of the paths -/

section Places

variable (cwd root : Path)

theorem place_entry (p : Path) {name : String} (h : IsName (Bytes.ofText name)) :
    Memory.placeIn cwd (p.entry name) = Memory.placeIn cwd p ++ [Bytes.ofText name] :=
  Memory.placeIn_child cwd p h

theorem place_binDir : Memory.placeIn cwd (Locate.binDir root) =
    Memory.placeIn cwd root ++ [Bytes.ofText "bin"] := place_entry cwd root isName_bin

theorem place_manifest : Memory.placeIn cwd (Manifest.pathIn root) =
    Memory.placeIn cwd root ++ [Bytes.ofText Manifest.fileName] :=
  place_entry cwd root isName_manifest

theorem place_binaryIn (key : Key) : Memory.placeIn cwd (Locate.binaryIn root key) =
    Memory.placeIn cwd root ++ [Bytes.ofText "bin", Bytes.ofText key.binary] := by
  rw [Locate.binaryIn, place_entry cwd _ (isName_binary key), place_binDir, List.append_assoc]
  rfl

end Places

end Install

end Provision
