import Mathlib.Data.List.TakeWhile
import Mathlib.Logic.ExistsUnique
import Provision.Release

/-!
# Names of platforms and releases

A platform is written as `OS-ARCH` and a release archive is named after the version and the
platform. Neither text loses anything: what it was made from can be read off it.

* `Platform.WrittenAs` says that a platform is a text cut at its last dash. `parse?_eq_some_iff`:
  this is what reading a platform finds.
* `Platform.parse?_iff_writtenAs` is the result for all texts, with the names of keys among them.
* `Release.ending` is what the name of an archive says after the version. No ending of a key is the
  end of another one (`ending_suffix`), so that a version may be any text.
* `Release.asset_identifies` is the result for archives and their addresses.
-/

namespace Provision

/-! ## Cutting at the last dash -/

namespace Platform

variable {cs front back : List Char}

theorem splitLastDash_append (h : '-' ∉ back) :
    splitLastDash (front ++ '-' :: back) = some (front, back) := by
  have hback : ∀ c ∈ back.reverse, decide (c ≠ '-') = true := by
    intro c hc
    rw [decide_eq_true_eq]
    rintro rfl
    exact h (List.mem_reverse.1 hc)
  have hreverse : (front ++ '-' :: back).reverse = back.reverse ++ '-' :: front.reverse := by simp
  rw [splitLastDash, hreverse, List.dropWhile_append_of_pos hback,
    List.takeWhile_append_of_pos hback]
  simp

theorem splitLastDash_eq_some_iff :
    splitLastDash cs = some (front, back) ↔ cs = front ++ '-' :: back ∧ '-' ∉ back := by
  constructor
  · intro h
    -- what is kept from the end has no dash, and what follows it begins with one
    have hsplit := List.takeWhile_append_dropWhile (p := (· ≠ '-')) (l := cs.reverse)
    have hnone : '-' ∉ cs.reverse.takeWhile (· ≠ '-') := by
      intro hm
      have := List.mem_takeWhile_imp hm
      simp at this
    dsimp only [splitLastDash] at h
    split at h
    · cases h
    · next c rest hdrop =>
      have hc : c = '-' := by
        have hhead := List.head?_dropWhile_not (· ≠ '-') cs.reverse
        rw [hdrop] at hhead
        simpa using hhead
      obtain ⟨rfl, rfl⟩ := Prod.mk.inj (Option.some.inj h)
      subst hc
      constructor
      · rw [hdrop] at hsplit
        rw [← List.reverse_inj, List.reverse_append, List.reverse_cons, List.reverse_reverse,
          List.reverse_reverse, List.append_assoc]
        exact hsplit.symm
      · rwa [List.mem_reverse]
  · rintro ⟨rfl, h⟩
    exact splitLastDash_append h

/-! ## Platforms as texts -/

/-- The text is that of the platform, neither side of which is empty, and the dash between the two
is the last one. -/
structure WrittenAs (p : Platform) (s : String) : Prop where
  text_eq : p.text = s
  os_ne_empty : p.os ≠ ""
  arch_ne_empty : p.arch ≠ ""
  no_dash : '-' ∉ p.arch.toList

variable {p q : Platform} {s : String}

theorem toList_text (p : Platform) : p.text.toList = p.os.toList ++ '-' :: p.arch.toList := by
  simp [text]

theorem parse?_eq_some_iff : parse? s = some p ↔ p.WrittenAs s := by
  constructor
  · intro h
    unfold parse? at h
    split at h
    · next a as b bs hsplit =>
      obtain ⟨hs, hdash⟩ := splitLastDash_eq_some_iff.1 hsplit
      obtain rfl := Option.some.inj h
      refine ⟨?_, by simp [String.ext_iff], by simp [String.ext_iff], by simpa using hdash⟩
      apply String.toList_inj.1
      rw [toList_text, hs]
      simp
    · cases h
  · rintro ⟨rfl, hos, harch, hdash⟩
    obtain ⟨a, as, ha⟩ := List.exists_cons_of_ne_nil fun h => hos (String.toList_eq_nil_iff.1 h)
    obtain ⟨b, bs, hb⟩ := List.exists_cons_of_ne_nil fun h => harch (String.toList_eq_nil_iff.1 h)
    have hsplit : splitLastDash p.text.toList = some (a :: as, b :: bs) := by
      rw [toList_text, splitLastDash_append hdash, ha, hb]
    rw [parse?, hsplit]
    show some (Platform.mk (String.ofList (a :: as)) (String.ofList (b :: bs))) = some p
    rw [← ha, ← hb, String.ofList_toList, String.ofList_toList]

/-- A text is that of one platform at most. -/
theorem WrittenAs.unique (hp : p.WrittenAs s) (hq : q.WrittenAs s) : p = q :=
  Option.some.inj ((parse?_eq_some_iff.2 hp).symm.trans (parse?_eq_some_iff.2 hq))

end Platform

namespace Key

variable {k : Key} {s : String}

/-- The platform of a key, in Node's words. -/
def platform : Key → Platform
  | .darwinArm64 => ⟨"darwin", "arm64"⟩
  | .darwinX64 => ⟨"darwin", "x64"⟩
  | .linuxArm64 => ⟨"linux", "arm64"⟩
  | .linuxX64 => ⟨"linux", "x64"⟩
  | .win32X64 => ⟨"win32", "x64"⟩

theorem platform_writtenAs (k : Key) : k.platform.WrittenAs k.name := by
  cases k <;> exact ⟨by decide, by decide, by decide, by decide⟩

theorem mem_all (k : Key) : k ∈ all := by
  cases k <;> decide

theorem key?_platform (k : Key) : k.platform.key? = some k := by
  cases k <;> rfl

theorem parse?_eq_some_iff : parse? s = some k ↔ k.name = s := by
  constructor
  · intro h
    simpa using List.find?_some h
  · rintro rfl
    cases k <;> decide

end Key

/-- Reading a platform succeeds exactly on the texts that are an operating system, a dash and an
architecture without a dash, neither of them empty, and there is one way only to see a text so. What
is read is that platform, hence printing it gives the text back, and reading what was printed gives
the platform back. A text that is read as a key is the name of this key, and it is read as a
platform that has this key as well. -/
theorem Platform.parse?_iff_writtenAs (s : String) :
    ((parse? s).isSome ↔
        ∃ os arch : String, s = os ++ "-" ++ arch ∧ os ≠ "" ∧ arch ≠ "" ∧ '-' ∉ arch.toList) ∧
      ((parse? s).isSome ↔ ∃! p : Platform, p.WrittenAs s) ∧
      (∀ p, parse? s = some p ↔ p.WrittenAs s) ∧
      ∀ k, Key.parse? s = some k ↔ k.name = s ∧ ∃ p, parse? s = some p ∧ p.key? = some k := by
  refine ⟨?_, ?_, fun p => parse?_eq_some_iff, fun k => ?_⟩
  · rw [Option.isSome_iff_exists]
    constructor
    · rintro ⟨p, hp⟩
      have h := parse?_eq_some_iff.1 hp
      exact ⟨p.os, p.arch, h.text_eq.symm, h.os_ne_empty, h.arch_ne_empty, h.no_dash⟩
    · rintro ⟨os, arch, hs, hos, harch, hdash⟩
      exact ⟨⟨os, arch⟩, parse?_eq_some_iff.2 ⟨hs.symm, hos, harch, hdash⟩⟩
  · rw [Option.isSome_iff_exists]
    constructor
    · rintro ⟨p, hp⟩
      have h := parse?_eq_some_iff.1 hp
      exact ⟨p, h, fun q hq => hq.unique h⟩
    · rintro ⟨p, hp, -⟩
      exact ⟨p, parse?_eq_some_iff.2 hp⟩
  · rw [Key.parse?_eq_some_iff]
    constructor
    · rintro rfl
      exact ⟨rfl, k.platform, parse?_eq_some_iff.2 k.platform_writtenAs, k.key?_platform⟩
    · exact And.left

example : Platform.parse? "linux-musl-arm64" = some ⟨"linux-musl", "arm64"⟩ := by decide +kernel

/-! ## Names and addresses of archives -/

namespace Release

/-- What the name of an archive says before the version. -/
def opening : String := "comment-checker_v"

/-- What the name of an archive says after the version. -/
def ending (n : Naming) : String := "_" ++ n.os ++ "_" ++ n.arch ++ "." ++ n.format.extension

/-- What an address says between the list of releases and the version. -/
def folder : String := "/download/v"

variable {v₁ v₂ host : String} {k₁ k₂ : Key}

theorem assetName_eq (v : String) (n : Naming) : assetName v n = opening ++ (v ++ ending n) := by
  unfold assetName ending
  simp only [String.append_assoc]
  rfl

/-- No ending is the end of another one. -/
theorem ending_suffix (h : (ending k₁.naming).toList <:+ (ending k₂.naming).toList) : k₁ = k₂ := by
  have hall : ∀ a ∈ Key.all, ∀ b ∈ Key.all,
      (ending a.naming).toList <:+ (ending b.naming).toList → a = b := by decide +kernel
  exact hall k₁ k₁.mem_all k₂ k₂.mem_all h

/-- Whatever stands before an ending, the ending can be told. -/
theorem key_of_append_ending {a b : String}
    (h : a ++ ending k₁.naming = b ++ ending k₂.naming) : k₁ = k₂ := by
  have hlist : a.toList ++ (ending k₁.naming).toList = b.toList ++ (ending k₂.naming).toList := by
    rw [← String.toList_append, h, String.toList_append]
  have h₁ : (ending k₁.naming).toList <:+ b.toList ++ (ending k₂.naming).toList := ⟨_, hlist⟩
  have h₂ : (ending k₂.naming).toList <:+ b.toList ++ (ending k₂.naming).toList := ⟨_, rfl⟩
  rcases Nat.le_total (ending k₁.naming).toList.length (ending k₂.naming).toList.length with
    hlen | hlen
  · exact ending_suffix (List.suffix_of_suffix_length_le h₁ h₂ hlen)
  · exact (ending_suffix (List.suffix_of_suffix_length_le h₂ h₁ hlen)).symm

theorem assetName_inj : assetName v₁ k₁.naming = assetName v₂ k₂.naming ↔ v₁ = v₂ ∧ k₁ = k₂ := by
  constructor
  · intro h
    rw [assetName_eq, assetName_eq, String.append_right_inj] at h
    obtain rfl := key_of_append_ending h
    exact ⟨(String.append_left_inj _).1 h, rfl⟩
  · rintro ⟨rfl, rfl⟩
    rfl

theorem url_eq (host v : String) (n : Naming) :
    (asset host v n).url = indexUrl host ++ folder ++ (v ++ ("/" ++ opening) ++ v ++ ending n) := by
  unfold asset
  simp only [assetName_eq, String.append_assoc]
  rfl

/-- A text that is put twice around another one is determined by the whole: its length is. -/
theorem eq_of_doubled {a b c : String} (h : a ++ c ++ a = b ++ c ++ b) : a = b := by
  have hlist : a.toList ++ (c.toList ++ a.toList) = b.toList ++ (c.toList ++ b.toList) := by
    have := congrArg String.toList h
    simpa only [String.toList_append, List.append_assoc] using this
  have hlen := congrArg List.length hlist
  simp only [List.length_append] at hlen
  exact String.toList_inj.1 (List.append_inj_left hlist (by omega))

theorem url_inj : (asset host v₁ k₁.naming).url = (asset host v₂ k₂.naming).url ↔
    v₁ = v₂ ∧ k₁ = k₂ := by
  constructor
  · intro h
    rw [url_eq, url_eq, String.append_right_inj] at h
    obtain rfl := key_of_append_ending h
    exact ⟨eq_of_doubled ((String.append_left_inj _).1 h), rfl⟩
  · rintro ⟨rfl, rfl⟩
    rfl

/-- Slashes at the end of a host do not count. -/
theorem trimHost_append (host : String) (n : Nat) :
    trimHost (host ++ String.ofList (List.replicate n '/')) = trimHost host := by
  have hslashes : ∀ c ∈ List.replicate n '/', (c == '/') = true := by simp
  rw [trimHost, trimHost, String.toList_append, String.toList_ofList, List.reverse_append,
    List.reverse_replicate, List.dropWhile_append_of_pos hslashes]

theorem indexUrl_append (host : String) (n : Nat) :
    indexUrl (host ++ String.ofList (List.replicate n '/')) = indexUrl host := by
  rw [indexUrl, indexUrl, trimHost_append]

/-- On one host, the name of an archive and its address each determine the version and the key,
whatever texts the versions are. The address ends with a slash and the name. Slashes at the end of
the host change no archive, no release page and no list of releases. -/
theorem asset_identifies (host v₁ v₂ : String) (k₁ k₂ : Key) :
    ((asset host v₁ k₁.naming).name = (asset host v₂ k₂.naming).name ↔ v₁ = v₂ ∧ k₁ = k₂) ∧
      ((asset host v₁ k₁.naming).url = (asset host v₂ k₂.naming).url ↔ v₁ = v₂ ∧ k₁ = k₂) ∧
      (∃ above, (asset host v₁ k₁.naming).url = above ++ "/" ++ (asset host v₁ k₁.naming).name) ∧
      ∀ n, let slashes := String.ofList (List.replicate n '/')
        asset (host ++ slashes) = asset host ∧ pageUrl (host ++ slashes) = pageUrl host ∧
          indexUrl (host ++ slashes) = indexUrl host := by
  refine ⟨assetName_inj, url_inj, ⟨indexUrl host ++ "/download/v" ++ v₁, rfl⟩, fun n => ?_⟩
  refine ⟨?_, ?_, indexUrl_append host n⟩
  · funext v naming
    rw [asset, asset, indexUrl_append]
  · funext v
    rw [pageUrl, pageUrl, indexUrl_append]

end Release

end Provision
