import Provision.Proofs.Confinement
import Provision.Proofs.GzipMembers
import Provision.Proofs.Tarballs

/-!
# What an extraction comes to

Without injected failures an extraction applies the entries of its archive in order to what is below
its directory, whatever has been there. It fails exactly if one of them clashes with what is there
at its turn, and then leaves what the entries before that one come to.

* `Memory.meets_listed` follows an extraction whose archive has given entries.
* `Extract.extraction_meaning` says what an extraction comes to.
-/

namespace Provision

open Archive (Entry Nodes Clash NoClash Readable applyAll nodeAfter layEntry layEntries)
open Memory (Node Sound node? handle)

namespace Memory

variable {η : Type} {S : Setting η} {w : World η} {d : Place} {t u : Tree Node}

/-- Extracting an archive with given entries, none of which has to fail to be read. -/
theorem meets_listed {read : Stream → Except Report Archive.Listing} {archive dir : Path}
    {body : Bytes} {mode : Nat} {entries : List Entry} (hd : S.place dir = d)
    (ha : node? w.tree (S.place archive) = some (.file body mode))
    (hentries : read ⟨body, none⟩ = .ok ⟨entries, none⟩) (h : Unpacking d t w.tree)
    (hm : S.Calm → Mirrors d w.tree u) :
    Attempt.Meets S.Step (fun w => Unpacking d t w.tree)
      (fun _ w' => Unpacking d t w'.tree ∧ S.Lays d (layEntries u entries) w')
      (fun _ w' => Unpacking d t w'.tree ∧ (S.Calm → Stopped d u entries w'.tree))
      (Extract.reading read archive dir) w := by
  unfold Extract.reading
  refine Attempt.meets_bind (Attempt.Meets.mono (meets_openArchive h ha) (fun _ hw => hw) ?_ ?_)
  · rintro s w' ⟨rfl, hs⟩
    have hread : S.Calm → read s = .ok ⟨entries, none⟩ := by
      intro hc
      rw [hs hc, hentries]
    refine Attempt.meets_bind (Attempt.meets_ofProgram (Program.meets_pure ?_))
    cases hresult : read s with
    | error e =>
      refine ⟨h, fun hc => ?_⟩
      rw [hread hc] at hresult
      cases hresult
    | ok l =>
      have hl : S.Calm → l = ⟨entries, none⟩ := by
        intro hc
        rw [hread hc] at hresult
        exact (Except.ok.inj hresult).symm
      refine Attempt.meets_bind (Attempt.meets_bind (Attempt.Meets.mono
        (meets_unpackEntries l.entries hd h hm) (fun _ hw => hw) ?_ ?_))
      · rintro _ w'' ⟨h'', u'', hlays⟩
        cases hfailure : l.failure with
        | some report =>
          refine Attempt.meets_throw ⟨h'', fun hc => ?_⟩
          rw [hl hc] at hfailure
          cases hfailure
        | none =>
          refine Attempt.meets_pure (Attempt.meets_lift (meets_log h'' ⟨h'', u'', ?_⟩ _ _))
          intro hc
          rw [hl hc] at hlays
          exact hlays hc
      · rintro e w'' ⟨h'', hstopped⟩
        refine ⟨h'', fun hc => ?_⟩
        rw [hl hc] at hstopped
        exact hstopped hc
  · rintro e w' ⟨rfl, hno⟩
    exact ⟨h, fun hc => absurd hc hno⟩

/-- Where unpacking has stopped, an entry clashes with what those before it come to, which is what
is there. -/
theorem Stopped.clash {entries : List Entry} (h : Stopped d u entries t)
    (hread : Readable entries) :
    ∃ before e after, entries = before ++ e :: after ∧ NoClash (node? u) before ∧
      Clash (applyAll (node? u) before) e ∧
      ∀ q, node? t (d ++ q) = applyAll (node? u) before q := by
  obtain ⟨before, e, after, u', rfl, hbefore, he, hmirror⟩ := h
  have hread' : Readable before := fun e' he' => hread e' (List.mem_append_left _ he')
  rcases Archive.layEntries_cases u hread' with ⟨hnone, -⟩ | ⟨u₁, hu₁, hfree, hview⟩
  · rw [hbefore] at hnone
    cases hnone
  · obtain rfl : u₁ = u' := Option.some.inj (hu₁.symm.trans hbefore)
    have hmem : e ∈ before ++ e :: after := List.mem_append_right _ List.mem_cons_self
    rcases Archive.layEntry_cases u₁ (hread e hmem) with ⟨-, hclash⟩ | ⟨u₂, hu₂, -, -⟩
    · rw [hview] at hclash
      refine ⟨before, e, after, rfl, hfree, hclash, fun q => ?_⟩
      rw [← hview]
      refine hmirror (fun hkind => hread e hmem hkind ?_) q
      cases htarget : e.target? with
      | some p => rfl
      | none => exact absurd hclash (Archive.not_clash_of_passed htarget)
    · rw [he] at hu₂
      cases hu₂

end Memory

namespace Extract

open Memory

variable {η : Type}

/-- What is below a directory. -/
def nodesBelow (t : Tree Node) (d : Place) : Nodes := fun q => node? t (d ++ q)

/-- An extraction comes to what the entries of its archive mean: it fails exactly if an entry
clashes with what those before it come to, and then leaves this; and otherwise it leaves what all
entries come to, which can be said place by place. Outside of its directory nothing changes. -/
structure Means (serve : Url → η → Except NoResponse Response × η) (m : Memory) (n : η)
    (directory : Path) (entries : List Entry) (extraction : Attempt Report Unit) : Prop where
  fails_iff : (∃ report, (extraction.run.run (handle serve) (m, n)).1 = .error report) ↔
    ∃ before e after, entries = before ++ e :: after ∧
      NoClash (nodesBelow m.tree (m.place directory)) before ∧
      Clash (applyAll (nodesBelow m.tree (m.place directory)) before) e
  of_clash : ∀ before e after, entries = before ++ e :: after →
    NoClash (nodesBelow m.tree (m.place directory)) before →
    Clash (applyAll (nodesBelow m.tree (m.place directory)) before) e →
    nodesBelow (extraction.run.run (handle serve) (m, n)).2.1.tree (m.place directory) =
      applyAll (nodesBelow m.tree (m.place directory)) before
  of_ok : (extraction.run.run (handle serve) (m, n)).1 = .ok () →
    nodesBelow (extraction.run.run (handle serve) (m, n)).2.1.tree (m.place directory) =
        applyAll (nodesBelow m.tree (m.place directory)) entries ∧
      nodesBelow (extraction.run.run (handle serve) (m, n)).2.1.tree (m.place directory) =
        nodeAfter (nodesBelow m.tree (m.place directory)) entries
  beside : ∀ q, ¬ m.place directory <+: q →
    node? (extraction.run.run (handle serve) (m, n)).2.1.tree q = node? m.tree q

theorem nodesBelow_branch {t : Tree Node} {d : Place} (hd : node? t d = some .dir) :
    node? ⟨t.branch d⟩ = nodesBelow t d :=
  funext fun q => (mirrors_branch hd q).symm

/-- Extraction of given entries, whatever they are read from. -/
theorem means_reading {serve : Url → η → Except NoResponse Response × η} {m : Memory} {n : η}
    {archive directory : Path} {body : Bytes} {mode : Nat} {entries : List Entry}
    {read : Stream → Except Report Archive.Listing} (hs : Sound m.tree) (hfaults : m.faults = [])
    (hdir : node? m.tree (m.place directory) = some .dir)
    (harchive : node? m.tree (m.place archive) = some (.file body mode))
    (hentries : read ⟨body, none⟩ = .ok ⟨entries, none⟩) (hread : Readable entries) :
    Means serve m n directory entries (reading read archive directory) := by
  have hcalm : (Setting.ofHost serve m).Calm := Setting.calm_ofHost hfaults
  have hmeets := meets_listed (S := .ofHost serve m) (w := .ofHost m n hs) rfl harchive hentries
    ⟨.refl _ _, hdir⟩ fun _ => mirrors_branch hdir
  obtain ⟨w', hshow, hend⟩ := (keeps_ofHost serve m).run (shows_ofHost serve n hs) hmeets
  have hbelow := nodesBelow_branch hdir
  cases hrun : ((reading read archive directory).run.run (handle serve) (m, n)).1 with
  | ok value =>
    rw [hrun] at hend
    obtain ⟨hunpacking, u', hlays⟩ := hend
    obtain ⟨hu', hmirror⟩ := hlays hcalm
    obtain ⟨hfree, hview⟩ : NoClash (nodesBelow m.tree (m.place directory)) entries ∧
        node? u' = applyAll (nodesBelow m.tree (m.place directory)) entries := by
      rw [← hbelow]
      rcases Archive.layEntries_cases ⟨m.tree.branch (m.place directory)⟩ hread with
        ⟨hnone, -⟩ | ⟨u₁, hu₁, hfree, hview⟩
      · exact absurd (hu'.symm.trans hnone) (by simp)
      · obtain rfl : u₁ = u' := Option.some.inj (hu₁.symm.trans hu')
        exact ⟨hfree, hview⟩
    have hafter : nodesBelow ((reading read archive directory).run.run (handle serve)
        (m, n)).2.1.tree (m.place directory) =
          applyAll (nodesBelow m.tree (m.place directory)) entries := by
      rw [← hview, hshow.tree]
      exact funext hmirror
    refine ⟨⟨?_, ?_⟩, ?_, fun _ => ⟨hafter, ?_⟩, fun q hq => ?_⟩
    · rintro ⟨report, hreport⟩
      rw [hrun] at hreport
      cases hreport
    · rintro ⟨before, e, after, hsplit, -, hclash⟩
      exact absurd hclash (hfree before e after hsplit)
    · intro before e after hsplit _ hclash
      exact absurd hclash (hfree before e after hsplit)
    · rw [hafter, Archive.applyAll_eq hfree]
    · rw [hshow.tree]
      exact hunpacking.only q hq
  | error report =>
    rw [hrun] at hend
    obtain ⟨hunpacking, hstopped⟩ := hend
    have hstop : Stopped (m.place directory) ⟨m.tree.branch (m.place directory)⟩ entries w'.tree :=
      hstopped hcalm
    obtain ⟨before, e, after, hsplit, hfree, hclash, hview⟩ := hstop.clash hread
    rw [hbelow] at hfree hclash hview
    refine ⟨⟨fun _ => ⟨before, e, after, hsplit, hfree, hclash⟩, fun _ => ⟨report, hrun⟩⟩, ?_,
      fun hok => ?_, fun q hq => ?_⟩
    · intro before' e' after' hsplit' hfree' hclash'
      obtain rfl : before = before' :=
        Archive.first_clash_unique (hsplit.symm.trans hsplit') hfree hclash hfree' hclash'
      rw [hshow.tree]
      exact funext hview
    · rw [hrun] at hok
      cases hok
    · rw [hshow.tree]
      exact hunpacking.only q hq

/-- What an extraction of either format comes to, for an archive that can be read to its end, in a
directory with anything in it. -/
theorem extraction_meaning (serve : Url → η → Except NoResponse Response × η) (m : Memory) (n : η)
    (format : ArchiveFormat) (archive directory : Path) (body : Bytes) (mode : Nat)
    (entries : List Entry) (hs : Sound m.tree) (hfaults : m.faults = [])
    (hdir : node? m.tree (m.place directory) = some .dir)
    (harchive : node? m.tree (m.place archive) = some (.file body mode))
    (hlisting : Archive.listing format body = ⟨entries, none⟩) (hread : Readable entries) :
    Means serve m n directory entries (Extractor.native.run format archive directory) := by
  cases format with
  | tarGz =>
    rw [Extractor.run, tarGz_eq_reading]
    exact means_reading hs hfaults hdir harchive (congrArg Except.ok hlisting) hread
  | zip =>
    rw [Extractor.run, zip_eq_reading]
    exact means_reading hs hfaults hdir harchive (congrArg Except.ok hlisting) hread

namespace Clashing

open Archive (PackedFile)

def x : Bytes := Bytes.ofText "x"

/-- A file twice, with another between. -/
def files : List PackedFile :=
  [⟨x, [1], 0o755⟩, ⟨Bytes.ofText "a/b", [], 0o644⟩, ⟨x, [2], 0o640⟩]

/-- A file below the one that is there twice. -/
def inside : PackedFile := ⟨Bytes.ofText "x/y", [3], 0o644⟩

/-- A host with an archive of all of them, and a directory that has had a file of the name. -/
def host : Memory where
  tree := ⟨[([Bytes.ofText "t"],
      .file (Archive.Gzip.member (Archive.Tar.pack (files ++ [inside]))) 0o644),
    ([Bytes.ofText "d"], .dir), ([Bytes.ofText "d", x], .file [9] 0o600)]⟩

theorem listing_host : Archive.listing .tarGz
    (Archive.Gzip.member (Archive.Tar.pack (files ++ [inside]))) =
      ⟨(files ++ [inside]).map Archive.Tar.entry, none⟩ := by
  have hlength : (Archive.Tar.pack (files ++ [inside])).length ≤ 65535 := by decide +kernel
  have hlimit : 65535 ≤ Archive.Tar.maxSize := by decide
  rw [Archive.listing, Archive.Gzip.decode_packs (Archive.Gzip.packs_member hlength)]
  exact Archive.Tar.listing_pack (by decide +kernel) (by decide +kernel) (hlength.trans hlimit)

end Clashing

open Clashing in
/-- A file that is there twice has the content and the mode of its last entry. The extraction fails
at the entry that needs a directory in its place. -/
theorem extraction_meaning_sample :
    (∃ report, ((Extractor.native.run .tarGz (.ofText "/t") (.ofText "/d")).run.run
        (handle noNetwork) (host, ())).1 = .error report) ∧
      ∀ q ∈ [[x], [Bytes.ofText "a", Bytes.ofText "b"], [x, Bytes.ofText "y"]],
        node? ((Extractor.native.run .tarGz (.ofText "/t") (.ofText "/d")).run.run
          (handle noNetwork) (host, ())).2.1.tree ([Bytes.ofText "d"] ++ q) =
            if q = [x] then some (.file [2] 0o640)
            else if q = [x, Bytes.ofText "y"] then none else some (.file [] 0o644) := by
  have hread : Readable ((files ++ [inside]).map Archive.Tar.entry) := by
    intro e he _ _
    obtain ⟨f, -, rfl⟩ := List.mem_map.1 he
    rfl
  have hmeans := extraction_meaning noNetwork host () .tarGz (.ofText "/t") (.ofText "/d") _ _ _
    (by decide +kernel) rfl rfl rfl listing_host hread
  have hsplit : (files ++ [inside]).map Archive.Tar.entry =
      files.map Archive.Tar.entry ++ Archive.Tar.entry inside :: [] := by
    rw [List.map_append]
    rfl
  have hfree : NoClash (nodesBelow host.tree (host.place (.ofText "/d")))
      (files.map Archive.Tar.entry) := by
    rw [← nodesBelow_branch rfl]
    exact Archive.noClash_of_isSome (fun e he => hread e (by
      rw [hsplit]
      exact List.mem_append_left _ he)) (by decide +kernel)
  have hclash : Clash (applyAll (nodesBelow host.tree (host.place (.ofText "/d")))
      (files.map Archive.Tar.entry)) (Archive.Tar.entry inside) :=
    .above [x, Bytes.ofText "y"] [x] (by decide +kernel) (by decide +kernel) (by decide +kernel)
      ⟨[2], 0o640, by decide +kernel⟩
  refine ⟨hmeans.fails_iff.2 ⟨_, _, _, hsplit, hfree, hclash⟩, fun q hq => ?_⟩
  refine (congrFun (hmeans.of_clash _ _ _ hsplit hfree hclash) q).trans ?_
  revert q
  decide +kernel

end Extract

end Provision
