import Provision.Proofs.Applying
import Provision.Proofs.EntryPaths

/-!
# Packed files

What a list of files comes to when it is packed as an archive and unpacked again, whatever the
format.

* `PackedFile` is a file with its name in the archive; `Packable` says which lists of files can be
  packed in both formats.
* `layout` is the tree of a list of files: the files and the directories above them.
* `layEntries_layout`: entries that stand for the files unpack to that tree.
* `Decoded.whole` is complete data; `Decoded.collect_whole` is about reading it.
-/

namespace Provision.Archive

open Memory (Node node? makeDirs makeFile append changeMode hasDir)

/-- Permissions are the nine lowest bits. -/
theorem permissions_eq_mod (mode : Nat) : permissions mode = mode % 512 := by
  rw [permissions, show 0o777 = 2 ^ 9 - 1 from rfl, Nat.and_two_pow_sub_one_eq_mod]

/-- A file that is to be packed. -/
structure PackedFile where
  name : Bytes
  content : Bytes
  mode : Nat
deriving DecidableEq, Repr

namespace PackedFile

/-- Where the file goes. -/
def place (f : PackedFile) : Place := Bytes.splitOn Path.slash f.name

/-- The name is made of ordinary names in printable or other ASCII, and the mode of permissions. -/
structure Plain (f : PackedFile) : Prop where
  isName : ∀ n ∈ f.place, Path.IsName n
  ascii : ∀ b ∈ f.name, b ≠ 0 ∧ b < 0x80 ∧ b ≠ Zip.Name.backslash
  length_le : f.name.length ≤ 100
  mode_le : f.mode ≤ 0o777

theorem plain_iff {f : PackedFile} : f.Plain ↔ (∀ n ∈ f.place, Path.IsName n) ∧
    (∀ b ∈ f.name, b ≠ 0 ∧ b < 0x80 ∧ b ≠ Zip.Name.backslash) ∧ f.name.length ≤ 100 ∧
    f.mode ≤ 0o777 :=
  ⟨fun h => ⟨h.isName, h.ascii, h.length_le, h.mode_le⟩,
    fun ⟨hname, hascii, hlength, hmode⟩ => ⟨hname, hascii, hlength, hmode⟩⟩

instance : DecidablePred Plain := fun f =>
  haveI : Decidable (∀ b ∈ f.name, b ≠ 0 ∧ b < 0x80 ∧ b ≠ Zip.Name.backslash) :=
    List.decidableBAll _ f.name
  decidable_of_iff _ plain_iff.symm

/-- Neither file is where the other one is, or where it has a directory. -/
def Apart (f g : PackedFile) : Prop := ¬ f.place <+: g.place ∧ ¬ g.place <+: f.place

instance : DecidableRel Apart := fun _ _ => inferInstanceAs (Decidable (_ ∧ _))

/-- An entry stands for a file. -/
structure IsEntry (f : PackedFile) (e : Entry) : Prop where
  place : e.place? = some f.place
  kind : e.kind = .file
  mode : ∃ mode, e.mode = some mode ∧ permissions mode = f.mode
  content : e.content = ⟨f.content, none⟩

theorem place_ne_nil (f : PackedFile) : f.place ≠ [] := Bytes.splitOn_ne_nil _ _

/-- The name is the path made of the names on the way. -/
theorem ofNames_place (f : PackedFile) : Path.ofNames f.place = ⟨f.name⟩ :=
  congrArg Path.mk (Bytes.joinWith_splitOn _ _)

theorem Plain.components_name {f : PackedFile} (h : f.Plain) :
    (Path.mk f.name).components = f.place.map .normal := by
  rw [← f.ofNames_place, Path.components_ofNames f.place_ne_nil h.isName]

/-- An entry with the name of a file goes where the file goes. -/
theorem Plain.place? {f : PackedFile} (h : f.Plain) {e : Entry} (he : e.name = some ⟨f.name⟩) :
    e.place? = some f.place := by
  obtain ⟨name, names, hplace⟩ := List.exists_cons_of_ne_nil f.place_ne_nil
  simp only [Entry.place?, he, Option.bind_eq_bind, Option.bind_some]
  rw [h.components_name, safeNames?_normal, hplace]

theorem Plain.isSome_safePath? {f : PackedFile} (h : f.Plain) :
    (safePath? ⟨f.name⟩).isSome = true := by
  rw [← f.ofNames_place, safePath?_ofNames f.place_ne_nil h.isName]
  rfl

theorem Plain.name_ne_nil {f : PackedFile} (h : f.Plain) : f.name ≠ [] := by
  intro hnil
  have hplace : f.place = [[]] := by
    rw [place, hnil]
    rfl
  exact (h.isName [] (by rw [hplace]; exact List.mem_singleton.2 rfl)).ne_nil rfl

end PackedFile

/-- The files can be packed: every one by itself, and none in the way of another. -/
structure Packable (files : List PackedFile) : Prop where
  plain : ∀ f ∈ files, f.Plain
  apart : files.Pairwise PackedFile.Apart

instance : DecidablePred Packable := fun files =>
  decidable_of_iff ((∀ f ∈ files, f.Plain) ∧ files.Pairwise PackedFile.Apart)
    ⟨fun ⟨hplain, hapart⟩ => ⟨hplain, hapart⟩, fun h => ⟨h.plain, h.apart⟩⟩

/-- The tree of a list of files: the files and the directories above them. -/
def layout (files : List PackedFile) (q : Place) : Option Node :=
  if q = [] then some .dir
  else
    match files.find? (·.place == q) with
    | some f => some (.file f.content f.mode)
    | none => if files.any (q.isPrefixOf ·.place) then some .dir else none

/-! ## The tree with one more file -/

section Layout

variable {files : List PackedFile} {f : PackedFile} {q : Place}

theorem layout_eq_file {bytes : Bytes} {mode : Nat} (h : layout files q = some (.file bytes mode)) :
    ∃ g ∈ files, g.place = q := by
  unfold layout at h
  by_cases hq : q = []
  · rw [if_pos hq] at h
    cases h
  rw [if_neg hq] at h
  cases hfind : files.find? (·.place == q) with
  | some g =>
    exact ⟨g, List.mem_of_find?_eq_some hfind, by simpa using List.find?_some hfind⟩
  | none =>
    rw [hfind] at h
    dsimp only at h
    split_ifs at h
    cases h

/-- Files and directories are at places on the way to files. -/
theorem layout_eq_some (hq : q ≠ []) {v : Node} (h : layout files q = some v) :
    ∃ g ∈ files, q <+: g.place := by
  unfold layout at h
  rw [if_neg hq] at h
  cases hfind : files.find? (·.place == q) with
  | some g =>
    have hplace : g.place = q := by simpa using List.find?_some hfind
    exact ⟨g, List.mem_of_find?_eq_some hfind, hplace ▸ List.prefix_refl _⟩
  | none =>
    rw [hfind] at h
    dsimp only at h
    split_ifs at h with hany
    simpa using hany

/-- One more file adds itself and the directories above it. -/
theorem layout_concat (hapart : ∀ g ∈ files, g.Apart f) (q : Place) :
    layout (files ++ [f]) q =
      if q = f.place then some (.file f.content f.mode)
      else if q <+: f.place then some .dir
      else layout files q := by
  have hfind (h : q <+: f.place) : files.find? (·.place == q) = none := by
    refine List.find?_eq_none.2 fun g hg => ?_
    rw [beq_iff_eq]
    rintro rfl
    exact (hapart g hg).1 h
  unfold layout
  rw [List.find?_append, List.any_append, List.any_cons, List.any_nil, Bool.or_false]
  by_cases hself : q = f.place
  · have hone : [f].find? (·.place == q) = some f := by simp [hself]
    rw [if_neg (hself ▸ f.place_ne_nil), if_pos hself, hfind (hself ▸ List.prefix_refl _), hone]
    rfl
  · have hone : [f].find? (·.place == q) = none := by simpa using Ne.symm hself
    rw [if_neg hself, hone, Option.or_none]
    by_cases hq : q = []
    · rw [if_pos hq, if_pos hq, ite_self]
    · rw [if_neg hq, if_neg hq]
      by_cases habove : q <+: f.place
      · have hprefix : q.isPrefixOf f.place = true := List.isPrefixOf_iff_prefix.2 habove
        rw [if_pos habove, hfind habove, hprefix, Bool.or_true]
        rfl
      · have hprefix : q.isPrefixOf f.place = false := by
          rw [Bool.eq_false_iff]
          exact fun h => habove (List.isPrefixOf_iff_prefix.1 h)
        rw [if_neg habove, hprefix, Bool.or_false]

end Layout

/-! ## Unpacking the files -/

section Laying

variable {t : Tree Node} {files : List PackedFile} {f : PackedFile} {e : Entry}

/-- Unpacking an entry that stands for a file adds the file. -/
theorem layEntry_layout (he : f.IsEntry e) (hapart : ∀ g ∈ files, g.Apart f)
    (ht : ∀ q, node? t q = layout files q) :
    ∃ t', layEntry t e = some t' ∧ ∀ q, node? t' q = layout (files ++ [f]) q := by
  obtain ⟨mode, hmode, hpermissions⟩ := he.mode
  have htarget : e.target? = some f.place := by
    rw [Entry.target?, he.kind, if_neg (by simp), he.place]
  rcases layEntry_cases t (e := e) fun _ _ => by rw [he.content] with
    ⟨-, hclash⟩ | ⟨t', ht', -, hview⟩
  · exfalso
    rcases (clash_iff htarget).1 hclash with
      ⟨q, hq, -, bytes, mode, hfile⟩ | ⟨hkind, -⟩ | ⟨-, hdir⟩
    · rw [ht] at hfile
      obtain ⟨g, hg, rfl⟩ := layout_eq_file hfile
      exact (hapart g hg).1 hq
    · rw [he.kind] at hkind
      cases hkind
    · rw [ht] at hdir
      obtain ⟨g, hg, hprefix⟩ := layout_eq_some f.place_ne_nil hdir
      exact (hapart g hg).2 hprefix
  · refine ⟨t', ht', fun q => ?_⟩
    rw [hview, applyEntry_apply htarget, layout_concat hapart, ht, Entry.fileOver, he.kind, hmode,
      he.content, ← hpermissions]
    simp

/-- Entries that stand for files unpack to the tree of the files. -/
theorem layEntries_layout {entries : List Entry} (h : Packable files)
    (he : List.Forall₂ PackedFile.IsEntry files entries) :
    ∃ t, layEntries {} entries = some t ∧ ∀ q, node? t q = layout files q := by
  have hfrom : ∀ (before after : List PackedFile) (entries : List Entry) (t : Tree Node),
      (before ++ after).Pairwise PackedFile.Apart → List.Forall₂ PackedFile.IsEntry after entries →
      (∀ q, node? t q = layout before q) →
      ∃ t', layEntries t entries = some t' ∧ ∀ q, node? t' q = layout (before ++ after) q := by
    intro before after
    induction after generalizing before with
    | nil =>
      rintro _ t - ⟨⟩ ht
      exact ⟨t, rfl, by rwa [List.append_nil]⟩
    | cons f after ih =>
      rintro _ t hapart (_ | ⟨he, hrest⟩) ht
      have hf : ∀ g ∈ before, g.Apart f := fun g hg =>
        (List.pairwise_append.1 hapart).2.2 g hg f List.mem_cons_self
      obtain ⟨u, hu, hview⟩ := layEntry_layout he hf ht
      rw [List.append_cons] at hapart ⊢
      obtain ⟨t', ht', hview'⟩ := ih (before ++ [f]) _ u hapart hrest hview
      refine ⟨t', ?_, hview'⟩
      rw [layEntries, hu]
      exact ht'
  exact hfrom [] files entries {} h.apart he fun q => by
    by_cases hq : q = []
    · rw [hq]
      rfl
    · rw [Memory.node?_of_ne_nil _ hq, layout, if_neg hq]
      rfl

end Laying

/-! ## Reading data that is complete -/

namespace Decoded

/-- Complete data. -/
def whole (bs : Bytes) : Decoded := ⟨bs, .finished, []⟩

theorem read_whole (bs : Bytes) (n : Nat) :
    (whole bs).read n = .ok (bs.take n, whole (bs.drop n)) := rfl

/-- What a request gives and what those after it give is what is asked for. -/
theorem take_append_take_drop (bs : Bytes) {n amount : Nat} (h : n ≤ amount) :
    bs.take n ++ (bs.drop n).take (amount - (bs.take n).length) = bs.take amount := by
  rw [List.length_take]
  by_cases hlong : n ≤ bs.length
  · rw [Nat.min_eq_left hlong, ← List.take_add, Nat.add_sub_cancel' h]
  · rw [List.drop_eq_nil_of_le (by omega), List.take_nil, List.append_nil,
      List.take_of_length_le (by omega), List.take_of_length_le (by omega)]

theorem drop_drop_take (bs : Bytes) {n amount : Nat} (h : n ≤ amount) :
    (bs.drop n).drop (amount - (bs.take n).length) = bs.drop amount := by
  rw [List.length_take, List.drop_drop]
  by_cases hlong : n ≤ bs.length
  · rw [Nat.min_eq_left hlong, Nat.add_sub_cancel' h]
  · rw [List.drop_eq_nil_of_le (by omega), List.drop_eq_nil_of_le (by omega)]

theorem collectUpTo_whole {step : Nat} (hstep : 0 < step) {fuel : Nat} {bs : Bytes}
    (hfuel : bs.length < fuel) (amount : Nat) :
    collectUpTo step fuel amount (whole bs) = ⟨bs.take amount, none, whole (bs.drop amount)⟩ := by
  induction fuel generalizing bs amount with
  | zero => exact absurd hfuel (Nat.not_lt_zero _)
  | succ fuel ih =>
    unfold collectUpTo
    by_cases hamount : amount = 0
    · rw [if_pos hamount, hamount]
      rfl
    have hle : min step amount ≤ amount := Nat.min_le_right _ _
    have htake := take_append_take_drop bs hle
    have hdrop := drop_drop_take bs hle
    rw [if_neg hamount, read_whole]
    cases hgot : bs.take (min step amount) with
    | nil =>
      have hnil : bs = [] := (List.take_eq_nil_iff.1 hgot).resolve_left (by omega)
      rw [hnil, List.drop_nil, List.drop_nil, List.take_nil]
    | cons b got =>
      have hne : bs ≠ [] := fun hnil => by simp [hnil] at hgot
      have hpos := List.length_pos_iff.2 hne
      rw [hgot] at htake hdrop
      dsimp only
      rw [ih (by rw [List.length_drop]; omega), htake, hdrop]

/-- Requests get everything up to the amount asked for. -/
theorem collect_whole (bs : Bytes) {step : Nat} (hstep : 0 < step) (amount : Nat) :
    (whole bs).collect step amount = ⟨bs.take amount, none, whole (bs.drop amount)⟩ :=
  collectUpTo_whole hstep (Nat.lt_succ_self _) amount

end Decoded

end Provision.Archive
