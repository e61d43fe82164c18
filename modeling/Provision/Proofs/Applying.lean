import Provision.Proofs.Mirrors

/-!
# What entries mean

The meaning of a sequence of entries, whatever the files are that they come from: they are applied
from left to right to what is below a directory, up to the first that clashes with what is there.

* `applyEntry` and `applyAll` apply entries, `Clash` says which cannot be applied.
* `layEntries_cases`: entries are laid out exactly if none clashes, and then as they are applied.
* `applyAll_eq`: what is at a place after entries have been applied, by the last of them for it.
-/

namespace Provision.Archive

open Memory (Node node? makeDirs makeFile append changeMode OnTheWay)

/-! ## Specification -/

/-- The node at each place below a directory. -/
abbrev Nodes := Place → Option Node

/-- Where an entry goes, unless it is passed over for its name or for what it stands for. -/
def Entry.target? (e : Entry) : Option Place :=
  if e.kind = .other then none else e.place?

/-- There is a file at a place. -/
def IsFile (T : Nodes) (p : Place) : Prop := ∃ bytes mode, T p = some (.file bytes mode)

/-- An entry is in conflict with what is there. -/
inductive Clash (T : Nodes) (e : Entry) : Prop where
  /-- A file is where the entry needs a directory. -/
  | above (p q : Place) (target : e.target? = some p) (above : q <+: p) (ne : q ≠ p)
      (file : IsFile T q)
  /-- A file is where the entry says that there is a directory. -/
  | directory (p : Place) (target : e.target? = some p) (kind : e.kind = .directory)
      (file : IsFile T p)
  /-- A directory is where the entry says that there is a file. -/
  | file (p : Place) (target : e.target? = some p) (kind : e.kind = .file)
      (directory : T p = some .dir)

/-- The mode of the file at a place, and otherwise that of a new file. -/
def modeAt (T : Nodes) (p : Place) : Nat :=
  match T p with
  | some (.file _ mode) => mode
  | _ => 0o644

/-- The file that an entry puts at a place. Without a mode of its own it keeps the one that was
there. -/
def Entry.fileOver (e : Entry) (T : Nodes) (p : Place) : Node :=
  .file e.content.bytes ((e.mode.map permissions).getD (modeAt T p))

/-- What there is after an entry has been applied: its file or directory, the directories above
that, and all else as before. -/
def applyEntry (T : Nodes) (e : Entry) : Nodes :=
  match e.target? with
  | none => T
  | some p => fun q =>
    if q = p ∧ e.kind = .file then some (e.fileOver T p)
    else if q <+: p then some .dir
    else T q

/-- What there is after entries have been applied in order. -/
def applyAll (T : Nodes) (entries : List Entry) : Nodes := entries.foldl applyEntry T

/-- No entry clashes with what those before it come to. -/
def NoClash (T : Nodes) (entries : List Entry) : Prop :=
  ∀ before e after, entries = before ++ e :: after → ¬ Clash (applyAll T before) e

variable {T : Nodes} {e : Entry} {entries : List Entry} {t u : Tree Node} {p q : Place}

theorem applyEntry_apply (h : e.target? = some p) (q : Place) :
    applyEntry T e q =
      if q = p ∧ e.kind = .file then some (e.fileOver T p)
      else if q <+: p then some .dir else T q := by
  rw [applyEntry, h]

theorem applyAll_cons (T : Nodes) (e : Entry) (rest : List Entry) :
    applyAll T (e :: rest) = applyAll (applyEntry T e) rest := rfl

theorem applyAll_concat (T : Nodes) (entries : List Entry) (e : Entry) :
    applyAll T (entries ++ [e]) = applyEntry (applyAll T entries) e := by
  simp [applyAll]

theorem noClash_nil (T : Nodes) : NoClash T [] := by
  intro before e after h
  simp at h

theorem noClash_cons_iff {rest : List Entry} :
    NoClash T (e :: rest) ↔ ¬ Clash T e ∧ NoClash (applyEntry T e) rest := by
  constructor
  · intro h
    refine ⟨h [] e rest rfl, fun before e' after hrest => ?_⟩
    exact h (e :: before) e' after (by rw [hrest]; rfl)
  · rintro ⟨hhead, hrest⟩ before e' after h
    cases before with
    | nil =>
      obtain ⟨rfl, -⟩ := List.cons.inj h
      exact hhead
    | cons first before =>
      obtain ⟨rfl, htail⟩ := List.cons.inj h
      exact hrest before e' after htail

theorem noClash_concat_iff :
    NoClash T (entries ++ [e]) ↔ NoClash T entries ∧ ¬ Clash (applyAll T entries) e := by
  induction entries generalizing T with
  | nil => simp [noClash_cons_iff, noClash_nil, applyAll]
  | cons first rest ih =>
    rw [List.cons_append, noClash_cons_iff, noClash_cons_iff, ih, applyAll_cons, and_assoc]

/-- The first entry that clashes is the only one that does after entries that do not. -/
theorem first_clash_unique {before before' after after' : List Entry} {e' : Entry}
    (h : before ++ e :: after = before' ++ e' :: after') (hfree : NoClash T before)
    (he : Clash (applyAll T before) e) (hfree' : NoClash T before')
    (he' : Clash (applyAll T before') e') : before = before' := by
  rcases List.append_eq_append_iff.1 h with ⟨rest, hlong, hrest⟩ | ⟨rest, hlong, hrest⟩
  · cases rest with
    | nil => rw [hlong, List.append_nil]
    | cons first rest =>
      obtain ⟨rfl, -⟩ := List.cons.inj hrest
      exact absurd he (hfree' before e rest hlong)
  · cases rest with
    | nil => rw [hlong, List.append_nil]
    | cons first rest =>
      obtain ⟨rfl, -⟩ := List.cons.inj hrest
      exact absurd he' (hfree before' e' rest hlong)

/-! ## Laying out one entry -/

theorem not_prefix_dropLast (hp : p ≠ []) : ¬ p <+: p.dropLast := by
  intro h
  have hlength := h.length_le
  have hpos : 0 < p.length := List.length_pos_iff.2 hp
  rw [List.length_dropLast] at hlength
  omega

theorem prefix_dropLast_iff (hp : p ≠ []) : q <+: p.dropLast ↔ q <+: p ∧ q ≠ p := by
  constructor
  · intro h
    refine ⟨h.trans (List.dropLast_prefix p), ?_⟩
    rintro rfl
    exact not_prefix_dropLast hp h
  · exact fun h => Memory.prefix_dropLast h.1 h.2

/-- Directories are laid out unless a file is on the way. -/
theorem layDirs_cases (u : Tree Node) (p : Place) :
    (layDirs u p = none ∧ ∃ q, q <+: p ∧ IsFile (node? u) q) ∨
      ∃ u', layDirs u p = some u' ∧ (∀ q, q <+: p → ¬ IsFile (node? u) q) ∧
        ∀ q, node? u' q = if q <+: p then some .dir else node? u q := by
  unfold layDirs
  rcases Memory.makeDirs_cases u [] p with ⟨hok, hdirs⟩ | ⟨⟨e, herror⟩, q, bytes, mode, hway, hq⟩
  · right
    have hdir : ∀ q, q <+: p → node? (makeDirs u [] p).2 q = some .dir := by
      intro q hq
      by_cases hnil : q = []
      · rw [hnil]
        rfl
      · exact hdirs q (Memory.onTheWay_nil_iff.2 ⟨hnil, hq⟩)
    refine ⟨(makeDirs u [] p).2, ?_, ?_, fun q => ?_⟩
    · rw [show makeDirs u [] p = (.ok (), (makeDirs u [] p).2) from Prod.ext hok rfl]
    · rintro q hq ⟨bytes, mode, hfile⟩
      have hkept : node? (makeDirs u [] p).2 q = some (.file bytes mode) :=
        Memory.makeDirs_node?_of_some hfile
      rw [hdir q hq] at hkept
      cases hkept
    · split_ifs with hq
      · exact hdir q hq
      · rcases Memory.makeDirs_node? u [] p q with hsame | ⟨hway, -, -⟩
        · exact hsame
        · exact absurd (Memory.onTheWay_nil_iff.1 hway).2 hq
  · left
    refine ⟨?_, q, (Memory.onTheWay_nil_iff.1 hway).2, bytes, mode, hq⟩
    rw [show makeDirs u [] p = (.error e, (makeDirs u [] p).2) from Prod.ext herror rfl]

/-- Creating a file and writing it, with the mode of the file that it replaces. -/
theorem makeFile_written (hp : p ≠ []) (hdir : node? t p.dropLast = some .dir)
    (hself : node? t p ≠ some .dir) (content : Bytes) :
    ∃ made, makeFile t p = .ok made ∧ ∀ q, node? (append made p content) q =
      if q = p then some (.file content (modeAt (node? t) p)) else node? t q := by
  obtain ⟨made, hmade, hview⟩ : ∃ made, makeFile t p = .ok made ∧ ∀ q, node? made q =
      if q = p then some (.file [] (modeAt (node? t) p)) else node? t q := by
    unfold makeFile modeAt
    cases hn : node? t p with
    | none =>
      refine ⟨_, if_pos (Memory.hasDir_iff.2 hdir), fun q => ?_⟩
      rw [Memory.node?_set _ _ hp]
    | some v =>
      cases v with
      | dir => exact absurd hn hself
      | file bytes mode => exact ⟨_, rfl, fun q => Memory.node?_set _ _ hp q⟩
  refine ⟨made, hmade, fun q => ?_⟩
  have happend : append made p content =
      made.set p (.file content (modeAt (node? t) p)) := by
    rw [append, hview, if_pos rfl]
    rfl
  rw [happend, Memory.node?_set _ _ hp, hview]
  split_ifs <;> rfl

theorem node?_layMode {bytes : Bytes} {old : Nat} (hp : p ≠ [])
    (h : node? t p = some (.file bytes old)) (mode : Nat) (q : Place) :
    node? (layMode t p mode) q =
      if q = p then some (.file bytes (permissions mode)) else node? t q := by
  rw [layMode, changeMode, h]
  exact Memory.node?_set _ _ hp q

/-- A file is laid out unless a file is above its place or a directory at it. -/
theorem layFile_cases (u : Tree Node) (hp : p ≠ []) (mode : Option Nat) {content : Stream}
    (hfault : content.fault = none) :
    (layFile u p mode content = none ∧
        ((∃ q, q <+: p ∧ q ≠ p ∧ IsFile (node? u) q) ∨ node? u p = some .dir)) ∨
      ∃ u', layFile u p mode content = some u' ∧
        (∀ q, q <+: p → q ≠ p → ¬ IsFile (node? u) q) ∧ node? u p ≠ some .dir ∧
        ∀ q, node? u' q =
          if q = p then
            some (.file content.bytes ((mode.map permissions).getD (modeAt (node? u) p)))
          else if q <+: p then some .dir else node? u q := by
  unfold layFile
  rcases layDirs_cases u p.dropLast with ⟨hnone, q, hq, hfile⟩ | ⟨dirs, hdirs, hfree, hview⟩
  · left
    obtain ⟨hon, hne⟩ := (prefix_dropLast_iff hp).1 hq
    exact ⟨by rw [hnone]; rfl, .inl ⟨q, hon, hne, hfile⟩⟩
  · have hself : node? dirs p = node? u p := by
      rw [hview, if_neg (not_prefix_dropLast hp)]
    have hmode : modeAt (node? dirs) p = modeAt (node? u) p := by
      rw [modeAt, hself]
      rfl
    rw [hdirs]
    by_cases hdir : node? u p = some .dir
    · left
      have herror : makeFile dirs p = .error Memory.isDirectory := by
        rw [makeFile, hself, hdir]
      refine ⟨?_, .inr hdir⟩
      show (makeFile dirs p).toOption.bind _ = none
      rw [herror]
      rfl
    · right
      have habove : node? dirs p.dropLast = some .dir := by
        rw [hview, if_pos (List.prefix_refl _)]
      obtain ⟨made, hmade, hwritten⟩ :=
        makeFile_written hp habove (by rwa [hself]) content.bytes
      have hrest : ∀ q, q ≠ p → node? (append made p content.bytes) q =
          if q <+: p then some .dir else node? u q := by
        intro q hq
        rw [hwritten, if_neg hq, hview]
        by_cases hon : q <+: p
        · rw [if_pos ((prefix_dropLast_iff hp).2 ⟨hon, hq⟩), if_pos hon]
        · rw [if_neg fun h => hon ((prefix_dropLast_iff hp).1 h).1, if_neg hon]
      have hfree' : ∀ q, q <+: p → q ≠ p → ¬ IsFile (node? u) q := fun q hq hne =>
        hfree q ((prefix_dropLast_iff hp).2 ⟨hq, hne⟩)
      have hnone : content.fault.isSome = false := by rw [hfault]; rfl
      have hfile : node? (append made p content.bytes) p =
          some (.file content.bytes (modeAt (node? u) p)) := by
        rw [hwritten, if_pos rfl, hmode]
      cases mode with
      | none =>
        refine ⟨append made p content.bytes, ?_, hfree', hdir, fun q => ?_⟩
        · simp [hmade, hnone, Except.toOption]
        · split_ifs with hq hon
          · rw [hq, hfile]
            rfl
          · rw [hrest q hq, if_pos hon]
          · rw [hrest q hq, if_neg hon]
      | some mode =>
        refine ⟨layMode (append made p content.bytes) p mode, ?_, hfree', hdir, fun q => ?_⟩
        · simp [hmade, hnone, Except.toOption]
        · rw [node?_layMode hp hfile]
          split_ifs with hq hon
          · rfl
          · rw [hrest q hq, if_pos hon]
          · rw [hrest q hq, if_neg hon]

/-! ## Laying out entries -/

theorem Entry.ne_nil_of_target? (h : e.target? = some p) : p ≠ [] := by
  unfold Entry.target? Entry.place? at h
  split_ifs at h
  cases hname : e.name with
  | none =>
    rw [hname] at h
    cases h
  | some name =>
    simp only [hname, Option.bind_some, Option.bind_eq_bind] at h
    split at h
    · cases h
      exact List.cons_ne_nil _ _
    · cases h

theorem Entry.place?_of_target? (h : e.target? = some p) : e.place? = some p ∧ e.kind ≠ .other := by
  unfold Entry.target? at h
  split_ifs at h with hkind
  exact ⟨h, hkind⟩

theorem layEntry_of_passed (h : e.target? = none) : layEntry u e = some u := by
  unfold Entry.target? at h
  unfold layEntry
  cases hp : e.place? with
  | none => rfl
  | some p =>
    split_ifs at h with hkind
    · rw [hkind]
    · rw [hp] at h
      cases h

theorem not_clash_of_passed (h : e.target? = none) : ¬ Clash T e := by
  rintro (⟨p, _, target, -, -, -⟩ | ⟨p, target, -, -⟩ | ⟨p, target, -, -⟩) <;>
    rw [h] at target <;> cases target

theorem clash_iff (h : e.target? = some p) : Clash T e ↔
    (∃ q, q <+: p ∧ q ≠ p ∧ IsFile T q) ∨ (e.kind = .directory ∧ IsFile T p) ∨
      (e.kind = .file ∧ T p = some .dir) := by
  constructor
  · rintro (⟨p', q, target, above, ne, file⟩ | ⟨p', target, kind, file⟩ | ⟨p', target, kind, dir⟩)
    all_goals
      obtain rfl : p = p' := Option.some.inj (h.symm.trans target)
    · exact .inl ⟨q, above, ne, file⟩
    · exact .inr (.inl ⟨kind, file⟩)
    · exact .inr (.inr ⟨kind, dir⟩)
  · rintro (⟨q, above, ne, file⟩ | ⟨kind, file⟩ | ⟨kind, dir⟩)
    · exact .above p q h above ne file
    · exact .directory p h kind file
    · exact .file p h kind dir

/-- The contents of the files that are not passed over could be read. -/
def Readable (entries : List Entry) : Prop :=
  ∀ e ∈ entries, e.kind = .file → e.target?.isSome → e.content.fault = none

/-- An entry is laid out exactly if it does not clash, and then as it is applied. -/
theorem layEntry_cases (u : Tree Node)
    (hread : e.kind = .file → e.target?.isSome → e.content.fault = none) :
    (layEntry u e = none ∧ Clash (node? u) e) ∨
      ∃ u', layEntry u e = some u' ∧ ¬ Clash (node? u) e ∧
        node? u' = applyEntry (node? u) e := by
  cases htarget : e.target? with
  | none =>
    refine .inr ⟨u, layEntry_of_passed htarget, not_clash_of_passed htarget, ?_⟩
    rw [applyEntry, htarget]
  | some p =>
    obtain ⟨hplace, hother⟩ := Entry.place?_of_target? htarget
    rw [clash_iff htarget, layEntry, hplace]
    cases hkind : e.kind with
    | directory =>
      dsimp only
      rcases layDirs_cases u p with ⟨hnone, q, hq, hfile⟩ | ⟨u', hu', hfree, hview⟩
      · refine .inl ⟨hnone, ?_⟩
        by_cases hself : q = p
        · exact .inr (.inl ⟨rfl, hself ▸ hfile⟩)
        · exact .inl ⟨q, hq, hself, hfile⟩
      · refine .inr ⟨u', hu', ?_, ?_⟩
        · rintro (⟨q, hq, -, hfile⟩ | ⟨-, hfile⟩ | ⟨hno, -⟩)
          · exact hfree q hq hfile
          · exact hfree p (List.prefix_refl p) hfile
          · cases hno
        · funext q
          have hno : ¬ (q = p ∧ Kind.directory = .file) := by simp
          rw [hview, applyEntry_apply htarget, hkind, if_neg hno]
    | file =>
      dsimp only
      have hfault := hread hkind (by rw [htarget]; rfl)
      rcases layFile_cases u (Entry.ne_nil_of_target? htarget) e.mode hfault with
        ⟨hnone, hwhy⟩ | ⟨u', hu', hfree, hdir, hview⟩
      · refine .inl ⟨hnone, ?_⟩
        rcases hwhy with habove | hdir
        · exact .inl habove
        · exact .inr (.inr ⟨rfl, hdir⟩)
      · refine .inr ⟨u', hu', ?_, ?_⟩
        · rintro (⟨q, hq, hne, hfile⟩ | ⟨hno, -⟩ | ⟨-, hself⟩)
          · exact hfree q hq hne hfile
          · cases hno
          · exact hdir hself
        · funext q
          rw [hview, applyEntry_apply htarget, Entry.fileOver, hkind]
          simp only [and_true]
    | other => exact absurd hkind hother

/-- Entries are laid out exactly if none clashes, and then as they are applied. -/
theorem layEntries_cases (u : Tree Node) (hread : Readable entries) :
    (layEntries u entries = none ∧ ¬ NoClash (node? u) entries) ∨
      ∃ u', layEntries u entries = some u' ∧ NoClash (node? u) entries ∧
        node? u' = applyAll (node? u) entries := by
  induction entries generalizing u with
  | nil => exact .inr ⟨u, rfl, noClash_nil _, rfl⟩
  | cons e rest ih =>
    rw [layEntries, noClash_cons_iff, applyAll_cons]
    rcases layEntry_cases u (hread e List.mem_cons_self) with
      ⟨hnone, hclash⟩ | ⟨u₁, hu₁, hfree, hview⟩
    · rw [hnone]
      exact .inl ⟨rfl, fun h => h.1 hclash⟩
    · rw [hu₁, ← hview]
      rcases ih u₁ fun e' he' => hread e' (List.mem_cons_of_mem _ he') with
        ⟨hnone, hclash⟩ | ⟨u₂, hu₂, hfree', hview'⟩
      · exact .inl ⟨hnone, fun h => hclash h.2⟩
      · exact .inr ⟨u₂, hu₂, ⟨hfree, hfree'⟩, hview'⟩

/-- Entries that can be laid out do not clash. -/
theorem noClash_of_isSome (hread : Readable entries) (h : (layEntries u entries).isSome) :
    NoClash (node? u) entries := by
  rcases layEntries_cases u hread with ⟨hnone, -⟩ | ⟨_, -, hfree, -⟩
  · rw [hnone] at h
    cases h
  · exact hfree

/-! ## The last entry for a place -/

/-- The entries that put a file at a place, in order. -/
def filesAt (entries : List Entry) (p : Place) : List Entry :=
  entries.filter fun e => e.kind = .file ∧ e.target? = some p

/-- The mode of the file at a place: that of the last entry for it which carries one, and otherwise
that of the file that was there. -/
def lastMode (T : Nodes) (entries : List Entry) (p : Place) : Nat :=
  (((filesAt entries p).filterMap (·.mode)).getLast?.map permissions).getD (modeAt T p)

/-- What is at a place after entries: the file of the last entry that puts one there; a directory
at or above the place of an entry; or what was there before. -/
def nodeAfter (T : Nodes) (entries : List Entry) (p : Place) : Option Node :=
  match (filesAt entries p).getLast? with
  | some last => some (.file last.content.bytes (lastMode T entries p))
  | none =>
    if entries.any fun e => e.target?.any (p.isPrefixOf ·) then some .dir else T p

theorem filesAt_concat (entries : List Entry) (e : Entry) (p : Place) :
    filesAt (entries ++ [e]) p =
      filesAt entries p ++ if e.kind = .file ∧ e.target? = some p then [e] else [] := by
  unfold filesAt
  rw [List.filter_append, List.filter_cons]
  simp

/-- Where the last entries put no directory, a file keeps the mode that it has come to. -/
theorem modeAt_nodeAfter (h : nodeAfter T entries p ≠ some .dir) :
    modeAt (nodeAfter T entries) p = lastMode T entries p := by
  unfold modeAt
  unfold nodeAfter at h ⊢
  cases hlast : (filesAt entries p).getLast? with
  | some last => rfl
  | none =>
    rw [hlast] at h
    have hnil : filesAt entries p = [] := List.getLast?_eq_none_iff.1 hlast
    have hmode : lastMode T entries p = modeAt T p := by
      rw [lastMode, hnil]
      rfl
    dsimp only at h ⊢
    split_ifs at h ⊢ with hany
    · exact absurd rfl h
    · exact hmode.symm

theorem isFile_nodeAfter {last : Entry} (h : (filesAt entries p).getLast? = some last) :
    IsFile (nodeAfter T entries) p :=
  ⟨last.content.bytes, lastMode T entries p, by rw [nodeAfter, h]⟩

theorem nodeAfter_concat_passed (h : e.target? = none) :
    nodeAfter T (entries ++ [e]) = nodeAfter T entries := by
  funext q
  have hfiles : filesAt (entries ++ [e]) q = filesAt entries q := by
    rw [filesAt_concat, h]
    simp
  simp [nodeAfter, lastMode, hfiles, h]

/-- One more entry that does not clash is applied to what the others come to. -/
theorem nodeAfter_concat (h : ¬ Clash (nodeAfter T entries) e) :
    nodeAfter T (entries ++ [e]) = applyEntry (nodeAfter T entries) e := by
  cases htarget : e.target? with
  | none => rw [nodeAfter_concat_passed htarget, applyEntry, htarget]
  | some p =>
    rw [clash_iff htarget] at h
    funext q
    rw [applyEntry_apply htarget]
    by_cases hfile : q = p ∧ e.kind = .file
    · -- the entry is the last one that puts a file here
      obtain ⟨rfl, hkind⟩ := hfile
      have hfiles : filesAt (entries ++ [e]) q = filesAt entries q ++ [e] := by
        rw [filesAt_concat, if_pos ⟨hkind, htarget⟩]
      have hmode : lastMode T (entries ++ [e]) q =
          (e.mode.map permissions).getD (modeAt (nodeAfter T entries) q) := by
        rw [lastMode, hfiles, List.filterMap_append]
        cases hmode : e.mode with
        | some mode => simp [hmode]
        | none =>
          rw [modeAt_nodeAfter fun hdir => h (.inr (.inr ⟨hkind, hdir⟩)), lastMode]
          simp [hmode]
      rw [if_pos ⟨rfl, hkind⟩, nodeAfter, hfiles, List.getLast?_concat, hmode]
      rfl
    · have hfiles : filesAt (entries ++ [e]) q = filesAt entries q := by
        rw [filesAt_concat, if_neg, List.append_nil]
        rintro ⟨hkind, htarget'⟩
        exact hfile ⟨Option.some.inj (htarget'.symm.trans htarget), hkind⟩
      have hany : ((entries ++ [e]).any fun e => e.target?.any (q.isPrefixOf ·)) =
          ((entries.any fun e => e.target?.any (q.isPrefixOf ·)) || q.isPrefixOf p) := by
        rw [List.any_append, List.any_cons, htarget]
        simp
      rw [if_neg hfile, nodeAfter, lastMode, hfiles, ← lastMode, hany]
      by_cases hon : q <+: p
      · -- a file here would have been in the way
        have hnone : (filesAt entries q).getLast? = none := by
          cases hlast : (filesAt entries q).getLast? with
          | none => rfl
          | some last =>
            exfalso
            have hself := isFile_nodeAfter (T := T) hlast
            by_cases hq : q = p
            · subst hq
              cases hkind : e.kind with
              | directory => exact h (.inr (.inl ⟨hkind, hself⟩))
              | file => exact hfile ⟨rfl, hkind⟩
              | other => exact (Entry.place?_of_target? htarget).2 hkind
            · exact h (.inl ⟨q, hon, hq, hself⟩)
        rw [hnone, if_pos hon, List.isPrefixOf_iff_prefix.2 hon, Bool.or_true]
        rfl
      · have hno : q.isPrefixOf p = false := by
          rw [Bool.eq_false_iff]
          exact fun h => hon (List.isPrefixOf_iff_prefix.1 h)
        rw [if_neg hon, hno, Bool.or_false]
        rfl

/-- What entries come to, place by place. -/
theorem applyAll_eq (h : NoClash T entries) : applyAll T entries = nodeAfter T entries := by
  induction entries using List.reverseRecOn with
  | nil => rfl
  | append_singleton entries e ih =>
    obtain ⟨hentries, he⟩ := noClash_concat_iff.1 h
    rw [ih hentries] at he
    rw [applyAll_concat, ih hentries, nodeAfter_concat he]

end Provision.Archive
