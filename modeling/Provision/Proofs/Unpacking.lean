import Provision.Proofs.Downloads
import Provision.Proofs.EntryPaths
import Provision.Proofs.Mirrors

/-!
# What unpacking does

Unpacking changes nothing but what is below its directory. Without injected failures it succeeds
exactly when the archive has contents, and then they are below the directory.

* `Memory.Unpacking` is what holds of the tree all along, whatever fails.
* `meets_unpackFile`, `meets_unpackEntry` and `meets_unpackEntries` follow the entries, and
  `meets_extract` opens the archive first.
-/

namespace Provision.Memory

open Archive (layDirs layFile layEntry layEntries)
open Provision.Path (IsName ofNames)

variable {η : Type} {S : Setting η} {w : World η} {d : Place} {t u : Tree Node}

/-- A tree while something is unpacked below a directory: nothing else has changed. -/
structure Unpacking (d : Place) (t t' : Tree Node) : Prop where
  only : OnlyIn d t t'
  dir : node? t' d = some .dir

/-- Without injected failures the part below a place looks like the given tree. -/
def Setting.Lays (S : Setting η) (d : Place) (r : Option (Tree Node)) (w : World η) : Prop :=
  ∃ u, S.Calm → r = some u ∧ Mirrors d w.tree u

theorem OnlyIn.below {a : Place} {t t' : Tree Node} (h : OnlyIn a t t') (hd : d <+: a) :
    OnlyIn d t t' := fun q hq => h q fun ha => hq (hd.trans ha)

section Steps

variable {t' t'' : Tree Node} {p : Place}

theorem Unpacking.makeDirs (h : Unpacking d t t') (hs : Sound t') (p : Place) :
    Unpacking d t (makeDirs t' [] (d ++ p)).2 where
  only := h.only.trans (onlyIn_makeDirs hs (List.prefix_append d p)
    (hs.dir_of_prefix h.dir (List.dropLast_prefix d)))
  dir := makeDirs_node?_of_some h.dir

/-- A change at one place below the directory. -/
theorem Unpacking.change (h : Unpacking d t t') (hp : p ≠ []) (hc : OnlyIn (d ++ p) t' t'') :
    Unpacking d t t'' where
  only := h.only.trans (hc.below (List.prefix_append d p))
  dir := by
    rw [hc d, h.dir]
    rintro ⟨rest, hrest⟩
    have := congrArg List.length hrest
    have : p.length ≠ 0 := by simpa using hp
    simp only [List.length_append] at *
    omega

end Steps

/-! ## Failures that leave no trace -/

/-- Creating directories in a file system fails before it has created any: below one that is created
there is nothing that could be in the way. -/
theorem node?_of_makeDirs_error {t' : Tree Node} {above names : List Bytes} {e : Report}
    (hs : Sound t) (h : makeDirs t above names = (.error e, t')) (q : Place) :
    node? t' q = node? t q := by
  induction names generalizing above with
  | nil => cases h
  | cons name names ih =>
    rcases makeDirs_cons t above name names with ⟨_, _, _, -, he⟩ | ⟨v, he, ⟨rfl, -⟩ | ⟨rfl, hn⟩⟩
    · rw [he] at h
      cases h
      rfl
    · exact ih (he ▸ h)
    · exfalso
      rw [he] at h
      rcases makeDirs_cases (t.set (above ++ [name]) .dir) (above ++ [name]) names with
        ⟨hok, -⟩ | ⟨-, r, bytes, mode, ⟨⟨rest, rfl⟩, hne, -⟩, hr⟩
      · rw [h] at hok
        cases hok
      · have hrest : rest ≠ [] := by
          rintro rfl
          exact hne (List.append_nil _)
        rw [node?_set _ _ (by simp), if_neg hne, hs.none_below hrest (by rw [hn]; simp)] at hr
        cases hr

/-- Creating directories above one that is there changes nothing. -/
theorem node?_makeDirs_above {a p : Place} (hs : Sound t) (h : node? t p = some .dir)
    (ha : a <+: p) (q : Place) : node? (makeDirs t [] a).2 q = node? t q := by
  rcases makeDirs_node? t [] a q with hsame | ⟨hway, hnone, -⟩
  · exact hsame
  · rw [hs.dir_of_prefix h ((onTheWay_nil_iff.1 hway).2.trans ha)] at hnone
    cases hnone

/-- When the directory of a file could be created but not the file, a directory is in the way, and
the other directories were there before. -/
theorem node?_of_makeFile_error {t' : Tree Node} {p : Place} {e : Report} (hs : Sound t)
    (hp : p ≠ []) (hdirs : makeDirs t [] p.dropLast = (.ok (), t'))
    (hfile : makeFile t' p = .error e) (q : Place) : node? t' q = node? t q := by
  obtain rfl : (makeDirs t [] p.dropLast).2 = t' := by rw [hdirs]
  have hdir : node? (makeDirs t [] p.dropLast).2 p.dropLast = some .dir := by
    rcases makeDirs_cases t [] p.dropLast with ⟨-, hall⟩ | ⟨⟨e', herror⟩, -⟩
    · by_cases hnil : p.dropLast = []
      · rw [hnil]
        rfl
      · exact hall _ (onTheWay_nil_iff.2 ⟨hnil, List.prefix_refl _⟩)
    · rw [hdirs] at herror
      cases herror
  have hself : node? (makeDirs t [] p.dropLast).2 p = some .dir := by
    rcases makeFile_error hfile with h | ⟨-, h⟩
    · exact h
    · exact absurd hdir h
  refine node?_makeDirs_above hs ?_ (List.dropLast_prefix p) q
  rcases makeDirs_node? t [] p.dropLast p with hsame | ⟨hway, -, -⟩
  · rw [← hsame, hself]
  · have hlength := (onTheWay_nil_iff.1 hway).2.length_le
    have hpos : 0 < p.length := List.length_pos_iff.2 hp
    rw [List.length_dropLast] at hlength
    omega

theorem Mirrors.congr {t' : Tree Node} (h : Mirrors d t u) (ht : ∀ q, node? t' q = node? t q) :
    Mirrors d t' u := fun q => (ht (d ++ q)).trans (h q)

/-! ## Files -/

/-- Writing blocks appends them in turn; it fails only at the writer's limit. -/
theorem meets_writeBlocks {a : Place} {f : Writer} (hf : S.place f.path = a) (blocks : List Bytes)
    {bytes : Bytes} {mode : Nat} (h : Fetching a t w.tree)
    (hn : node? w.tree a = some (.file bytes mode)) :
    Attempt.Meets S.Step (fun w => Fetching a t w.tree)
      (fun _ w' => Fetching a t w'.tree ∧
        node? w'.tree a = some (.file (bytes ++ blocks.flatten) mode))
      (fun _ w' => Fetching a t w'.tree ∧ f.limit.isSome) (Archive.writeBlocks f blocks) w := by
  induction blocks generalizing w bytes with
  | nil =>
    refine Attempt.meets_pure ⟨h, ?_⟩
    rw [List.flatten_nil, List.append_nil, hn]
  | cons block blocks ih =>
    unfold Archive.writeBlocks
    refine Attempt.meets_bind (meets_write h ?_ ?_)
    · intro w' htree hnet
      rw [hf] at htree
      have h' : Fetching a t w'.tree := by
        rw [htree]
        exact h.append hn block
      have hn' : node? w'.tree a = some (.file (bytes ++ block) mode) := by
        rw [htree]
        exact node?_append_self hn block
      rw [List.flatten_cons, ← List.append_assoc]
      exact ih h' hn'
    · intro e k w' hl htree hnet
      refine ⟨?_, hl⟩
      rw [htree, hf]
      exact h.append hn _

/-- Below a file there is nothing, so a change there is a change of the file. -/
theorem Fetching.eq_of_ne {a q : Place} {t' : Tree Node} (h : Fetching a t t') (hs : Sound t)
    (hs' : Sound t') (hd : node? t a ≠ some .dir) (hq : q ≠ a) : node? t' q = node? t q := by
  by_cases ha : a <+: q
  · obtain ⟨rest, rfl⟩ := ha
    have hrest : rest ≠ [] := by
      rintro rfl
      simp at hq
    rw [hs.none_below hrest hd, hs'.none_below hrest fun hd' => hd (h.noDir hd')]
  · exact h.only q ha

/-- Copying a content writes all of it. It fails only at the writer's limit or when the content
cannot be read to its end. -/
theorem meets_copy {a : Place} {f : Writer} (hf : S.place f.path = a) (content : Stream)
    {mode : Nat} (hn : node? w.tree a = some (.file [] mode)) :
    Attempt.Meets S.Step (fun w' => Fetching a w.tree w'.tree)
      (fun _ w' => Fetching a w.tree w'.tree ∧ content.fault = none ∧
        node? w'.tree a = some (.file content.bytes mode))
      (fun _ w' => Fetching a w.tree w'.tree ∧ (f.limit.isSome ∨ content.fault.isSome))
      (Archive.copy f content) w := by
  unfold Archive.copy
  refine Attempt.meets_bind (Attempt.Meets.mono
    (meets_writeBlocks hf (Archive.blocks content.bytes) (.refl a _) hn) (fun _ hw => hw) ?_ ?_)
  · rintro _ w' ⟨h', hn'⟩
    rw [Archive.flatten_blocks, List.nil_append] at hn'
    cases hfault : content.fault with
    | some message => exact Attempt.meets_throw ⟨h', .inr rfl⟩
    | none => exact Attempt.meets_pure ⟨h', rfl, hn'⟩
  · rintro e w' ⟨h', hl⟩
    exact ⟨h', .inl hl⟩

/-- The path above the one that names lead to. -/
theorem exists_parent?_joinNames (dir : Path) {names : List Bytes} (hne : names ≠ [])
    (hn : ∀ n ∈ names, IsName n) :
    ∃ above, (dir.join (ofNames names)).parent? = some above ∧
      ∀ cwd, placeIn cwd above = placeIn cwd dir ++ names.dropLast := by
  have hcomp := Path.components_joinNames dir hne hn
  obtain ⟨front, last, rfl⟩ := eq_dropLast_concat hne
  rw [List.map_append, ← List.append_assoc] at hcomp
  obtain ⟨above, hparent, habove⟩ := Path.exists_parent? hcomp
  refine ⟨above, hparent, fun cwd => ?_⟩
  rw [List.dropLast_concat]
  exact placeIn_of_components habove

theorem Setting.lays_makeDirs {w' : World η} {p : Place} (hm : S.Calm → Mirrors d w.tree u)
    (hmake : makeDirs w.tree [] (d ++ p) = (.ok (), w'.tree)) : S.Lays d (layDirs u p) w' := by
  refine ⟨(makeDirs u [] p).2, fun hc => ?_⟩
  obtain ⟨hr, hmirror⟩ := (hm hc).makeDirs w.sound p
  rw [hmake] at hr hmirror
  refine ⟨?_, hmirror⟩
  unfold layDirs
  rw [show makeDirs u [] p = (.ok (), (makeDirs u [] p).2) from Prod.ext hr.symm rfl]

theorem Setting.layDirs_eq_none {t' : Tree Node} {p : Place} {e : Report}
    (hm : Mirrors d w.tree u) (hmake : makeDirs w.tree [] (d ++ p) = (.error e, t')) :
    layDirs u p = none := by
  obtain ⟨hr, -⟩ := hm.makeDirs w.sound p
  rw [hmake] at hr
  unfold layDirs
  rw [show makeDirs u [] p = (.error e, (makeDirs u [] p).2) from Prod.ext hr.symm rfl]

/-- Creating a directory of the archive. -/
theorem meets_unpackDir {dir : Path} {names : List Bytes} (hne : names ≠ [])
    (hn : ∀ n ∈ names, IsName n) (hd : S.place dir = d) (h : Unpacking d t w.tree)
    (hm : S.Calm → Mirrors d w.tree u) :
    Attempt.Meets S.Step (fun w => Unpacking d t w.tree)
      (fun _ w' => Unpacking d t w'.tree ∧ S.Lays d (layDirs u names) w')
      (fun _ w' => Unpacking d t w'.tree ∧
        (S.Calm → layDirs u names = none ∧ Mirrors d w'.tree u))
      (Attempt.createDirs (dir.join (ofNames names))) w := by
  have hplace : S.place (dir.join (ofNames names)) = d ++ names := by
    rw [← hd]
    exact placeIn_joinNames S.cwd dir hne hn
  have hmade := h.makeDirs w.sound names
  refine meets_createDirs h ?_ ?_ ?_
  · intro w' hmake hnet
    rw [hplace] at hmake
    rw [hmake] at hmade
    exact ⟨hmade, S.lays_makeDirs hm hmake⟩
  · exact fun e hf => ⟨h, fun hc => absurd hf (hc _)⟩
  · intro e w' hmake hnet
    rw [hplace] at hmake
    rw [hmake] at hmade
    exact ⟨hmade, fun hc => ⟨Setting.layDirs_eq_none (hm hc) hmake,
      (hm hc).congr (node?_of_makeDirs_error w.sound hmake)⟩⟩

/-- A file of the archive once its directory and the file itself are there. -/
theorem layFile_of_created {t₁ t₂ : Tree Node} {p : Place} (hdirs : layDirs u p.dropLast = some t₁)
    (hcreate : makeFile t₁ p = .ok t₂) (mode : Option Nat) {content : Stream}
    (hfault : content.fault = none) :
    layFile u p mode content =
      match mode with
      | none => some (append t₂ p content.bytes)
      | some mode => some (Archive.layMode (append t₂ p content.bytes) p mode) := by
  cases mode <;> simp [layFile, hdirs, hcreate, hfault, Except.toOption]

/-- Setting a mode at the end, if it can be done. -/
theorem meets_trySetMode {path : Path} {p : Place} (mode : Nat) (hp : p ≠ [])
    (hplace : S.place path = d ++ p) (h : Unpacking d t w.tree)
    (hm : S.Calm → Mirrors d w.tree u) :
    (Archive.trySetMode path mode).Meets S.Step (fun w => Unpacking d t w.tree)
      (fun _ w' => Unpacking d t w'.tree ∧
        (S.Calm → Mirrors d w'.tree (Archive.layMode u p mode))) w := by
  unfold Archive.trySetMode
  refine Program.meets_call h ?_
  rintro r w' (⟨⟨hf, -⟩, hw⟩ | ⟨e, he, -, hw⟩ | ⟨t', ht', -, hw⟩)
  · rw [World.eq_of_view hw]
    exact Program.meets_pure ⟨h, fun hc => absurd hf (hc _)⟩
  · rw [World.eq_of_view hw]
    refine Program.meets_pure ⟨h, fun hc => ?_⟩
    rw [hplace] at he
    rw [((hm hc).changeMode hp mode).2 e he]
    exact hm hc
  · have htree : w'.tree = t' := (View.ext_iff.1 hw).1
    rw [hplace, ← htree] at ht'
    exact Program.meets_pure ⟨h.change hp (onlyIn_changeMode ht' (List.prefix_refl _)),
      fun hc => ((hm hc).changeMode hp mode).1 _ ht'⟩

/-- Writing a file of the archive. -/
theorem meets_unpackFile {dir : Path} {names : List Bytes} (mode : Option Nat) (content : Stream)
    (hne : names ≠ []) (hn : ∀ n ∈ names, IsName n) (hd : S.place dir = d)
    (h : Unpacking d t w.tree) (hm : S.Calm → Mirrors d w.tree u) :
    Attempt.Meets S.Step (fun w => Unpacking d t w.tree)
      (fun _ w' => Unpacking d t w'.tree ∧ S.Lays d (layFile u names mode content) w')
      (fun _ w' => Unpacking d t w'.tree ∧ (S.Calm → layFile u names mode content = none ∧
        (content.fault = none → Mirrors d w'.tree u)))
      (Archive.unpackFile (dir.join (ofNames names)) mode content) w := by
  obtain ⟨above, hparent, habove⟩ := exists_parent?_joinNames dir hne hn
  have hplace : S.place (dir.join (ofNames names)) = d ++ names := by
    rw [← hd]
    exact placeIn_joinNames S.cwd dir hne hn
  have hplace' : S.place above = d ++ names.dropLast := by
    rw [← hd]
    exact habove S.cwd
  have hmade := h.makeDirs w.sound names.dropLast
  unfold Archive.unpackFile
  rw [hparent]
  refine Attempt.meets_bind (meets_createDirs h ?_ ?_ ?_)
  · intro w₁ hmake hnet₁
    rw [hplace'] at hmake
    rw [hmake] at hmade
    obtain ⟨u₁, hlay₁⟩ := S.lays_makeDirs hm hmake
    refine Attempt.meets_bind (meets_create hmade ?_ ?_)
    · intro f w₂ hf hcreate hnet₂
      rw [hplace] at hcreate
      have h₂ : Unpacking d t w₂.tree :=
        hmade.change hne (onlyIn_makeFile hcreate (List.prefix_refl _))
      have hpath : S.place f.path = d ++ names := by rw [hf.path_eq, hplace]
      obtain ⟨old, hfile⟩ := node?_makeFile_self hcreate
      refine Attempt.meets_bind (Attempt.meets_context (Attempt.meets_mapFailure
        (Attempt.Meets.mono (meets_copy hpath content hfile) (fun _ hw => h₂.change hne hw.only)
          ?_ ?_)))
      · rintro _ w₃ ⟨hfetch, hnone, hcontent⟩
        have h₃ : Unpacking d t w₃.tree := h₂.change hne hfetch.only
        have hrest : ∀ q, q ≠ d ++ names → node? w₃.tree q = node? w₂.tree q := fun q hq =>
          hfetch.eq_of_ne w₂.sound w₃.sound (by rw [hfile]; simp) hq
        obtain ⟨u₃, hlay₃⟩ : ∃ u₃, S.Calm → Mirrors d w₃.tree u₃ ∧
            layFile u names none content = some u₃ ∧
            ∀ mode, layFile u names (some mode) content = some (Archive.layMode u₃ names mode) := by
          by_cases hc : S.Calm
          · obtain ⟨hu₁, hmirror⟩ := hlay₁ hc
            obtain ⟨u₂, hu₂, hmirror₂⟩ := (hmirror.makeFile hne).1 _ hcreate
            have hfile' : node? u₂ names = some (.file [] old) := by rw [← hmirror₂, hfile]
            exact ⟨_, fun _ => ⟨hmirror₂.written hne hfile' hcontent hrest,
              layFile_of_created hu₁ hu₂ none hnone,
              fun mode => layFile_of_created hu₁ hu₂ (some mode) hnone⟩⟩
          · exact ⟨u, fun hc' => absurd hc' hc⟩
        cases mode with
        | none => exact Attempt.meets_pure ⟨h₃, u₃, fun hc => ⟨(hlay₃ hc).2.1, (hlay₃ hc).1⟩⟩
        | some mode =>
          refine Attempt.meets_lift (Program.Meets.mono
            (meets_trySetMode mode hne hplace h₃ fun hc => (hlay₃ hc).1) (fun _ hw => hw) ?_)
          rintro _ w₄ ⟨h₄, hmode⟩
          exact ⟨h₄, _, fun hc => ⟨(hlay₃ hc).2.2 mode, hmode hc⟩⟩
      · rintro e w₃ ⟨hfetch, hwhy⟩
        refine ⟨h₂.change hne hfetch.only, fun hc => ?_⟩
        rcases hwhy with hl | hsome
        · exact absurd (hf.limit hl) (hc _)
        · refine ⟨by simp [layFile, (hlay₁ hc).1, hsome], fun hnone => ?_⟩
          rw [hnone] at hsome
          cases hsome
    · intro e he
      refine ⟨hmade, fun hc => ?_⟩
      obtain ⟨hu₁, hmirror⟩ := hlay₁ hc
      obtain ⟨e', he'⟩ := he.error hc
      rw [hplace] at he'
      obtain ⟨e'', he''⟩ := (hmirror.makeFile hne).2 e' he'
      refine ⟨by simp [layFile, hu₁, he'', Except.toOption], fun _ => ?_⟩
      rw [← List.dropLast_append_of_ne_nil hne] at hmake
      exact (hm hc).congr (node?_of_makeFile_error w.sound (by simp [hne]) hmake he')
  · exact fun e hf => ⟨h, fun hc => absurd hf (hc _)⟩
  · intro e w' hmake hnet
    rw [hplace'] at hmake
    rw [hmake] at hmade
    refine ⟨hmade, fun hc => ?_⟩
    exact ⟨by simp [layFile, Setting.layDirs_eq_none (hm hc) hmake],
      fun _ => (hm hc).congr (node?_of_makeDirs_error w.sound hmake)⟩

/-! ## Entries -/

/-- The safe path of an entry is made of the names of its place. -/
theorem name_bind_safePath? (e : Archive.Entry) :
    e.name.bind Archive.safePath? = e.place?.map ofNames := by
  unfold Archive.Entry.place? Archive.safePath?
  cases e.name with
  | none => rfl
  | some name =>
    simp only [Option.bind_some, Option.bind_eq_bind]
    cases Archive.safeNames? name.components with
    | none => rfl
    | some names => cases names <;> rfl

theorem isName_of_place? {e : Archive.Entry} {p : Place} (h : e.place? = some p) :
    p ≠ [] ∧ ∀ n ∈ p, IsName n := by
  unfold Archive.Entry.place? at h
  cases hname : e.name with
  | none =>
    rw [hname] at h
    cases h
  | some name =>
    simp only [hname, Option.bind_some, Option.bind_eq_bind] at h
    split at h
    · next first rest hsafe =>
      cases h
      exact ⟨by simp, Archive.isName_of_safeNames? hsafe⟩
    · cases h

/-- Unpacking one entry. -/
theorem meets_unpackEntry {dir : Path} (e : Archive.Entry) (hd : S.place dir = d)
    (h : Unpacking d t w.tree) (hm : S.Calm → Mirrors d w.tree u) :
    Attempt.Meets S.Step (fun w => Unpacking d t w.tree)
      (fun _ w' => Unpacking d t w'.tree ∧ S.Lays d (layEntry u e) w')
      (fun _ w' => Unpacking d t w'.tree ∧ (S.Calm → layEntry u e = none ∧
        ((e.kind = .file → e.content.fault = none) → Mirrors d w'.tree u)))
      (Archive.unpackEntry dir e) w := by
  unfold Archive.unpackEntry layEntry
  rw [name_bind_safePath?]
  cases hp : e.place? with
  | none => exact Attempt.meets_pure ⟨h, u, fun hc => ⟨rfl, hm hc⟩⟩
  | some p =>
    obtain ⟨hne, hn⟩ := isName_of_place? hp
    dsimp only [Option.map_some]
    cases e.kind with
    | directory =>
      exact (meets_unpackDir hne hn hd h hm).mono (fun _ hw => hw) (fun _ _ hw => hw)
        fun _ _ hw => ⟨hw.1, fun hc => ⟨(hw.2 hc).1, fun _ => (hw.2 hc).2⟩⟩
    | file =>
      exact (meets_unpackFile e.mode e.content hne hn hd h hm).mono (fun _ hw => hw)
        (fun _ _ hw => hw) fun _ _ hw => ⟨hw.1, fun hc => ⟨(hw.2 hc).1, fun hf =>
          (hw.2 hc).2 (hf rfl)⟩⟩
    | other => exact Attempt.meets_pure ⟨h, u, fun hc => ⟨rfl, hm hc⟩⟩

/-- Unpacking has stopped at an entry that cannot be laid out. Unless its content could not be read,
there is what the entries before it come to. -/
def Stopped (d : Place) (u : Tree Node) (entries : List Archive.Entry) (t : Tree Node) : Prop :=
  ∃ before e after u', entries = before ++ e :: after ∧ layEntries u before = some u' ∧
    layEntry u' e = none ∧ ((e.kind = .file → e.content.fault = none) → Mirrors d t u')

theorem layEntries_append (u : Tree Node) (entries more : List Archive.Entry) :
    layEntries u (entries ++ more) = (layEntries u entries).bind (layEntries · more) := by
  induction entries generalizing u with
  | nil => rfl
  | cons e rest ih =>
    rw [List.cons_append, layEntries, layEntries, Option.bind_assoc]
    exact congrArg _ (funext ih)

theorem Stopped.layEntries_eq_none {entries : List Archive.Entry} (h : Stopped d u entries t) :
    layEntries u entries = none := by
  obtain ⟨before, e, after, u', rfl, hbefore, he, -⟩ := h
  rw [layEntries_append, hbefore, Option.bind_some, layEntries, he]
  rfl

/-- Unpacking entries in order. -/
theorem meets_unpackEntries {dir : Path} (entries : List Archive.Entry) (hd : S.place dir = d)
    (h : Unpacking d t w.tree) (hm : S.Calm → Mirrors d w.tree u) :
    Attempt.Meets S.Step (fun w => Unpacking d t w.tree)
      (fun _ w' => Unpacking d t w'.tree ∧ S.Lays d (layEntries u entries) w')
      (fun _ w' => Unpacking d t w'.tree ∧ (S.Calm → Stopped d u entries w'.tree))
      (Archive.unpackEntries dir entries) w := by
  induction entries generalizing w u with
  | nil => exact Attempt.meets_pure ⟨h, u, fun hc => ⟨rfl, hm hc⟩⟩
  | cons e rest ih =>
    unfold Archive.unpackEntries layEntries
    refine Attempt.meets_bind (Attempt.Meets.mono (meets_unpackEntry e hd h hm) (fun _ hw => hw)
      ?_ ?_)
    · rintro _ w' ⟨h', u', hlay⟩
      refine Attempt.Meets.mono (ih h' fun hc => (hlay hc).2) (fun _ hw => hw) ?_ ?_
      · rintro _ w'' ⟨h'', u'', hlay'⟩
        refine ⟨h'', u'', fun hc => ?_⟩
        rw [(hlay hc).1]
        exact hlay' hc
      · rintro e' w'' ⟨h'', hstopped⟩
        refine ⟨h'', fun hc => ?_⟩
        obtain ⟨before, e₁, after, u₁, rfl, hbefore, hnone, hmirror⟩ := hstopped hc
        refine ⟨e :: before, e₁, after, u₁, rfl, ?_, hnone, hmirror⟩
        rw [layEntries, (hlay hc).1]
        exact hbefore
    · rintro e' w' ⟨h', hnone⟩
      exact ⟨h', fun hc => ⟨[], e, rest, u, rfl, rfl, (hnone hc).1, (hnone hc).2⟩⟩

/-- Unpacking a listing into a directory that is empty. -/
theorem meets_unpack {dir : Path} (l : Archive.Listing) (hd : S.place dir = d)
    (h : Unpacking d t w.tree) (hm : S.Calm → Mirrors d w.tree {}) :
    Attempt.Meets S.Step (fun w => Unpacking d t w.tree)
      (fun _ w' => Unpacking d t w'.tree ∧ S.Lays d l.tree? w')
      (fun _ w' => Unpacking d t w'.tree ∧ (S.Calm → l.tree? = none))
      (Archive.unpack dir l) w := by
  unfold Archive.unpack Archive.Listing.tree?
  refine Attempt.meets_bind (Attempt.Meets.mono (meets_unpackEntries l.entries hd h hm)
    (fun _ hw => hw) ?_ ?_)
  · rintro _ w' ⟨h', u', hlay⟩
    cases l.failure with
    | some report => exact Attempt.meets_throw ⟨h', fun _ => rfl⟩
    | none => exact Attempt.meets_pure ⟨h', u', hlay⟩
  · rintro e w' ⟨h', hstopped⟩
    refine ⟨h', fun hc => ?_⟩
    cases l.failure with
    | some report => rfl
    | none => exact (hstopped hc).layEntries_eq_none

/-! ## Archives -/

/-- Opening an archive gives all of it, unless failures are injected. -/
theorem meets_openArchive {archive : Path} {body : Bytes} {mode : Nat} {I : World η → Prop}
    (hI : I w) (ha : node? w.tree (S.place archive) = some (.file body mode)) :
    Attempt.Meets S.Step I (fun s w' => w' = w ∧ (S.Calm → s = ⟨body, none⟩))
      (fun _ w' => w' = w ∧ ¬ S.Calm) (Extract.openArchive archive) w := by
  unfold Extract.openArchive
  refine Attempt.meets_context (meets_openFile hI ?_ ?_)
  · intro bytes old s hn hr
    rw [ha] at hn
    cases hn
    refine ⟨rfl, fun hc => ?_⟩
    rcases hr with rfl | ⟨hf, -⟩
    · rfl
    · exact absurd hf (hc _)
  · intro e he
    refine ⟨rfl, fun hc => ?_⟩
    obtain ⟨e', he'⟩ := he.error hc
    rw [file_eq_ok_iff.2 ha] at he'
    cases he'

/-- Extracting an archive into a directory that is empty: only what is below it changes. Without
injected failures it succeeds exactly when the archive has contents, and puts them there. -/
theorem meets_extract {archive dir : Path} (format : ArchiveFormat) {body : Bytes} {mode : Nat}
    (hd : S.place dir = d) (ha : node? w.tree (S.place archive) = some (.file body mode))
    (h : Unpacking d t w.tree) (hm : S.Calm → Mirrors d w.tree {}) :
    Attempt.Meets S.Step (fun w => Unpacking d t w.tree)
      (fun _ w' => Unpacking d t w'.tree ∧ S.Lays d (Archive.contents? format body) w')
      (fun _ w' => Unpacking d t w'.tree ∧ (S.Calm → Archive.contents? format body = none))
      (Extractor.native.run format archive dir) w := by
  cases format with
  | tarGz =>
    unfold Extractor.run Extract.tarGz
    refine Attempt.meets_bind (Attempt.Meets.mono (meets_openArchive h ha) (fun _ hw => hw) ?_ ?_)
    · rintro s w' ⟨rfl, hs⟩
      have hl : S.Calm → Archive.Tar.listing (Archive.Gzip.decode s) =
          Archive.listing .tarGz body := by
        intro hc
        rw [hs hc]
        rfl
      refine Attempt.meets_bind (Attempt.Meets.mono (meets_unpack _ hd h hm) (fun _ hw => hw) ?_ ?_)
      · rintro _ w'' ⟨h'', u', hlay⟩
        refine Attempt.meets_lift (meets_log h'' ⟨h'', u', fun hc => ?_⟩ _ _)
        rw [Archive.contents?, ← hl hc]
        exact hlay hc
      · rintro e w'' ⟨h'', hnone⟩
        refine ⟨h'', fun hc => ?_⟩
        rw [Archive.contents?, ← hl hc]
        exact hnone hc
    · rintro e w' ⟨rfl, hno⟩
      exact ⟨h, fun hc => absurd hc hno⟩
  | zip =>
    unfold Extractor.run Extract.zip
    refine Attempt.meets_bind (Attempt.Meets.mono (meets_openArchive h ha) (fun _ hw => hw) ?_ ?_)
    · rintro s w' ⟨rfl, hs⟩
      refine Attempt.meets_bind (Attempt.meets_ofProgram (Program.meets_pure ?_))
      cases hwhole : Extract.wholeFile archive s with
      | error e =>
        refine ⟨h, fun hc => ?_⟩
        rw [hs hc] at hwhole
        cases hwhole
      | ok bytes =>
        have hbytes : S.Calm → bytes = body := by
          intro hc
          rw [hs hc] at hwhole
          cases hwhole
          rfl
        refine Attempt.meets_bind (Attempt.Meets.mono (meets_unpack _ hd h hm) (fun _ hw => hw)
          ?_ ?_)
        · rintro _ w'' ⟨h'', u', hlay⟩
          refine Attempt.meets_lift (meets_log h'' ⟨h'', u', fun hc => ?_⟩ _ _)
          rw [← hbytes hc]
          exact hlay hc
        · rintro e w'' ⟨h'', hnone⟩
          refine ⟨h'', fun hc => ?_⟩
          rw [← hbytes hc]
          exact hnone hc
    · rintro e w' ⟨rfl, hno⟩
      exact ⟨h, fun hc => absurd hc hno⟩

end Provision.Memory
