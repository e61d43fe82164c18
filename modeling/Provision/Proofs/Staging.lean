import Provision.Proofs.Layout
import Provision.Proofs.Unpacking

/-!
# What staging does

Staging unpacks the archive into a staging directory that is made anew and looks for the binary
there. Nothing else changes, and what is accepted is a file that is not empty.

* `Install.Finds` says where the binary of an unpacked archive is; there is one place only
  (`Finds.unique`).
* `meets_stage`: what staging meets. Without injected failures it fails only if a file is in the way
  of the staging directory or the archive holds no such binary.
-/

namespace Provision

open Memory

namespace Install

/-- Where the binary of an unpacked archive is: at its top, or in the only directory there. -/
structure Finds (T : Place → Option Node) (name : Bytes) (src : Place) (bytes : Bytes)
    (mode : Nat) : Prop where
  file : T (src ++ [name]) = some (.file bytes mode)
  source : src = [] ∨ ∃ wrapper, src = [wrapper] ∧ T [wrapper] = some .dir ∧
    ∀ n, (T [n]).isSome → n = wrapper

theorem Finds.unique {T : Place → Option Node} {name : Bytes} {src src' : Place}
    {bytes bytes' : Bytes} {mode mode' : Nat} (h : Finds T name src bytes mode)
    (h' : Finds T name src' bytes' mode') : src = src' ∧ bytes = bytes' ∧ mode = mode' := by
  -- a file at the top is no directory, so it is not the only entry
  have hmixed : ∀ {wrapper bytes mode}, T [name] = some (.file bytes mode) →
      T [wrapper] = some .dir → (∀ n, (T [n]).isSome → n = wrapper) → False := by
    intro wrapper bytes mode hfile hdir honly
    have hname : name = wrapper := honly name (by rw [hfile]; rfl)
    rw [← hname, hfile] at hdir
    cases hdir
  have hsrc : src = src' := by
    rcases h.source with rfl | ⟨wrapper, rfl, hdir, honly⟩
    · rcases h'.source with rfl | ⟨wrapper', rfl, hdir', honly'⟩
      · rfl
      · exact (hmixed h.file hdir' honly').elim
    · rcases h'.source with rfl | ⟨wrapper', rfl, hdir', honly'⟩
      · exact (hmixed h'.file hdir honly).elim
      · rw [honly' wrapper (by rw [hdir]; rfl)]
  subst hsrc
  have hnode := h.file.symm.trans h'.file
  cases hnode
  exact ⟨rfl, rfl, rfl⟩

/-- An archive holds a binary: it unpacks to a tree in which a file that is not empty is in the
place of the binary. -/
structure Holds (format : ArchiveFormat) (body name : Bytes) (T : Tree Node) (src : Place)
    (bytes : Bytes) (mode : Nat) : Prop where
  contents : Archive.contents? format body = some T
  finds : Finds (node? T) name src bytes mode
  nonempty : bytes ≠ []

/-- A path leads to a staged binary: the one that is found below the staging directory, and it is
not empty. -/
structure Staged (staging : Path) (s : Place) (name : Bytes) (t : Tree Node) (p : Path)
    (src : Place) (bytes : Bytes) (mode : Nat) : Prop where
  components : p.components = staging.components ++ (src ++ [name]).map .normal
  finds : Finds (fun q => node? t (s ++ q)) name src bytes mode
  nonempty : bytes ≠ []

end Install

namespace Memory

open Install (Finds Holds Staged)
open Provision.Path (IsName)

variable {η : Type} {S : Setting η} {w : World η} {s : Place} {t : Tree Node}

/-! ## The staging directory -/

/-- A tree while the staging directory is prepared: nothing else has changed, and no file has come
to be in its place. -/
structure Preparing (s : Place) (t t' : Tree Node) : Prop where
  only : OnlyIn s t t'
  noFile : ∀ bytes mode, node? t' s = some (.file bytes mode) → node? t s = some (.file bytes mode)

theorem Preparing.refl (s : Place) (t : Tree Node) : Preparing s t t := ⟨.refl s t, fun _ _ h => h⟩

theorem Unpacking.preparing {t' : Tree Node} (h : Unpacking s t t') : Preparing s t t' where
  only := h.only
  noFile bytes mode hf := by
    rw [h.dir] at hf
    cases hf

/-- Creating a directory in a directory, where nothing is. -/
theorem makeDirs_fresh {t : Tree Node} (hs : Sound t) (hne : s ≠ [])
    (habove : node? t s.dropLast = some .dir) (hnone : node? t s = none) :
    (makeDirs t [] s).1 = .ok () ∧ Unpacking s t (makeDirs t [] s).2 ∧
      Mirrors s (makeDirs t [] s).2 {} := by
  have hway : OnTheWay [] s s := onTheWay_nil_iff.2 ⟨hne, List.prefix_refl s⟩
  rcases makeDirs_cases t [] s with ⟨hok, hdirs⟩ | ⟨-, q, bytes, mode, hq, hfile⟩
  · have hdir := hdirs s hway
    refine ⟨hok, ⟨onlyIn_makeDirs hs (List.prefix_refl s) habove, hdir⟩, ?_⟩
    refine mirrors_empty hdir fun q hq => ?_
    rcases makeDirs_node? t [] s (s ++ q) with h | ⟨h, -, -⟩
    · rw [h, hs.none_below hq (by simp [hnone])]
    · have hlen := (onTheWay_nil_iff.1 h).2.length_le
      rw [List.length_append] at hlen
      have : q.length ≠ 0 := by simpa using hq
      omega
  · -- a file on the way would be above the directory or at the place itself
    exfalso
    have hprefix : q <+: s := (onTheWay_nil_iff.1 hq).2
    by_cases hqs : q = s
    · rw [hqs, hnone] at hfile
      cases hfile
    · rw [hs.dir_of_prefix habove (prefix_dropLast hprefix hqs)] at hfile
      cases hfile

/-- No file is in a place. -/
def NoFile (t : Tree Node) (p : Place) : Prop := ∀ bytes mode, node? t p ≠ some (.file bytes mode)

theorem noFile_of_none {t : Tree Node} {p : Place} (h : node? t p = none) : NoFile t p := by
  intro bytes mode hf
  rw [h] at hf
  cases hf

/-- Making the staging directory anew. Without injected failures only a file in its place stops it.
-/
theorem meets_clearStaging {staging : Path} (hplace : S.place staging = s) (hne : s ≠ [])
    (habove : node? w.tree s.dropLast = some .dir) :
    Attempt.Meets S.Step (fun w' => Preparing s w.tree w'.tree)
      (fun _ w' => NoFile w.tree s ∧ Unpacking s w.tree w'.tree ∧ Mirrors s w'.tree {})
      (fun _ w' => Preparing s w.tree w'.tree ∧ (S.Calm → ¬ NoFile w.tree s))
      (Install.clearStaging staging) w := by
  have hcreate : ∀ w₁ : World η, NoFile w.tree s → Preparing s w.tree w₁.tree →
      node? w₁.tree s = none →
      Attempt.Meets S.Step (fun w' => Preparing s w.tree w'.tree)
        (fun _ w' => NoFile w.tree s ∧ Unpacking s w.tree w'.tree ∧ Mirrors s w'.tree {})
        (fun _ w' => Preparing s w.tree w'.tree ∧ (S.Calm → ¬ NoFile w.tree s))
        (Attempt.createDirs staging) w₁ := by
    intro w₁ hfree h₁ hnone
    have habove₁ : node? w₁.tree s.dropLast = some .dir := by
      rw [h₁.only, habove]
      intro hp
      have hlen := hp.length_le
      rw [List.length_dropLast] at hlen
      have : s.length ≠ 0 := by simpa using hne
      omega
    obtain ⟨hok, hun, hempty⟩ := makeDirs_fresh w₁.sound hne habove₁ hnone
    refine meets_createDirs h₁ ?_ (fun e hf => ⟨h₁, fun hc => absurd hf (hc _)⟩) ?_
    · intro w₂ hmake hnet
      rw [hplace] at hmake
      rw [hmake] at hun hempty
      exact ⟨hfree, ⟨h₁.only.trans hun.only, hun.dir⟩, hempty⟩
    · intro e w₂ hmake hnet
      rw [hplace] at hmake
      rw [hmake] at hok
      cases hok
  unfold Install.clearStaging
  refine Attempt.meets_bind (Attempt.meets_lift (meets_pathExists (.refl s _) ?_))
  rw [hplace]
  rcases Option.eq_none_or_eq_some (node? w.tree s) with hn | ⟨v, hn⟩
  · rw [show (node? w.tree s).isSome = false by rw [hn]; rfl]
    exact hcreate w (noFile_of_none hn) (.refl s _) hn
  · rw [show (node? w.tree s).isSome = true by rw [hn]; rfl]
    refine Attempt.meets_bind (meets_removeTree (.refl s _) ?_ ?_)
    · intro w₁ hdrop hnet
      rw [hplace] at hdrop
      have hgone : node? w₁.tree s = none := by
        rw [(dropDir_ok hdrop).2, node?_removeAt _ hne, if_pos (List.prefix_refl s)]
      refine hcreate w₁ ?_ ⟨?_, fun bytes mode hf => ?_⟩ hgone
      · intro bytes mode hf
        rw [(dropDir_ok hdrop).1] at hf
        cases hf
      · rw [(dropDir_ok hdrop).2]
        exact onlyIn_removeAt _ hne (List.prefix_refl s)
      · rw [hgone] at hf
        cases hf
    · intro e he
      refine ⟨.refl s _, fun hc => ?_⟩
      obtain ⟨e', he'⟩ := he.error hc
      rw [hplace] at he'
      cases v with
      | dir => exact absurd hn (dropDir_error he')
      | file bytes mode => exact fun hfree => hfree bytes mode hn

/-! ## Finding the binary -/

theorem eq_singleton_of_nodup {l : List Bytes} {x : Bytes} (hl : l.Nodup) (hx : x ∈ l)
    (h : ∀ y ∈ l, y = x) : l = [x] := by
  match l, hl, hx, h with
  | [y], _, hx, _ => rw [List.mem_singleton.1 hx]
  | y :: z :: rest, hl, _, h =>
    have hy : y = x := h y (by simp)
    have hz : z = x := h z (by simp)
    simp [hy, hz] at hl

/-- Looking for the only directory among names below a place. -/
theorem meets_onlyDirectory? {staging : Path} {I : World η → Prop} (hI : I w)
    (hplace : S.place staging = s) {names : List Bytes} (hn : ∀ n ∈ names, IsName n) :
    (Install.onlyDirectory? (names.map staging.child)).Meets S.Step I
      (fun r w' => w' = w ∧
        ((∃ wrapper, r = some (staging.child wrapper) ∧ names = [wrapper] ∧
            node? w.tree (s ++ [wrapper]) = some .dir) ∨
          (r = none ∧ ∀ wrapper, names = [wrapper] →
            node? w.tree (s ++ [wrapper]) ≠ some .dir))) w := by
  match names, hn with
  | [], _ => exact Program.meets_pure ⟨rfl, .inr ⟨rfl, by simp⟩⟩
  | [wrapper], hn =>
    have hchild : S.place (staging.child wrapper) = s ++ [wrapper] := by
      rw [← hplace]
      exact placeIn_child S.cwd staging (hn wrapper (by simp))
    refine Program.meets_bind (meets_isDir hI ?_)
    rw [hchild]
    by_cases hd : hasDir w.tree (s ++ [wrapper]) = true
    · rw [if_pos hd]
      exact Program.meets_pure ⟨rfl, .inl ⟨wrapper, rfl, rfl, hasDir_iff.1 hd⟩⟩
    · rw [if_neg hd]
      refine Program.meets_pure ⟨rfl, .inr ⟨rfl, ?_⟩⟩
      rintro other hother hd'
      cases hother
      exact hd (hasDir_iff.2 hd')
  | _ :: _ :: _, _ => exact Program.meets_pure ⟨rfl, .inr ⟨rfl, by simp⟩⟩

/-- Without a file at the top, the binary can only be in the only directory there. -/
theorem wrapped_of_finds {name : Bytes} {src : Place} {bytes : Bytes} {mode : Nat}
    (ht : Sound t) (htop : NoFile t (s ++ [name]))
    (h : Finds (fun q => node? t (s ++ q)) name src bytes mode) :
    ∃ wrapper, t.names s = [wrapper] ∧ node? t (s ++ [wrapper]) = some .dir ∧
      node? t (s ++ [wrapper, name]) = some (.file bytes mode) := by
  obtain ⟨hfile, rfl | ⟨wrapper, rfl, hwrapper, honly⟩⟩ := h
  · exact absurd hfile (htop bytes mode)
  · refine ⟨wrapper, eq_singleton_of_nodup (nodup_names _ _) ?_ ?_, hwrapper, hfile⟩
    · exact (mem_names_iff ht).2 (by rw [hwrapper]; rfl)
    · exact fun n hn => honly n ((mem_names_iff ht).1 hn)

/-- Looking for the binary in the only directory, when it is not at the top. -/
theorem meets_findWrapped {staging : Path} {name : String} {I : World η → Prop} (hI : I w)
    (hplace : S.place staging = s) (hname : IsName (Bytes.ofText name))
    (hdir : node? w.tree s = some .dir) (htop : NoFile w.tree (s ++ [Bytes.ofText name])) :
    Attempt.Meets S.Step I
      (fun p w' => w' = w ∧ ∃ src bytes mode,
        p.components = staging.components ++ (src ++ [Bytes.ofText name]).map .normal ∧
          Finds (fun q => node? w.tree (s ++ q)) (Bytes.ofText name) src bytes mode)
      (fun _ w' => w' = w ∧ (S.Calm → ¬ ∃ src bytes mode,
        Finds (fun q => node? w.tree (s ++ q)) (Bytes.ofText name) src bytes mode))
      (do
        let items ← Attempt.list staging
        if let some wrapper ← Install.onlyDirectory? items then
          let nested := wrapper.entry name
          if ← Program.ask (.isFile nested) then return nested
        throw (.ofMessage ("Archive does not contain " ++ name))) w := by
  refine Attempt.meets_bind (meets_list hI ?_ ?_)
  · intro hd
    rw [hplace]
    have hisName : ∀ n ∈ w.tree.names s, IsName n := fun n hn =>
      w.sound.isName s n ((mem_names_iff w.sound).1 hn)
    refine Attempt.meets_bind (Attempt.meets_lift (Program.Meets.mono
      (meets_onlyDirectory? hI hplace hisName) (fun _ hw => hw) ?_))
    rintro r w' ⟨rfl, ⟨wrapper, rfl, hone, hwrapper⟩ | ⟨rfl, hnone⟩⟩
    · have hwrapperName : IsName wrapper := hisName wrapper (by rw [hone]; simp)
      have hnested : S.place ((staging.child wrapper).entry name) =
          s ++ [wrapper, Bytes.ofText name] := by
        rw [Setting.place, Install.place_entry S.cwd _ hname, placeIn_child S.cwd _ hwrapperName,
          ← hplace, List.append_assoc]
        rfl
      have hcomp : ((staging.child wrapper).entry name).components =
          staging.components ++ ([wrapper] ++ [Bytes.ofText name]).map .normal := by
        rw [show ((staging.child wrapper).entry name).components = _ from
          Path.components_child _ hname, Path.components_child staging hwrapperName,
          List.append_assoc]
        rfl
      refine Attempt.meets_bind (Attempt.meets_lift (meets_isFile hI ?_))
      rw [hnested]
      by_cases hf : (file w'.tree (s ++ [wrapper, Bytes.ofText name])).isOk = true
      · obtain ⟨bytes, mode, hfile⟩ := isOk_file_iff.1 hf
        rw [if_pos hf]
        refine Attempt.meets_pure ⟨rfl, [wrapper], bytes, mode, hcomp, hfile,
          .inr ⟨wrapper, rfl, hwrapper, fun n hn => ?_⟩⟩
        have hmem := (mem_names_iff w'.sound).2 hn
        rw [hone] at hmem
        exact List.mem_singleton.1 hmem
      · rw [if_neg hf]
        refine Attempt.meets_throw ⟨rfl, fun _ => ?_⟩
        rintro ⟨src, bytes, mode, hfinds⟩
        obtain ⟨wrapper', hone', -, hfile⟩ := wrapped_of_finds w'.sound htop hfinds
        rw [hone] at hone'
        cases hone'
        exact hf (isOk_file_iff.2 ⟨bytes, mode, hfile⟩)
    · refine Attempt.meets_throw ⟨rfl, fun _ => ?_⟩
      rintro ⟨src, bytes, mode, hfinds⟩
      obtain ⟨wrapper, hone, hwrapper, -⟩ := wrapped_of_finds w'.sound htop hfinds
      exact hnone wrapper hone hwrapper
  · rintro e (he | he)
    · exact ⟨rfl, fun hc => absurd he (hc _)⟩
    · rw [hplace] at he
      exact absurd hdir he

/-- Looking for the binary changes nothing. It finds the one that is there. -/
theorem meets_findBinary {staging : Path} {name : String} {I : World η → Prop} (hI : I w)
    (hplace : S.place staging = s) (hname : IsName (Bytes.ofText name))
    (hdir : node? w.tree s = some .dir) :
    Attempt.Meets S.Step I
      (fun p w' => w' = w ∧ ∃ src bytes mode,
        p.components = staging.components ++ (src ++ [Bytes.ofText name]).map .normal ∧
          Finds (fun q => node? w.tree (s ++ q)) (Bytes.ofText name) src bytes mode)
      (fun _ w' => w' = w ∧ (S.Calm → ¬ ∃ src bytes mode,
        Finds (fun q => node? w.tree (s ++ q)) (Bytes.ofText name) src bytes mode))
      (Install.findBinary staging name) w := by
  have hdirect : S.place (staging.entry name) = s ++ [Bytes.ofText name] := by
    rw [← hplace]
    exact Install.place_entry S.cwd staging hname
  unfold Install.findBinary
  refine Attempt.meets_bind (Attempt.meets_lift (meets_isFile hI ?_))
  rw [hdirect]
  by_cases hf : (file w.tree (s ++ [Bytes.ofText name])).isOk = true
  · obtain ⟨bytes, mode, hfile⟩ := isOk_file_iff.1 hf
    rw [if_pos hf]
    refine Attempt.meets_pure ⟨rfl, [], bytes, mode, ?_, hfile, .inl rfl⟩
    exact Path.components_child staging hname
  · rw [if_neg hf]
    refine meets_findWrapped hI hplace hname hdir ?_
    exact fun bytes mode hfile => hf (isOk_file_iff.2 ⟨bytes, mode, hfile⟩)

/-! ## Staging -/

/-- Looking at the binary changes nothing and cannot fail. -/
theorem meets_isNative {path : Path} {key : Key} {I : World η → Prop} (hI : I w) :
    (Install.isNative path key).Meets S.Step I (fun _ w' => w' = w) w := by
  unfold Install.isNative
  refine Program.meets_bind (Program.Meets.mono (meets_openFile (Q := fun _ w' => w' = w)
    (R := fun _ w' => w' = w) hI (fun _ _ _ _ _ => rfl) fun _ _ => rfl) (fun _ hw => hw) ?_)
  rintro (e | stream) w' hw
  · exact Program.meets_pure hw
  · exact Program.meets_pure hw

/-- Accepting a binary that was found changes nothing; it is refused when it is empty. -/
theorem meets_accept {binary : Path} {key : Key} {p : Place} {bytes : Bytes} {mode : Nat}
    {I : World η → Prop} (hI : I w) (hp : S.place binary = p)
    (hfile : node? w.tree p = some (.file bytes mode)) :
    Attempt.Meets S.Step I (fun accepted w' => accepted = binary ∧ w' = w ∧ bytes ≠ [])
      (fun _ w' => w' = w ∧ (S.Calm → bytes = []))
      (do
        if (← Attempt.size binary) = 0 then
          throw (.ofMessage ("Extracted " ++ key.binary ++ " is empty"))
        if !(← Install.isNative binary key) then
          logWarn (binary.quoted ++ " does not look like a native " ++ key.name ++ " executable")
        return binary) w := by
  subst hp
  refine Attempt.meets_bind (meets_size hI ?_ ?_)
  · intro bytes' mode' hn
    rw [hfile] at hn
    cases hn
    by_cases hz : bytes.length = 0
    · rw [if_pos hz]
      exact Attempt.meets_bind (Attempt.meets_throw ⟨rfl, fun _ => List.length_eq_zero_iff.1 hz⟩)
    · rw [if_neg hz]
      have hbytes : bytes ≠ [] := fun hb => hz (by rw [hb]; rfl)
      refine Attempt.meets_bind (Attempt.meets_lift (Program.Meets.mono
        (meets_isNative hI) (fun _ hw => hw) ?_))
      rintro native w' rfl
      dsimp only
      split_ifs
      · refine Attempt.meets_bind (Attempt.meets_lift (meets_log hI ?_ _ _))
        exact Attempt.meets_pure ⟨rfl, rfl, hbytes⟩
      · exact Attempt.meets_pure ⟨rfl, rfl, hbytes⟩
  · intro e he
    refine ⟨rfl, fun hc => ?_⟩
    obtain ⟨e', he'⟩ := he.error hc
    rw [file_eq_ok_iff.2 hfile] at he'
    cases he'

/-- Staging: only the staging directory changes, and a binary is accepted that is there and not
empty. Without injected failures it is the one that the archive holds; staging fails only if a file
is in the way or the archive holds none. -/
theorem meets_stage {archive staging : Path} {key : Key} {a : Place} {body : Bytes} {mode : Nat}
    (ha : S.place archive = a) (hs : S.place staging = s) (hne : s ≠ []) (hout : ¬ s <+: a)
    (habove : node? w.tree s.dropLast = some .dir)
    (hfile : node? w.tree a = some (.file body mode)) :
    Attempt.Meets S.Step (fun w' => Preparing s w.tree w'.tree)
      (fun p w' => NoFile w.tree s ∧ Unpacking s w.tree w'.tree ∧
        (∃ src bytes mode, Staged staging s (Bytes.ofText key.binary) w'.tree p src bytes mode) ∧
        (S.Calm → ∃ T, Archive.contents? key.naming.format body = some T ∧ Mirrors s w'.tree T))
      (fun _ w' => Preparing s w.tree w'.tree ∧
        (S.Calm → NoFile w.tree s → ¬ ∃ T src bytes mode,
            Holds key.naming.format body (Bytes.ofText key.binary) T src bytes mode))
      (Install.stage .native key archive staging) w := by
  have hname : IsName (Bytes.ofText key.binary) := Install.isName_binary key
  unfold Install.stage
  refine Attempt.meets_bind (Attempt.Meets.mono (meets_clearStaging hs hne habove)
    (fun _ hw => hw) ?_ ?_)
  · rintro _ w₁ ⟨hfree, h₁, hempty⟩
    have hfile₁ : node? w₁.tree (S.place archive) = some (.file body mode) := by
      rw [ha, h₁.only a hout, hfile]
    refine Attempt.meets_bind (Attempt.Meets.mono
      (meets_extract key.naming.format hs hfile₁ h₁ fun _ => hempty)
      (fun _ hw => hw.preparing) ?_ ?_)
    · rintro _ w₂ ⟨h₂, T, hlay⟩
      -- what is below the staging directory looks like the contents
      have hview : S.Calm → (fun q => node? w₂.tree (s ++ q)) = node? T := fun hc =>
        funext (hlay hc).2
      refine Attempt.meets_bind (Attempt.Meets.mono
        (meets_findBinary h₂.preparing hs hname h₂.dir) (fun _ hw => hw) ?_ ?_)
      · rintro p w₃ ⟨rfl, src, bytes, mode, hcomp, hfinds⟩
        have hp : S.place p = s ++ (src ++ [Bytes.ofText key.binary]) := by
          rw [← hs]
          exact placeIn_of_components hcomp
        refine Attempt.Meets.mono (meets_accept h₂.preparing hp hfinds.file) (fun _ hw => hw) ?_ ?_
        · rintro accepted w₄ ⟨rfl, rfl, hbytes⟩
          exact ⟨hfree, h₂, ⟨src, bytes, mode, hcomp, hfinds, hbytes⟩, fun hc => ⟨T, hlay hc⟩⟩
        · rintro e w₄ ⟨rfl, hempty⟩
          refine ⟨h₂.preparing, fun hc _ => ?_⟩
          rintro ⟨T', src', bytes', mode', hcont, hfinds', hnonempty⟩
          rw [(hlay hc).1] at hcont
          cases hcont
          rw [← hview hc] at hfinds'
          rw [(hfinds'.unique hfinds).2.1] at hnonempty
          exact hnonempty (hempty hc)
      · rintro e w₃ ⟨rfl, hno⟩
        refine ⟨h₂.preparing, fun hc _ => ?_⟩
        rintro ⟨T', src, bytes, mode, hcont, hfinds, -⟩
        rw [(hlay hc).1] at hcont
        cases hcont
        rw [← hview hc] at hfinds
        exact hno hc ⟨src, bytes, mode, hfinds⟩
    · rintro e w₂ ⟨h₂, hnone⟩
      refine ⟨h₂.preparing, fun hc _ => ?_⟩
      rintro ⟨T, src, bytes, mode, hcont, -, -⟩
      rw [hnone hc] at hcont
      cases hcont
  · rintro e w₁ ⟨h₁, hblocked⟩
    exact ⟨h₁, fun hc hfree => absurd hfree (hblocked hc)⟩

end Memory

end Provision
