import Provision.Proofs.Carrying

/-!
# The files beside the binary

Finalizing moves everything that was staged together with the binary, and only warns about what it
cannot move. So whatever happens to those side files, the binary arrives, unless one of them has the
directory that it comes from in its way.

* `meets_finalizeSparing` is finalizing where the calls for the binary are spared and nothing is in
  the way, `meets_finalizeClash` where something is.
* `meets_handedOver` says what staging hands over.
* `finalize_side_files` is the result for runs after staging.
-/

namespace Provision

variable {α ε : Type}

namespace Install

open Memory
open Provision.Path (IsName)

section Finalizing

variable {η : Type} {S : Setting η} {source directory staged : Path} {d bin : Place} {b : Bytes}
  {w : World η}

/-- Makes the staged binary executable. -/
def chmod (key : Key) (staged : Path) : Attempt Report Unit := do
  if !key.isWindows then
    (Attempt.setMode staged binaryMode).context "Failed to make binary executable"

/-- Moves everything that is staged in a directory, the binary last. -/
def moveAll (staged source directory binary : Path) : Attempt Report Unit := do
  moveOthers staged directory (← Attempt.list source)
  (replace staged binary).context ("Failed to move binary to " ++ binary.quoted)

theorem finalize_eq (key : Key) {binary : Path} (h : staged.parent? = some source) :
    finalize key staged directory binary = (do
      chmod key staged
      moveAll staged source directory binary) := by
  unfold finalize chmod moveAll
  rw [h]
  cases key.isWindows with
  | true => rfl
  | false => rfl

theorem allCalls_chmod {P : Call → Prop} (key : Key) (h : P (.setMode staged binaryMode)) :
    Attempt.AllCalls P (chmod key staged) := by
  unfold chmod
  split_ifs
  · exact Attempt.allCalls_context (Attempt.allCalls_ofProgram (Program.allCalls_ask h))
  · exact Attempt.allCalls_pure _

/-- Setting the mode leaves the content and everything else as it is. -/
structure Chmodded (key : Key) (p : Place) (bytes : Bytes) (mode : Nat) (t t' : Tree Node) : Prop
    where
  self : node? t' p = some (.file bytes (finalMode key mode))
  other : ∀ q, q ≠ p → node? t' q = node? t q

theorem Chmodded.standing {key : Key} {bytes : Bytes} {mode : Nat} {t t' : Tree Node}
    (h : Chmodded key (d ++ [b]) bytes mode t t') (hbin : node? t bin = some .dir)
    (hfile : node? t (d ++ [b]) = some (.file bytes mode)) :
    Standing d bin b (.file bytes (finalMode key mode)) t' := by
  refine ⟨?_, h.self⟩
  rw [h.other, hbin]
  rintro rfl
  rw [hfile] at hbin
  cases hbin

theorem Chmodded.mem_names_iff {key : Key} {bytes : Bytes} {mode : Nat} {t t' : Tree Node}
    (h : Chmodded key (d ++ [b]) bytes mode t t')
    (hfile : node? t (d ++ [b]) = some (.file bytes mode)) (hs : Sound t) (hs' : Sound t')
    {n : Bytes} : n ∈ t'.names d ↔ n ∈ t.names d := by
  rw [Memory.mem_names_iff hs, Memory.mem_names_iff hs']
  by_cases hb : n = b
  · rw [hb, h.self, hfile]
    exact iff_of_true rfl rfl
  · rw [h.other]
    simpa using hb

theorem meets_chmod (hcalm : S.Calm) (key : Key) {bytes : Bytes} {mode : Nat} {p : Place}
    (hstaged : S.place staged = p) (hfile : node? w.tree p = some (.file bytes mode)) :
    Attempt.Meets S.Step (fun _ => True)
      (fun _ w' => Chmodded key p bytes mode w.tree w'.tree) (fun _ _ => False)
      (chmod key staged) w := by
  unfold chmod
  cases hwin : key.isWindows with
  | true =>
    refine Attempt.meets_pure ⟨?_, fun _ _ => rfl⟩
    rw [finalMode, if_pos hwin, hfile]
  | false =>
    refine Attempt.meets_context (meets_setMode trivial ?_ ?_)
    · intro w' hchange _
      rw [hstaged] at hchange
      refine ⟨?_, fun q hq => ?_⟩
      · rw [finalMode, hwin]
        exact node?_changeMode_self hfile hchange
      · rcases changeMode_ok hchange with ⟨-, heq⟩ | ⟨_, _, hp, -, heq⟩
        · rw [heq]
        · rw [heq, node?_set _ _ hp, if_neg hq]
    · intro e he
      obtain ⟨e', he'⟩ := he.error hcalm
      rw [hstaged] at he'
      rw [changeMode_error he'] at hfile
      cases hfile

/-- Is a call made for the binary and not for a side file? -/
def ForBinary (staged source binary : Path) : Call → Prop
  | .setMode path _ => path = staged
  | .list path => path = source
  | .removeTree path => path = binary
  | .rename path target => path = staged ∧ target = binary
  | _ => False

instance (staged source binary : Path) (c : Call) :
    Decidable (ForBinary staged source binary c) := by
  cases c <;> unfold ForBinary <;> infer_instance

theorem ForBinary.point {binary : Path} {c : Call} (h : ForBinary staged source binary c) :
    c.point?.isSome := by
  cases c <;> first | rfl | cases h

/-- A program that makes only calls for the binary meets no injected failure where those are spared.
-/
theorem meets_spared {binary : Path} {I : World η → Prop} {Q : α → World η → Prop}
    {R : ε → World η → Prop} {p : Attempt ε α}
    (hp : p.AllCalls fun c => ForBinary staged source binary c ∨ c = .isDir binary)
    (h : Attempt.Meets S.calm.Step I Q R p w) :
    Attempt.Meets (S.Sparing (ForBinary staged source binary)) I Q R p w := by
  refine Program.AllCalls.meets_of_rule hp ?_ h
  rintro c (hc | rfl) w a w' hstep
  · exact hstep.2 hc
  · exact hstep.1

/-- What moves everything, once the binary has its mode and no side file is in the way. -/
theorem meets_moveAllSparing {binary : Path} {v : Node}
    (hi : Sources S source directory staged d bin b) (hbinary : S.place binary = bin ++ [b])
    (hv : v ≠ .dir) (hclash : ∀ n ∈ w.tree.names d, ¬ Clash bin d n)
    (h : Standing d bin b v w.tree) :
    Attempt.Meets (S.Sparing (ForBinary staged source binary)) (fun _ => True)
      (fun _ w' => node? w'.tree (bin ++ [b]) = some v) (fun _ _ => False)
      (moveAll staged source directory binary) w := by
  have hcalm : Sources S.calm source directory staged d bin b :=
    ⟨hi.source_eq, hi.directory_eq, hi.staged_eq⟩
  have hdir : node? w.tree d = some .dir := w.sound.above d b (by rw [h.staged]; rfl)
  have hnames : ∀ n ∈ w.tree.names d, IsName n := fun n hn =>
    w.sound.isName d n ((mem_names_iff w.sound).1 hn)
  unfold moveAll
  refine Attempt.meets_bind (Attempt.Meets.mono (meets_spared
    (Attempt.allCalls_ofProgram (Program.allCalls_ask (.inl rfl)))
    (meets_list (Q := fun items w' => w' = w ∧ items = (w.tree.names d).map source.child)
      (R := fun _ _ => False) trivial ?_ ?_)) (fun _ hw => hw) ?_ fun _ _ he => he)
  · intro _
    rw [hcalm.source_eq]
    exact ⟨rfl, rfl⟩
  · rintro e (he | he)
    · exact he
    · rw [hcalm.source_eq] at he
      exact he hdir
  rintro _ w' ⟨rfl, rfl⟩
  have hothers := meets_standing hi hnames (fun n hn _ => hclash n hn)
    (allCalls_moveOthers hi hnames fun _ hm => hm) h
  have hothers' := (Program.allCalls_of_forall (P := fun _ => True) (fun _ => trivial)
    _).meets_of_rule (F := S.Sparing (ForBinary staged source binary))
    (fun _ _ _ _ _ hstep => hstep.1) hothers
  refine Attempt.meets_bind (Attempt.meets_lift (Program.Meets.mono hothers'
    (fun _ _ => trivial) fun _ w₁ h₁ => ?_))
  have hb : ¬ Clash bin d b := hclash b ((mem_names_iff w'.sound).2 (by rw [h.staged]; rfl))
  exact Attempt.meets_context (meets_spared
    (allCalls_replace (.inr rfl) (.inl rfl) (.inl ⟨rfl, rfl⟩))
    (meets_replaceStaged S.calm_calm hcalm hbinary hv hb h₁))

/-- Finalizing where the calls for the binary are spared and no side file is in the way. -/
theorem meets_finalizeSparing (key : Key) {binary : Path} {bytes : Bytes} {mode : Nat}
    (hparent : staged.parent? = some source) (hi : Sources S source directory staged d bin b)
    (hbinary : S.place binary = bin ++ [b]) (hbin : node? w.tree bin = some .dir)
    (hfile : node? w.tree (d ++ [b]) = some (.file bytes mode))
    (hclash : ∀ n ∈ w.tree.names d, ¬ Clash bin d n) :
    Attempt.Meets (S.Sparing (ForBinary staged source binary)) (fun _ => True)
      (fun _ w' => node? w'.tree (bin ++ [b]) = some (.file bytes (finalMode key mode)))
      (fun _ _ => False) (finalize key staged directory binary) w := by
  rw [finalize_eq key hparent]
  refine Attempt.meets_bind (Attempt.Meets.mono (meets_spared (allCalls_chmod key (.inl rfl))
    (meets_chmod S.calm_calm key hi.place_staged hfile)) (fun _ hw => hw) ?_ fun _ _ he => he)
  intro _ w₁ hchmod
  refine meets_moveAllSparing hi hbinary (by simp) ?_ (hchmod.standing hbin hfile)
  exact fun n hn => hclash n ((hchmod.mem_names_iff hfile w.sound w₁.sound).1 hn)

/-- Finalizing without injected failures where a side file, or the binary, is in the way. -/
theorem meets_finalizeClash (hcalm : S.Calm) (key : Key) {binary : Path} {bytes : Bytes}
    {mode : Nat} (hparent : staged.parent? = some source)
    (hi : Sources S source directory staged d bin b) (hbinary : S.place binary = bin ++ [b])
    (hbin : node? w.tree bin = some .dir)
    (hfile : node? w.tree (d ++ [b]) = some (.file bytes mode)) {k : Bytes}
    (hk : k ∈ w.tree.names d) (hclash : Clash bin d k) :
    Attempt.Meets S.Step (fun _ => True) (fun _ _ => False) (fun _ _ => True)
      (finalize key staged directory binary) w := by
  rw [finalize_eq key hparent]
  refine Attempt.meets_bind (Attempt.Meets.mono (meets_chmod hcalm key hi.place_staged hfile)
    (fun _ hw => hw) ?_ fun _ _ he => he.elim)
  intro _ w₁ hchmod
  have h := hchmod.standing hbin hfile
  have hnames : ∀ n ∈ w₁.tree.names d, IsName n := fun n hn =>
    w₁.sound.isName d n ((mem_names_iff w₁.sound).1 hn)
  have hk₁ := (hchmod.mem_names_iff hfile w.sound w₁.sound).2 hk
  unfold moveAll
  refine Attempt.meets_bind (meets_list trivial (fun _ => ?_) fun _ _ => trivial)
  rw [hi.source_eq]
  by_cases hkb : k = b
  · subst hkb
    -- no other name can clash, so the binary is there until its own place is cleared
    refine Attempt.meets_bind (Attempt.meets_lift (Program.Meets.mono
      (meets_standing hi hnames (fun n _ hn hc => hn (hc.unique hclash))
        (allCalls_moveOthers hi hnames fun _ hm => hm) h) (fun _ _ => trivial) fun _ w₂ h₂ => ?_))
    exact Attempt.meets_context (meets_replaceClash hi.place_staged hbinary hclash
      (w₂.sound.above d k (by rw [h₂.staged]; rfl)) (fun _ _ _ => trivial) fun _ _ => trivial)
  · refine Attempt.meets_bind (Attempt.meets_lift (Program.Meets.mono
      (meets_moveOthersClash hcalm hi hclash hkb hnames hk₁ (nodup_names _ _) h)
      (fun _ hw => hw) fun _ w₂ hgone => ?_))
    exact Attempt.meets_context (meets_replaceGone hi.place_staged hbinary hgone)

end Finalizing

/-! ## What staging hands over -/

section Staging

variable {η : Type} {S : Setting η} {w : World η}

theorem meets_any (p : Attempt ε α) :
    Attempt.Meets S.Step (fun _ => True) (fun _ _ => True) (fun _ _ => True) p w := by
  refine Program.Meets.mono (Program.meets_any p.run) (fun _ hw => hw) ?_
  rintro (e | a) _ _ <;> trivial

/-- There is a file that is found below some directory. -/
def Found (S : Setting η) (name : String) (p : Path) (t : Tree Node) : Prop :=
  (∃ dir : Path, p = dir.entry name) ∧ ∃ bytes mode, node? t (S.place p) = some (.file bytes mode)

theorem meets_found (staging : Path) (name : String) :
    Attempt.Meets S.Step (fun _ => True) (fun p w' => Found S name p w'.tree) (fun _ _ => True)
      (findBinary staging name) w := by
  have hfound : ∀ (dir : Path) (w₁ : World η),
      (file w₁.tree (S.place (dir.entry name))).isOk = true →
        Found S name (dir.entry name) w₁.tree := fun dir w₁ hok =>
    ⟨⟨dir, rfl⟩, isOk_file_iff.1 hok⟩
  unfold findBinary
  refine Attempt.meets_bind (Attempt.meets_lift (meets_isFile trivial ?_))
  split_ifs with hok
  · exact Attempt.meets_pure (hfound staging w hok)
  refine Attempt.meets_bind (Attempt.Meets.mono (meets_any _) (fun _ hw => hw) ?_
    fun _ _ he => he)
  intro items w₁ _
  refine Attempt.meets_bind (Attempt.meets_lift (Program.Meets.mono (Program.meets_any _)
    (fun _ hw => hw) ?_))
  intro wrapper w₂ _
  cases wrapper with
  | none => exact Attempt.meets_throw trivial
  | some wrapper =>
    refine Attempt.meets_bind (Attempt.meets_lift (meets_isFile trivial ?_))
    split_ifs with hok
    · exact Attempt.meets_pure (hfound wrapper w₂ hok)
    · exact Attempt.meets_throw trivial

/-- Staging that succeeds hands over a binary that is there. -/
theorem meets_handedOver (extractor : Extractor) (key : Key) (archive staging : Path) :
    Attempt.Meets S.Step (fun _ => True) (fun p w' => Found S key.binary p w'.tree)
      (fun _ _ => True) (stage extractor key archive staging) w := by
  unfold stage
  refine Attempt.meets_bind (Attempt.Meets.mono (meets_any _) (fun _ hw => hw) ?_
    fun _ _ he => he)
  intro _ w₁ _
  refine Attempt.meets_bind (Attempt.Meets.mono (meets_any _) (fun _ hw => hw) ?_
    fun _ _ he => he)
  intro _ w₂ _
  refine Attempt.meets_bind (Attempt.Meets.mono (meets_found staging key.binary)
    (fun _ hw => hw) ?_ fun _ _ he => he)
  rintro p w₃ ⟨hdir, bytes, mode, hfile⟩
  refine Attempt.Meets.mono (meets_accept trivial rfl hfile) (fun _ hw => hw) ?_
    fun _ _ _ => trivial
  rintro accepted w₄ ⟨rfl, rfl, -⟩
  exact ⟨hdir, bytes, mode, hfile⟩

end Staging

/-! ## The result -/

section Result

variable {η₀ η : Type} {serve : Url → η → Except NoResponse Response × η} {m : Memory} {n : η}
  {key : Key} {staged source directory binary : Path}

/-- Nothing that is moved from one directory to another has the first in its way. -/
def Clear (m : Memory) (source directory : Path) : Prop :=
  ∀ name ∈ m.tree.names (m.place source), ¬ Clash (m.place directory) (m.place source) name

/-- What is promised of finalizing on a host, with a binary that has been staged. -/
structure BestEffort (serve : Url → η → Except NoResponse Response × η) (m : Memory) (n : η)
    (key : Key) (staged source directory binary : Path) : Prop where
  /-- If the way is clear and the calls for the binary are spared, the staged bytes are installed,
  whatever happens to the side files. -/
  installed : Clear m source directory →
    (∀ v ∈ (finalize key staged directory binary).run.visits (handle serve) (m, n),
      ForBinary staged source binary v.1 → ¬ Hit v.2.1 v.1) →
    ((finalize key staged directory binary).run.run (handle serve) (m, n)).1 = .ok () ∧
      ∃ bytes mode, node? m.tree (m.place staged) = some (.file bytes mode) ∧
        node? ((finalize key staged directory binary).run.run (handle serve) (m, n)).2.1.tree
          (m.place binary) = some (.file bytes (finalMode key mode))
  /-- Without injected failures finalizing succeeds only if the way is clear. -/
  clear : m.faults = [] →
    ((finalize key staged directory binary).run.run (handle serve) (m, n)).1 = .ok () →
      Clear m source directory

theorem bestEffort (hs : Sound m.tree) (hparent : staged.parent? = some source)
    (hi : Sources (.ofHost serve m) source directory staged (m.place source) (m.place directory)
      (Bytes.ofText key.binary))
    (hbinary : m.place binary = m.place directory ++ [Bytes.ofText key.binary])
    (hdirectory : node? m.tree (m.place directory) = some .dir) {bytes : Bytes} {mode : Nat}
    (hfile : node? m.tree (m.place staged) = some (.file bytes mode)) :
    BestEffort serve m n key staged source directory binary where
  installed hclear hspared := by
    have hstaged : m.place staged = m.place source ++ [Bytes.ofText key.binary] := hi.place_staged
    obtain ⟨w', hshow, hend⟩ := Program.run_of_visits (h := handle serve)
      (P := fun v => ForBinary staged source binary v.1 → ¬ Hit v.2.1 v.1)
      (fun c s w hc hR => keeps_sparing (fun _ => ForBinary.point) c s w hc hR) hspared
      (shows_ofHost serve n hs)
      (meets_finalizeSparing (w := .ofHost m n hs) key hparent hi hbinary hdirectory
        (hstaged ▸ hfile) hclear)
    cases hr : ((finalize key staged directory binary).run.run (handle serve) (m, n)).1 with
    | error e =>
      rw [hr] at hend
      exact hend.elim
    | ok _ =>
      rw [hr] at hend
      refine ⟨rfl, bytes, mode, hfile, ?_⟩
      rw [hshow.tree, hbinary]
      exact hend
  clear hfaults hok := by
    intro name hname hclash
    have hstaged : m.place staged = m.place source ++ [Bytes.ofText key.binary] := hi.place_staged
    obtain ⟨w', -, hend⟩ := (keeps_ofHost serve m).run (shows_ofHost serve n hs)
      (meets_finalizeClash (w := .ofHost m n hs) (Setting.calm_ofHost hfaults) key hparent hi
        hbinary hdirectory (hstaged ▸ hfile) hname hclash)
    rw [hok] at hend
    exact hend

/-- The files beside the binary. Staging has handed over a binary, from whatever there was before,
and the directory for it is there. What is next to the binary is moved there as well. If none of its
destinations is the directory that it comes from, or above it, then finalizing succeeds on any host
on which the calls for the binary itself meet no injected failure, whatever happens to the others,
and the staged bytes are in the place of the binary. Where there are no injected failures at all,
finalizing succeeds only then. -/
theorem finalize_side_files (serve₀ : Url → η₀ → Except NoResponse Response × η₀)
    (serve : Url → η → Except NoResponse Response × η) (extractor : Extractor) (key : Key)
    (archive staging directory staged : Path) (m₀ m : Memory) (n₀ : η₀) (n : η)
    (hs : Sound m₀.tree)
    (hstaged : ((stage extractor key archive staging).run.run (handle serve₀) (m₀, n₀)).1 =
      .ok staged)
    (hcwd : m.cwd = m₀.cwd)
    (htree : m.tree =
      ((stage extractor key archive staging).run.run (handle serve₀) (m₀, n₀)).2.1.tree)
    (hdirectory : node? m.tree (m.place directory) = some .dir) :
    ∃ source, staged.parent? = some source ∧
      BestEffort serve m n key staged source directory (directory.entry key.binary) := by
  obtain ⟨w₀, hshow, hend⟩ := (keeps_ofHost serve₀ m₀).run (shows_ofHost serve₀ n₀ hs)
    (meets_handedOver extractor key archive staging)
  rw [hstaged] at hend
  obtain ⟨⟨dir, rfl⟩, bytes, mode, hfile⟩ := hend
  have hname := isName_binary key
  obtain ⟨source, hparent, hsource⟩ := Path.exists_parent? (Path.components_child dir hname)
  have hfile' : node? m.tree (m.place (dir.entry key.binary)) = some (.file bytes mode) := by
    rw [place_eq, hcwd, htree, hshow.tree]
    exact hfile
  have hsound : Sound m.tree := by
    rw [htree, hshow.tree]
    exact w₀.sound
  refine ⟨source, hparent, bestEffort hsound hparent ⟨rfl, rfl, ?_⟩ ?_ hdirectory hfile'⟩
  · rw [hsource]
    exact Path.components_child dir hname
  · exact place_entry m.cwd directory hname

end Result

namespace Sample

/-- An archive with a binary of one byte and a side file of one byte, which has a given name. -/
def archiveWith (side : String) : Bytes :=
  let name := Bytes.ofText side
  let length := name.length.toUInt8
  [80, 75, 3, 4, 20, 0, 0, 0, 0, 0, 0, 0, 33, 0, 131, 22, 220, 140, 1, 0, 0, 0, 1, 0, 0, 0, 19, 0,
    0, 0] ++ Bytes.ofText "comment-checker.exe" ++
  [120, 80, 75, 3, 4, 20, 0, 0, 0, 0, 0, 0, 0, 33, 0, 21, 38, 219, 251, 1, 0, 0, 0, 1, 0, 0, 0,
    length, 0, 0, 0] ++ name ++
  [121, 80, 75, 1, 2, 20, 3, 20, 0, 0, 0, 0, 0, 0, 0, 33, 0, 131, 22, 220, 140, 1, 0, 0, 0, 1, 0,
    0, 0, 19, 0, 0, 0, 0, 0, 0, 0, 0, 0, 0, 0, 164, 129, 0, 0, 0, 0] ++
  Bytes.ofText "comment-checker.exe" ++
  [80, 75, 1, 2, 20, 3, 20, 0, 0, 0, 0, 0, 0, 0, 33, 0, 21, 38, 219, 251, 1, 0, 0, 0, 1, 0, 0, 0,
    length, 0, 0, 0, 0, 0, 0, 0, 0, 0, 0, 0, 164, 129, 50, 0, 0, 0] ++ name ++
  [80, 75, 5, 6, 0, 0, 0, 0, 2, 0, 2, 0, 111 + length, 0, 0, 0, 81 + length, 0, 0, 0, 0, 0]

def binDir : Path := .ofText "/p/bin"

def assetName : String := "comment-checker_v1_windows_amd64.zip"

/-- The staging directory of the archive. -/
def staging : Path := binDir.entry (stagingName assetName)

/-- A host with the archive where it has been downloaded to. -/
def downloaded (side : String) : Memory where
  tree := ⟨[([Bytes.ofText "p"], .dir), ([Bytes.ofText "p", Bytes.ofText "bin"], .dir),
    ([Bytes.ofText "p", Bytes.ofText "bin", Bytes.ofText assetName],
      .file (archiveWith side) 0o644)]⟩

/-- What staging answers and leaves. -/
def staged (side : String) : Except Report Path × (Memory × Unit) :=
  (stage .native .win32X64 (binDir.entry assetName) staging).run.run (handle noNetwork)
    (downloaded side, ())

theorem staged_eq (side : String) : staged side =
    (stage .native .win32X64 (binDir.entry assetName) staging).run.run (handle noNetwork)
      (downloaded side, ()) := rfl

/-- The path of the staged binary. -/
def binary : Path := staging.entry Key.win32X64.binary

/-- A host with given files and injected failures. -/
def hostOf (t : Tree Node) (faults : List Fault) : Memory where
  tree := t
  faults := faults

theorem tree_hostOf (t : Tree Node) (faults : List Fault) : (hostOf t faults).tree = t := rfl

/-- The host after staging, with injected failures. -/
def hostAfter (side : String) (faults : List Fault) : Memory :=
  hostOf (staged side).2.1.tree faults

/-- A failure of every attempt to move the side file. -/
def stuck : Fault := ⟨.rename, some (placeIn (.ofText "/work") (staging.entry "README")), "no", 0,
  none, 0⟩

end Sample

/-- The side file cannot be moved, and the binary is installed. -/
theorem finalize_side_files_sample :
    (Sample.staged "README").1 = .ok Sample.binary ∧
      ((finalize .win32X64 Sample.binary Sample.binDir
        (Sample.binDir.entry Key.win32X64.binary)).run.run (handle noNetwork)
          (Sample.hostAfter "README" [Sample.stuck], ())).1 = .ok () := by
  have hstaged : (Sample.staged "README").1 = .ok Sample.binary := by decide +kernel
  obtain ⟨source, hparent, heffort⟩ := finalize_side_files noNetwork noNetwork .native
    .win32X64 (Sample.binDir.entry Sample.assetName) Sample.staging Sample.binDir Sample.binary
    (Sample.downloaded "README") (Sample.hostAfter "README" [Sample.stuck]) () ()
    (by decide +kernel) hstaged rfl (by rw [Sample.hostAfter, Sample.tree_hostOf, Sample.staged_eq])
    (by decide +kernel)
  have hsource : Sample.binary.parent? = some Sample.staging := by decide +kernel
  rw [hsource] at hparent
  cases hparent
  refine ⟨hstaged, (heffort.installed ?_ ?_).1⟩
  · intro name hname hclash
    have hstaging : name = Bytes.ofText (stagingName Sample.assetName) :=
      hclash.unique (by unfold Clash; decide +kernel)
    rw [mem_names_iff (by decide +kernel), hstaging] at hname
    revert hname
    decide +kernel
  · refine not_hit_of_mem_visits _ ?_
    intro f hf c hc point path hpoint
    rw [List.mem_singleton.1 hf]
    cases c with
    | rename source target =>
      obtain ⟨rfl, -⟩ := hc
      cases hpoint
      decide +kernel
    | setMode path mode | list path | removeTree path =>
      cases hpoint
      rfl
    | _ => cases hc

/-- A side file with the name of the staging directory: nothing is made to fail, but the binary is
not installed. -/
theorem side_file_removes_staging :
    (Sample.staged (stagingName Sample.assetName)).1 = .ok Sample.binary ∧
      ((finalize .win32X64 Sample.binary Sample.binDir
        (Sample.binDir.entry Key.win32X64.binary)).run.run (handle noNetwork)
          (Sample.hostAfter (stagingName Sample.assetName) [], ())).1 ≠
        .ok () := by
  have hs : Sound (Sample.hostAfter (stagingName Sample.assetName) []).tree := by decide +kernel
  have hfile : node? (Sample.hostAfter (stagingName Sample.assetName) []).tree
      ((Sample.hostAfter (stagingName Sample.assetName) []).place Sample.binary) =
        some (.file [120] 0o644) := by decide +kernel
  have heffort : BestEffort noNetwork (Sample.hostAfter (stagingName Sample.assetName) []) ()
      .win32X64 Sample.binary Sample.staging Sample.binDir
      (Sample.binDir.entry Key.win32X64.binary) :=
    bestEffort hs (by decide +kernel) ⟨rfl, rfl, by decide +kernel⟩ (by decide +kernel)
      (by decide +kernel) hfile
  refine ⟨by decide +kernel, fun hok => ?_⟩
  refine heffort.clear rfl hok (Bytes.ofText (stagingName Sample.assetName)) ?_ ?_
  · rw [mem_names_iff hs]
    decide +kernel
  · unfold Clash
    decide +kernel

end Install

end Provision
