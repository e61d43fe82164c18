import Provision.Proofs.Calls
import Provision.Proofs.Locating
import Provision.Proofs.Resolving

/-!
# Which copy of the binary is taken

There may be many copies of the platform's package, and one more binary in the main package. A
search asks for the manifests in the order of the lookup and stops at the first that exists; only
the copy that this manifest belongs to is considered.

* `Locate.trace_forKey` lists the questions of a search.
* `Locate.run_settles` says for every platform what the answer of a search is, what is wrong if
  there is none, and that nothing behind the first manifest matters.
* `Resolve.firstFile_iff` is about things that are no files: what exists at a candidate is taken for
  a manifest, so the search ends as a search for a file would exactly if the first thing that
  exists is one.
* `Resolve.directory_hides_package`: with a directory in its place, all packages behind a manifest
  are out of reach.
-/

namespace Provision

namespace Resolve

open Provision.Path

variable {σ : Type}

/-- The first manifest that is tried and exists, as a position in the order of the lookup. -/
theorem find?_eq_some_iff_first {found : Path → Bool} {paths : List Path} {m : Path} :
    paths.find? found = some m ↔
      ∃ before after, paths = before ++ m :: after ∧ found m = true ∧
        ∀ p ∈ before, found p = false := by
  rw [List.find?_eq_some_iff_append]
  constructor
  · rintro ⟨hm, before, after, rfl, hbefore⟩
    exact ⟨before, after, rfl, hm, fun p hp => by simpa using hbefore p hp⟩
  · rintro ⟨before, after, rfl, hm, hbefore⟩
    exact ⟨hm, before, after, rfl, fun p hp => by simpa using hbefore p hp⟩

/-- There is a directory above every manifest that is tried. -/
theorem exists_parent?_of_mem {start m : Path} {package : String} {list : Option String}
    (h : m ∈ candidatesFor start package list) : ∃ above, m.parent? = some above := by
  have hin : ∀ directory, ∃ above, (manifestIn directory package).parent? = some above :=
    fun directory =>
      have ⟨above, hparent, _⟩ := exists_parent?
        (components_child (directory.join (packagePath package)) isName_manifestName)
      ⟨above, hparent⟩
  rcases List.mem_append.1 h with h | h
  · obtain ⟨d, -, rfl⟩ := List.mem_map.1 h
    exact hin _
  · obtain ⟨d, -, rfl⟩ := List.mem_map.1 h
    exact hin d

/-- The paths up to the first that is found. -/
def upToFirst (found : Path → Bool) : List Path → List Path
  | [] => []
  | p :: rest => if found p then [p] else p :: upToFirst found rest

theorem upToFirst_append {found : Path → Bool} {before : List Path} {m : Path}
    (hbefore : ∀ p ∈ before, found p = false) (hm : found m = true) (after : List Path) :
    upToFirst found (before ++ m :: after) = before ++ [m] := by
  induction before with
  | nil => rw [List.nil_append, upToFirst, if_pos hm, List.nil_append]
  | cons p before ih =>
    obtain ⟨hp, hrest⟩ := List.forall_mem_cons.1 hbefore
    rw [List.cons_append, upToFirst, hp, if_neg Bool.false_ne_true, ih hrest, List.cons_append]

theorem trace_firstExisting (H : UnixHost σ) (s : σ) (paths : List Path) :
    (firstExisting paths).trace H.handler s =
      (upToFirst (H.occupied s) paths).map .pathExists := by
  induction paths with
  | nil => rfl
  | cons p paths ih =>
    show Call.pathExists p :: Program.trace H.handler
      (if (H.handler (.pathExists p) s).1 then pure (some p) else firstExisting paths)
      (H.handler (.pathExists p) s).2 = _
    rw [H.handler_pathExists, upToFirst]
    cases H.occupied s p with
    | true => rfl
    | false => exact congrArg (Call.pathExists p :: ·) ih

end Resolve

namespace Locate

variable {σ : Type} (H : UnixHost σ) (s : σ)

/-- The manifests that a search asks for. -/
def asked (root : Path) (key : Key) : List Path :=
  Resolve.upToFirst (H.occupied s)
    (Resolve.candidatesFor root key.package (H.env? s Resolve.searchVariable))

/-- The binaries that a search tries: that of the platform's package if it is installed, and then
that of the main package. -/
def tried (root : Path) (key : Key) : List Path :=
  match packagedAt? H s root key with
  | none => [binaryIn root key]
  | some p => if H.executable s p then [p] else [p, binaryIn root key]

theorem trace_packagedBinary? (root : Path) (key : Key) :
    (packagedBinary? root key).trace H.handler s =
      .env Resolve.searchVariable :: (asked H s root key).map .pathExists := by
  have hcandidates : (Resolve.candidates root key.package).trace H.handler s =
      [.env Resolve.searchVariable] := rfl
  rw [packagedBinary?, Resolve.manifest?, Program.trace_bind, Program.trace_bind, hcandidates,
    Resolve.run_candidates, H.handler_env, Resolve.trace_firstExisting]
  simp only [Program.trace, List.append_nil, List.cons_append, List.nil_append, pure]
  rfl

/-- The question whether a file can be executed, and what is asked on either answer. -/
theorem trace_ifExecutable {α ε : Type} (p : Path) (yes no : Attempt ε α) :
    (do
      if ← Program.ask (.isExecutable p) then yes else no : Attempt ε α).run.trace H.handler s =
      .isExecutable p :: if H.executable s p then yes.run.trace H.handler s
        else no.run.trace H.handler s := by
  show Call.isExecutable p :: Program.trace H.handler
    (if (H.handler (.isExecutable p) s).1 then yes else no : Attempt ε α).run
    (H.handler (.isExecutable p) s).2 = _
  rw [H.handler_isExecutable_eq]
  cases H.executable s p <;> rfl

/-- All that a search asks. -/
theorem trace_forKey (root : Path) (key : Key) :
    (forKey root key).run.trace H.handler s =
      .env Resolve.searchVariable :: (asked H s root key).map .pathExists ++
        (tried H s root key).map .isExecutable := by
  have hown : ∀ e : Problem, (do
      if ← Program.ask (.isExecutable (binaryIn root key)) then return binaryIn root key
      throw e : Attempt Problem Path).run.trace H.handler s =
      [.isExecutable (binaryIn root key)] := fun e => by
    refine (trace_ifExecutable H s (binaryIn root key) (pure (binaryIn root key))
      (throw e)).trans ?_
    cases H.executable s (binaryIn root key) <;> rfl
  unfold forKey
  rw [ExceptT.run_bind, Install.run_lift_bind, Program.trace_bind, trace_packagedBinary?,
    run_packagedBinary?]
  refine (List.append_right_inj _).2 ?_
  unfold tried
  cases packagedAt? H s root key with
  | none => exact hown _
  | some p =>
    dsimp only
    rw [trace_ifExecutable]
    cases H.executable s p with
    | true => rfl
    | false => exact congrArg (Call.isExecutable p :: ·) (hown _)

/-! ## What an answer says -/

theorem packagedAt?_eq_some_iff {root p : Path} {key : Key} :
    packagedAt? H s root key = some p ↔
      ∃ m, manifestAt? H s root key = some m ∧ binaryIn (packageDir m) key = p := by
  rw [packagedAt?, Option.map_eq_some_iff]

/-- What is wrong if no copy can be executed. -/
def complaint (key : Key) : Option Path → Problem
  | some p => .binaryMissing key.package p
  | none => .packageNotFound key.package

theorem complaint_eq_binaryMissing_iff {key : Key} {packaged : Option Path} {package : String}
    {p : Path} : complaint key packaged = .binaryMissing package p ↔
      package = key.package ∧ packaged = some p := by
  cases packaged <;> simp [complaint, eq_comm]

theorem complaint_eq_packageNotFound_iff {key : Key} {packaged : Option Path} {package : String} :
    complaint key packaged = .packageNotFound package ↔
      package = key.package ∧ packaged = none := by
  cases packaged <;> simp [complaint, eq_comm]

/-- What a search answers that has come across the binary of a package, or across no package. -/
def answerGiven (root : Path) (key : Key) (packaged : Option Path) : Except Problem Path :=
  match packaged.filter (H.executable s) with
  | some p => .ok p
  | none =>
    if H.executable s (binaryIn root key) then .ok (binaryIn root key)
    else .error (complaint key packaged)

theorem answer_eq (root : Path) (key : Key) :
    answer H s root key = answerGiven H s root key (packagedAt? H s root key) := by
  unfold answer answerGiven
  cases packagedAt? H s root key <;> rfl

section Given

variable {H s} {root : Path} {key : Key} {packaged : Option Path}

/-- The three ways in which a search can end. -/
theorem answerGiven_cases (H : UnixHost σ) (s : σ) (root : Path) (key : Key)
    (packaged : Option Path) :
    (∃ p, packaged = some p ∧ H.executable s p = true ∧
        answerGiven H s root key packaged = .ok p) ∨
      ((∀ p, packaged = some p → H.executable s p = false) ∧
        ((H.executable s (binaryIn root key) = true ∧
            answerGiven H s root key packaged = .ok (binaryIn root key)) ∨
          (H.executable s (binaryIn root key) = false ∧
            answerGiven H s root key packaged = .error (complaint key packaged)))) := by
  unfold answerGiven
  cases hfound : packaged.filter (H.executable s) with
  | some p =>
    obtain ⟨hp, hexec⟩ := Option.filter_eq_some_iff.1 hfound
    exact .inl ⟨p, hp, hexec, rfl⟩
  | none =>
    refine .inr ⟨fun p hp => by simpa using Option.filter_eq_none_iff.1 hfound p hp, ?_⟩
    cases hown : H.executable s (binaryIn root key) with
    | true => exact .inl ⟨rfl, rfl⟩
    | false => exact .inr ⟨rfl, rfl⟩

theorem file_of_executable {p : Path} (h : H.executable s p = true) :
    ∃ bytes mode, H.file? s p = some (bytes, mode) ∧ Memory.hasExecuteBit mode = true := by
  unfold UnixHost.executable at h
  cases hfile : H.file? s p with
  | none =>
    rw [hfile] at h
    cases h
  | some f =>
    rw [hfile] at h
    exact ⟨f.1, f.2, rfl, h⟩

end Given

/-- What the answer of a search for a key says about the host, and what it does not depend on. -/
structure Settles (root : Path) (key : Key) (result : Except Problem Path) : Prop where
  /-- The manifest that counts is the first of those tried that exists, and it is in a directory. -/
  first : ∀ m, manifestAt? H s root key = some m → m.parent? = some (packageDir m) ∧
    ∃ before after, Resolve.candidatesFor root key.package (H.env? s Resolve.searchVariable) =
        before ++ m :: after ∧
      asked H s root key = before ++ [m] ∧ H.occupied s m = true ∧
      ∀ p ∈ before, H.occupied s p = false
  /-- What is found is a file with an execute bit, in one of two places. -/
  sound : ∀ p, result = .ok p →
    (∃ bytes mode, H.file? s p = some (bytes, mode) ∧ Memory.hasExecuteBit mode = true) ∧
      (p = binaryIn root key ∨
        ∃ m, manifestAt? H s root key = some m ∧ p = binaryIn (packageDir m) key)
  /-- The platform's package comes before the main package. -/
  prefers : ∀ m, manifestAt? H s root key = some m →
    H.executable s (binaryIn (packageDir m) key) = true →
      result = .ok (binaryIn (packageDir m) key)
  /-- A search fails exactly if neither of the two can be executed. -/
  fails : (∃ e, result = .error e) ↔ H.executable s (binaryIn root key) = false ∧
    ∀ m, manifestAt? H s root key = some m →
      H.executable s (binaryIn (packageDir m) key) = false
  /-- Then it names the binary that a package should have, exactly if there is a package. -/
  missing : ∀ e, result = .error e → ∀ package p, e = .binaryMissing package p ↔
    package = key.package ∧
      ∃ m, manifestAt? H s root key = some m ∧ p = binaryIn (packageDir m) key
  /-- It names the package alone exactly if there is none. -/
  notFound : ∀ e, result = .error e → ∀ package, e = .packageNotFound package ↔
    package = key.package ∧ manifestAt? H s root key = none
  /-- With a manifest that exists, what would be tried after it has no part in the answer: on every
  host where the same manifests are tried up to it, and which has the same things in these places
  and in those of the binaries tried, a search has the same answer. -/
  near : (∃ m, manifestAt? H s root key = some m) → ∀ {τ : Type} (H' : UnixHost τ) (s' : τ),
    asked H s root key <+:
        Resolve.candidatesFor root key.package (H'.env? s' Resolve.searchVariable) →
      (∀ p ∈ asked H s root key, H'.occupied s' p = H.occupied s p) →
      (∀ p ∈ tried H s root key, H'.executable s' p = H.executable s p) →
        ((forKey root key).run.run H'.handler s').1 = result

section

variable {H s} {root : Path} {key : Key}

theorem asked_eq {m : Path} (h : manifestAt? H s root key = some m) :
    m.parent? = some (packageDir m) ∧
      ∃ before after, Resolve.candidatesFor root key.package (H.env? s Resolve.searchVariable) =
          before ++ m :: after ∧
        asked H s root key = before ++ [m] ∧ H.occupied s m = true ∧
        ∀ p ∈ before, H.occupied s p = false := by
  obtain ⟨before, after, hlist, hm, hbefore⟩ := Resolve.find?_eq_some_iff_first.1 h
  refine ⟨?_, before, after, hlist, ?_, hm, hbefore⟩
  · obtain ⟨above, habove⟩ := Resolve.exists_parent?_of_mem (List.mem_of_find?_eq_some h)
    rw [packageDir, habove, Option.getD_some]
  · rw [asked, hlist]
    exact Resolve.upToFirst_append hbefore hm after

/-- On a host that agrees up to the first manifest that exists, it is the same one. -/
theorem manifestAt?_eq_of_agree {τ : Type} {H' : UnixHost τ} {s' : τ} {m : Path}
    (h : manifestAt? H s root key = some m)
    (hlist : asked H s root key <+:
      Resolve.candidatesFor root key.package (H'.env? s' Resolve.searchVariable))
    (hoccupied : ∀ p ∈ asked H s root key, H'.occupied s' p = H.occupied s p) :
    manifestAt? H' s' root key = some m := by
  obtain ⟨-, before, after, -, hasked, hm, hbefore⟩ := asked_eq h
  rw [hasked] at hlist hoccupied
  obtain ⟨after', hlist⟩ := hlist
  rw [List.append_assoc, List.singleton_append] at hlist
  obtain ⟨hbefore', hm'⟩ := List.forall_mem_append.1 hoccupied
  refine Resolve.find?_eq_some_iff_first.2 ⟨before, after', hlist.symm, ?_, fun p hp => ?_⟩
  · rw [hm' m (List.mem_singleton_self m), hm]
  · rw [hbefore' p hp, hbefore p hp]

/-- What a search answers depends on the binaries that it tries. -/
theorem answerGiven_eq_of_agree {τ : Type} {H' : UnixHost τ} {s' : τ}
    (h : ∀ p ∈ tried H s root key, H'.executable s' p = H.executable s p) :
    answerGiven H' s' root key (packagedAt? H s root key) =
      answerGiven H s root key (packagedAt? H s root key) := by
  unfold tried at h
  unfold answerGiven
  cases hp : packagedAt? H s root key with
  | none =>
    rw [hp] at h
    rw [Option.filter_none, Option.filter_none, h _ (List.mem_singleton_self _)]
  | some p =>
    rw [hp] at h
    cases hexec : H.executable s p with
    | true =>
      have hp' : H'.executable s' p = true := by
        rw [← hexec]
        exact h p (by simp [hexec])
      rw [Option.filter_some, Option.filter_some, hexec, hp']
      rfl
    | false =>
      have hp' : H'.executable s' p = false := by
        rw [← hexec]
        exact h p (by simp [hexec])
      rw [Option.filter_some, Option.filter_some, hexec, hp',
        h (binaryIn root key) (by simp [hexec])]

theorem answerGiven_eq_error {packaged : Option Path} {e : Problem}
    (h : answerGiven H s root key packaged = .error e) : e = complaint key packaged := by
  rcases answerGiven_cases H s root key packaged with ⟨p, -, -, ho⟩ | ⟨-, ⟨-, ho⟩ | ⟨-, ho⟩⟩
  · rw [ho] at h
    cases h
  · rw [ho] at h
    cases h
  · rw [ho] at h
    cases h
    rfl

/-- The answer of a search settles what the copies that it considers are like. -/
theorem settles_answer (H : UnixHost σ) (s : σ) (root : Path) (key : Key) :
    Settles H s root key (answer H s root key) := by
  rw [answer_eq]
  have hcases := answerGiven_cases H s root key (packagedAt? H s root key)
  have hpackaged : ∀ m, manifestAt? H s root key = some m →
      packagedAt? H s root key = some (binaryIn (packageDir m) key) := fun m hm =>
    (packagedAt?_eq_some_iff H s).2 ⟨m, hm, rfl⟩
  refine ⟨fun m => asked_eq, fun p hp => ?_, fun m hm hexec => ?_, ?_, fun e he package p => ?_,
    fun e he package => ?_, fun ⟨m, hm⟩ τ H' s' hlist hoccupied hexec => ?_⟩
  · rcases hcases with ⟨q, hq, hexec, ho⟩ | ⟨-, ⟨hown, ho⟩ | ⟨-, ho⟩⟩
    · rw [ho] at hp
      cases hp
      obtain ⟨m, hm, rfl⟩ := (packagedAt?_eq_some_iff H s).1 hq
      exact ⟨file_of_executable hexec, .inr ⟨m, hm, rfl⟩⟩
    · rw [ho] at hp
      cases hp
      exact ⟨file_of_executable hown, .inl rfl⟩
    · rw [ho] at hp
      cases hp
  · rcases hcases with ⟨q, hq, -, ho⟩ | ⟨hnone, -⟩
    · rw [hpackaged m hm] at hq
      cases hq
      rw [ho]
    · rw [hnone _ (hpackaged m hm)] at hexec
      cases hexec
  · rcases hcases with ⟨q, hq, hexec, ho⟩ | ⟨hnone, ⟨hown, ho⟩ | ⟨hown, ho⟩⟩
    · obtain ⟨m, hm, rfl⟩ := (packagedAt?_eq_some_iff H s).1 hq
      refine ⟨fun ⟨e, he⟩ => ?_, fun ⟨_, h⟩ => ?_⟩
      · rw [ho] at he
        cases he
      · rw [h m hm] at hexec
        cases hexec
    · refine ⟨fun ⟨e, he⟩ => ?_, fun ⟨h, _⟩ => ?_⟩
      · rw [ho] at he
        cases he
      · rw [hown] at h
        cases h
    · exact ⟨fun _ => ⟨hown, fun m hm => hnone _ (hpackaged m hm)⟩, fun _ => ⟨_, ho⟩⟩
  · rw [answerGiven_eq_error he, complaint_eq_binaryMissing_iff, packagedAt?_eq_some_iff]
    simp only [eq_comm]
  · rw [answerGiven_eq_error he, complaint_eq_packageNotFound_iff, packagedAt?,
      Option.map_eq_none_iff]
  · have hm' := manifestAt?_eq_of_agree hm hlist hoccupied
    have hsame : packagedAt? H' s' root key = packagedAt? H s root key := by
      rw [packagedAt?, packagedAt?, hm, hm']
    rw [run_forKey, answer_eq, hsame]
    exact answerGiven_eq_of_agree hexec

theorem run_of_key {platform : Platform} (h : platform.key? = some key) :
    run root platform = forKey root key := by
  rw [run, h]

/-- A search is told that there is no binary for a platform exactly if the platform has no key, and
then it has asked nothing. For a key it asks for the search list, for manifests up to the first that
exists and then for one or two binaries; it changes nothing, and the answer settles what the copies
that it considers are like. -/
theorem run_settles (H : UnixHost σ) (s : σ) (root : Path) (platform : Platform) :
    ((∃ text, ((run root platform).run.run H.handler s).1 =
        .error (.unsupportedPlatform text)) ↔ platform.key? = none) ∧
      (platform.key? = none → (run root platform).run.run H.handler s =
          (.error (.unsupportedPlatform platform.text), s) ∧
        (run root platform).run.trace H.handler s = []) ∧
      ∀ key, platform.key? = some key →
        ((run root platform).run.run H.handler s).2 = s ∧
          (run root platform).run.trace H.handler s =
            .env Resolve.searchVariable :: (asked H s root key).map .pathExists ++
              (tried H s root key).map .isExecutable ∧
          Settles H s root key ((run root platform).run.run H.handler s).1 := by
  cases hkey : platform.key? with
  | none =>
    have hrun : run root platform = throw (.unsupportedPlatform platform.text) := by
      rw [run, hkey]
    rw [hrun]
    refine ⟨⟨fun _ => rfl, fun _ => ⟨_, rfl⟩⟩, fun _ => ⟨rfl, rfl⟩, fun k hk => ?_⟩
    cases hk
  | some key =>
    rw [run_of_key hkey, run_forKey]
    refine ⟨⟨?_, fun hnone => ?_⟩, fun hnone => ?_, fun k hk => ?_⟩
    · rintro ⟨text, htext⟩
      rw [answer_eq] at htext
      have hcomplaint := answerGiven_eq_error htext
      cases hpackaged : packagedAt? H s root key <;> rw [hpackaged] at hcomplaint <;>
        cases hcomplaint
    · cases hnone
    · cases hnone
    · cases hk
      exact ⟨rfl, trace_forKey H s root key, settles_answer H s root key⟩

end

namespace Sample

/-- The names that lead to the platform's package, installed in a directory. -/
def packageBelow (directory : List String) : Place :=
  (directory ++ ["node_modules", "@anthropic-claude", "comment-checker-linux-x64"]).map
    Bytes.ofText

/-- Two copies of the platform's package. That of the project has something in the place of its
manifest and no binary, the one farther up is complete. -/
def twoCopies (manifest : Memory.Node) : Memory where
  tree := ⟨[(["work"].map Bytes.ofText, .dir),
    (["work", "app"].map Bytes.ofText, .dir),
    (packageBelow ["work", "app"], .dir),
    (packageBelow ["work", "app"] ++ [Bytes.ofText "package.json"], manifest),
    (packageBelow ["work"], .dir),
    (packageBelow ["work"] ++ [Bytes.ofText "package.json"], .file (Bytes.ofText "{}") 0o644),
    (packageBelow ["work"] ++ [Bytes.ofText "bin"], .dir),
    (packageBelow ["work"] ++ ["bin", "comment-checker"].map Bytes.ofText, .file [120] 0o755)]⟩

def project : Path := .ofText "/work/app"

/-- The package directories of the two copies. -/
def near : Path := .ofText "/work/app/node_modules/@anthropic-claude/comment-checker-linux-x64"

def far : Path := .ofText "/work/node_modules/@anthropic-claude/comment-checker-linux-x64"

/-- The host on which the near copy has a manifest. -/
def host : Memory × Unit := (twoCopies (.file (Bytes.ofText "{}") 0o644), ())

end Sample

/-- A near copy without a binary is complained about, although a far copy has one. -/
theorem run_settles_sample :
    Platform.host.key? = some .linuxX64 ∧
      (UnixHost.memory noNetwork).executable Sample.host
        (binaryIn Sample.far .linuxX64) = true ∧
      ((run Sample.project .host).run.run (Memory.handle noNetwork) Sample.host).1 =
        .error (.binaryMissing Key.linuxX64.package (binaryIn Sample.near .linuxX64)) := by
  obtain ⟨-, -, hsearch⟩ :=
    run_settles (.memory noNetwork) Sample.host Sample.project .host
  obtain ⟨-, -, hsettles⟩ := hsearch .linuxX64 rfl
  have hmanifest : manifestAt? (.memory noNetwork) Sample.host Sample.project .linuxX64 =
      some (Sample.near.entry "package.json") := by decide +kernel
  have hdirectory : packageDir (Sample.near.entry "package.json") = Sample.near := by decide +kernel
  obtain ⟨e, he⟩ := hsettles.fails.2 ⟨by decide +kernel, fun m hm => by
    rw [hmanifest] at hm
    cases hm
    decide +kernel⟩
  obtain rfl := (hsettles.missing e he Key.linuxX64.package (binaryIn Sample.near .linuxX64)).2
    ⟨rfl, _, hmanifest, by rw [hdirectory]⟩
  exact ⟨rfl, by decide +kernel, he⟩

end Locate

/-! ## Things that are no files -/

/-- A host with Unix files on which a file is something that exists. -/
structure FileHost (σ : Type) extends UnixHost σ where
  occupied_of_file : ∀ s p, (file? s p).isSome = true → occupied s p = true

namespace FileHost

variable {η : Type}

/-- The memory host. -/
def memory (serve : Url → η → Except NoResponse Response × η) : FileHost (Memory × η) where
  toUnixHost := .memory serve
  occupied_of_file s p h := by
    show (Memory.node? s.1.tree (s.1.place p)).isSome = true
    cases hfile : Memory.file s.1.tree (s.1.place p) with
    | error e =>
      simp only [UnixHost.memory, hfile] at h
      cases h
    | ok f =>
      rw [Memory.file_eq_ok_iff.1 hfile]
      rfl

/-- The Linux host. -/
def linux (serve : Url → η → Except NoResponse Response × η) : FileHost (Linux × η) where
  toUnixHost := .linux serve
  occupied_of_file s p h := by
    simp only [UnixHost.linux] at h ⊢
    cases hstat : s.1.files.stat? p with
    | none =>
      rw [hstat] at h
      cases h
    | some node => rfl

end FileHost

namespace Resolve

open Provision.Path Locate

variable {σ : Type}

/-- The first candidate at which anything exists. -/
def occupant? (H : UnixHost σ) (s : σ) (start : Path) (package : String) : Option Path :=
  (candidatesFor start package (H.env? s searchVariable)).find? (H.occupied s)

/-- The first candidate that is a file. -/
def firstFile? (H : UnixHost σ) (s : σ) (start : Path) (package : String) : Option Path :=
  (candidatesFor start package (H.env? s searchVariable)).find? fun p => (H.file? s p).isSome

theorem run_manifest?_eq (H : UnixHost σ) (s : σ) (start : Path) (package : String) :
    (manifest? start package).run H.handler s = (occupant? H s start package, s) := by
  rw [manifest?, Program.run_bind, run_candidates, H.handler_env, run_firstExisting]
  rfl

/-- Two searches of which one accepts more find the same exactly if what the one finds is accepted
by the other. -/
theorem find?_eq_find?_iff {wide narrow : Path → Bool} (h : ∀ p, narrow p = true → wide p = true)
    (paths : List Path) :
    paths.find? wide = paths.find? narrow ↔
      ∀ m, paths.find? wide = some m → narrow m = true := by
  constructor
  · intro heq m hm
    rw [heq] at hm
    exact List.find?_some hm
  · intro hfirst
    cases hm : paths.find? wide with
    | none =>
      refine (List.find?_eq_none.2 fun p hp hnarrow => ?_).symm
      exact List.find?_eq_none.1 hm p hp (h p hnarrow)
    | some m =>
      obtain ⟨before, after, rfl, -, hbefore⟩ := find?_eq_some_iff_first.1 hm
      refine (find?_eq_some_iff_first.2 ⟨before, after, rfl, hfirst m hm, fun p hp => ?_⟩).symm
      exact Bool.eq_false_iff.2 fun hp' => by simpa [hbefore p hp] using h p hp'

/-- What is found is the first candidate at which anything exists. This is the first candidate that
is a file, if there is one, exactly if it is a file itself. If it is not, then a search for the
binary considers the directory that it is in and no package farther up. -/
theorem firstFile_iff (H : FileHost σ) (s : σ) (start : Path) (package : String) :
    (manifest? start package).run H.handler s =
        (occupant? H.toUnixHost s start package, s) ∧
      (occupant? H.toUnixHost s start package = firstFile? H.toUnixHost s start package ↔
        ∀ m, occupant? H.toUnixHost s start package = some m → (H.file? s m).isSome = true) ∧
      ∀ platform key, platform.key? = some key → key.package = package →
        ((∀ m, occupant? H.toUnixHost s start package = some m → (H.file? s m).isSome = true) →
          ((Locate.run start platform).run.run H.handler s).1 =
            answerGiven H.toUnixHost s start key ((firstFile? H.toUnixHost s start package).map
              fun m => binaryIn (packageDir m) key)) ∧
        ∀ m, occupant? H.toUnixHost s start package = some m → (H.file? s m).isSome = false →
          ((Locate.run start platform).run.run H.handler s).1 =
            answerGiven H.toUnixHost s start key (some (binaryIn (packageDir m) key)) := by
  have hiff := find?_eq_find?_iff (fun p => H.occupied_of_file s p)
    (candidatesFor start package (H.env? s searchVariable))
  refine ⟨run_manifest?_eq _ s start package, hiff, fun platform key hkey hpackage => ?_⟩
  subst hpackage
  have hrun : ((Locate.run start platform).run.run H.handler s).1 =
      answerGiven H.toUnixHost s start key ((occupant? H.toUnixHost s start key.package).map
        fun m => binaryIn (packageDir m) key) := by
    rw [run_of_key hkey, run_forKey, answer_eq]
    rfl
  rw [hrun]
  refine ⟨fun hfile => ?_, fun m hm _ => ?_⟩
  · exact congrArg (fun found => answerGiven H.toUnixHost s start key
      (found.map fun m => binaryIn (packageDir m) key)) (hiff.2 hfile)
  · rw [hm, Option.map_some]

namespace Sample

/-- What a search for the manifest finds. -/
def foundWith (manifest : Memory.Node) : Option Path :=
  ((manifest? Locate.Sample.project Key.linuxX64.package).run
    (Memory.handle noNetwork) (Locate.Sample.twoCopies manifest, ())).1

/-- The first candidate that is a file. -/
def fileWith (manifest : Memory.Node) : Option Path :=
  firstFile? (.memory noNetwork) (Locate.Sample.twoCopies manifest, ())
    Locate.Sample.project Key.linuxX64.package

end Sample

/-- A manifest of the near copy is found, and it is this copy that a search for the binary looks
at. -/
theorem firstFile_iff_sample :
    Platform.host.key? = some .linuxX64 ∧
      Sample.foundWith (.file (Bytes.ofText "{}") 0o644) =
        Sample.fileWith (.file (Bytes.ofText "{}") 0o644) ∧
      ((Locate.run Locate.Sample.project .host).run.run (Memory.handle noNetwork)
          Locate.Sample.host).1 =
        .error (.binaryMissing Key.linuxX64.package (binaryIn Locate.Sample.near .linuxX64)) := by
  obtain ⟨hrun, hiff, hlocate⟩ := firstFile_iff (.memory noNetwork)
    Locate.Sample.host Locate.Sample.project Key.linuxX64.package
  have hfirst : occupant? (.memory noNetwork) Locate.Sample.host
      Locate.Sample.project Key.linuxX64.package =
        some (Locate.Sample.near.entry "package.json") := by decide +kernel
  have hfile : ∀ m, occupant? (.memory noNetwork) Locate.Sample.host
      Locate.Sample.project Key.linuxX64.package = some m →
        ((UnixHost.memory noNetwork).file? Locate.Sample.host m).isSome = true := by
    intro m hm
    obtain rfl := Option.some.inj (hfirst.symm.trans hm)
    decide +kernel
  refine ⟨rfl, (congrArg Prod.fst hrun).trans (hiff.2 hfile), ?_⟩
  refine ((hlocate .host .linuxX64 rfl rfl).1 hfile).trans ?_
  decide +kernel

/-- A directory in the place of the near manifest is taken for one. The search then complains about
the near copy, although the far one has a manifest and an executable binary. -/
theorem directory_hides_package :
    Sample.foundWith .dir = some (Locate.Sample.near.entry "package.json") ∧
      Sample.fileWith .dir = some (Locate.Sample.far.entry "package.json") ∧
      (UnixHost.memory noNetwork).executable (Locate.Sample.twoCopies .dir, ())
        (binaryIn Locate.Sample.far .linuxX64) = true ∧
      ((Locate.run Locate.Sample.project .host).run.run (Memory.handle noNetwork)
          (Locate.Sample.twoCopies .dir, ())).1 =
        .error (.binaryMissing Key.linuxX64.package (binaryIn Locate.Sample.near .linuxX64)) := by
  decide +kernel

end Resolve

end Provision
