import Mathlib.Data.List.Nodup
import Provision.Package.Resolve
import Provision.Proofs.Ancestors

/-!
# Where a package is looked for

The manifests that are tried for a package are those of Node's lookup, given by the number of names
that are kept of the start directory.

* `Resolve.levels` is the reference: the first `i` names for `i` from all of them down to none.
* `manifestIn_eq` and `map_components_walkCandidates` say what the candidates are like for any start
  directory.
* `candidates_eq_lookup` is the list for an absolute start directory.
-/

namespace Provision

namespace Path

/-- The absolute path made of parts. -/
def ofRoot (parts : List Bytes) : Path := ⟨slash :: Bytes.joinWith slash parts⟩

theorem components_ofRoot {parts : List Bytes} (hne : parts ≠ [])
    (h : ∀ part ∈ parts, IsPart part) :
    (ofRoot parts).components = .root :: innerComponents parts := by
  have hsplit : Bytes.splitOn slash (ofRoot parts).text = [] :: parts := by
    rw [ofRoot, Bytes.splitOn, if_pos rfl,
      Bytes.splitOn_joinWith hne fun part hpart => (h part hpart).noSlash]
  rw [components_eq_of_splitOn hsplit, List.isEmpty_eq_false_iff.2 hne]
  rfl

theorem innerComponents_names {names : List Bytes} (h : ∀ n ∈ names, IsName n) :
    innerComponents names = names.map .normal := filter_names h

theorem innerComponents_cons {name : Bytes} (h : IsName name) (parts : List Bytes) :
    innerComponents (name :: parts) = .normal name :: innerComponents parts := by
  rw [innerComponents, List.filter_cons_of_pos (by simp [h.not_trivial]), List.map_cons,
    h.partComponent_eq]
  rfl

/-- Joining parts of which the first is a name. -/
theorem components_joinParts (p : Path) {name : Bytes} {parts : List Bytes} (hname : IsName name)
    (h : ∀ part ∈ parts, IsPart part) :
    (p.join (ofNames (name :: parts))).components =
      p.components ++ .normal name :: innerComponents parts := by
  have hall : ∀ part ∈ name :: parts, IsPart part := List.forall_mem_cons.2 ⟨hname.isPart, h⟩
  have hsplit : Bytes.splitOn slash (ofNames (name :: parts)).text = name :: parts :=
    Bytes.splitOn_joinWith (List.cons_ne_nil name parts) fun part hpart => (hall part hpart).noSlash
  by_cases hp : p.text = []
  · obtain rfl : p = ⟨[]⟩ := congrArg Path.mk hp
    rw [empty_join, components_eq_of_splitOn hsplit, hname.leadComponent_eq]
    rfl
  · rw [components_join hp (isAbsolute_ofNames hall), hsplit, innerComponents_cons hname]

/-- The last component of a list, if it is an ordinary name. -/
def lastName? (cs : List Component) : Option Bytes :=
  match cs.getLast? with
  | some (.normal name) => some name
  | _ => none

theorem lastName?_names {cs : List Component} (h : lastName? cs = none) (names : List Bytes) :
    lastName? (cs ++ names.map .normal) = names.getLast? := by
  unfold lastName? at h ⊢
  rw [List.getLast?_append, List.getLast?_map]
  cases names.getLast? with
  | none => exact h
  | some name => rfl

end Path

namespace Resolve

open Provision.Path Memory

/-- The name of the directories that hold packages, as a part of a path. -/
def modules : Bytes := Bytes.ofText modulesName

/-- The name of a manifest, as a part of a path. -/
def manifestName : Bytes := Bytes.ofText Manifest.fileName

/-- The parts of a path that lead from a directory of packages to the manifest of one. -/
def manifestParts (package : String) : List Bytes := packageParts package ++ [manifestName]

theorem isName_modules : IsName modules := by decide

theorem isName_manifestName : IsName manifestName := by decide

theorem isPart_packageParts {package : String} : ∀ part ∈ packageParts package, IsPart part := by
  intro part hpart
  obtain ⟨hmem, hne⟩ := List.mem_filter.1 hpart
  exact ⟨by simpa using hne, Bytes.not_mem_of_mem_splitOn hmem⟩

theorem isPart_manifestParts {package : String} : ∀ part ∈ manifestParts package, IsPart part :=
  List.forall_mem_append.2
    ⟨isPart_packageParts, List.forall_mem_singleton.2 isName_manifestName.isPart⟩

/-! ## One candidate -/

theorem packagePath_eq (package : String) : packagePath package = ofNames (packageParts package) :=
  foldl_child_eq isPart_packageParts

/-- Joining the empty path leaves at most a separator behind, which counts for nothing. -/
theorem join_empty_join (p q : Path) : (p.join ⟨[]⟩).join q = p.join q := by
  have hempty : (⟨[]⟩ : Path).isAbsolute = false := rfl
  unfold join
  cases q.isAbsolute with
  | true => rfl
  | false =>
    cases hp : p.text.getLast? with
    | none => rfl
    | some b =>
      by_cases hb : b = slash
      · simp [hempty, hb, hp]
      · simp [hempty, hb]

/-- A candidate as it is spelled: a directory followed by the parts that lead to the manifest. -/
theorem manifestIn_eq (directory : Path) (package : String) :
    manifestIn directory package = directory.join (ofNames (manifestParts package)) := by
  show (directory.join (packagePath package)).join (ofNames [manifestName]) = _
  rw [packagePath_eq, manifestParts]
  by_cases hparts : packageParts package = []
  · rw [hparts]
    exact join_empty_join _ _
  · exact join_ofNames_append _ hparts isPart_packageParts (List.cons_ne_nil _ _)
      (List.forall_mem_singleton.2 isName_manifestName.isPart)

/-- The components that lead from a level of the walk to the manifest of a package. -/
def below (package : String) : List Component :=
  .normal modules :: innerComponents (manifestParts package)

theorem components_walkCandidate (d : Path) (package : String) :
    (manifestIn (d.entry modulesName) package).components = d.components ++ below package := by
  have hmodules : ∀ part ∈ [modules], IsPart part :=
    List.forall_mem_singleton.2 isName_modules.isPart
  rw [manifestIn_eq]
  show ((d.join (ofNames [modules])).join (ofNames (manifestParts package))).components = _
  rw [join_ofNames_append d (List.cons_ne_nil _ _) hmodules (by simp [manifestParts])
    isPart_manifestParts]
  exact components_joinParts d isName_modules isPart_manifestParts

/-- What the walk tries, by components. Whether a level is passed over depends on them only. -/
theorem map_components_walkCandidates (start : Path) (package : String) :
    (walkCandidates start package).map components =
      ((start.ancestors.map components).filter (lastName? · != some modules)).map
        (· ++ below package) := by
  rw [List.filter_map, walkCandidates, List.map_map, List.map_map]
  exact List.map_congr_left fun d _ => components_walkCandidate d package

/-- Where a level of the walk leads to: the place of the manifest of a package. -/
def manifestPlace (package : String) (level : Place) : Place := walk level (below package)

/-- The places that the walk tries. -/
theorem map_placeIn_walkCandidates (cwd start : Path) (package : String) :
    (walkCandidates start package).map (placeIn cwd) =
      ((start.ancestors.map components).filter (lastName? · != some modules)).map fun cs =>
        manifestPlace package (walk (placeIn cwd ⟨[]⟩) cs) := by
  have hplace : placeIn cwd = walk (placeIn cwd ⟨[]⟩) ∘ components :=
    funext fun p => placeIn_eq_walk cwd p
  rw [hplace, ← List.map_map, map_components_walkCandidates, List.map_map]
  exact List.map_congr_left fun cs _ => walk_append _ cs _

theorem manifestPlace_eq {package : String} (h : dotDot ∉ packageParts package) (level : Place) :
    manifestPlace package level =
      level ++ modules :: ((packageParts package).filter (!isTrivial ·) ++ [manifestName]) := by
  have hinner : innerComponents (manifestParts package) =
      ((packageParts package).filter (!isTrivial ·) ++ [manifestName]).map .normal := by
    rw [manifestParts, innerComponents_append, List.map_append, innerComponents_of_no_parent h,
      innerComponents_names (List.forall_mem_singleton.2 isName_manifestName)]
  rw [manifestPlace, below, hinner]
  exact walk_normal level (modules :: _)

/-! ## The levels -/

/-- The levels of a lookup: the first `i` names, for `i` from all of them down to none. That whose
last name is the name of the directories that hold packages is passed over. -/
def levels (names : List Bytes) : List Place :=
  ((List.range (names.length + 1)).reverse.map names.take).filter (·.getLast? != some modules)

theorem levels_eq (names : List Bytes) :
    levels names = (ups names ++ [[]]).filter (·.getLast? != some modules) := by
  rw [levels, List.range_succ_eq_map, List.reverse_cons, List.map_append, ← List.map_reverse,
    List.map_map]
  rfl

/-- Every level is above those before it. -/
theorem pairwise_levels (names : List Bytes) :
    (levels names).Pairwise fun near far => far <+: near ∧ far ≠ near := by
  refine List.Pairwise.filter _ (List.pairwise_map.2 ?_)
  have hlt : (List.range (names.length + 1)).reverse.Pairwise fun i j => j < i :=
    List.pairwise_reverse.2 List.pairwise_lt_range
  refine hlt.imp_of_mem fun {i j} hi _ hji => ?_
  have hi' : i < names.length + 1 := List.mem_range.1 (List.mem_reverse.1 hi)
  refine ⟨List.take_prefix_take_left (Nat.le_of_lt hji), fun he => ?_⟩
  have hlength := congrArg List.length he
  rw [List.length_take, List.length_take] at hlength
  omega

theorem nodup_levels (names : List Bytes) : (levels names).Nodup :=
  (pairwise_levels names).imp fun h => h.2.symm

/-- No level ends in a directory that holds packages. -/
theorem getLast?_of_mem_levels {names : List Bytes} {level : Place} (h : level ∈ levels names) :
    level.getLast? ≠ some modules := by
  simpa using (List.mem_filter.1 h).2

theorem prefix_of_mem_levels {names : List Bytes} {level : Place} (h : level ∈ levels names) :
    level <+: names := by
  obtain ⟨i, -, rfl⟩ := List.mem_map.1 (List.mem_filter.1 h).1
  exact List.take_prefix i names

theorem filter_absolute {start : Path} {names : List Bytes}
    (h : start.components = .root :: names.map .normal) :
    (start.ancestors.map components).filter (lastName? · != some modules) =
      (levels names).map fun level => .root :: level.map .normal := by
  have hlast : ((lastName? · != some modules) ∘ fun l : Place => .root :: l.map .normal) =
      (·.getLast? != some modules) := by
    funext l
    exact congrArg (· != some modules) (lastName?_names (show lastName? [.root] = none from rfl) l)
  rw [components_ancestors_absolute h, List.filter_map, hlast, levels_eq]

/-- The walk from an absolute path, by components. -/
theorem map_components_absolute {start : Path} {names : List Bytes}
    (h : start.components = .root :: names.map .normal) (package : String) :
    (walkCandidates start package).map components =
      (levels names).map fun level => .root :: level.map .normal ++ below package := by
  rw [map_components_walkCandidates, filter_absolute h, List.map_map]
  rfl

/-- The walk from an absolute path, by places. -/
theorem map_placeIn_absolute {start : Path} {names : List Bytes}
    (h : start.components = .root :: names.map .normal) (package : String) (cwd : Path) :
    (walkCandidates start package).map (placeIn cwd) =
      (levels names).map (manifestPlace package) := by
  rw [map_placeIn_walkCandidates, filter_absolute h, List.map_map]
  exact List.map_congr_left fun level _ => congrArg (manifestPlace package) (walk_normal [] level)

/-! ## The candidates -/

theorem run_candidates {σ : Type} (h : Handler σ) (s : σ) (start : Path) (package : String) :
    (candidates start package).run h s =
      (walkCandidates start package ++ searchCandidates (h (.env searchVariable) s).1 package,
        (h (.env searchVariable) s).2) := by
  rw [candidates, Program.run_bind, Program.run_ask]
  rfl

theorem searchCandidates_eq (list : Option String) (package : String) :
    searchCandidates list package =
      (searchEntries (list.getD "")).map (·.join (ofNames (manifestParts package))) :=
  List.map_congr_left fun entry _ => manifestIn_eq entry package

theorem map_components_searchCandidates (list : Option String) (package : String) :
    (searchCandidates list package).map components =
      (searchEntries (list.getD "")).map
        (·.components ++ innerComponents (manifestParts package)) := by
  rw [searchCandidates_eq, List.map_map]
  refine List.map_congr_left fun entry hentry => ?_
  obtain ⟨text, htext, rfl⟩ := List.mem_map.1 hentry
  have hne : text ≠ [] := by simpa using (List.mem_filter.1 htext).2
  rw [Function.comp_apply, components_join hne (isAbsolute_ofNames isPart_manifestParts), ofNames,
    Bytes.splitOn_joinWith (by simp [manifestParts]) fun part hpart =>
      (isPart_manifestParts part hpart).noSlash]

theorem components_reference {names : List Bytes} (h : ∀ n ∈ names, IsName n) (package : String) :
    (ofRoot (names ++ modules :: manifestParts package)).components =
      .root :: names.map .normal ++ below package := by
  have hparts : ∀ part ∈ names ++ modules :: manifestParts package, IsPart part :=
    List.forall_mem_append.2 ⟨fun n hn => (h n hn).isPart,
      List.forall_mem_cons.2 ⟨isName_modules.isPart, isPart_manifestParts⟩⟩
  rw [components_ofRoot (by simp) hparts, innerComponents_append, innerComponents_names h,
    innerComponents_cons isName_modules]
  rfl

/-- The candidates of a package from an absolute start directory are those of Node's lookup. For
each level of the start directory there is the absolute path made of the names of the level, the
name of the directories that hold packages and the parts of the package and its manifest, compared
by components; then there is each non-empty entry of the search list followed by these parts.

Every level is above those before it, and none ends in a directory that holds packages. The paths of
the walk are all different, and without a `..` in the package so are the places to which they lead,
which are below the levels. -/
theorem candidates_eq_lookup {σ : Type} (h : Handler σ) (s : σ) (start : Path)
    (names : List Bytes) (package : String)
    (hstart : start.components = .root :: names.map .normal) :
    ∃ walked searched : List Path,
      (candidates start package).run h s =
        (walked ++ searched, (h (.env searchVariable) s).2) ∧
      walked.map components = (levels names).map (fun level =>
        (ofRoot (level ++ modules :: (packageParts package ++ [manifestName]))).components) ∧
      searched = (searchEntries ((h (.env searchVariable) s).1.getD "")).map
        (·.join (ofNames (packageParts package ++ [manifestName]))) ∧
      searched.map components = (searchEntries ((h (.env searchVariable) s).1.getD "")).map
        (·.components ++ innerComponents (packageParts package ++ [manifestName])) ∧
      (levels names).Pairwise (fun near far => far <+: near ∧ far ≠ near) ∧
      (∀ level ∈ levels names, level.getLast? ≠ some modules) ∧
      (walked.map components).Nodup ∧
      (dotDot ∉ packageParts package → ∀ cwd,
        walked.map (placeIn cwd) = (levels names).map (fun level =>
          level ++ modules :: ((packageParts package).filter (!isTrivial ·) ++ [manifestName])) ∧
        (walked.map (placeIn cwd)).Nodup) := by
  have hcomponents := map_components_absolute hstart package
  have hnames : ∀ level ∈ levels names, ∀ n ∈ level, IsName n := fun level hlevel n hn => by
    refine isName_of_normal_mem (p := start) ?_
    rw [hstart]
    exact List.mem_cons_of_mem _
      (List.mem_map_of_mem ((prefix_of_mem_levels hlevel).subset hn))
  have hdistinct : ((walkCandidates start package).map components).Nodup := by
    rw [hcomponents]
    refine (nodup_levels names).map fun a b hab => ?_
    have hmaps : a.map Component.normal = b.map .normal :=
      (List.cons.inj (List.append_cancel_right hab)).2
    exact List.map_injective_iff.2 (fun _ _ => Component.normal.inj) hmaps
  refine ⟨_, _, run_candidates h s start package, ?_, searchCandidates_eq _ package,
    map_components_searchCandidates _ package, pairwise_levels names,
    fun level => getLast?_of_mem_levels, hdistinct, fun hpackage cwd => ?_⟩
  · rw [hcomponents]
    exact List.map_congr_left fun level hlevel =>
      (components_reference (hnames level hlevel) package).symm
  · have hplaces := map_placeIn_absolute hstart package cwd
    rw [funext (manifestPlace_eq hpackage)] at hplaces
    refine ⟨hplaces, ?_⟩
    rw [hplaces]
    exact (nodup_levels names).map fun a b => List.append_cancel_right

namespace Sample

/-- The names of a package directory inside a directory of packages. -/
def names : List Bytes := ["app", "node_modules", "@scope", "tool"].map Bytes.ofText

def start : Path := ofRoot names

/-- The name of another package of the scope, with more slashes than it needs. -/
def package : String := "/@scope//tool-linux"

/-- A host with a search list of one directory and some empty entries. -/
def searching : Memory where
  env := [(searchVariable, ":/opt/lib::")]

end Sample

/-- The directory of packages in which a package directory is comes right after the package
directory and its scope. -/
theorem candidates_eq_lookup_sample :
    Sample.start.components = .root :: Sample.names.map .normal ∧
      dotDot ∉ packageParts Sample.package ∧
      ((candidates Sample.start Sample.package).run
        (Memory.handle noNetwork) (Sample.searching, ())).1.map
          (placeIn Sample.searching.cwd) =
        [["app", "node_modules", "@scope", "tool", "node_modules", "@scope", "tool-linux",
            "package.json"],
          ["app", "node_modules", "@scope", "node_modules", "@scope", "tool-linux",
            "package.json"],
          ["app", "node_modules", "@scope", "tool-linux", "package.json"],
          ["node_modules", "@scope", "tool-linux", "package.json"],
          ["opt", "lib", "@scope", "tool-linux", "package.json"]].map (·.map Bytes.ofText) := by
  have hstart : Sample.start.components = .root :: Sample.names.map .normal := by decide +kernel
  have hpackage : dotDot ∉ packageParts Sample.package := by decide +kernel
  obtain ⟨walked, searched, hrun, -, hsearched, -, -, -, -, hplaces⟩ :=
    candidates_eq_lookup (Memory.handle noNetwork) (Sample.searching, ())
      Sample.start Sample.names Sample.package hstart
  refine ⟨hstart, hpackage, ?_⟩
  rw [hrun, List.map_append, (hplaces hpackage _).1, hsearched]
  decide +kernel

end Resolve

end Provision
