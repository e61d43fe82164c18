import Provision.Proofs.Locating
import Provision.Proofs.Resolving

/-!
# Relative start directories

A walk up from a relative path ends at the empty path, which stands for the current directory. So a
search from a relative start directory looks at the levels up to the current directory, and at no
level above it; a search from the same directory spelled from the root goes on.

* `found` is the first manifest that exists at some levels.
* `relative_root` says what the two searches find in terms of it, and when this is the same.
* `relative_root_misses`: a package next to the one that the process is in is found by one of them
  only.
-/

namespace Provision

namespace Path

/-- The parts of a path that count. Without a `..` these are names. -/
def partNames (p : Path) : List Bytes := (Bytes.splitOn slash p.text).filter (!isTrivial ·)

theorem ups_append (here names : List Bytes) :
    ups (here ++ names) = (ups names).map (here ++ ·) ++ ups here := by
  induction names using List.reverseRecOn with
  | nil => simp [ups]
  | append_singleton names name ih =>
    rw [← List.append_assoc, ups_concat, ih, ups_concat, List.append_assoc]
    rfl

theorem ne_nil_of_mem_ups {names : List Bytes} {level : Place} (h : level ∈ ups names) :
    level ≠ [] := by
  obtain ⟨i, hi, rfl⟩ := List.mem_map.1 h
  have hlt : i < names.length := List.mem_range.1 (List.mem_reverse.1 hi)
  exact List.ne_nil_of_length_pos (by rw [List.length_take]; omega)

/-- A relative path without `..` is made of names, perhaps behind a `.`. -/
theorem exists_lead {p : Path} (hrelative : p.isAbsolute = false)
    (hparent : .parent ∉ p.components) :
    ∃ lead : List Component, (lead = [] ∨ lead = [.current]) ∧
      p.components = lead ++ p.partNames.map .normal ∧
      innerComponents (Bytes.splitOn slash p.text) = p.partNames.map .normal := by
  obtain ⟨lead, hlead, hcomponents⟩ := components_of_relative hrelative
  have hinner : innerComponents (Bytes.splitOn slash p.text) = p.partNames.map .normal :=
    innerComponents_of_no_parent fun h => hparent (by
      rw [hcomponents]
      exact List.mem_append_right _ (parent_mem_innerComponents_iff.2 h))
  exact ⟨lead, hlead, hinner ▸ hcomponents, hinner⟩

end Path

namespace Resolve

open Provision.Path Memory

variable {m : Memory} {start : Path} {here : List Bytes}

/-- The levels of a walk that are below a directory. -/
def levelsBelow (here names : List Bytes) : List Place :=
  ((ups names).filter (·.getLast? != some modules)).map (here ++ ·)

/-- A walk up visits the levels below a directory and then those of the directory. -/
theorem levels_append (here names : List Bytes) :
    levels (here ++ names) = levelsBelow here names ++ levels here := by
  have hlast : ((ups names).filter ((·.getLast? != some modules) ∘ (here ++ ·))) =
      (ups names).filter (·.getLast? != some modules) :=
    List.filter_congr fun level hlevel => by
      have hsome := List.getLast?_eq_some_getLast (ne_nil_of_mem_ups hlevel)
      rw [Function.comp_apply, List.getLast?_append, hsome]
      rfl
  rw [levels_eq, levels_eq, ups_append, List.append_assoc, List.filter_append, List.filter_map,
    hlast]
  rfl

/-- The first manifest of a package that exists, among those to which levels lead. -/
def found (t : Tree Node) (package : String) (levels : List Place) : Option Place :=
  (levels.map (manifestPlace package)).find? fun p => (node? t p).isSome

theorem found_append (t : Tree Node) (package : String) (near far : List Place) :
    found t package (near ++ far) = (found t package near).or (found t package far) := by
  rw [found, List.map_append, List.find?_append]
  rfl

/-- A search on the memory host without a search list. -/
theorem run_manifest? {η : Type} (serve : Url → η → Except NoResponse Response × η) (n : η)
    (start : Path) (package : String) (hunset : m.env.lookup searchVariable = none) :
    ((manifest? start package).run (handle serve) (m, n)).1.map (placeIn m.cwd) =
      ((walkCandidates start package).map (placeIn m.cwd)).find? fun p =>
        (node? m.tree p).isSome := by
  have henv : handle serve (.env searchVariable) (m, n) = (none, (m, n)) :=
    Prod.ext hunset rfl
  have hsearch : searchCandidates none package = [] := by
    show (searchEntries "").map _ = []
    rw [show searchEntries "" = [] by decide]
    rfl
  rw [manifest?, Program.run_bind, run_candidates, henv, hsearch, List.append_nil,
    show handle serve = (UnixHost.memory serve).handler from rfl, Locate.run_firstExisting,
    List.find?_map]
  rfl

theorem placeIn_empty (hcwd : m.cwd.components = .root :: here.map .normal) :
    placeIn m.cwd ⟨[]⟩ = here := by
  have hne : m.cwd.text ≠ [] := mt components_eq_nil_iff.2 (hcwd ▸ List.cons_ne_nil _ _)
  have hnone : innerComponents (Bytes.splitOn slash (⟨[]⟩ : Path).text) = [] := rfl
  rw [placeIn, components_join hne rfl, hcwd, hnone, List.append_nil]
  exact walk_normal [] here

/-- A relative directory spelled from the root. -/
theorem components_join_relative (hcwd : m.cwd.components = .root :: here.map .normal)
    (hrelative : start.isAbsolute = false) (hparent : .parent ∉ start.components) :
    (m.cwd.join start).components = .root :: (here ++ start.partNames).map .normal := by
  obtain ⟨-, -, -, hinner⟩ := exists_lead hrelative hparent
  have hne : m.cwd.text ≠ [] := mt components_eq_nil_iff.2 (hcwd ▸ List.cons_ne_nil _ _)
  rw [components_join hne hrelative, hcwd, hinner, List.map_append]
  rfl

/-- The places that the walk from a relative path tries. A `.` in front counts for a level of its
own, which is the current directory once more. -/
theorem map_placeIn_relative (hcwd : m.cwd.components = .root :: here.map .normal)
    (hrelative : start.isAbsolute = false) (hparent : .parent ∉ start.components)
    (package : String) :
    ∃ last : List Place, (last = [here] ∨ last = [here, here]) ∧
      (walkCandidates start package).map (placeIn m.cwd) =
        (levelsBelow here start.partNames ++ last).map (manifestPlace package) := by
  obtain ⟨lead, hlead, hcomponents, -⟩ := exists_lead hrelative hparent
  have hlast : ((lastName? · != some modules) ∘ fun l : Place => lead ++ l.map .normal) =
      (·.getLast? != some modules) := by
    have hnone : lastName? lead = none := by
      rcases hlead with rfl | rfl <;> rfl
    funext l
    exact congrArg (· != some modules) (lastName?_names hnone l)
  have hwalk : ∀ l : Place, walk here (lead ++ l.map .normal) = here ++ l := fun l => by
    rw [walk_append, walk_normal]
    rcases hlead with rfl | rfl <;> rfl
  rw [map_placeIn_walkCandidates, placeIn_empty hcwd,
    components_ancestors_relative hlead hcomponents, List.filter_append, List.filter_map, hlast,
    List.map_append, List.map_map]
  have hbelow : ((fun cs => manifestPlace package (walk here cs)) ∘
      fun l : Place => lead ++ l.map .normal) = manifestPlace package ∘ (here ++ ·) :=
    funext fun l => congrArg (manifestPlace package) (hwalk l)
  rw [hbelow, levelsBelow]
  rcases hlead with rfl | rfl
  · exact ⟨[here], .inl rfl, by rw [List.map_append, List.map_map]; rfl⟩
  · exact ⟨[here, here], .inr rfl, by rw [List.map_append, List.map_map]; rfl⟩

/-- A search from a relative start directory and one from the same directory spelled from the root.
Both find the nearest manifest below the current directory if there is one. If there is none, the
first looks at the current directory, whatever its name, and the second at the levels of it up to
the root. So they find the same file, or both none, exactly if there is one below the current
directory or if these two last searches agree. -/
theorem relative_root {η : Type} (serve : Url → η → Except NoResponse Response × η) (m : Memory)
    (n : η) (start : Path) (package : String) (here : List Bytes)
    (hcwd : m.cwd.components = .root :: here.map .normal)
    (hunset : m.env.lookup searchVariable = none) (hrelative : start.isAbsolute = false)
    (hparent : .parent ∉ start.components) :
    let near := found m.tree package (levelsBelow here start.partNames)
    let relative := ((manifest? start package).run (handle serve) (m, n)).1.map (placeIn m.cwd)
    let absolute :=
      ((manifest? (m.cwd.join start) package).run (handle serve) (m, n)).1.map (placeIn m.cwd)
    relative = near.or (found m.tree package [here]) ∧
      absolute = near.or (found m.tree package (levels here)) ∧
      (relative = absolute ↔
        near.isSome ∨ found m.tree package [here] = found m.tree package (levels here)) := by
  intro near relative absolute
  have hrel : relative = near.or (found m.tree package [here]) := by
    obtain ⟨last, hlast, hplaces⟩ := map_placeIn_relative hcwd hrelative hparent package
    have htwice : found m.tree package last = found m.tree package [here] := by
      rcases hlast with rfl | rfl
      · rfl
      · rw [← List.singleton_append, found_append, Option.or_self]
    show Option.map _ _ = _
    rw [run_manifest? serve n start package hunset, hplaces, ← htwice]
    exact found_append m.tree package _ last
  have habs : absolute = near.or (found m.tree package (levels here)) := by
    have hcomponents := components_join_relative hcwd hrelative hparent
    show Option.map _ _ = _
    rw [run_manifest? serve n _ package hunset, map_placeIn_absolute hcomponents, levels_append]
    exact found_append m.tree package _ (levels here)
  refine ⟨hrel, habs, ?_⟩
  rw [hrel, habs]
  cases near <;> simp

namespace Sample

def work : Place := ["work", "node_modules", "@anthropic-claude"].map Bytes.ofText

/-- The names that lead to the platform's package, installed next to the main package. -/
def hoisted : Place := work ++ [Bytes.ofText "comment-checker-linux-x64"]

/-- A host with the main package and the platform's package side by side. -/
def sideBySide (cwd : String) : Memory where
  tree := ⟨[([Bytes.ofText "work"], .dir),
    ([Bytes.ofText "work", modules], .dir),
    (work, .dir),
    (work ++ [Bytes.ofText "comment-checker"], .dir),
    (hoisted, .dir),
    (hoisted ++ [manifestName], .file (Bytes.ofText "{}") 0o644)]⟩
  cwd := .ofText cwd

/-- What a search from a start directory finds. -/
def search (cwd start : String) : Option Place :=
  ((manifest? (.ofText start) Key.linuxX64.package).run (handle noNetwork)
    (sideBySide cwd, ())).1.map (placeIn (sideBySide cwd).cwd)

end Sample

/-- From the directory that has the packages, both searches find the one next to the main
package. -/
theorem relative_root_sample :
    (Path.ofText "/work").components = .root :: [Bytes.ofText "work"].map .normal ∧
      Sample.search "/work" "node_modules/@anthropic-claude/comment-checker" =
        some (Sample.hoisted ++ [manifestName]) ∧
      Sample.search "/work" "/work/node_modules/@anthropic-claude/comment-checker" =
        some (Sample.hoisted ++ [manifestName]) := by
  have hcwd : (Path.ofText "/work").components = .root :: [Bytes.ofText "work"].map .normal := by
    decide +kernel
  obtain ⟨hrel, habs, -⟩ := relative_root noNetwork (Sample.sideBySide "/work") ()
    (.ofText "node_modules/@anthropic-claude/comment-checker") Key.linuxX64.package
    [Bytes.ofText "work"] hcwd rfl (by decide +kernel) (by decide +kernel)
  refine ⟨hcwd, hrel.trans ?_, Eq.trans ?_ (habs.trans ?_)⟩
  · decide +kernel
  · decide +kernel
  · decide +kernel

/-- From the main package itself, the search with a relative start directory misses the package next
to it, which the same search from the root finds. -/
theorem relative_root_misses :
    Sample.search "/work/node_modules/@anthropic-claude/comment-checker" "." = none ∧
      Sample.search "/work/node_modules/@anthropic-claude/comment-checker"
          "/work/node_modules/@anthropic-claude/comment-checker/." =
        some (Sample.hoisted ++ [manifestName]) := by
  decide +kernel

end Resolve

end Provision
