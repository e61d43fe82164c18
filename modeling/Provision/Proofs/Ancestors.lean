import Mathlib.Algebra.GroupWithZero.Nat
import Mathlib.Data.List.Induction
import Mathlib.Tactic.ByContra
import Provision.Proofs.Paths

/-!
# The paths above a path

Walking up from a path takes its names away one after another. An absolute path ends at the root; a
relative one ends at the empty path, which stands for the current directory.

* `ups` are the first names of a list, all of them first and one of them last.
* `components_ancestors_absolute` and `components_ancestors_relative` list the paths above a path
  by their components.
* `components_of_relative`: what a relative path is like, and `innerComponents_of_no_parent` what it
  is made of when it has no `..`.
-/

namespace Provision

namespace Bytes

theorem length_joinWith (sep : UInt8) (part : Bytes) (parts : List Bytes) :
    (joinWith sep (part :: parts)).length =
      part.length + (parts.map fun p => p.length + 1).sum := by
  induction parts generalizing part with
  | nil => rfl
  | cons next parts ih =>
    show (part ++ sep :: joinWith sep (next :: parts)).length = _
    rw [List.length_append, List.length_cons, ih, List.map_cons, List.sum_cons]
    omega

end Bytes

namespace Path

/-! ## The number of components -/

theorem length_leadComponent_le (first : Bytes) (more : Bool) :
    (leadComponent first more).length ≤ 1 := by
  unfold leadComponent
  split_ifs <;> simp

/-- Every component but the one at the front takes a byte and a separator. -/
theorem length_innerComponents_le (parts : List Bytes) :
    (innerComponents parts).length + parts.length ≤ (parts.map fun p => p.length + 1).sum := by
  induction parts with
  | nil => exact Nat.le_refl _
  | cons part parts ih =>
    have hcons : (innerComponents (part :: parts)).length ≤
        part.length + (innerComponents parts).length := by
      unfold innerComponents
      rw [List.filter_cons]
      cases ht : isTrivial part with
      | true => simp
      | false =>
        have hpart : 0 < part.length := List.length_pos_iff.2 (by
          rintro rfl
          cases ht)
        simp only [Bool.not_false, if_true, List.map_cons, List.length_cons]
        omega
    rw [List.map_cons, List.sum_cons, List.length_cons]
    omega

/-- A path has no more components than bytes. -/
theorem length_components_le (p : Path) : p.components.length ≤ p.text.length := by
  cases hp : Bytes.splitOn slash p.text with
  | nil => exact absurd hp (Bytes.splitOn_ne_nil _ _)
  | cons first rest =>
    have htext : p.text.length = first.length + (rest.map fun p => p.length + 1).sum := by
      rw [← Bytes.length_joinWith slash, ← hp, Bytes.joinWith_splitOn]
    have hinner := length_innerComponents_le rest
    have hlead := length_leadComponent_le first (!rest.isEmpty)
    rw [components_eq_of_splitOn hp, List.length_append, htext]
    change _ + (innerComponents rest).length ≤ _
    by_cases hnone : first = [] ∧ rest = []
    · obtain ⟨rfl, rfl⟩ := hnone
      exact Nat.le_refl 0
    · have hpos : 0 < first.length + rest.length := by
        rcases not_and_or.1 hnone with h | h
        · have := List.length_pos_iff.2 h
          omega
        · have := List.length_pos_iff.2 h
          omega
      omega

/-! ## Where a walk up ends -/

theorem partComponent_ne_root (part : Bytes) : partComponent part ≠ .root := by
  unfold partComponent
  split_ifs <;> simp

/-- A path with a single component that is no name has nothing but trivial parts behind it. -/
theorem trimParts_of_lead {first : Bytes} {rest : List Bytes} {c : Component}
    (h : leadComponent first (!rest.isEmpty) ++ innerComponents rest = [c])
    (hc : c = .root ∨ c = .current) : trimParts rest = [] := by
  obtain ⟨hfilter, hlast⟩ := trimParts_eq rest
  have hinner : innerComponents rest = [] := by
    cases hlead : leadComponent first (!rest.isEmpty) with
    | nil =>
      -- without a component in front the only one would be that of an inner part
      rw [hlead, List.nil_append] at h
      have hmem : c ∈ innerComponents rest := h ▸ List.mem_singleton.2 rfl
      obtain ⟨part, -, hpart⟩ := List.mem_map.1 hmem
      rcases hc with rfl | rfl
      · exact absurd hpart (partComponent_ne_root part)
      · unfold partComponent at hpart
        split_ifs at hpart
    | cons d ds =>
      rw [hlead, List.cons_append] at h
      exact (List.append_eq_nil_iff.1 (List.cons.inj h).2).2
  by_contra hne
  have hget := List.getLast?_eq_some_getLast hne
  have htrivial := hlast _ hget
  have hmem : (trimParts rest).getLast hne ∈ rest.filter (!isTrivial ·) := by
    rw [← hfilter, List.mem_filter, htrivial]
    exact ⟨List.getLast_mem hne, rfl⟩
  rw [innerComponents, List.map_eq_nil_iff] at hinner
  rw [hinner] at hmem
  cases hmem

/-- There is nothing above the root. -/
theorem parent?_of_root {p : Path} (h : p.components = [.root]) : p.parent? = none := by
  cases hp : Bytes.splitOn slash p.text with
  | nil => exact absurd hp (Bytes.splitOn_ne_nil _ _)
  | cons first rest =>
    rw [components_eq_of_splitOn hp] at h
    have htrim := trimParts_of_lead h (.inl rfl)
    have hfirst : first.isEmpty = true := by
      have hmem : Component.root ∈ leadComponent first (!rest.isEmpty) ++ innerComponents rest :=
        h ▸ List.mem_singleton.2 rfl
      rcases List.mem_append.1 hmem with hlead | hinner
      · by_contra hne
        unfold leadComponent at hlead
        rw [if_neg hne] at hlead
        split_ifs at hlead with hdot
        · simp at hlead
        · exact partComponent_ne_root first (List.mem_singleton.1 hlead).symm
      · obtain ⟨part, -, hpart⟩ := List.mem_map.1 hinner
        exact absurd hpart (partComponent_ne_root part)
    unfold parent?
    rw [hp]
    dsimp only
    rw [htrim]
    exact if_pos hfirst

/-- Above a `.` is the empty path. -/
theorem parent?_of_current {p : Path} (h : p.components = [.current]) :
    p.parent? = some ⟨[]⟩ := by
  cases hp : Bytes.splitOn slash p.text with
  | nil => exact absurd hp (Bytes.splitOn_ne_nil _ _)
  | cons first rest =>
    rw [components_eq_of_splitOn hp] at h
    have htrim := trimParts_of_lead h (.inr rfl)
    have hfirst : first.isEmpty = false := by
      rw [Bool.eq_false_iff]
      intro hempty
      unfold leadComponent at h
      rw [if_pos hempty] at h
      split_ifs at h with hmore
      · cases (List.cons.inj h).1
      · have hrest : rest = [] := by simpa using hmore
        rw [hrest] at h
        cases h
    unfold parent?
    rw [hp]
    dsimp only
    rw [htrim, hfirst]
    rfl

/-! ## The walk up -/

/-- The first names of a list: all of them, then one less, down to one. -/
def ups (names : List Bytes) : List Place :=
  (List.range names.length).reverse.map fun i => names.take (i + 1)

theorem ups_concat (names : List Bytes) (name : Bytes) :
    ups (names ++ [name]) = (names ++ [name]) :: ups names := by
  have hall : (names ++ [name]).take (names.length + 1) = names ++ [name] :=
    List.take_of_length_le (by simp)
  unfold ups
  rw [List.length_append, List.length_singleton, List.range_succ, List.reverse_append,
    List.reverse_singleton, List.singleton_append, List.map_cons, hall]
  congr 1
  refine List.map_congr_left fun i hi => ?_
  have hlt : i < names.length := List.mem_range.1 (List.mem_reverse.1 hi)
  exact List.take_append_of_le_length hlt

/-- Walking up takes away the names one by one, and then goes on from what is before them. -/
theorem exists_ancestorsUpTo {p : Path} {cs : List Component} {names : List Bytes}
    (h : p.components = cs ++ names.map .normal) (fuel : Nat) :
    ∃ base : Path, base.components = cs ∧
      (ancestorsUpTo (names.length + fuel) p).map components =
        (ups names).map (fun l => cs ++ l.map .normal) ++
          (ancestorsUpTo fuel base).map components := by
  induction names using List.reverseRecOn generalizing p with
  | nil =>
    rw [List.map_nil, List.append_nil] at h
    exact ⟨p, h, by rw [List.length_nil, Nat.zero_add]; rfl⟩
  | append_singleton names name ih =>
    have hlast : p.components = (cs ++ names.map .normal) ++ [.normal name] := by
      rw [h, List.map_append, List.append_assoc]
      rfl
    obtain ⟨above, hparent, habove⟩ := exists_parent? hlast
    obtain ⟨base, hbase, hwalk⟩ := ih habove
    refine ⟨base, hbase, ?_⟩
    have hfuel : (names ++ [name]).length + fuel = (names.length + fuel) + 1 := by
      rw [List.length_append, List.length_singleton]
      omega
    rw [hfuel, ancestorsUpTo, hparent]
    dsimp only
    rw [List.map_cons, hwalk, ups_concat, List.map_cons, List.cons_append, h]

/-- The paths above an absolute path, by their names. -/
theorem components_ancestors_absolute {p : Path} {names : List Bytes}
    (h : p.components = .root :: names.map .normal) :
    p.ancestors.map components =
      (ups names ++ [[]]).map fun l : Place => .root :: l.map .normal := by
  have hlength := length_components_le p
  rw [h, List.length_cons, List.length_map] at hlength
  obtain ⟨fuel, hfuel⟩ : ∃ fuel, p.text.length + 1 = names.length + (fuel + 1) :=
    ⟨p.text.length - names.length, by omega⟩
  change p.components = [.root] ++ names.map .normal at h
  obtain ⟨base, hbase, hwalk⟩ := exists_ancestorsUpTo h (fuel + 1)
  rw [ancestors, hfuel, hwalk, ancestorsUpTo, parent?_of_root hbase, List.map_append,
    List.map_singleton, List.map_singleton, hbase]
  rfl

/-- The paths above a relative path, by their names. Behind a `.` in front comes the empty path. -/
theorem components_ancestors_relative {p : Path} {lead : List Component} {names : List Bytes}
    (hlead : lead = [] ∨ lead = [.current]) (h : p.components = lead ++ names.map .normal) :
    p.ancestors.map components =
      (ups names).map (fun l => lead ++ l.map .normal) ++
        if lead = [] then [[]] else [[.current], []] := by
  have hlength := length_components_le p
  rw [h, List.length_append, List.length_map] at hlength
  rcases hlead with rfl | rfl
  · obtain ⟨fuel, hfuel⟩ : ∃ fuel, p.text.length + 1 = names.length + (fuel + 1) :=
      ⟨p.text.length - names.length, by simp at hlength; omega⟩
    obtain ⟨base, hbase, hwalk⟩ := exists_ancestorsUpTo h (fuel + 1)
    obtain rfl : base = ⟨[]⟩ := congrArg Path.mk (components_eq_nil_iff.1 hbase)
    rw [ancestors, hfuel, hwalk, if_pos rfl]
    rfl
  · obtain ⟨fuel, hfuel⟩ : ∃ fuel, p.text.length + 1 = names.length + (fuel + 1 + 1) :=
      ⟨p.text.length - names.length - 1, by simp at hlength; omega⟩
    obtain ⟨base, hbase, hwalk⟩ := exists_ancestorsUpTo h (fuel + 1 + 1)
    rw [ancestors, hfuel, hwalk, if_neg (List.cons_ne_nil _ _), ancestorsUpTo,
      parent?_of_current hbase, List.map_cons, hbase]
    rfl

/-! ## Relative paths -/

/-- The components of a relative path are those of its parts, perhaps behind a `.`. -/
theorem components_of_relative {p : Path} (h : p.isAbsolute = false) :
    ∃ lead : List Component, (lead = [] ∨ lead = [.current]) ∧
      p.components = lead ++ innerComponents (Bytes.splitOn slash p.text) := by
  cases hp : Bytes.splitOn slash p.text with
  | nil => exact absurd hp (Bytes.splitOn_ne_nil _ _)
  | cons first rest =>
    rw [components_eq_of_splitOn hp, leadComponent]
    split_ifs with hfirst hmore hdot
    · -- an empty part in front of others makes a path absolute
      exfalso
      have htext : p.text = Bytes.joinWith slash (first :: rest) := by
        rw [← hp, Bytes.joinWith_splitOn]
      obtain ⟨next, more, rfl⟩ := List.exists_cons_of_ne_nil (l := rest) (by simpa using hmore)
      rw [List.isEmpty_iff.1 hfirst] at htext
      rw [isAbsolute, htext] at h
      cases h
    · exact ⟨[], .inl rfl, by simp [innerComponents, isTrivial, hfirst]⟩
    · exact ⟨[.current], .inr rfl, by simp [innerComponents, isTrivial, hdot]⟩
    · exact ⟨[], .inl rfl, by simp [innerComponents, isTrivial, hfirst, hdot]⟩

theorem parent_mem_innerComponents_iff {parts : List Bytes} :
    .parent ∈ innerComponents parts ↔ dotDot ∈ parts := by
  unfold innerComponents
  rw [List.mem_map]
  constructor
  · rintro ⟨part, hpart, hparent⟩
    unfold partComponent at hparent
    split_ifs at hparent with hdots
    exact hdots ▸ (List.mem_filter.1 hpart).1
  · exact fun h => ⟨dotDot, List.mem_filter.2 ⟨h, rfl⟩, if_pos rfl⟩

/-- Without a `..` the parts stand for names. -/
theorem innerComponents_of_no_parent {parts : List Bytes} (h : dotDot ∉ parts) :
    innerComponents parts = (parts.filter (!isTrivial ·)).map .normal := by
  refine List.map_congr_left fun part hpart => ?_
  rw [partComponent, if_neg]
  rintro rfl
  exact h (List.mem_filter.1 hpart).1

end Path

end Provision
