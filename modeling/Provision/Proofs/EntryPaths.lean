import Mathlib.Data.List.Basic
import Provision.Archive.Entry
import Provision.Proofs.Ancestors

/-!
# The paths of entries

What becomes of the name of an entry, for a name of any bytes. The name is cut at every `/`. It is
refused if it starts with a `/`, if one of its parts is `..`, or if all of them are empty or `.`.
Otherwise the path is made of the other parts.

* `safeNames?_eq_some_iff` says which names are found among components, and
  `safeNames?_components_iff` says it for the components of a text, in terms of its parts.
* `safePath?_eq_pushed`: pushing one name after another to a path gives the same path.
* `safePath?_ofNames`: a path made of names stays as it is.
* `safePath?_eq_parts` is the result for all names.
-/

namespace Provision

namespace Bytes

theorem joinWith_eq_intercalate (sep : UInt8) (parts : List Bytes) :
    joinWith sep parts = [sep].intercalate parts := by
  induction parts with
  | nil => rfl
  | cons part parts ih =>
    cases parts with
    | nil => simp [joinWith]
    | cons next more =>
      rw [List.intercalate_cons_cons, ← ih]
      simp [joinWith]

/-- A text is cut in one way only: into parts without the separator that join to it. -/
theorem splitOn_eq (sep : UInt8) (bs : Bytes) : splitOn sep bs = List.splitOn sep bs := by
  have hcut : List.splitOn sep ([sep].intercalate (splitOn sep bs)) = splitOn sep bs :=
    List.splitOn_intercalate sep (fun _ hpart => not_mem_of_mem_splitOn hpart)
      (splitOn_ne_nil sep bs)
  rw [← hcut, ← joinWith_eq_intercalate, joinWith_splitOn]

end Bytes

namespace Path

variable {p : Path} {parts names : List Bytes}

theorem components_of_absolute (h : p.isAbsolute = true) :
    ∃ rest, p.components = .root :: rest := by
  obtain ⟨text⟩ := p
  cases text with
  | nil => cases h
  | cons b rest =>
    obtain rfl : b = slash := by simpa [isAbsolute] using h
    have hsplit : Bytes.splitOn slash (slash :: rest) = [] :: Bytes.splitOn slash rest := by
      rw [Bytes.splitOn, if_pos rfl]
    rw [components_eq_of_splitOn hsplit, List.isEmpty_eq_false_iff.2 (Bytes.splitOn_ne_nil _ _)]
    exact ⟨_, rfl⟩

theorem partComponent_ne_current (part : Bytes) : partComponent part ≠ .current := by
  unfold partComponent
  split_ifs <;> simp

/-- A `.` is a component at the start only, and what is behind it are the parts. -/
theorem filter_components (h : p.isAbsolute = false) :
    p.components.filter (· ≠ .current) = innerComponents (Bytes.splitOn slash p.text) := by
  obtain ⟨lead, hlead, hcomponents⟩ := components_of_relative h
  have hinner : (innerComponents (Bytes.splitOn slash p.text)).filter (· ≠ .current) =
      innerComponents (Bytes.splitOn slash p.text) := by
    rw [List.filter_eq_self]
    intro c hc
    obtain ⟨part, -, rfl⟩ := List.mem_map.1 hc
    exact decide_eq_true (partComponent_ne_current part)
  rw [hcomponents, List.filter_append, hinner]
  rcases hlead with rfl | rfl <;> rfl

/-- The parts that count, with the two that do not spelled out. -/
theorem filter_isTrivial (parts : List Bytes) :
    parts.filter (!isTrivial ·) = parts.filter fun part => part ≠ [] ∧ part ≠ dot :=
  List.filter_congr fun part _ => by
    rw [Bool.eq_iff_iff]
    simp [isTrivial]

theorem innerComponents_eq_names_iff :
    innerComponents parts = names.map .normal ↔
      dotDot ∉ parts ∧ (parts.filter fun part => part ≠ [] ∧ part ≠ dot) = names := by
  rw [← filter_isTrivial]
  constructor
  · intro h
    have hparent : dotDot ∉ parts := by
      rw [← parent_mem_innerComponents_iff, h]
      simp
    rw [innerComponents_of_no_parent hparent] at h
    exact ⟨hparent, List.map_injective_iff.2 (fun _ _ => Component.normal.inj) h⟩
  · rintro ⟨hparent, rfl⟩
    exact innerComponents_of_no_parent hparent

end Path

namespace Archive

open Provision.Path

variable {p c : Path} {names : List Bytes}

/-! ## The names among components -/

/-- Components have names exactly if they are names but for the `.` among them. -/
theorem safeNames?_eq_some_iff {cs : List Component} :
    safeNames? cs = some names ↔ cs.filter (· ≠ .current) = names.map .normal := by
  induction cs generalizing names with
  | nil => simp [safeNames?, eq_comm]
  | cons component cs ih =>
    cases component with
    | root => cases names <;> simp [safeNames?]
    | parent => cases names <;> simp [safeNames?]
    | current => simpa [safeNames?] using ih
    | normal name =>
      cases names with
      | nil => simp [safeNames?]
      | cons first rest =>
        have hkept : (.normal name :: cs).filter (· ≠ .current) =
            .normal name :: cs.filter (· ≠ .current) := List.filter_cons_of_pos rfl
        rw [safeNames?, hkept, List.map_cons, List.cons.injEq, ← ih, Option.map_eq_some_iff]
        constructor
        · rintro ⟨found, hfound, heq⟩
          obtain ⟨rfl, rfl⟩ := List.cons.inj heq
          exact ⟨rfl, hfound⟩
        · rintro ⟨hname, hrest⟩
          exact ⟨rest, hrest, by rw [Component.normal.inj hname]⟩

theorem safeNames?_normal (names : List Bytes) :
    safeNames? (names.map .normal) = some names :=
  safeNames?_eq_some_iff.2 (List.filter_eq_self.2 fun c hc => by
    obtain ⟨name, -, rfl⟩ := List.mem_map.1 hc
    rfl)

/-- The names of a path, read off its text: a leading `/` or a part `..` leaves none, and of the
other parts all count that are neither empty nor `.`. -/
theorem safeNames?_components_iff :
    safeNames? p.components = some names ↔
      p.text.head? ≠ some slash ∧ dotDot ∉ List.splitOn slash p.text ∧
        ((List.splitOn slash p.text).filter fun part => part ≠ [] ∧ part ≠ dot) = names := by
  have hrelative : p.text.head? ≠ some slash ↔ p.isAbsolute = false := beq_eq_false_iff_ne.symm
  rw [safeNames?_eq_some_iff, hrelative, ← Bytes.splitOn_eq]
  cases habsolute : p.isAbsolute with
  | true =>
    obtain ⟨rest, hrest⟩ := components_of_absolute habsolute
    rw [hrest]
    cases names <;> simp
  | false =>
    rw [filter_components habsolute, innerComponents_eq_names_iff]
    simp

theorem isName_of_safeNames? (h : safeNames? p.components = some names) :
    ∀ name ∈ names, IsName name := by
  intro name hname
  have hmem : Component.normal name ∈ p.components.filter (· ≠ .current) := by
    rw [safeNames?_eq_some_iff.1 h]
    exact List.mem_map_of_mem hname
  exact Memory.isName_of_normal_mem (List.mem_filter.1 hmem).1

/-! ## The path made of the names -/

theorem safePath?_eq_some_iff :
    safePath? p = some c ↔
      ∃ names, names ≠ [] ∧ safeNames? p.components = some names ∧ ofNames names = c := by
  unfold safePath?
  cases safeNames? p.components with
  | none => simp
  | some found => cases found <;> simp [ofNames]

/-- A path made of names is safe as it is. -/
theorem safePath?_ofNames (hne : names ≠ []) (h : ∀ name ∈ names, IsName name) :
    safePath? (ofNames names) = some (ofNames names) :=
  safePath?_eq_some_iff.2 ⟨names, hne, by rw [components_ofNames hne h, safeNames?_normal], rfl⟩

/-- One component more for a path that is built from the front. -/
def push? (clean : Path) : Component → Option Path
  | .normal name => some (clean.child name)
  | .current => some clean
  | .root => none
  | .parent => none

theorem foldlM_push? (clean : Path) (cs : List Component) :
    cs.foldlM push? clean = (safeNames? cs).map (·.foldl Path.child clean) := by
  induction cs generalizing clean with
  | nil => rfl
  | cons component cs ih =>
    rw [List.foldlM_cons]
    cases component with
    | root => rfl
    | parent => rfl
    | current => exact ih clean
    | normal name =>
      rw [safeNames?, Option.map_map]
      exact ih (clean.child name)

/-- The safe path is what is built by pushing the components one after another, unless one of them
cannot be pushed or the path is still empty in the end. -/
theorem safePath?_eq_pushed (p : Path) :
    safePath? p = (p.components.foldlM push? ⟨[]⟩).filter (·.text ≠ []) := by
  rw [foldlM_push?, safePath?]
  cases hnames : safeNames? p.components with
  | none => rfl
  | some names =>
    have hname := isName_of_safeNames? hnames
    rw [Option.map_some, foldl_child_eq fun name h => (hname name h).isPart]
    cases names with
    | nil => rfl
    | cons name more =>
      have htext : (ofNames (name :: more)).text ≠ [] := by
        intro hnil
        have hnone := components_eq_nil_iff.2 hnil
        rw [components_ofNames (List.cons_ne_nil name more) hname] at hnone
        cases hnone
      rw [Option.filter_some, if_pos (decide_eq_true htext)]
      rfl

/-! ## Names of any bytes -/

/-- The name of an entry is turned into a path exactly if it does not start with a `/`, none of the
parts between one `/` and the next is `..`, and one of them is neither empty nor `.`. The path is
then the parts that are neither empty nor `.`, joined by `/` in their order. It is its own safe
path, and below any directory it goes down those parts. -/
theorem safePath?_eq_parts (p : Path) :
    let parts := List.splitOn slash p.text
    let names := parts.filter fun part => part ≠ [] ∧ part ≠ dot
    ((safePath? p).isSome ↔
        p.text.head? ≠ some slash ∧ dotDot ∉ parts ∧ ∃ part ∈ parts, part ≠ [] ∧ part ≠ dot) ∧
      ∀ c, safePath? p = some c →
        c.text = [slash].intercalate names ∧ safePath? c = some c ∧
          ∀ d : Path, (d.join c).components = d.components ++ names.map .normal := by
  intro parts names
  have hcounts : (∃ part ∈ parts, part ≠ [] ∧ part ≠ dot) ↔ names ≠ [] := by
    simp [names, List.filter_eq_nil_iff]
  rw [hcounts, Option.isSome_iff_exists]
  refine ⟨⟨?_, ?_⟩, ?_⟩
  · rintro ⟨c, hc⟩
    obtain ⟨found, hne, hsafe, -⟩ := safePath?_eq_some_iff.1 hc
    obtain ⟨hstart, hparent, hfound⟩ := safeNames?_components_iff.1 hsafe
    exact ⟨hstart, hparent, fun hnone => hne (hfound.symm.trans hnone)⟩
  · rintro ⟨hstart, hparent, hne⟩
    have hsafe := safeNames?_components_iff.2 ⟨hstart, hparent, rfl⟩
    exact ⟨ofNames names, safePath?_eq_some_iff.2 ⟨names, hne, hsafe, rfl⟩⟩
  · intro c hc
    obtain ⟨found, hne, hsafe, rfl⟩ := safePath?_eq_some_iff.1 hc
    have hfound : names = found := (safeNames?_components_iff.1 hsafe).2.2
    have hname := isName_of_safeNames? hsafe
    rw [hfound]
    exact ⟨Bytes.joinWith_eq_intercalate slash found, safePath?_ofNames hne hname,
      fun d => components_joinNames d hne hname⟩

/-- A name with a leading `.`, a doubled `/` and a `.` at the end is read as the two names in it. -/
theorem safePath?_eq_parts_sample :
    safePath? (.ofText "./dist//./tool/.") = some (.ofText "dist/tool") ∧
      safePath? (.ofText "dist/tool") = some (.ofText "dist/tool") ∧
      ((Path.ofText "/work/out/").join (.ofText "dist/tool")).components =
        (Path.ofText "/work/out/").components ++
          ["dist", "tool"].map fun name => .normal (Bytes.ofText name) := by
  have hclean : safePath? (.ofText "./dist//./tool/.") = some (.ofText "dist/tool") := by
    decide +kernel
  have hnames : ((List.splitOn slash (Path.ofText "./dist//./tool/.").text).filter fun part =>
      part ≠ [] ∧ part ≠ dot) = ["dist", "tool"].map Bytes.ofText := by
    decide +kernel
  obtain ⟨-, hself, hjoin⟩ := (safePath?_eq_parts _).2 _ hclean
  refine ⟨hclean, hself, ?_⟩
  rw [hjoin, hnames, List.map_map]
  rfl

example : safePath? (.ofText "dist/../../tool") = none := by decide +kernel

end Archive

end Provision
