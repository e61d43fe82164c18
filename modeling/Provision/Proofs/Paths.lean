import Mathlib.Data.List.Induction
import Mathlib.Tactic.SplitIfs
import Provision.Memory

/-!
# Paths and the places they name

A path is a text, a place is a list of names. This module says how the two go together for the paths
that the library builds: a directory followed by names.

* `components_join`: joining a relative path appends the components of its parts, and
  `components_joinNames` is the case of a path made of names.
* `exists_parent?`: the path above a path that ends in a name has the components before it.
* `placeIn_eq_walk`: the place of a path depends on its components only, and `placeIn_joinNames`
  gives it for a directory followed by names.
* `isName_of_mem_placeIn`: no path leads to a place with other than ordinary names.
-/

namespace Provision

namespace Bytes

theorem splitOn_append_cons (sep : UInt8) (a b : Bytes) :
    splitOn sep (a ++ sep :: b) = splitOn sep a ++ splitOn sep b := by
  induction a with
  | nil => simp [splitOn]
  | cons x a ih =>
    rw [List.cons_append, splitOn, splitOn, ih]
    split_ifs with h
    · rfl
    · cases hs : splitOn sep a with
      | nil => exact absurd hs (splitOn_ne_nil sep a)
      | cons part parts => rfl

theorem splitOn_of_not_mem {sep : UInt8} {bs : Bytes} (h : sep ∉ bs) : splitOn sep bs = [bs] := by
  induction bs with
  | nil => rfl
  | cons b rest ih =>
    rw [splitOn, if_neg (by rintro rfl; simp at h), ih (by simp at h; exact h.2)]

theorem not_mem_of_mem_splitOn {sep : UInt8} {bs part : Bytes} (h : part ∈ splitOn sep bs) :
    sep ∉ part := by
  induction bs generalizing part with
  | nil => simp [splitOn] at h; simp [h]
  | cons b rest ih =>
    rw [splitOn] at h
    split_ifs at h with hb
    · rcases List.mem_cons.1 h with rfl | h
      · simp
      · exact ih h
    · cases hs : splitOn sep rest with
      | nil => exact absurd hs (splitOn_ne_nil sep rest)
      | cons first parts =>
        rw [hs] at h ih
        rcases List.mem_cons.1 h with rfl | h
        · have := ih (List.mem_cons_self ..)
          simp only [List.mem_cons, not_or]
          exact ⟨fun he => hb he.symm, this⟩
        · exact ih (List.mem_cons_of_mem _ h)

theorem splitOn_joinWith {sep : UInt8} {parts : List Bytes} (hne : parts ≠ [])
    (h : ∀ part ∈ parts, sep ∉ part) : splitOn sep (joinWith sep parts) = parts := by
  induction parts with
  | nil => exact absurd rfl hne
  | cons part parts ih =>
    have hp : sep ∉ part := h part (List.mem_cons_self ..)
    cases parts with
    | nil => exact splitOn_of_not_mem hp
    | cons next more =>
      rw [joinWith, splitOn_append_cons, splitOn_of_not_mem hp,
        ih (by simp) fun p hm => h p (List.mem_cons_of_mem _ hm)]
      · rfl
      · simp

theorem joinWith_append (sep : UInt8) {parts more : List Bytes} (hne : parts ≠ [])
    (hmore : more ≠ []) :
    joinWith sep (parts ++ more) = joinWith sep parts ++ sep :: joinWith sep more := by
  induction parts with
  | nil => exact absurd rfl hne
  | cons first parts ih =>
    cases parts with
    | nil =>
      obtain ⟨next, rest, rfl⟩ := List.exists_cons_of_ne_nil hmore
      rfl
    | cons second parts =>
      show first ++ sep :: joinWith sep (second :: parts ++ more) = _
      rw [ih (List.cons_ne_nil second parts), ← List.cons_append, ← List.append_assoc]
      rfl

theorem splitOn_eq_singleton_nil {sep : UInt8} {bs : Bytes} (h : splitOn sep bs = [[]]) :
    bs = [] := by
  rw [← joinWith_splitOn sep bs, h, joinWith]

end Bytes

namespace Path

/-- A part that is an ordinary name: it stands for one step down. -/
structure IsName (part : Bytes) : Prop where
  ne_nil : part ≠ []
  ne_dot : part ≠ dot
  ne_dotDot : part ≠ dotDot
  noSlash : slash ∉ part

instance : DecidablePred IsName := fun part =>
  decidable_of_iff (part ≠ [] ∧ part ≠ dot ∧ part ≠ dotDot ∧ slash ∉ part)
    ⟨fun h => ⟨h.1, h.2.1, h.2.2.1, h.2.2.2⟩, fun h => ⟨h.ne_nil, h.ne_dot, h.ne_dotDot, h.noSlash⟩⟩

/-- A part of a path text that is not empty. -/
structure IsPart (part : Bytes) : Prop where
  ne_nil : part ≠ []
  noSlash : slash ∉ part

theorem IsName.isPart {part : Bytes} (h : IsName part) : IsPart part := ⟨h.ne_nil, h.noSlash⟩

theorem IsName.not_trivial {part : Bytes} (h : IsName part) : isTrivial part = false := by
  simp [isTrivial, h.ne_nil, h.ne_dot]

theorem IsName.partComponent_eq {part : Bytes} (h : IsName part) :
    partComponent part = .normal part := by
  rw [partComponent, if_neg h.ne_dotDot]

theorem IsName.leadComponent_eq {part : Bytes} (h : IsName part) (more : Bool) :
    leadComponent part more = [.normal part] := by
  have : part.isEmpty = false := by simp [h.ne_nil]
  simp [leadComponent, this, h.ne_dot, h.partComponent_eq]

/-- The relative path made of names. -/
def ofNames (names : List Bytes) : Path := ⟨Bytes.joinWith slash names⟩

@[simp] theorem ofNames_singleton (name : Bytes) : ofNames [name] = ⟨name⟩ := rfl

theorem splitOn_ofNames {names : List Bytes} (hne : names ≠ []) (h : ∀ n ∈ names, IsName n) :
    Bytes.splitOn slash (ofNames names).text = names :=
  Bytes.splitOn_joinWith hne fun n hn => (h n hn).noSlash

theorem isAbsolute_ofNames {names : List Bytes} (h : ∀ n ∈ names, IsPart n) :
    (ofNames names).isAbsolute = false := by
  cases names with
  | nil => rfl
  | cons name more =>
    have hn := h name (List.mem_cons_self ..)
    obtain ⟨b, rest, rfl⟩ := List.exists_cons_of_ne_nil hn.ne_nil
    have hb : b ≠ slash := by
      rintro rfl
      exact hn.noSlash (List.mem_cons_self ..)
    cases more <;> simp [isAbsolute, ofNames, Bytes.joinWith, hb]

/-- A path made of parts ends with a byte of the last part. -/
theorem exists_getLast?_ofNames {names : List Bytes} (hne : names ≠ [])
    (h : ∀ n ∈ names, IsPart n) : ∃ b, (ofNames names).text.getLast? = some b ∧ b ≠ slash := by
  obtain ⟨front, last, rfl⟩ : ∃ front last, names = front ++ [last] :=
    ⟨_, _, (List.dropLast_concat_getLast hne).symm⟩
  have hlast := h last (List.mem_append_right _ List.mem_cons_self)
  have hb := List.getLast?_eq_some_getLast hlast.ne_nil
  refine ⟨_, ?_, fun hs => hlast.noSlash (hs ▸ List.getLast_mem hlast.ne_nil)⟩
  by_cases hfront : front = []
  · rw [hfront]
    exact hb
  · rw [ofNames, Bytes.joinWith_append slash hfront (List.cons_ne_nil last []),
      List.getLast?_append, List.getLast?_cons, Bytes.joinWith, hb]
    rfl

/-- Joining to the empty path changes nothing. -/
theorem empty_join (q : Path) : (⟨[]⟩ : Path).join q = q := by
  unfold join
  split_ifs <;> rfl

/-- Joining parts and then further parts is joining all of them. -/
theorem join_ofNames_append (p : Path) {names more : List Bytes} (hne : names ≠ [])
    (h : ∀ n ∈ names, IsPart n) (hmore : more ≠ []) (h' : ∀ n ∈ more, IsPart n) :
    (p.join (ofNames names)).join (ofNames more) = p.join (ofNames (names ++ more)) := by
  have hall : ∀ n ∈ names ++ more, IsPart n := fun n hn =>
    (List.mem_append.1 hn).elim (h n) (h' n)
  obtain ⟨b, hb, hslash⟩ := exists_getLast?_ofNames hne h
  -- the text of the joined path ends like that of the parts
  have hlast : ∀ front : Bytes, (front ++ (ofNames names).text).getLast? = some b := fun front => by
    rw [List.getLast?_append, hb]
    rfl
  have htext : (ofNames (names ++ more)).text =
      (ofNames names).text ++ slash :: (ofNames more).text :=
    Bytes.joinWith_append slash hne hmore
  unfold join
  rw [isAbsolute_ofNames h, isAbsolute_ofNames h', isAbsolute_ofNames hall]
  cases hp : p.text.getLast? with
  | none =>
    simp only [Bool.false_eq_true, if_false, hb, if_neg hslash]
    exact congrArg Path.mk htext.symm
  | some c =>
    by_cases hc : c = slash
    · simp only [Bool.false_eq_true, if_false, if_pos hc, hlast, if_neg hslash, htext,
        List.append_assoc]
    · simp only [Bool.false_eq_true, if_false, if_neg hc]
      have hlast' := hlast (p.text ++ [slash])
      rw [List.append_assoc, List.singleton_append] at hlast'
      simp only [hlast', if_neg hslash, htext, List.append_assoc, List.cons_append]

/-- Appending parts one after another to the empty path makes the path of these parts. -/
theorem foldl_child_eq {parts : List Bytes} (h : ∀ part ∈ parts, IsPart part) :
    parts.foldl child ⟨[]⟩ = ofNames parts := by
  induction parts using List.reverseRecOn with
  | nil => rfl
  | append_singleton parts part ih =>
    obtain ⟨hparts, hpart⟩ := List.forall_mem_append.1 h
    rw [List.foldl_append, ih hparts]
    show (ofNames parts).join (ofNames [part]) = _
    by_cases hne : parts = []
    · rw [hne]
      exact empty_join _
    · rw [← empty_join (ofNames parts),
        join_ofNames_append _ hne hparts (List.cons_ne_nil part []) hpart, empty_join]

theorem filter_names {names : List Bytes} (h : ∀ n ∈ names, IsName n) :
    (names.filter (!isTrivial ·)).map partComponent = names.map .normal := by
  rw [List.filter_eq_self.2 fun n hn => by simp [(h n hn).not_trivial]]
  exact List.map_congr_left fun n hn => (h n hn).partComponent_eq

theorem components_eq_of_splitOn {p : Path} {first : Bytes} {rest : List Bytes}
    (h : Bytes.splitOn slash p.text = first :: rest) :
    p.components =
      leadComponent first (!rest.isEmpty) ++ (rest.filter (!isTrivial ·)).map partComponent := by
  rw [components, h]

theorem components_ofNames {names : List Bytes} (hne : names ≠ []) (h : ∀ n ∈ names, IsName n) :
    (ofNames names).components = names.map .normal := by
  cases names with
  | nil => exact absurd rfl hne
  | cons name more =>
    rw [components_eq_of_splitOn (splitOn_ofNames hne h),
      (h name (List.mem_cons_self ..)).leadComponent_eq,
      filter_names fun n hn => h n (List.mem_cons_of_mem _ hn)]
    rfl

/-- The parts of a path followed by a relative path, up to an empty part between them. -/
theorem splitOn_join (p : Path) {q : Path} (hq : q.isAbsolute = false) :
    Bytes.splitOn slash (p.join q).text = Bytes.splitOn slash p.text ++ Bytes.splitOn slash q.text ∨
      (∃ front, Bytes.splitOn slash p.text = front ++ [[]] ∧
        Bytes.splitOn slash (p.join q).text = front ++ Bytes.splitOn slash q.text) := by
  rw [join, if_neg (by simp [hq])]
  cases hl : p.text.getLast? with
  | none =>
    have hp : p.text = [] := List.getLast?_eq_none_iff.1 hl
    right
    exact ⟨[], by simp [hp, Bytes.splitOn], rfl⟩
  | some b =>
    obtain ⟨a, ha⟩ := List.getLast?_eq_some_iff.1 hl
    dsimp only
    split_ifs with hb
    · right
      subst hb
      refine ⟨Bytes.splitOn slash a, ?_, ?_⟩
      · rw [ha, Bytes.splitOn_append_cons]
        rfl
      · rw [ha, List.append_assoc, List.singleton_append, Bytes.splitOn_append_cons]
    · left
      rw [Bytes.splitOn_append_cons]

/-- The components of parts behind the first. -/
def innerComponents (parts : List Bytes) : List Component :=
  (parts.filter (!isTrivial ·)).map partComponent

theorem innerComponents_append (parts more : List Bytes) :
    innerComponents (parts ++ more) = innerComponents parts ++ innerComponents more := by
  rw [innerComponents, List.filter_append, List.map_append]
  rfl

theorem components_eq_nil_iff {p : Path} : p.components = [] ↔ p.text = [] := by
  constructor
  · intro h
    cases hp : Bytes.splitOn slash p.text with
    | nil => exact absurd hp (Bytes.splitOn_ne_nil _ _)
    | cons first rest =>
      rw [components_eq_of_splitOn hp, List.append_eq_nil_iff] at h
      have hlead := h.1
      unfold leadComponent at hlead
      split_ifs at hlead with hf hr
      have hrest : rest = [] := by simpa using hr
      exact Bytes.splitOn_eq_singleton_nil (by rw [hp, List.isEmpty_iff.1 hf, hrest])
  · intro h
    rw [components, h]
    rfl

/-- Joining a relative path to one that is not empty appends the components of all its parts. -/
theorem components_join {p q : Path} (hp : p.text ≠ []) (hq : q.isAbsolute = false) :
    (p.join q).components = p.components ++ innerComponents (Bytes.splitOn slash q.text) := by
  rcases splitOn_join p hq with hs | ⟨front, hsplit, hs⟩
  · cases hsplit : Bytes.splitOn slash p.text with
    | nil => exact absurd hsplit (Bytes.splitOn_ne_nil _ _)
    | cons first rest =>
      rw [hsplit, List.cons_append] at hs
      rw [components_eq_of_splitOn hs, components_eq_of_splitOn hsplit, List.filter_append,
        List.map_append, List.append_assoc]
      congr 1
      by_cases hrest : rest = []
      · -- only the empty path has a single empty part
        have hf : first.isEmpty = false := by
          rw [Bool.eq_false_iff]
          intro hf
          rw [hrest, List.isEmpty_iff.1 hf] at hsplit
          exact hp (Bytes.splitOn_eq_singleton_nil hsplit)
        simp [leadComponent, hf]
      · rw [List.isEmpty_eq_false_iff.2 hrest, List.isEmpty_eq_false_iff.2 (by simp [hrest])]
  · cases front with
    | nil => exact absurd (Bytes.splitOn_eq_singleton_nil hsplit) hp
    | cons first rest =>
      rw [List.cons_append] at hs hsplit
      have hmore : (rest ++ Bytes.splitOn slash q.text).isEmpty = false :=
        List.isEmpty_eq_false_iff.2 (by simp [Bytes.splitOn_ne_nil])
      rw [components_eq_of_splitOn hs, components_eq_of_splitOn hsplit, List.filter_append,
        List.map_append, List.filter_append, hmore, List.isEmpty_eq_false_iff.2 (by simp)]
      simp [isTrivial, innerComponents]

/-- Joining names to a path appends them to its components. -/
theorem components_joinNames (p : Path) {names : List Bytes} (hne : names ≠ [])
    (h : ∀ n ∈ names, IsName n) :
    (p.join (ofNames names)).components = p.components ++ names.map .normal := by
  have habsolute := isAbsolute_ofNames fun n hn => (h n hn).isPart
  by_cases hp : p.text = []
  · obtain rfl : p = ⟨[]⟩ := congrArg Path.mk hp
    rw [empty_join, components_ofNames hne h, components_eq_nil_iff.2 hp, List.nil_append]
  · rw [components_join hp habsolute, splitOn_ofNames hne h]
    exact congrArg _ (filter_names h)

theorem components_child (p : Path) {name : Bytes} (h : IsName name) :
    (p.child name).components = p.components ++ [.normal name] := by
  have : (p.join (ofNames [name])).components = p.components ++ [name].map .normal :=
    components_joinNames p (by simp) (by simpa using h)
  simpa [child] using this

theorem fileName?_of_components {p : Path} {cs : List Component} {name : Bytes}
    (h : p.components = cs ++ [.normal name]) : p.fileName? = some name := by
  simp [fileName?, h]

theorem sameAs_iff {p q : Path} : p.sameAs q = true ↔ p.components = q.components := by
  simp [sameAs]

/-! ## The path above -/

theorem trimParts_eq (parts : List Bytes) :
    (trimParts parts).filter (!isTrivial ·) = parts.filter (!isTrivial ·) ∧
      ∀ last, (trimParts parts).getLast? = some last → isTrivial last = false := by
  unfold trimParts
  constructor
  · rw [List.filter_reverse, ← List.reverse_reverse parts, List.reverse_reverse parts]
    have hsplit := List.takeWhile_append_dropWhile (p := isTrivial) (l := parts.reverse)
    have hfilter : parts.reverse.filter (!isTrivial ·) =
        (parts.reverse.dropWhile isTrivial).filter (!isTrivial ·) := by
      rw [← hsplit, List.filter_append, hsplit, List.filter_eq_nil_iff.2, List.nil_append]
      intro part hpart
      have := List.all_eq_true.1 (List.all_takeWhile (p := isTrivial) (l := parts.reverse)) part
        hpart
      simp [this]
    rw [← hfilter, ← List.filter_reverse, List.reverse_reverse]
  · intro last hlast
    rw [List.getLast?_reverse] at hlast
    have := List.head?_dropWhile_not isTrivial parts.reverse
    rw [hlast] at this
    simpa using this

theorem trimParts_subset {parts : List Bytes} {part : Bytes} (h : part ∈ trimParts parts) :
    part ∈ parts := by
  unfold trimParts at h
  rw [List.mem_reverse] at h
  exact List.mem_reverse.1 ((List.dropWhile_sublist _).subset h)

theorem eq_of_singleton_eq_concat {c d : Component} {cs : List Component} (h : [c] = cs ++ [d]) :
    cs = [] ∧ c = d := by
  cases cs with
  | nil => exact ⟨rfl, by simpa using h⟩
  | cons _ _ => simp at h

/-- The path above a path that ends in a name. -/
theorem exists_parent? {p : Path} {cs : List Component} {name : Bytes}
    (h : p.components = cs ++ [.normal name]) :
    ∃ above, p.parent? = some above ∧ above.components = cs := by
  cases hp : Bytes.splitOn slash p.text with
  | nil => exact absurd hp (Bytes.splitOn_ne_nil _ _)
  | cons first rest =>
    have hslash : ∀ part ∈ first :: rest, slash ∉ part := by
      intro part hpart
      exact Bytes.not_mem_of_mem_splitOn (by rw [hp]; exact hpart)
    rw [components_eq_of_splitOn hp] at h
    obtain ⟨hfilter, hlast⟩ := trimParts_eq rest
    unfold parent?
    rw [hp]
    dsimp only
    cases hk : trimParts rest with
    | nil =>
      rw [hk] at hfilter
      rw [← hfilter] at h
      simp only [List.filter_nil, List.map_nil, List.append_nil] at h
      dsimp only
      unfold leadComponent at h
      split_ifs at h with h1 h2 h3
      · exact absurd (eq_of_singleton_eq_concat h).2 (by simp)
      · exact absurd h (by simp)
      · exact absurd (eq_of_singleton_eq_concat h).2 (by simp)
      · rw [if_neg h1, (eq_of_singleton_eq_concat h).1]
        exact ⟨⟨[]⟩, rfl, rfl⟩
    | cons k ks =>
      dsimp only
      have hrest : rest ≠ [] := by
        rintro rfl
        simp [trimParts] at hk
      have hdrop : k :: ks = (k :: ks).dropLast ++ [(k :: ks).getLast (by simp)] :=
        (List.dropLast_concat_getLast (by simp)).symm
      have htriv : isTrivial ((k :: ks).getLast (by simp)) = false :=
        hlast _ (by rw [hk]; exact List.getLast?_eq_some_getLast (by simp))
      have hcs : cs = leadComponent first true ++
          ((k :: ks).dropLast.filter (!isTrivial ·)).map partComponent := by
        rw [← hfilter, hk, hdrop, List.filter_append, List.map_append, ← List.append_assoc] at h
        simp only [htriv, Bool.not_false, List.filter_cons_of_pos, List.filter_nil, List.map_cons,
          List.map_nil, List.isEmpty_eq_false_iff.2 hrest] at h
        exact (List.append_inj' h rfl).1.symm
      obtain ⟨hfilter', -⟩ := trimParts_eq (k :: ks).dropLast
      have hsub : ∀ part ∈ trimParts (k :: ks).dropLast, slash ∉ part := by
        intro part hpart
        refine hslash part (List.mem_cons_of_mem _ (trimParts_subset ?_))
        rw [hk]
        exact List.dropLast_subset _ (trimParts_subset hpart)
      rw [← hfilter'] at hcs
      cases ha : trimParts (k :: ks).dropLast with
      | nil =>
        rw [ha] at hcs
        simp only [List.filter_nil, List.map_nil, List.append_nil] at hcs
        dsimp only
        refine ⟨_, rfl, ?_⟩
        rw [hcs]
        split_ifs with hf
        · rw [List.isEmpty_iff.1 hf]
          rfl
        · have := Bytes.splitOn_of_not_mem (hslash first (List.mem_cons_self ..))
          rw [components_eq_of_splitOn (p := ⟨first⟩) this]
          simp [leadComponent, hf]
      | cons a as =>
        rw [ha] at hcs hsub
        dsimp only
        refine ⟨_, rfl, ?_⟩
        have : Bytes.splitOn slash (Bytes.joinWith slash (first :: a :: as)) =
            first :: a :: as := by
          apply Bytes.splitOn_joinWith (by simp)
          intro part hpart
          rcases List.mem_cons.1 hpart with rfl | hpart
          · exact hslash part (List.mem_cons_self ..)
          · exact hsub part hpart
        rw [hcs]
        exact components_eq_of_splitOn this

end Path

/-! ## Places -/

namespace Memory

open Provision.Path

/-- The place that a path names for a host whose current directory is `cwd`. -/
def placeIn (cwd p : Path) : Place := walk [] (cwd.join p).components

theorem place_eq (m : Memory) (p : Path) : m.place p = placeIn m.cwd p := rfl

/-- The place reached by one more part of a path text. -/
def stepPart (place : Place) (part : Bytes) : Place :=
  if isTrivial part then place else if part = dotDot then place.dropLast else place ++ [part]

theorem walk_append (start : Place) (cs ds : List Component) :
    walk start (cs ++ ds) = walk (walk start cs) ds := List.foldl_append

theorem walk_parts (start : Place) (parts : List Bytes) :
    walk start ((parts.filter (!isTrivial ·)).map partComponent) = parts.foldl stepPart start := by
  induction parts generalizing start with
  | nil => rfl
  | cons part parts ih =>
    rw [List.foldl_cons, ← ih, List.filter_cons]
    cases ht : isTrivial part with
    | true => simp [stepPart, ht]
    | false =>
      simp only [Bool.not_false, if_true, List.map_cons]
      by_cases hd : part = dotDot
      · subst hd
        simp [walk, partComponent, stepPart, ht]
      · simp [walk, partComponent, stepPart, ht, hd]

theorem walk_lead (start : Place) (first : Bytes) (more : Bool) :
    walk start (leadComponent first more) =
      if first.isEmpty ∧ more then [] else stepPart start first := by
  unfold leadComponent
  by_cases he : first.isEmpty
  · cases more <;> simp [he, walk, stepPart, isTrivial]
  · by_cases hd : first = dot
    · subst hd
      simp [dot, walk, stepPart, isTrivial]
    · have ht : isTrivial first = false := by
        simp only [isTrivial, Bool.or_eq_false_iff, beq_eq_false_iff_ne]
        exact ⟨by simpa using he, hd⟩
      by_cases hp : first = dotDot
      · subst hp
        simp [dotDot, dot, walk, partComponent, stepPart, isTrivial]
      · simp [he, hd, walk, partComponent, stepPart, ht, hp]

theorem walk_components (start : Place) (p : Path) :
    walk start p.components =
      (Bytes.splitOn slash p.text).foldl stepPart (if p.isAbsolute then [] else start) := by
  cases hp : Bytes.splitOn slash p.text with
  | nil => exact absurd hp (Bytes.splitOn_ne_nil _ _)
  | cons first rest =>
    rw [components_eq_of_splitOn hp, walk_append, walk_parts, walk_lead, List.foldl_cons]
    congr 1
    have htext : p.text = Bytes.joinWith slash (first :: rest) := by
      rw [← hp, Bytes.joinWith_splitOn]
    cases first with
    | nil =>
      cases rest with
      | nil => simp [isAbsolute, htext, Bytes.joinWith]
      | cons next more => simp [isAbsolute, htext, Bytes.joinWith, stepPart, isTrivial]
    | cons b bs =>
      have hb : b ≠ slash := by
        rintro rfl
        exact Bytes.not_mem_of_mem_splitOn (by rw [hp]; exact List.mem_cons_self ..)
          (List.mem_cons_self ..)
      cases rest <;> simp [isAbsolute, htext, Bytes.joinWith, hb]

theorem foldl_stepPart_join (start : Place) (p : Path) {q : Path} (hq : q.isAbsolute = false) :
    (Bytes.splitOn slash (p.join q).text).foldl stepPart start =
      (Bytes.splitOn slash q.text).foldl stepPart
        ((Bytes.splitOn slash p.text).foldl stepPart start) := by
  rcases splitOn_join p hq with hs | ⟨front, hp, hs⟩
  · rw [hs, List.foldl_append]
  · rw [hs, hp, List.foldl_append, List.foldl_append]
    simp [stepPart, isTrivial]

/-- The place of a path depends on its components only. -/
theorem placeIn_eq_walk (cwd p : Path) : placeIn cwd p = walk (placeIn cwd ⟨[]⟩) p.components := by
  have hstart : ∀ q : Path, (if q.isAbsolute then [] else ([] : Place)) = [] := by
    intro q
    split_ifs <;> rfl
  have hempty : placeIn cwd ⟨[]⟩ = (Bytes.splitOn slash cwd.text).foldl stepPart [] := by
    rw [placeIn, walk_components, hstart, foldl_stepPart_join _ _ rfl]
    simp [Bytes.splitOn, stepPart, isTrivial]
  rw [walk_components, placeIn, walk_components, hstart]
  cases ha : p.isAbsolute with
  | true => simp [join, ha]
  | false => rw [foldl_stepPart_join _ _ ha, hempty, if_neg (by simp)]

theorem walk_normal (start : Place) (names : List Bytes) :
    walk start (names.map .normal) = start ++ names := by
  induction names generalizing start with
  | nil => simp [walk]
  | cons name names ih =>
    have := ih (start ++ [name])
    simpa [walk] using this

theorem placeIn_of_components {cwd p q : Path} {names : List Bytes}
    (h : q.components = p.components ++ names.map .normal) :
    placeIn cwd q = placeIn cwd p ++ names := by
  rw [placeIn_eq_walk, h, walk_append, walk_normal, ← placeIn_eq_walk]

/-- Joining names to a path goes down these names. -/
theorem placeIn_joinNames (cwd p : Path) {names : List Bytes} (hne : names ≠ [])
    (h : ∀ n ∈ names, IsName n) :
    placeIn cwd (p.join (ofNames names)) = placeIn cwd p ++ names :=
  placeIn_of_components (components_joinNames p hne h)

theorem placeIn_child (cwd p : Path) {name : Bytes} (h : IsName name) :
    placeIn cwd (p.child name) = placeIn cwd p ++ [name] :=
  placeIn_of_components (by simpa using components_child p h)

theorem isName_of_normal_mem {p : Path} {name : Bytes} (h : .normal name ∈ p.components) :
    IsName name := by
  cases hp : Bytes.splitOn slash p.text with
  | nil => exact absurd hp (Bytes.splitOn_ne_nil _ _)
  | cons first rest =>
    have hslash : ∀ part ∈ first :: rest, slash ∉ part := by
      intro part hpart
      exact Bytes.not_mem_of_mem_splitOn (by rw [hp]; exact hpart)
    have hpart : ∀ part, isTrivial part = false → .normal name = partComponent part →
        slash ∉ part → IsName name := by
      intro part ht he hs
      unfold partComponent at he
      split_ifs at he with hd
      obtain rfl : name = part := by simpa using he
      simp only [isTrivial, Bool.or_eq_false_iff, List.isEmpty_eq_false_iff,
        beq_eq_false_iff_ne] at ht
      exact ⟨ht.1, ht.2, hd, hs⟩
    rw [components_eq_of_splitOn hp, List.mem_append] at h
    rcases h with h | h
    · unfold leadComponent at h
      split_ifs at h with he hm hd
      · simp at h
      · simp at h
      · simp at h
      · refine hpart first ?_ (by simpa using h) (hslash first (List.mem_cons_self ..))
        simp [isTrivial, hd, he]
    · obtain ⟨part, hmem, he⟩ := List.mem_map.1 h
      rw [List.mem_filter] at hmem
      exact hpart part (by simpa using hmem.2) he.symm (hslash part (List.mem_cons_of_mem _ hmem.1))

theorem isName_of_mem_walk {start : Place} {cs : List Component} (hs : ∀ n ∈ start, IsName n)
    (hc : ∀ name, .normal name ∈ cs → IsName name) : ∀ n ∈ walk start cs, IsName n := by
  induction cs generalizing start with
  | nil => exact hs
  | cons c cs ih =>
    have hrest : ∀ name, .normal name ∈ cs → IsName name := fun name h =>
      hc name (List.mem_cons_of_mem _ h)
    cases c with
    | root => exact ih (by simp) hrest
    | current => exact ih hs hrest
    | parent => exact ih (fun n hn => hs n (List.dropLast_subset _ hn)) hrest
    | normal name =>
      refine ih (fun n hn => ?_) hrest
      rcases List.mem_append.1 hn with hn | hn
      · exact hs n hn
      · rw [List.mem_singleton.1 hn]
        exact hc name (List.mem_cons_self ..)

/-- A path leads to a place of ordinary names only. -/
theorem isName_of_mem_placeIn {cwd p : Path} : ∀ n ∈ placeIn cwd p, IsName n :=
  isName_of_mem_walk (by simp) fun _ h => isName_of_normal_mem h

end Memory

end Provision
