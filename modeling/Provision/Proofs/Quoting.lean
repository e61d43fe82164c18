import Provision.Archive.Tool
import Provision.Proofs.Encoding

/-!
# Quoting for PowerShell

On Windows the paths of an archive and of a directory are spliced into a script, each as a literal
between single quotes. PowerShell takes five characters for a single quote, and quoting doubles one
of them.

* `PowerShell.tokens?` reads a command of plain words and literals, and `PowerShell.readLiteral` one
  literal.
* `readLiteral_doubled`: a doubled text is read as the text if it has none of the other four quotes;
  `ne_of_readLiteral_doubled`: else it never is.
* `unpacking_read_iff` is the result for the whole script, and `quote_splits_archive` a path that is
  read as a path, a parameter and another path.
-/

namespace Provision

/-! ## Reading a command -/

namespace PowerShell

/-- The characters that are taken for a single quote. -/
def isQuote (c : Char) : Bool :=
  c = '\'' || c = '\u2018' || c = '\u2019' || c = '\u201A' || c = '\u201B'

/-- A single quote other than the apostrophe. -/
def IsTypographic (c : Char) : Prop := isQuote c = true ∧ c ≠ '\''

instance : DecidablePred IsTypographic := fun _ => inferInstanceAs (Decidable (_ ∧ _))

/-- The characters of plain words. -/
def isPlain (c : Char) : Bool := c.isAlphanum || c = '-' || c = '.' || c = '_'

/-- A part of a command. -/
inductive Token where
  | word (s : String)
  | literal (s : String)
deriving DecidableEq, Repr

/-- What a literal stands for whose opening quote has been read, and what is behind it. It ends at
the next quote that is not followed by another one; two quotes in a row stand for the second. -/
def readLiteral : List Char → Option (List Char × List Char)
  | [] => none
  | [c] => if isQuote c then some ([], []) else none
  | c :: d :: rest =>
    if !isQuote c then (readLiteral (d :: rest)).map fun (s, rest) => (c :: s, rest)
    else if isQuote d then (readLiteral rest).map fun (s, rest) => (d :: s, rest)
    else some ([], d :: rest)

theorem length_of_readLiteral {cs s rest : List Char} (h : readLiteral cs = some (s, rest)) :
    rest.length < cs.length := by
  fun_induction readLiteral cs generalizing s rest with
  | case1 => cases h
  | case2 c hc =>
    obtain ⟨rfl, rfl⟩ := Prod.mk.inj (Option.some.inj h)
    simp
  | case3 => cases h
  | case4 c d cs hc ih =>
    obtain ⟨⟨s', rest'⟩, hr, he⟩ := Option.map_eq_some_iff.1 h
    obtain ⟨rfl, rfl⟩ := Prod.mk.inj he
    have := ih hr
    simp only [List.length_cons] at this ⊢
    omega
  | case5 c d cs hc hd ih =>
    obtain ⟨⟨s', rest'⟩, hr, he⟩ := Option.map_eq_some_iff.1 h
    obtain ⟨rfl, rfl⟩ := Prod.mk.inj he
    have := ih hr
    simp only [List.length_cons]
    omega
  | case6 c d cs hc hd =>
    obtain ⟨rfl, rfl⟩ := Prod.mk.inj (Option.some.inj h)
    simp

/-- The parts of a command of plain words and literals, with spaces between; `none` for any other
text. -/
def tokens? (cs : List Char) : Option (List Token) :=
  match cs with
  | [] => some []
  | c :: rest =>
    if c = ' ' then tokens? rest
    else if isQuote c then
      match _ : readLiteral rest with
      | none => none
      | some (s, behind) => (tokens? behind).map (.literal (String.ofList s) :: ·)
    else if isPlain c then
      let word := Token.word (String.ofList (c :: rest.takeWhile isPlain))
      match _ : rest.dropWhile isPlain with
      | [] => some [word]
      | b :: behind => if b = ' ' then (tokens? behind).map (word :: ·) else none
    else none
termination_by cs.length
decreasing_by
  · simp
  · next h =>
    have := length_of_readLiteral h
    simp only [List.length_cons]
    omega
  · next h _ =>
    have hlen := (List.dropWhile_suffix isPlain (l := rest)).length_le
    rw [h, List.length_cons] at hlen
    simp only [List.length_cons]
    omega

variable {cs rest : List Char} {c : Char}

@[simp] theorem tokens?_nil : tokens? [] = some [] := by
  rw [tokens?]

@[simp] theorem tokens?_space : tokens? (' ' :: cs) = tokens? cs := by
  rw [tokens?]
  simp

theorem tokens?_quote : tokens? ('\'' :: cs) =
    (readLiteral cs).bind fun (s, rest) =>
      (tokens? rest).map (.literal (String.ofList s) :: ·) := by
  rw [tokens?, if_neg (by decide), if_pos (by decide)]
  split <;> next h => simp [h]

theorem isPlain_ne_space (hc : isPlain c = true) : c ≠ ' ' := by
  rintro rfl
  exact absurd hc (by decide)

theorem isPlain_not_quote (hc : isPlain c = true) : ¬ isQuote c = true := by
  intro hq
  simp only [isQuote, Bool.or_eq_true, decide_eq_true_eq] at hq
  rcases hq with (((rfl | rfl) | rfl) | rfl) | rfl <;> exact absurd hc (by decide)

/-- A word ends at a space or at the end of the command. -/
theorem tokens?_word {w : String} (hne : w ≠ "") (hw : w.toList.all isPlain = true)
    (hrest : ∀ d ∈ rest.head?, d = ' ') :
    tokens? (w.toList ++ rest) = (tokens? rest).map (.word w :: ·) := by
  obtain ⟨c, cs, hcs⟩ := List.exists_cons_of_ne_nil fun h => hne (String.toList_eq_nil_iff.1 h)
  obtain rfl : w = String.ofList (c :: cs) := by rw [← hcs, String.ofList_toList]
  rw [hcs, List.all_eq_true] at hw
  rw [hcs]
  have hc := hw c List.mem_cons_self
  have hcs' : ∀ d ∈ cs, isPlain d = true := fun d hd => hw d (List.mem_cons_of_mem _ hd)
  have hspace : isPlain ' ' = false := by decide
  have hstop : rest.takeWhile isPlain = [] ∧ rest.dropWhile isPlain = rest := by
    cases rest with
    | nil => simp
    | cons d rest =>
      obtain rfl : d = ' ' := hrest d rfl
      simp [hspace]
  rw [List.cons_append, tokens?, if_neg (isPlain_ne_space hc), if_neg (isPlain_not_quote hc),
    if_pos hc, List.takeWhile_append_of_pos hcs', hstop.1, List.append_nil]
  split
  · next h =>
    rw [List.dropWhile_append_of_pos hcs', hstop.2] at h
    simp [h]
  · next d behind h =>
    rw [List.dropWhile_append_of_pos hcs', hstop.2] at h
    subst h
    obtain rfl : d = ' ' := hrest d rfl
    simp

/-! ## Doubled quotes -/

/-- A text with every apostrophe doubled. -/
def doubled (cs : List Char) : List Char :=
  cs.flatMap fun c => if c = '\'' then ['\'', '\''] else [c]

@[simp] theorem doubled_nil : doubled [] = [] := rfl

theorem doubled_apostrophe : doubled ('\'' :: cs) = '\'' :: '\'' :: doubled cs := rfl

theorem doubled_cons (h : c ≠ '\'') : doubled (c :: cs) = c :: doubled cs := by
  simp [doubled, h]

theorem toList_powerShellQuote (s : String) :
    (Tool.powerShellQuote s).toList = '\'' :: (doubled s.toList ++ ['\'']) := by
  rw [Tool.powerShellQuote, String.toList_append, String.toList_append, String.toList_ofList,
    String.toList_ofList]
  rfl

theorem isQuote_apostrophe : isQuote '\'' = true := by decide

theorem readLiteral_plain (hc : isQuote c = false) (h : cs ≠ []) :
    readLiteral (c :: cs) = (readLiteral cs).map fun (s, rest) => (c :: s, rest) := by
  cases cs with
  | nil => exact absurd rfl h
  | cons d cs => simp [readLiteral, hc]

theorem readLiteral_pair {d : Char} (hc : isQuote c = true) (hd : isQuote d = true) :
    readLiteral (c :: d :: cs) = (readLiteral cs).map fun (s, rest) => (d :: s, rest) := by
  simp [readLiteral, hc, hd]

theorem readLiteral_end (hc : isQuote c = true) (hrest : ∀ d ∈ rest.head?, isQuote d = false) :
    readLiteral (c :: rest) = some ([], rest) := by
  cases rest with
  | nil => simp [readLiteral, hc]
  | cons d rest => simp [readLiteral, hc, hrest d rfl]

theorem readLiteral_doubled_cons (hc : ¬ IsTypographic c) :
    readLiteral (doubled (c :: cs) ++ '\'' :: rest) =
      (readLiteral (doubled cs ++ '\'' :: rest)).map fun (s, rest) => (c :: s, rest) := by
  by_cases hapostrophe : c = '\''
  · subst hapostrophe
    exact readLiteral_pair isQuote_apostrophe isQuote_apostrophe
  · have hquote : isQuote c = false := by
      by_contra hq
      exact hc ⟨by simpa using hq, hapostrophe⟩
    rw [doubled_cons hapostrophe]
    exact readLiteral_plain hquote (by simp)

/-- A text without typographic quotes is read from its doubled form. -/
theorem readLiteral_doubled (hcs : ∀ c ∈ cs, ¬ IsTypographic c)
    (hrest : ∀ d ∈ rest.head?, isQuote d = false) :
    readLiteral (doubled cs ++ '\'' :: rest) = some (cs, rest) := by
  induction cs with
  | nil => exact readLiteral_end isQuote_apostrophe hrest
  | cons c cs ih =>
    rw [readLiteral_doubled_cons (hcs c List.mem_cons_self),
      ih fun d hd => hcs d (List.mem_cons_of_mem _ hd)]
    rfl

/-- A typographic quote makes a pair with a quote behind it, which must be typographic again for the
text to be read; else reading stops or goes wrong. -/
theorem readLiteral_doubled_typographic {s behind : List Char} (hc : IsTypographic c)
    (h : readLiteral (doubled (c :: cs) ++ '\'' :: rest) = some (s, behind)) :
    s = [] ∨ s.head? = some '\'' ∨ ∃ d ds s', cs = d :: ds ∧ IsTypographic d ∧ s = d :: s' ∧
      readLiteral (doubled ds ++ '\'' :: rest) = some (s', behind) := by
  rw [doubled_cons hc.2, List.cons_append] at h
  cases cs with
  | nil =>
    rw [doubled_nil, List.nil_append, readLiteral_pair hc.1 isQuote_apostrophe] at h
    obtain ⟨⟨s', behind'⟩, -, he⟩ := Option.map_eq_some_iff.1 h
    obtain ⟨rfl, rfl⟩ := Prod.mk.inj he
    exact .inr (.inl rfl)
  | cons d ds =>
    by_cases hd : d = '\''
    · subst hd
      rw [doubled_apostrophe, List.cons_append, readLiteral_pair hc.1 isQuote_apostrophe] at h
      obtain ⟨⟨s', behind'⟩, -, he⟩ := Option.map_eq_some_iff.1 h
      obtain ⟨rfl, rfl⟩ := Prod.mk.inj he
      exact .inr (.inl rfl)
    · rw [doubled_cons hd, List.cons_append] at h
      by_cases hquote : isQuote d = true
      · rw [readLiteral_pair hc.1 hquote] at h
        obtain ⟨⟨s', behind'⟩, hr, he⟩ := Option.map_eq_some_iff.1 h
        obtain ⟨rfl, rfl⟩ := Prod.mk.inj he
        exact .inr (.inr ⟨d, ds, s', rfl, ⟨hquote, hd⟩, rfl, hr⟩)
      · rw [readLiteral_end hc.1 (by simpa using hquote)] at h
        obtain ⟨rfl, -⟩ := Prod.mk.inj (Option.some.inj h)
        exact .inl rfl

/-- A typographic quote is written once, but it takes two quotes to read one. So reading a doubled
text falls behind by some typographic quotes, `late`, at the first of them, and never catches up:
each further pair of quotes that is read as one adds to what it is behind. -/
theorem ne_of_readLiteral_late (late : List Char) {s behind : List Char}
    (hlate : ∀ c ∈ late, IsTypographic c)
    (hsome : ∃ c ∈ late ++ cs, IsTypographic c) (hrest : ∀ d ∈ rest.head?, isQuote d = false)
    (h : readLiteral (doubled cs ++ '\'' :: rest) = some (s, behind)) : s ≠ late ++ cs := by
  induction hn : cs.length using Nat.strongRecOn generalizing cs late s behind with
  | _ n ih =>
    subst hn
    cases cs with
    | nil =>
      rw [doubled_nil, List.nil_append, readLiteral_end isQuote_apostrophe hrest] at h
      obtain ⟨rfl, -⟩ := Prod.mk.inj (Option.some.inj h)
      obtain ⟨l, hl, -⟩ := hsome
      exact (List.ne_nil_of_mem hl).symm
    | cons c cs =>
      by_cases hc : IsTypographic c
      · obtain ⟨a, more, hmore⟩ : ∃ a more, late ++ [c] = a :: more :=
          List.exists_cons_of_ne_nil (by simp)
        have htypographic : ∀ d ∈ a :: more, IsTypographic d := by
          rw [← hmore]
          simpa [or_imp, forall_and] using ⟨hlate, hc⟩
        have hall : late ++ c :: cs = a :: (more ++ cs) := by
          rw [← List.cons_append, ← hmore, List.append_assoc]
          rfl
        rw [hall]
        rcases readLiteral_doubled_typographic hc h with rfl | hhead | ⟨d, ds, s', rfl, hd, rfl, hr⟩
        · exact (List.cons_ne_nil _ _).symm
        · rintro rfl
          obtain rfl := Option.some.inj hhead
          exact (htypographic _ List.mem_cons_self).2 rfl
        · have hshorter : ds.length < (c :: d :: ds).length := by
            simp only [List.length_cons]
            omega
          have hbehind := ih ds.length hshorter (more ++ [d])
            (by simpa [or_imp, forall_and] using
              ⟨fun x hx => htypographic x (List.mem_cons_of_mem _ hx), hd⟩)
            ⟨d, by simp, hd⟩ hr rfl
          intro he
          apply hbehind
          rw [(List.cons.inj he).2, List.append_assoc]
          rfl
      · rw [readLiteral_doubled_cons hc] at h
        obtain ⟨⟨s', behind'⟩, hr, he⟩ := Option.map_eq_some_iff.1 h
        obtain ⟨rfl, rfl⟩ := Prod.mk.inj he
        cases late with
        | nil =>
          obtain ⟨l, hl, htypographic⟩ := hsome
          have hmem : l ∈ cs := by
            rcases List.mem_cons.1 hl with rfl | hl
            · exact absurd htypographic hc
            · exact hl
          have := ih cs.length (by simp) [] (by simp) ⟨l, hmem, htypographic⟩ hr rfl
          intro he
          exact this (List.cons.inj he).2
        | cons l late =>
          intro he
          obtain ⟨rfl, -⟩ := List.cons.inj he
          exact hc (hlate c List.mem_cons_self)

/-- A text with a typographic quote is not read from its doubled form. -/
theorem ne_of_readLiteral_doubled {s behind : List Char} (hcs : ∃ c ∈ cs, IsTypographic c)
    (hrest : ∀ d ∈ rest.head?, isQuote d = false)
    (h : readLiteral (doubled cs ++ '\'' :: rest) = some (s, behind)) : s ≠ cs :=
  ne_of_readLiteral_late [] (by simp) hcs hrest h

/-! ## The script -/

/-- What is to be read of the script that unpacks an archive. -/
def expansion (archive directory : String) : List Token :=
  [.word "Expand-Archive", .word "-Path", .literal archive, .word "-DestinationPath",
    .literal directory, .word "-Force"]

theorem tokens?_opening : tokens? ("Expand-Archive -Path ".toList ++ cs) =
    ((tokens? cs).map (.word "-Path" :: ·)).map (.word "Expand-Archive" :: ·) := by
  have hsplit : "Expand-Archive -Path ".toList ++ cs =
      "Expand-Archive".toList ++ ' ' :: ("-Path".toList ++ ' ' :: cs) := rfl
  rw [hsplit, tokens?_word (by decide) (by decide) (by simp), tokens?_space,
    tokens?_word (by decide) (by decide) (by simp), tokens?_space]

theorem tokens?_middle : tokens? (" -DestinationPath ".toList ++ cs) =
    (tokens? cs).map (.word "-DestinationPath" :: ·) := by
  have hsplit : " -DestinationPath ".toList ++ cs =
      ' ' :: ("-DestinationPath".toList ++ ' ' :: cs) := rfl
  rw [hsplit, tokens?_space, tokens?_word (by decide) (by decide) (by simp), tokens?_space]

theorem tokens?_ending : tokens? " -Force".toList = some [.word "-Force"] := by
  have hsplit : " -Force".toList = ' ' :: ("-Force".toList ++ []) := rfl
  rw [hsplit, tokens?_space, tokens?_word (by decide) (by decide) (by simp), tokens?_nil]
  rfl

theorem map_cons_eq_some_iff {read : Option (List Token)} {t : Token} {ts : List Token} :
    read.map (t :: ·) = some (t :: ts) ↔ read = some ts := by
  cases read <;> simp

theorem toList_expandScript (archive directory : String) :
    (Tool.expandScript archive directory).toList = "Expand-Archive -Path ".toList ++ '\'' ::
      (doubled archive.toList ++ '\'' :: (" -DestinationPath ".toList ++ '\'' ::
        (doubled directory.toList ++ '\'' :: " -Force".toList))) := by
  unfold Tool.expandScript
  rw [String.toList_append, String.toList_append, String.toList_append, String.toList_append,
    toList_powerShellQuote, toList_powerShellQuote]
  simp only [List.append_assoc, List.cons_append, List.nil_append]

/-- The literal of a text is read as this text exactly if it has no typographic quote. -/
theorem tokens?_quoted {s : String} {ts : List Token}
    (hrest : ∀ d ∈ rest.head?, isQuote d = false) :
    tokens? ('\'' :: (doubled s.toList ++ '\'' :: rest)) = some (.literal s :: ts) ↔
      (∀ c ∈ s.toList, ¬ IsTypographic c) ∧ tokens? rest = some ts := by
  rw [tokens?_quote]
  by_cases hs : ∀ c ∈ s.toList, ¬ IsTypographic c
  · rw [readLiteral_doubled hs hrest]
    simp only [Option.bind_some, String.ofList_toList, map_cons_eq_some_iff]
    exact ⟨fun h => ⟨hs, h⟩, And.right⟩
  · constructor
    · intro h
      obtain ⟨⟨s', behind⟩, hr, h⟩ := Option.bind_eq_some_iff.1 h
      obtain ⟨ts', -, he⟩ := Option.map_eq_some_iff.1 h
      have hne : s' ≠ s.toList := ne_of_readLiteral_doubled (by simpa using hs) hrest hr
      obtain ⟨he, -⟩ := List.cons.inj he
      refine absurd ?_ hne
      rw [← Token.literal.inj he, String.toList_ofList]
    · rintro ⟨h, -⟩
      exact absurd h hs

/-- The script is read as the command with the two paths exactly if neither has a typographic
quote. -/
theorem tokens?_expandScript (archive directory : String) :
    tokens? (Tool.expandScript archive directory).toList = some (expansion archive directory) ↔
      (∀ c ∈ archive.toList, ¬ IsTypographic c) ∧ ∀ c ∈ directory.toList, ¬ IsTypographic c := by
  rw [toList_expandScript, expansion, tokens?_opening, map_cons_eq_some_iff, map_cons_eq_some_iff,
    tokens?_quoted (by rintro d ⟨⟩; decide), tokens?_middle, map_cons_eq_some_iff,
    tokens?_quoted (by rintro d ⟨⟩; decide), tokens?_ending]
  simp only [and_true]

end PowerShell

open PowerShell

/-- On Windows a zip archive is unpacked by a script. It is read as the command `Expand-Archive`
with the two paths as literals exactly if neither path has a typographic quote. -/
theorem Tool.unpacking_read_iff (archive directory : String) :
    ∃ script, unpacking .zip "win32" (Path.ofText archive) (Path.ofText directory) =
        ⟨"powershell", ["-NoProfile", "-Command", script]⟩ ∧
      (tokens? script.toList = some (expansion archive directory) ↔
        (∀ c ∈ archive.toList, ¬ IsTypographic c) ∧ ∀ c ∈ directory.toList, ¬ IsTypographic c) := by
  refine ⟨expandScript archive directory, ?_, tokens?_expandScript archive directory⟩
  rw [unpacking, Path.display_ofText, Path.display_ofText]
  rfl

/-- The script for an archive whose name has two typographic quotes. -/
def Tool.splitScript : String :=
  "Expand-Archive -Path 'a\u2019 -Verbose \u2018.zip' -DestinationPath 'out' -Force"

/-- A path with two typographic quotes is read as a path, a parameter and another path. -/
theorem Tool.quote_splits_archive :
    unpacking .zip "win32" (Path.ofText "a\u2019 -Verbose \u2018.zip") (Path.ofText "out") =
        ⟨"powershell", ["-NoProfile", "-Command", splitScript]⟩ ∧
      tokens? splitScript.toList =
        some [.word "Expand-Archive", .word "-Path", .literal "a", .word "-Verbose",
          .literal ".zip", .word "-DestinationPath", .literal "out", .word "-Force"] := by
  constructor
  · decide +kernel
  · decide +kernel

end Provision
