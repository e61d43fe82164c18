import Mathlib.Data.List.TakeWhile
import Provision.Memory
import Provision.Package.Load
import Provision.Proofs.JsonReading

/-!
# Reading manifests

A manifest is a JSON object of which two members matter. However the object is written, and whatever
else is in it, loading gives what the values of these two stand for.

* `Declares` says which manifest the members of an object declare.
* `readMembers_member` is a step of the reader, `readMembers_text` its way through an object and
  `parse_text` through a document; each gives what `Members.add?` makes of the members.
* `foldlM_add?`: that depends on the values of the two keys only, and on whether every key is a
  text.
* `load_iff_declares` is the result for every host, `unpaired_not_loaded` a document with a key that
  is no text.
-/

namespace Provision.Manifest

open Bytes (encode)
open Json (Blank Ends Label blanks spelling valuesOf)

variable {found : Members} {fuel : Nat} {first : Bool} {bs next : Bytes}

/-! ## Declared manifests -/

/-- The members of an object declare a manifest: every key is a text, one member is the version and
its value a text, and at most one is the name and its value a text or `null`. -/
structure Declares (ms : List Json.Member) (m : Manifest) : Prop where
  keys : ∀ x ∈ ms, x.key? ≠ none
  version : ∃ v, valuesOf "version" ms = [v] ∧ v.asText? = some m.version
  name : valuesOf "name" ms = [] ∧ m.name = none ∨
    ∃ v, valuesOf "name" ms = [v] ∧ v.asTextOrNull? = some m.name

/-- What a document declares is a matter of its two members. -/
theorem Declares.congr {ms ms' : List Json.Member} {m : Manifest} (h : Declares ms m)
    (hkeys : ∀ x ∈ ms', x.key? ≠ none)
    (hname : valuesOf "name" ms' = valuesOf "name" ms)
    (hversion : valuesOf "version" ms' = valuesOf "version" ms) : Declares ms' m := by
  refine ⟨hkeys, ?_, ?_⟩
  · rw [hversion]
    exact h.version
  · rw [hname]
    exact h.name

/-! ## One member -/

/-- What has been found, with one more member. -/
def Members.add? (found : Members) (m : Json.Member) : Option Members :=
  m.key?.bind fun key =>
    if key = "name" then
      if found.name.isSome then none
      else m.value.asTextOrNull?.map fun name => { found with name := some name }
    else if key = "version" then
      if found.version.isSome then none
      else m.value.asText?.map fun version => { found with version := some version }
    else some found

theorem nameKey_eq : nameKey = Bytes.ofText "name" := by decide

theorem versionKey_eq : versionKey = Bytes.ofText "version" := by decide

theorem readColon_colon (after : List Blank) (rest : Bytes) :
    readColon (encode (blanks after) ++ 0x3A :: rest) = .ok rest := by
  rw [readColon, Json.skipBlank_blanks]
  rfl

/-- A step of the reader takes one member. -/
theorem readMembers_member (hnext : Ends next) (l : Label) (before : List Blank) (v : Json.Value)
    (hbs : nextKey first bs = .ok (some (encode (spelling l.glyphs) ++ 0x22 ::
      (encode (blanks l.after) ++ 0x3A :: (encode (blanks before) ++ (encode v.text ++ next)))))) :
    (readMembers (fuel + 1) first found bs).toOption =
      (found.add? ⟨l.glyphs, v⟩).bind fun found =>
        (readMembers fuel false found next).toOption := by
  rw [readMembers, hbs]
  show Except.toOption (Json.readString _ >>= _) = _
  rw [Json.toOption_bind, Json.readString_spelling, Members.add?, Json.Member.key?, Json.textOf?]
  cases Json.decode? l.glyphs with
  | none => rfl
  | some cs =>
    simp only [Option.map_some, Option.bind_some, nameKey_eq, versionKey_eq,
      Bytes.encode_eq_ofText_iff, readColon_colon]
    split_ifs with hname hfound hversion hfound
    · rfl
    · show Except.toOption (Json.readTextOrNull _ >>= _) = _
      rw [Json.toOption_bind, Json.readTextOrNull_text]
      cases v.asTextOrNull? <;> rfl
    · rfl
    · show Except.toOption (Json.readText _ >>= _) = _
      rw [Json.toOption_bind, Json.readText_text]
      cases v.asText? <;> rfl
    · show Except.toOption (Json.skipValue _ >>= _) = _
      rw [Json.skipValue_text before v hnext]
      rfl

/-! ## All members -/

theorem nextKey_comma (after : List Blank) (ms : Json.Members) (rest : Bytes) :
    nextKey false (encode (blanks after) ++ 0x2C :: (encode ms.text ++ rest)) =
      nextKey true (encode ms.text ++ rest) := by
  obtain ⟨bs, hbs⟩ := ms.skipBlank_text_eq_cons rest
  rw [nextKey, nextKey, Json.skipBlank_blanks, Json.skipBlank_cons (by decide)]
  simp [hbs]

theorem nextKey_close (first : Bool) (after : List Blank) (rest : Bytes) :
    nextKey first (encode (blanks after) ++ 0x7D :: rest) = .ok none := by
  rw [nextKey, Json.skipBlank_blanks]
  rfl

theorem nextKey_label (before : List Blank) (l : Label) (rest : Bytes) :
    nextKey true (encode (blanks before) ++ (encode l.text ++ rest)) =
      .ok (some (encode (spelling l.glyphs) ++ 0x22 ::
        (encode (blanks l.after) ++ 0x3A :: rest))) := by
  rw [nextKey, Json.skipBlank_blanks, l.encode_text]
  rfl

theorem passClose_close (after : List Blank) (rest : Bytes) :
    passClose 0x7D (encode (blanks after) ++ 0x7D :: rest) = rest := by
  rw [passClose, Json.skipBlank_blanks]
  rfl

theorem readMembers_close (found : Members) (after : List Blank) (rest : Bytes) :
    readMembers (fuel + 1) first found (encode (blanks after) ++ 0x7D :: rest) =
      .ok (found, encode (blanks after) ++ 0x7D :: rest) := by
  rw [readMembers, nextKey_close]
  rfl

/-- The reader takes member after member, up to the closing brace. -/
theorem readMembers_text (ms : Json.Members) (fuel : Nat) (first : Bool) (found : Members)
    (bs rest : Bytes) (hfuel : ms.toList.length ≤ fuel)
    (hbs : nextKey first bs = nextKey true (encode ms.text ++ 0x7D :: rest)) :
    ((readMembers (fuel + 1) first found bs).toOption.map fun (found, rest) =>
        (found, passClose 0x7D rest)) =
      (ms.toList.foldlM Members.add? found).map fun found => (found, rest) := by
  obtain ⟨fuel, rfl⟩ : ∃ k, fuel = k + 1 :=
    Nat.exists_eq_add_one_of_ne_zero fun h => absurd (h ▸ hfuel) (Nat.not_le.2 ms.toList_length_pos)
  match ms with
  | .last l before v after =>
    simp only [Json.Members.text, Bytes.encode_append, List.append_assoc, nextKey_label] at hbs
    have hnext : Ends (encode (blanks after) ++ 0x7D :: rest) :=
      Json.ends_blanks after (Json.ends_close .object)
    rw [readMembers_member hnext l before v hbs, Json.Members.toList, List.foldlM_cons]
    cases found.add? ⟨l.glyphs, v⟩ with
    | none => rfl
    | some found =>
      show Option.map _ (readMembers (fuel + 1) false found _).toOption = _
      rw [readMembers_close]
      show some (found, passClose 0x7D _) = _
      rw [passClose_close]
      rfl
  | .more l before v after ms =>
    simp only [Json.Members.text, Bytes.encode_append, List.append_assoc, nextKey_label] at hbs
    rw [readMembers_member (Json.ends_blanks after Json.ends_comma) l before v hbs,
      Json.Members.toList, List.foldlM_cons]
    cases found.add? ⟨l.glyphs, v⟩ with
    | none => rfl
    | some found =>
      exact readMembers_text ms fuel false found _ rest (Nat.le_of_succ_le_succ hfuel)
        (nextKey_comma after ms _)

/-- What the members found make up. -/
def Members.manifest? (found : Members) : Option Manifest :=
  found.version.map fun version => ⟨found.name.join, version⟩

theorem toOption_readObject (bs : Bytes) : (readObject bs).toOption =
    ((readMembers (bs.length + 1) true {} bs).toOption.map fun (found, rest) =>
      (found, passClose 0x7D rest)).bind fun (found, rest) =>
        found.manifest?.map fun m => (m, rest) := by
  rw [readObject, Json.toOption_bind]
  rcases readMembers (bs.length + 1) true {} bs with e | ⟨found, rest⟩
  · rfl
  · dsimp only [bind, Except.bind, Except.toOption, Option.bind, Option.map, Members.manifest?]
    cases found.version <;> rfl

theorem readObject_text (ms : Json.Members) (rest : Bytes) :
    (readObject (encode ms.text ++ 0x7D :: rest)).toOption =
      ((ms.toList.foldlM Members.add? {}).bind Members.manifest?).map fun m => (m, rest) := by
  have hlength : ms.toList.length ≤ (encode ms.text ++ 0x7D :: rest).length := by
    have := ms.toList_length_le
    have := ms.steps_le
    have := Json.length_le_encode ms.text
    rw [List.length_append]
    omega
  rw [toOption_readObject, readMembers_text ms _ true {} _ rest hlength rfl]
  cases ms.toList.foldlM Members.add? {} <;> rfl

theorem readObject_empty (inner : List Blank) (rest : Bytes) :
    (readObject (encode (blanks inner) ++ 0x7D :: rest)).toOption = none := by
  rw [readObject, readMembers_close]
  rfl

theorem toOption_parse (text : Bytes) : (parse text).toOption =
    (read text).toOption.bind fun (m, rest) =>
      if Json.skipBlank rest = [] then some m else none := by
  rw [parse]
  rcases read text with e | ⟨m, rest⟩
  · rfl
  · dsimp only [bind, Except.bind, Except.toOption, Option.bind]
    cases Json.skipBlank rest <;> rfl

/-- An object is read as its members, whatever white space is around it. -/
theorem toOption_parse_object (before after : List Blank) (bs : Bytes)
    (inside : Option Manifest)
    (h : (readObject bs).toOption = inside.map fun m => (m, encode (blanks after))) :
    (parse (encode (blanks before) ++ 0x7B :: bs)).toOption = inside := by
  have hend : Json.skipBlank (encode (blanks after)) = [] := by
    have := Json.skipBlank_blanks after []
    rwa [List.append_nil] at this
  have hread : read (encode (blanks before) ++ 0x7B :: bs) = readObject bs := by
    rw [read, Json.skipBlank_blanks]
    rfl
  rw [toOption_parse, hread, h]
  cases inside with
  | none => rfl
  | some m => exact if_pos hend

/-- A document is read by its members. -/
theorem parse_text (d : Json.Document) : (parse (Bytes.ofText d.text)).toOption =
    (d.members.foldlM Members.add? {}).bind Members.manifest? := by
  rw [Json.Document.text, Bytes.ofText_ofList]
  cases d with
  | empty before inner after =>
    rw [Json.Document.chars, Bytes.encode_append, Bytes.encode_append, Json.Value.text,
      Json.encode_enclosed (x := 0x7B) (y := 0x7D) rfl rfl]
    exact toOption_parse_object before after _ none (readObject_empty inner _)
  | object before ms after =>
    rw [Json.Document.chars, Bytes.encode_append, Bytes.encode_append, Json.Value.text,
      Json.encode_enclosed (x := 0x7B) (y := 0x7D) rfl rfl]
    exact toOption_parse_object before after _ _ (readObject_text ms _)

/-! ## What the members leave -/

/-- A slot after some values, each of which must find it empty and be readable. -/
def fill {α : Type} (read : Json.Value → Option α) (slot : Option α) (vs : List Json.Value) :
    Option (Option α) :=
  vs.foldlM (fun slot v => if slot.isSome then none else (read v).map some) slot

section Fill

variable {α : Type} {read : Json.Value → Option α}

@[simp] theorem fill_nil (slot : Option α) : fill read slot [] = some slot := rfl

theorem fill_cons (slot : Option α) (v : Json.Value) (vs : List Json.Value) :
    fill read slot (v :: vs) =
      if slot.isSome then none else (read v).bind fun a => fill read (some a) vs := by
  rw [fill, List.foldlM_cons]
  split_ifs
  · rfl
  · cases read v <;> rfl

theorem fill_some (a : α) (vs : List Json.Value) (slot : Option α) :
    fill read (some a) vs = some slot ↔ vs = [] ∧ slot = some a := by
  cases vs with
  | nil => simp [eq_comm]
  | cons v vs => simp [fill_cons]

/-- A slot is filled at most once. -/
theorem fill_none (vs : List Json.Value) (slot : Option α) :
    fill read none vs = some slot ↔
      vs = [] ∧ slot = none ∨ ∃ v a, vs = [v] ∧ read v = some a ∧ slot = some a := by
  cases vs with
  | nil => simp [eq_comm]
  | cons v vs =>
    simp only [fill_cons, Option.isSome_none, Bool.false_eq_true, if_false,
      Option.bind_eq_some_iff, fill_some, List.cons.injEq]
    constructor
    · rintro ⟨a, ha, rfl, rfl⟩
      exact .inr ⟨v, a, ⟨rfl, rfl⟩, ha, rfl⟩
    · rintro (⟨h, -⟩ | ⟨v', a, ⟨rfl, rfl⟩, ha, rfl⟩)
      · exact absurd h (List.cons_ne_nil _ _)
      · exact ⟨a, ha, rfl, rfl⟩

end Fill

/-- The members fill two slots by the values of two keys. -/
theorem foldlM_add? (ms : List Json.Member) (found found' : Members) :
    ms.foldlM Members.add? found = some found' ↔
      (∀ x ∈ ms, x.key? ≠ none) ∧
        fill Json.Value.asTextOrNull? found.name (valuesOf "name" ms) = some found'.name ∧
        fill Json.Value.asText? found.version (valuesOf "version" ms) = some found'.version := by
  induction ms generalizing found with
  | nil =>
    have hnil (key : String) : valuesOf key [] = [] := rfl
    obtain ⟨name, version⟩ := found
    obtain ⟨name', version'⟩ := found'
    simp [hnil]
  | cons x ms ih =>
    rw [List.foldlM_cons, List.forall_mem_cons, Members.add?, Json.valuesOf_cons,
      Json.valuesOf_cons]
    cases hkey : x.key? with
    | none => simp
    | some key =>
      simp only [Option.bind_some, Option.some.injEq, ne_eq, reduceCtorEq, not_false_eq_true,
        true_and]
      by_cases hname : key = "name"
      · have hversion : key ≠ "version" := by
          rw [hname]
          decide
        rw [if_pos hname, if_pos hname, if_neg hversion, fill_cons]
        by_cases hfound : found.name.isSome
        · simp [hfound]
        · rw [if_neg hfound, if_neg hfound]
          cases x.value.asTextOrNull? with
          | none => simp
          | some name => exact ih _
      · rw [if_neg hname, if_neg hname]
        by_cases hversion : key = "version"
        · rw [if_pos hversion, if_pos hversion, fill_cons]
          by_cases hfound : found.version.isSome
          · simp [hfound]
          · rw [if_neg hfound, if_neg hfound]
            cases x.value.asText? with
            | none => simp
            | some version => exact ih _
        · rw [if_neg hversion, if_neg hversion]
          exact ih _

theorem manifest?_iff (ms : List Json.Member) (m : Manifest) :
    (ms.foldlM Members.add? {}).bind Members.manifest? = some m ↔ Declares ms m := by
  have hmanifest (found : Members) : found.manifest? = some m ↔
      found.version = some m.version ∧ found.name.join = m.name := by
    obtain ⟨name, version⟩ := m
    simp [Members.manifest?, and_comm]
  simp only [Option.bind_eq_some_iff, foldlM_add?, hmanifest, fill_none]
  constructor
  · rintro ⟨found, ⟨hkeys, hname, hversion⟩, hv, hn⟩
    refine ⟨hkeys, ?_, ?_⟩
    · rcases hversion with ⟨-, hnone⟩ | ⟨v, a, hvs, ha, hsome⟩
      · rw [hv] at hnone
        exact absurd hnone (Option.some_ne_none _)
      · rw [← hv, hsome]
        exact ⟨v, hvs, ha⟩
    · rcases hname with ⟨hvs, hnone⟩ | ⟨v, a, hvs, ha, hsome⟩
      · rw [hnone] at hn
        exact .inl ⟨hvs, hn.symm⟩
      · rw [hsome] at hn
        exact .inr ⟨v, hvs, ha.trans (congrArg some hn)⟩
  · rintro ⟨hkeys, ⟨v, hvs, hv⟩, ⟨hns, hn⟩ | ⟨n, hns, hn⟩⟩
    · exact ⟨⟨none, some m.version⟩, ⟨hkeys, .inl ⟨hns, rfl⟩, .inr ⟨v, _, hvs, hv, rfl⟩⟩, rfl,
        hn.symm⟩
    · exact ⟨⟨some m.name, some m.version⟩,
        ⟨hkeys, .inr ⟨n, _, hns, hn, rfl⟩, .inr ⟨v, _, hvs, hv, rfl⟩⟩, rfl, rfl⟩

/-! ## Loading -/

theorem ofFile_eq_ok_iff (path : Path) (text : String) (m : Manifest) :
    ofFile path text = .ok m ↔
      (parse (Bytes.ofText text)).toOption = some m ∧ m.hasVersion = true := by
  rw [ofFile]
  cases parse (Bytes.ofText text) with
  | error e => simp [Except.toOption]
  | ok m' =>
    simp only [Except.toOption, Option.some.injEq]
    split_ifs with h
    · constructor
      · rintro ⟨⟩
        exact ⟨rfl, h⟩
      · rintro ⟨rfl, -⟩
        rfl
    · constructor
      · rintro ⟨⟩
      · rintro ⟨rfl, hm⟩
        exact absurd hm h

theorem trimChars_eq_nil_iff (cs : List Char) :
    Text.trimChars cs = [] ↔ ∀ c ∈ cs, Text.isBlank c = true := by
  simp only [Text.trimChars, List.reverse_eq_nil_iff, List.dropWhile_eq_nil_iff, List.mem_reverse]
  constructor
  · intro h
    rw [← List.dropWhile_eq_nil_iff]
    cases hcs : cs.dropWhile Text.isBlank with
    | nil => rfl
    | cons c rest =>
      have hc := List.head?_dropWhile_not Text.isBlank cs
      rw [hcs] at h hc
      exact absurd (h c List.mem_cons_self) (by simpa using hc)
  · intro h c hc
    exact h c ((List.dropWhile_sublist _).subset hc)

theorem hasVersion_iff (m : Manifest) :
    m.hasVersion = true ↔ ∃ c ∈ m.version.toList, Text.isBlank c = false := by
  have hempty : (Text.trim m.version).isEmpty = true ↔ Text.trimChars m.version.toList = [] := by
    rw [Text.trim, String.isEmpty_iff, String.ofList_eq_empty_iff]
  rw [hasVersion, Bool.not_eq_true', ← Bool.not_eq_true, hempty, trimChars_eq_nil_iff]
  push Not
  simp only [ne_eq, Bool.not_eq_true]

/-- A document loads exactly as the manifest that its members declare, if its version is not
blank. -/
theorem load_document {σ : Type} (h : Handler σ) (s : σ) (path : Path) (d : Json.Document)
    (m : Manifest) (hread : (h (.readText path) s).1 = .ok d.text) :
    ((load path).run.run h s).1 = .ok m ↔
      Declares d.members m ∧ ∃ c ∈ m.version.toList, Text.isBlank c = false := by
  rw [run_load, hread]
  show ofFile path d.text = .ok m ↔ _
  rw [ofFile_eq_ok_iff, parse_text, manifest?_iff, hasVersion_iff]

/-- For every host and every document that it finds at a path: loading gives exactly the manifest
that the members declare, if its version is not blank. Any other document whose names of members
are texts loads alike, wherever it is, if it has the same values for the two keys. -/
theorem load_iff_declares {σ τ : Type} (h : Handler σ) (h' : Handler τ) (s : σ) (s' : τ)
    (path path' : Path) (d d' : Json.Document) (m : Manifest)
    (hread : (h (.readText path) s).1 = .ok d.text)
    (hread' : (h' (.readText path') s').1 = .ok d'.text) :
    (((load path).run.run h s).1 = .ok m ↔
        Declares d.members m ∧ ∃ c ∈ m.version.toList, Text.isBlank c = false) ∧
      ((∀ x ∈ d.members ++ d'.members, x.key? ≠ none) →
        valuesOf "name" d'.members = valuesOf "name" d.members →
        valuesOf "version" d'.members = valuesOf "version" d.members →
        (((load path').run.run h' s').1 = .ok m ↔ ((load path).run.run h s).1 = .ok m)) := by
  refine ⟨load_document h s path d m hread, fun hkeys hname hversion => ?_⟩
  rw [List.forall_mem_append] at hkeys
  rw [load_document h s path d m hread, load_document h' s' path' d' m hread']
  refine and_congr_left fun _ => ⟨fun hd => ?_, fun hd => ?_⟩
  · exact hd.congr hkeys.1 hname.symm hversion.symm
  · exact hd.congr hkeys.2 hname hversion

namespace Sample

open Json (CodeUnit Document Glyph)

/-- The glyphs of a text whose characters all stand for themselves. -/
def glyphs (s : String) : List Glyph :=
  s.toList.filterMap fun c =>
    if h : 0x20 ≤ c.toNat ∧ c ≠ '"' ∧ c ≠ '\\' then some (.plain c h) else none

/-- The version `1.0.0` and nothing else. -/
def brief : Document :=
  .object [] (.last ⟨[], glyphs "version", []⟩ [] (.string (glyphs "1.0.0")) []) []

/-- The version `1.0.0` behind a list, with an escape in its name and white space before it. -/
def spelled : Document :=
  .object [] (.more ⟨[], glyphs "files", []⟩ [] (.list (.last [] (.emptyObject [.space]) [])) []
    (.last ⟨[.lineFeed], .unit ⟨⟨0, false⟩, ⟨0, false⟩, ⟨7, false⟩, ⟨6, false⟩⟩ :: glyphs "ersion",
      []⟩ [.space] (.string (glyphs "1.0.0")) [])) []

/-- The version `1.0.0` and a member whose name is a surrogate without its partner. -/
def unpaired : Document :=
  .object [] (.more ⟨[], glyphs "version", []⟩ [] (.string (glyphs "1.0.0")) []
    (.last ⟨[], [.unit ⟨⟨13, false⟩, ⟨8, false⟩, ⟨0, false⟩, ⟨0, false⟩⟩], []⟩ []
      (.number ⟨false, .zero, none, none⟩) [])) []

/-- Where the manifest of the package is. -/
def path : Path := .ofText "/p/package.json"

/-- A host with one package, whose manifest is a document. -/
def host (d : Document) : Memory where
  tree := ⟨[([Bytes.ofText "p"], .dir),
    ([Bytes.ofText "p", Bytes.ofText fileName], .file (Bytes.ofText d.text) 0o644)]⟩

/-- The host finds the text of the document. -/
theorem read_host (d : Document) :
    (Memory.handle noNetwork (.readText path) (host d, ())).1 = .ok d.text := by
  have hfile : Memory.file (host d).tree ((host d).place path) =
      .ok (Bytes.ofText d.text, 0o644) := rfl
  have hfire : Memory.fire .readText ((host d).place path) (host d).faults = (none, []) := rfl
  simp only [Memory.handle, Memory.query, Memory.attempt, hfire, hfile]
  dsimp only [bind, Except.bind]
  rw [Utf8.decode?_ofText]
  rfl

theorem declares_brief : Declares brief.members ⟨none, "1.0.0"⟩ where
  keys := by decide +kernel
  version := ⟨.string (glyphs "1.0.0"), rfl, rfl⟩
  name := .inl ⟨rfl, rfl⟩

end Sample

/-- The two spellings of the version are the same manifest. -/
theorem load_iff_declares_sample :
    Sample.brief.text = "\x7b\"version\":\"1.0.0\"\x7d" ∧
      Sample.spelled.text = "\x7b\"files\":[\x7b \x7d],\n\"\\u0076ersion\": \"1.0.0\"\x7d" ∧
      ((load Sample.path).run.run (Memory.handle noNetwork)
        (Sample.host Sample.brief, ())).1 = .ok ⟨none, "1.0.0"⟩ ∧
      ((load Sample.path).run.run (Memory.handle noNetwork)
        (Sample.host Sample.spelled, ())).1 = .ok ⟨none, "1.0.0"⟩ := by
  have h := load_iff_declares _ _ _ _ _ _ _ _ ⟨none, "1.0.0"⟩ (Sample.read_host Sample.brief)
    (Sample.read_host Sample.spelled)
  have hbrief := h.1.2 ⟨Sample.declares_brief, '1', by decide⟩
  exact ⟨by decide, by decide, hbrief, (h.2 (by decide +kernel) rfl rfl).2 hbrief⟩

/-- A name that stands for no text makes a document fail to load, whatever its other members
are. -/
theorem unpaired_not_loaded :
    Sample.unpaired.text = "\x7b\"version\":\"1.0.0\",\"\\ud800\":0\x7d" ∧
      valuesOf "version" Sample.unpaired.members = [.string (Sample.glyphs "1.0.0")] ∧
      (Json.Value.string (Sample.glyphs "1.0.0")).asText? = some "1.0.0" ∧
      valuesOf "name" Sample.unpaired.members = [] ∧
      ((load Sample.path).run.run (Memory.handle noNetwork)
        (Sample.host Sample.unpaired, ())).1.toOption = none := by
  exact ⟨by decide +kernel, rfl, rfl, rfl, by decide +kernel⟩

end Provision.Manifest
