import Provision.Archive.Zip
import Provision.Proofs.Layout
import Provision.Proofs.PackedFiles

/-!
# Plain names in zip archives

The rules for names in zip archives leave a plain name as it is, unless it begins with a drive.

* `NoDrive` says that it does not.
* `Zip.Name.ofCodePage_ascii` is about decoding a name, `relative?_name` about where an entry goes
  and `isDirectory_name` about what it stands for.
-/

namespace Provision

/-! ## Texts -/

theorem Bytes.ofText_ascii {bs : Bytes} (h : ∀ b ∈ bs, b < 0x80) :
    Bytes.ofText (String.ofList (bs.map fun b => Char.ofNat b.toNat)) = bs := by
  have hone : ∀ n < 128, String.utf8EncodeChar (Char.ofNat n) = [n.toUInt8] := by decide +kernel
  rw [ofText_eq_flatMap, String.toList_ofList]
  induction bs with
  | nil => rfl
  | cons b bs ih =>
    have hb : b.toNat < 128 := UInt8.lt_iff_toNat_lt.1 (h b List.mem_cons_self)
    have hself : b.toNat.toUInt8 = b := by simp
    rw [List.map_cons, List.flatMap_cons, hone _ hb, hself,
      ih fun x hx => h x (List.mem_cons_of_mem _ hx)]
    rfl

namespace Path

variable {names : List Bytes}

theorem child_ofNames (hne : names ≠ []) (h : ∀ n ∈ names, IsName n) {name : Bytes}
    (hname : IsName name) : (ofNames names).child name = ofNames (names ++ [name]) := by
  have hjoin := join_ofNames_append ⟨[]⟩ hne (fun n hn => (h n hn).isPart)
    (List.cons_ne_nil name []) (by simpa using hname.isPart)
  rwa [empty_join, empty_join] at hjoin

end Path

namespace Archive

namespace PackedFile

variable {f : PackedFile}

/-- The name does not begin with a letter and a colon. -/
def NoDrive (f : PackedFile) : Prop := Zip.Name.afterDrive? f.name = none

instance : DecidablePred NoDrive := fun _ => inferInstanceAs (Decidable (_ = none))

theorem Plain.exists_getLast? (h : f.Plain) :
    ∃ b, f.name.getLast? = some b ∧ b ≠ Path.slash := by
  have := Path.exists_getLast?_ofNames f.place_ne_nil fun n hn => (h.isName n hn).isPart
  rwa [f.ofNames_place] at this

/-- The name does not start with a slash. -/
theorem Plain.exists_cons (h : f.Plain) : ∃ a rest, f.name = a :: rest ∧ a ≠ Path.slash := by
  obtain ⟨a, rest, hname⟩ := List.exists_cons_of_ne_nil h.name_ne_nil
  refine ⟨a, rest, hname, fun ha => ?_⟩
  have hplace : f.place = [] :: Bytes.splitOn Path.slash rest := by
    rw [place, hname, ha, Bytes.splitOn, if_pos rfl]
  exact (h.isName [] (by rw [hplace]; exact List.mem_cons_self)).ne_nil rfl

end PackedFile

namespace Zip.Name

open Provision.Path (IsName ofNames)

variable {f : PackedFile}

theorem ofCodePage_ascii {bs : Bytes} (h : ∀ b ∈ bs, b < 0x80) : ofCodePage bs = bs := by
  have hchars : bs.map codePageChar = bs.map fun b => Char.ofNat b.toNat :=
    List.map_congr_left fun b hb => by rw [codePageChar, if_pos (h b hb)]
  rw [ofCodePage, hchars, Bytes.ofText_ascii h]

theorem separates_iff {b : UInt8} (h : b ≠ backslash) :
    separates false b = true ↔ b = Path.slash := by
  simp [separates, h]

/-- Without a backslash the parts are those between slashes. -/
theorem parts_eq_splitOn {bs : Bytes} (h : ∀ b ∈ bs, b ≠ backslash) :
    parts false bs = Bytes.splitOn Path.slash bs := by
  induction bs with
  | nil => rfl
  | cons b bs ih =>
    have hb := separates_iff (h b List.mem_cons_self)
    rw [parts, Bytes.splitOn, ih fun x hx => h x (List.mem_cons_of_mem _ hx)]
    by_cases hs : b = Path.slash
    · rw [if_pos hs, if_pos (hb.2 hs)]
    · exact (if_neg fun hc => hs (hb.1 hc)).trans (if_neg hs).symm

theorem resolve?_cons {name : Bytes} (h : IsName name) (depth : Nat) (path : Path)
    (names : List Bytes) :
    resolve? depth path (name :: names) = resolve? (depth + 1) (path.child name) names := by
  cases depth <;>
    rw [resolve?, h.not_trivial, if_neg Bool.false_ne_true, if_neg h.ne_dotDot]

/-- Ordinary names lead down, one after another. -/
theorem resolve?_names (depth : Nat) {above names : List Bytes} (hne : above ≠ [])
    (habove : ∀ n ∈ above, IsName n) (h : ∀ n ∈ names, IsName n) :
    resolve? depth (ofNames above) names = some (ofNames (above ++ names)) := by
  induction names generalizing depth above with
  | nil =>
    rw [List.append_nil]
    cases depth <;> rfl
  | cons name names ih =>
    have hname := h name List.mem_cons_self
    rw [resolve?_cons hname, Path.child_ofNames hne habove hname,
      ih _ (by simp) (by simpa [or_imp, forall_and] using ⟨habove, hname⟩)
        (fun n hn => h n (List.mem_cons_of_mem _ hn)), List.append_assoc]
    rfl

theorem afterVolume_name (h : f.Plain) (hdrive : f.NoDrive) : afterVolume f.name = f.name := by
  obtain ⟨a, rest, hname, ha⟩ := h.exists_cons
  have hseparator : isSeparator a = false := by
    rw [Bool.eq_false_iff]
    have hmem : a ∈ f.name := by
      rw [hname]
      exact List.mem_cons_self
    exact fun hc => ha ((separates_iff (h.ascii a hmem).2.2).1 hc)
  have hmark (mark : UInt8) : afterSystemMark? mark f.name = none := by
    rw [hname]
    unfold afterSystemMark?
    split
    · next heq =>
      obtain ⟨rfl, -⟩ := List.cons.inj heq
      rw [hseparator]
      rfl
    · rfl
  have htwo : afterTwoSlashes? f.name = none := by
    rw [hname]
    unfold afterTwoSlashes?
    split
    · next heq =>
      obtain ⟨rfl, -⟩ := List.cons.inj heq
      rw [hseparator]
      rfl
    · rfl
  rw [afterVolume, hmark, hmark, htwo, show afterDrive? f.name = none from hdrive]
  rfl

/-- An entry goes where its plain name says. -/
theorem relative?_name (h : f.Plain) (hdrive : f.NoDrive) : relative? f.name = some ⟨f.name⟩ := by
  obtain ⟨a, rest, hname, -⟩ := h.exists_cons
  have hnul : f.name.contains 0 = false := by
    rw [Bool.eq_false_iff]
    exact fun hc => (h.ascii 0 (by simpa using hc)).1 rfl
  have hliteral : isLiteral f.name = false := by
    have ha := (h.ascii a (by rw [hname]; exact List.mem_cons_self)).2.2
    have hne : ((0x5C : UInt8) == a) = false := beq_false_of_ne (Ne.symm ha)
    rw [isLiteral, hname, List.isPrefixOf, hne, Bool.false_and]
  obtain ⟨first, names, hplace⟩ := List.exists_cons_of_ne_nil f.place_ne_nil
  have hisName := h.isName
  have hfirst : IsName first := hisName first (by rw [hplace]; exact List.mem_cons_self)
  have hnames : ∀ n ∈ names, IsName n := fun n hn =>
    hisName n (by rw [hplace]; exact List.mem_cons_of_mem _ hn)
  have hchild : (Path.mk []).child first = ofNames [first] := Path.empty_join _
  rw [relative?, hnul, if_neg Bool.false_ne_true, hliteral, afterVolume_name h hdrive,
    parts_eq_splitOn fun b hb => (h.ascii b hb).2.2]
  show resolve? 0 ⟨[]⟩ f.place = _
  rw [hplace, resolve?_cons hfirst, hchild,
    resolve?_names _ (List.cons_ne_nil _ _) (by simpa using hfirst) hnames, List.singleton_append,
    ← hplace, f.ofNames_place]

/-- A plain name stands for a file. -/
theorem isDirectory_name (h : f.Plain) : isDirectory f.name = false := by
  obtain ⟨b, hb, hslash⟩ := h.exists_getLast?
  have hmem : b ∈ f.name := List.mem_of_getLast? hb
  rw [isDirectory, hb, Bool.eq_false_iff]
  exact fun hc => hslash ((separates_iff (h.ascii b hmem).2.2).1 hc)

end Zip.Name

end Archive

end Provision
