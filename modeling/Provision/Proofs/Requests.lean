import Provision.Archive.Gzip
import Provision.Archive.Zip
import Provision.Proofs.Prefixes

/-!
# Requests to decoded data

A reader that meets no failure gets the data from its start, and no less than it asked for unless
the data is complete and at its end: where a portion of the input ends, a request is cut short but
never comes back empty.

* `Decoded.Portioned` says that portions end within the data. It holds of whatever a decoder makes,
  since the start of the input inflates to the start of the output (`Deflate.inflate_append`).
* `Decoded.Gets` is what a reader has then; `Portioned.collect` is about `Decoded.collect`.
-/

namespace Provision.Archive

namespace Decoded

/-- A portion is used up only when there is a byte to hand out, and portions end within the data. -/
def Portioned (d : Decoded) : Prop := ∀ c ∈ d.cuts, c.used ≤ c.given ∧ c.given ≤ d.bytes.length

/-- A reader that wanted `amount` bytes has got the start of the data, and less only at its end. -/
structure Gets (amount : Nat) (d : Decoded) (got : Bytes) (rest : Decoded) : Prop where
  bytes : got ++ rest.bytes = d.bytes
  ending : rest.ending = d.ending
  portioned : rest.Portioned
  length_le : got.length ≤ amount
  short : got.length < amount → rest.bytes = [] ∧ d.ending = .finished

variable {d rest : Decoded} {got : Bytes} {n amount : Nat}

theorem portioned_of_cuts (h : d.cuts = []) : d.Portioned := by
  intro c hc
  rw [h] at hc
  cases hc

theorem Portioned.split (h : d.Portioned) (n : Nat) : (d.split n).2.Portioned := by
  intro c hc
  obtain ⟨c', hc', rfl⟩ := List.mem_map.1 hc
  obtain ⟨hused, hgiven⟩ := h c' hc'
  show c'.used - (d.bytes.take n).length ≤ c'.given - (d.bytes.take n).length ∧
    c'.given - (d.bytes.take n).length ≤ (d.bytes.drop n).length
  rw [List.length_take, List.length_drop]
  omega

theorem Portioned.leaveUsed (h : d.Portioned) : d.leaveUsed.Portioned := fun c hc =>
  h c (List.dropWhile_suffix _ |>.subset hc)

/-- Only complete data lets a request pass that finds nothing. -/
theorem finished_of_fault? (hn : 0 < n) (hempty : d.bytes = []) (h : d.fault? n = none) :
    d.ending = .finished := by
  unfold fault? at h
  cases hend : d.ending with
  | finished => rfl
  | after message =>
    rw [hend, hempty] at h
    cases h
  | within message eager =>
    rw [hend, hempty] at h
    simp [hn] at h
  | blocked message =>
    rw [hend] at h
    cases h

/-- The first portion that has not been left has a byte to hand out. -/
theorem Portioned.given_pos (h : d.Portioned) {cut : Cut} {cuts : List Cut}
    (hcuts : d.leaveUsed.cuts = cut :: cuts) : 0 < cut.given ∧ cut.given ≤ d.bytes.length := by
  have hused : cut.used ≠ 0 := by
    intro hzero
    have hhead := List.head?_dropWhile_not (fun c : Cut => c.used == 0) d.cuts
    rw [show d.cuts.dropWhile _ = cut :: cuts from hcuts] at hhead
    simp [hzero] at hhead
  have hmem : cut ∈ d.leaveUsed.cuts := by
    rw [hcuts]
    exact List.mem_cons_self
  obtain ⟨hle, hgiven⟩ := h.leaveUsed cut hmem
  exact ⟨by omega, hgiven⟩

/-- A request that does not fail gives the start of the data, and nothing only at the end. -/
theorem Portioned.read (h : d.Portioned) (hn : 0 < n) (hread : d.read n = .ok (got, rest)) :
    got ++ rest.bytes = d.bytes ∧ rest.ending = d.ending ∧ rest.Portioned ∧ got.length ≤ n ∧
      (got = [] → d.bytes = [] ∧ d.ending = .finished) := by
  have htake (k : Nat) : (d.bytes.take k).length ≤ k := List.length_take_le _ _
  unfold Decoded.read at hread
  dsimp only at hread
  cases hcuts : d.leaveUsed.cuts with
  | cons cut cuts =>
    obtain ⟨hpos, hgiven⟩ := h.given_pos hcuts
    rw [hcuts] at hread
    cases hread
    refine ⟨List.take_append_drop _ _, rfl, h.leaveUsed.split _, ?_, fun hempty => ?_⟩
    · exact (htake _).trans (Nat.min_le_left _ _)
    · rcases List.take_eq_nil_iff.1 (show d.bytes.take (min n cut.given) = [] from hempty) with
        hzero | hnil
      · omega
      · rw [hnil, List.length_nil] at hgiven
        omega
  | nil =>
    rw [hcuts] at hread
    cases hfault : d.leaveUsed.fault? n with
    | some message =>
      rw [hfault] at hread
      cases hread
    | none =>
      rw [hfault] at hread
      cases hread
      refine ⟨List.take_append_drop _ _, rfl, h.leaveUsed.split _, htake n, fun hempty => ?_⟩
      rcases List.take_eq_nil_iff.1 (show d.bytes.take n = [] from hempty) with hzero | hnil
      · omega
      · exact ⟨hnil, finished_of_fault? (d := d.leaveUsed) hn hnil hfault⟩

theorem Portioned.collectUpTo (h : d.Portioned) {step : Nat} (hstep : 0 < step) {fuel : Nat}
    (hfuel : d.bytes.length < fuel) (hfault : (collectUpTo step fuel amount d).fault = none) :
    Gets amount d (collectUpTo step fuel amount d).bytes (collectUpTo step fuel amount d).rest := by
  induction fuel generalizing d amount with
  | zero => omega
  | succ fuel ih =>
    unfold Decoded.collectUpTo at hfault ⊢
    split_ifs at hfault ⊢ with hzero
    · exact ⟨rfl, rfl, h, Nat.zero_le _, fun hless => by omega⟩
    · cases hread : d.read (min step amount) with
      | error message =>
        rw [hread] at hfault
        cases hfault
      | ok r =>
        obtain ⟨got, rest⟩ := r
        obtain ⟨hbytes, hending, hrest, hlength, hempty⟩ := h.read (by omega) hread
        rw [hread] at hfault
        cases got with
        | nil =>
          obtain ⟨hnil, hfinished⟩ := hempty rfl
          have hrestBytes : rest.bytes = [] := by
            rw [← hnil, ← hbytes, List.nil_append]
          exact ⟨hbytes, hending, hrest, Nat.zero_le _, fun _ => ⟨hrestBytes, hfinished⟩⟩
        | cons b got =>
          have hless : rest.bytes.length < fuel := by
            have := congrArg List.length hbytes
            rw [List.length_append, List.length_cons] at this
            omega
          have hmore := ih hrest hless hfault
          have hall := hmore.length_le
          refine ⟨?_, hmore.ending.trans hending, hmore.portioned, ?_, fun hshort => ?_⟩
          · rw [List.append_assoc, hmore.bytes, hbytes]
          · rw [List.length_append]
            omega
          · rw [List.length_append] at hshort
            rw [← hending]
            exact hmore.short (by omega)

theorem Portioned.collect (h : d.Portioned) {step : Nat} (hstep : 0 < step)
    (hfault : (d.collect step amount).fault = none) :
    Gets amount d (d.collect step amount).bytes (d.collect step amount).rest :=
  h.collectUpTo hstep (Nat.lt_succ_self _) hfault

/-- What is asked for to the end is all there is, and it is complete. -/
theorem Gets.all (h : Gets amount d got rest) (hamount : d.bytes.length < amount) :
    got = d.bytes ∧ d.ending = .finished := by
  have hbytes := h.bytes
  have hlength := congrArg List.length hbytes
  rw [List.length_append] at hlength
  obtain ⟨hnil, hfinished⟩ := h.short (by omega)
  rw [hnil, List.append_nil] at hbytes
  exact ⟨hbytes, hfinished⟩

/-- What a reader gets in full is taken from the data. -/
theorem Gets.full (h : Gets amount d got rest) (hfull : amount ≤ got.length) :
    got.length = amount := le_antisymm h.length_le hfull

end Decoded

namespace Inflated

open Decoded (Portioned portioned_of_cuts)

/-- The start of the input inflates to no more than the input. -/
theorem length_inflate_take_le {n m : Nat} (h : n ≤ m) (data : Bytes) :
    (Deflate.inflate (data.take n)).bytes.length ≤
      (Deflate.inflate (data.take m)).bytes.length := by
  have htake : (data.take m).take n = data.take n := by
    rw [List.take_take, Nat.min_eq_left h]
  have hparts := Deflate.inflate_append ((data.take m).take n) ((data.take m).drop n)
  rw [List.take_append_drop, htake] at hparts
  exact hparts.length_le

theorem portioned_cutsBefore {data : Bytes} {ends : List Nat} {c : Cut}
    (hc : c ∈ cutsBefore data ends) :
    c.used ≤ c.given ∧ c.given ≤ (Deflate.inflate data).bytes.length := by
  obtain ⟨o, ho, hsome⟩ := List.mem_filterMap.1 hc
  obtain rfl : o = some c := hsome
  obtain ⟨n, -, hcut⟩ := List.mem_map.1 (List.takeWhile_subset _ ho)
  have hbefore := length_inflate_take_le (Nat.sub_le n 1) data
  have hall : (Deflate.inflate (data.take n)).bytes.length ≤
      (Deflate.inflate data).bytes.length := by
    have hprefix := Deflate.inflate_append (data.take n) (data.drop n)
    rw [List.take_append_drop] at hprefix
    exact hprefix.length_le
  unfold cutAt? at hcut
  dsimp only at hcut
  split at hcut
  · cases hcut
  · cases hcut
  · cases hcut
    exact ⟨Nat.min_le_right _ _, hall⟩
  · cases hcut
    exact ⟨hbefore, hall⟩

section Decoded

variable {ends : List Nat} {complete : Bytes → Bytes → DecodedEnd} {data : Bytes}

theorem bytes_decoded : (decoded ends complete data).bytes = (Deflate.inflate data).bytes := by
  unfold decoded
  dsimp only
  split <;> rfl

/-- Only complete data comes to a regular end, and what follows it has to allow that. -/
theorem ending_decoded : (decoded ends complete data).ending = .finished ↔
    ∃ rest, (Deflate.inflate data).rest = .ok rest ∧
      complete (Deflate.inflate data).bytes rest = .finished := by
  unfold decoded
  dsimp only
  cases (Deflate.inflate data).rest with
  | error e => cases e <;> simp
  | ok rest => simp

end Decoded

theorem portioned_decoded (ends : List Nat) (complete : Bytes → Bytes → DecodedEnd)
    (data : Bytes) : (decoded ends complete data).Portioned := by
  unfold decoded
  dsimp only
  split
  · exact fun c hc => portioned_cutsBefore hc
  · exact fun c hc => portioned_cutsBefore hc
  · exact portioned_of_cuts rfl
  · exact portioned_of_cuts rfl

theorem portioned_interrupted (message : String) (ends : List Nat)
    (complete : Bytes → Bytes → DecodedEnd) (data : Bytes) :
    (interrupted message ends complete data).Portioned := by
  unfold interrupted
  dsimp only
  split
  · exact fun c hc => portioned_cutsBefore hc
  · exact fun c hc => portioned_cutsBefore hc
  · exact fun c hc => portioned_cutsBefore hc
  · exact portioned_decoded _ _ _

end Inflated

end Provision.Archive
