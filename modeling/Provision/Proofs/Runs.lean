import Provision.Program

/-!
# What runs meet

A rule says what calls may answer in a state and what state they leave. A program meets a property
under a rule when, whatever the answers, an invariant holds before every call and a postcondition at
the end. Runs on a host whose calls keep to the rule then have the property, also when they are cut
short.

* `Program.Meets` and `Attempt.Meets` are the notion, with one lemma for each way of putting
  programs together.
* `Program.Keeps` ties a host to a rule; `Program.Keeps.run` and `Program.Keeps.runUpTo` carry what
  a program meets over to its runs.
-/

namespace Provision

/-- What a call may answer in a state, and the state after it. -/
abbrev Rule (ω : Type) := (c : Call) → ω → c.Answer → ω → Prop

variable {α β ε δ ω σ : Type} {E : Rule ω} {I : ω → Prop} {w : ω}

namespace Program

variable {Q : α → ω → Prop}

/-- Whatever the answers, `I` holds before every call and `Q` at the end. -/
def Meets (E : Rule ω) (I : ω → Prop) (Q : α → ω → Prop) : Program α → ω → Prop
  | .done a, w => Q a w
  | .call c next, w => I w ∧ ∀ a w', E c w a w' → (next a).Meets E I Q w'

theorem meets_pure {a : α} (h : Q a w) : (pure a : Program α).Meets E I Q w := h

theorem meets_ask {c : Call} {Q : c.Answer → ω → Prop} (hI : I w)
    (h : ∀ a w', E c w a w' → Q a w') : (ask c).Meets E I Q w := ⟨hI, h⟩

theorem meets_bind {p : Program α} {f : α → Program β} {Q : β → ω → Prop}
    (h : p.Meets E I (fun a w => (f a).Meets E I Q w) w) : (p >>= f).Meets E I Q w := by
  show (p.bind f).Meets E I Q w
  induction p generalizing w with
  | done a => exact h
  | call c next ih => exact ⟨h.1, fun a w' ha => ih a (h.2 a w' ha)⟩

theorem Meets.mono {J : ω → Prop} {R : α → ω → Prop} {p : Program α} (h : p.Meets E I Q w)
    (hI : ∀ w, I w → J w) (hQ : ∀ a w, Q a w → R a w) : p.Meets E J R w := by
  induction p generalizing w with
  | done a => exact hQ a w h
  | call c next ih => exact ⟨hI w h.1, fun a w' ha => ih a (h.2 a w' ha)⟩

/-- Of any program nothing is claimed. -/
theorem meets_any (p : Program α) : p.Meets E (fun _ => True) (fun _ _ => True) w := by
  induction p generalizing w with
  | done a => trivial
  | call c next ih => exact ⟨trivial, fun a w' _ => ih a⟩

theorem meets_call {c : Call} {f : c.Answer → Program α} (hI : I w)
    (h : ∀ a w', E c w a w' → (f a).Meets E I Q w') : (ask c >>= f).Meets E I Q w := ⟨hI, h⟩

theorem meets_andThen {p : Program α} {cleanUp : Program Unit}
    (h : p.Meets E I (fun a w => cleanUp.Meets E I (fun _ w => Q a w) w) w) :
    (p.andThen cleanUp).Meets E I Q w :=
  meets_bind (h.mono (fun _ hw => hw) fun _ _ hc => meets_bind hc)

/-! ## Runs on a host -/

/-- The calls of a host keep to a rule: `R` ties the states of the host to those that the rule
speaks of. -/
def Keeps (h : Handler σ) (E : Rule ω) (R : σ → ω → Prop) : Prop :=
  ∀ c s w, R s w → ∃ w', E c w (h c s).1 w' ∧ R (h c s).2 w'

variable {h : Handler σ} {R : σ → ω → Prop} {s : σ} {p : Program α}

/-- A run ends as the program says. -/
theorem Keeps.run (hk : Keeps h E R) (hs : R s w) (hp : p.Meets E I Q w) :
    ∃ w', R (p.run h s).2 w' ∧ Q (p.run h s).1 w' := by
  induction p generalizing s w with
  | done a => exact ⟨w, hs, hp⟩
  | call c next ih =>
    obtain ⟨w', hE, hR⟩ := hk c s w hs
    exact ih _ hR (hp.2 _ _ hE)

/-- A run that is cut short ends in a state between two calls. -/
theorem Keeps.runUpTo (hk : Keeps h E R) (hs : R s w) (hp : p.Meets E I Q w) (n : Nat) :
    ∃ w', R (p.runUpTo h n s).2 w' ∧
      match (p.runUpTo h n s).1 with
      | some a => Q a w'
      | none => I w' := by
  induction p generalizing s w n with
  | done a => cases n <;> exact ⟨w, hs, hp⟩
  | call c next ih =>
    cases n with
    | zero => exact ⟨w, hs, hp.1⟩
    | succ n =>
      obtain ⟨w', hE, hR⟩ := hk c s w hs
      exact ih _ hR (hp.2 _ _ hE) n

/-- A run of one program after another that is cut short is so in the first or in the second. -/
theorem runUpTo_bind (h : Handler σ) (p : Program α) (f : α → Program β) (s : σ) (n : Nat) :
    (∃ k, (p.runUpTo h k s).1 = none ∧ (p >>= f).runUpTo h n s = (none, (p.runUpTo h k s).2)) ∨
      ∃ k, (p >>= f).runUpTo h n s = (f (p.run h s).1).runUpTo h k (p.run h s).2 := by
  show (∃ k, _ ∧ (p.bind f).runUpTo h n s = _) ∨ ∃ k, (p.bind f).runUpTo h n s = _
  induction p generalizing s n with
  | done a => exact .inr ⟨n, rfl⟩
  | call c next ih =>
    cases n with
    | zero => exact .inl ⟨0, rfl, rfl⟩
    | succ n =>
      rcases ih (h c s).1 (h c s).2 n with ⟨k, hk⟩ | ⟨k, hk⟩
      · exact .inl ⟨k + 1, hk⟩
      · exact .inr ⟨k, hk⟩

/-- A run that is not cut short makes some number of calls. -/
theorem exists_runUpTo_eq_run (h : Handler σ) (p : Program α) (s : σ) :
    ∃ n, p.runUpTo h n s = (some (p.run h s).1, (p.run h s).2) := by
  induction p generalizing s with
  | done a => exact ⟨0, rfl⟩
  | call c next ih =>
    obtain ⟨n, hn⟩ := ih (h c s).1 (h c s).2
    exact ⟨n + 1, hn⟩

end Program

/-! ## Programs that may fail -/

namespace Attempt

open Program (Meets)

/-- `Q` after a success, `R` after a failure. -/
def Ends (Q : α → ω → Prop) (R : ε → ω → Prop) : Except ε α → ω → Prop
  | .ok a, w => Q a w
  | .error e, w => R e w

theorem ends_const {J : ω → Prop} (r : Except ε α) : Ends (fun _ => J) (fun _ => J) r = J := by
  cases r <;> rfl

/-- Whatever the answers, `I` holds before every call, `Q` after a success and `R` after a failure.
-/
def Meets (E : Rule ω) (I : ω → Prop) (Q : α → ω → Prop) (R : ε → ω → Prop) (p : Attempt ε α)
    (w : ω) : Prop :=
  Program.Meets E I (Ends Q R) p.run w

variable {Q : α → ω → Prop} {R : ε → ω → Prop}

theorem meets_pure {a : α} (h : Q a w) : Meets E I Q R (pure a : Attempt ε α) w := h

theorem meets_throw {e : ε} (h : R e w) : Meets E I Q R (throw e : Attempt ε α) w := h

theorem meets_bind {p : Attempt ε α} {f : α → Attempt ε β} {Q : β → ω → Prop}
    (h : Meets E I (fun a w => Meets E I Q R (f a) w) R p w) : Meets E I Q R (p >>= f) w := by
  refine Program.meets_bind (p := p.run) (Program.Meets.mono h (fun _ hw => hw) ?_)
  rintro (e | a) w hr
  · exact hr
  · exact hr

theorem Meets.mono {J : ω → Prop} {Q' : α → ω → Prop} {R' : ε → ω → Prop} {p : Attempt ε α}
    (h : Meets E I Q R p w) (hI : ∀ w, I w → J w) (hQ : ∀ a w, Q a w → Q' a w)
    (hR : ∀ e w, R e w → R' e w) : Meets E J Q' R' p w := by
  refine Program.Meets.mono h hI ?_
  rintro (e | a) w hr
  · exact hR e w hr
  · exact hQ a w hr

theorem meets_ofProgram {p : Program (Except ε α)} (h : p.Meets E I (Ends Q R) w) :
    Meets E I Q R (ofProgram p) w := h

theorem meets_lift {p : Program α} (h : p.Meets E I Q w) :
    Meets E I Q R (liftM p : Attempt ε α) w :=
  Program.meets_bind (h.mono (fun _ hw => hw) fun _ _ ha => ha)

theorem meets_mapFailure {f : ε → δ} {R : δ → ω → Prop} {p : Attempt ε α}
    (h : Meets E I Q (fun e w => R (f e) w) p w) : Meets E I Q R (p.mapFailure f) w := by
  refine Program.meets_bind (p := p.run) (Program.Meets.mono h (fun _ hw => hw) ?_)
  rintro (e | a) w hr
  · exact hr
  · exact hr

theorem meets_context {outer : String} {R : Report → ω → Prop} {p : Attempt Report α}
    (h : Meets E I Q (fun e w => R (e.context outer) w) p w) :
    Meets E I Q R (p.context outer) w := meets_mapFailure h

end Attempt

end Provision
