import Provision.Proofs.Runs

/-!
# The calls of a program

Which calls a program can make, whatever it is answered.

* `Program.trace` lists the calls of a run in order, `Program.exchanges` also their answers.
* `Program.AllCalls` says of a program that all its calls have a property, with one lemma for each
  way of putting programs together; `AllCalls.of_mem_trace` carries it over to runs.
* `Program.Records` is the rule by which calls and answers go on record; `Meets.exchanges` carries
  what a program meets under it over to runs on any host.
-/

namespace Provision

/-- A call and its answer. -/
abbrev Exchange := (c : Call) × c.Answer

variable {α β ε δ σ : Type} {P : Call → Prop}

namespace Program

/-- The calls that a run makes. -/
def trace (h : Handler σ) : Program α → σ → List Call
  | .done _, _ => []
  | .call c next, s => c :: (next (h c s).1).trace h (h c s).2

/-- Whatever the answers, every call has a property. -/
def AllCalls (P : Call → Prop) : Program α → Prop
  | .done _ => True
  | .call c next => P c ∧ ∀ answer, (next answer).AllCalls P

theorem allCalls_pure (a : α) : (pure a : Program α).AllCalls P := trivial

theorem allCalls_ask {c : Call} (h : P c) : (ask c).AllCalls P := ⟨h, fun _ => trivial⟩

theorem allCalls_bind {p : Program α} {f : α → Program β} (hp : p.AllCalls P)
    (hf : ∀ a, (f a).AllCalls P) : (p >>= f).AllCalls P := by
  show (p.bind f).AllCalls P
  induction p with
  | done a => exact hf a
  | call c next ih => exact ⟨hp.1, fun answer => ih answer (hp.2 answer)⟩

theorem AllCalls.mono {Q : Call → Prop} {p : Program α} (hp : p.AllCalls P) (h : ∀ c, P c → Q c) :
    p.AllCalls Q := by
  induction p with
  | done a => trivial
  | call c next ih => exact ⟨h c hp.1, fun answer => ih answer (hp.2 answer)⟩

/-- The calls of a run are among those that the program can make. -/
theorem AllCalls.of_mem_trace {p : Program α} (hp : p.AllCalls P) (h : Handler σ) (s : σ) :
    ∀ c ∈ p.trace h s, P c := by
  induction p generalizing s with
  | done a =>
    intro c hc
    cases hc
  | call c next ih =>
    intro d hd
    rcases List.mem_cons.1 hd with rfl | hd
    · exact hp.1
    · exact ih _ (hp.2 _) _ d hd

/-- What no call of a program changes is kept. -/
theorem AllCalls.meets_kept {ω : Type} {E : Rule ω} {J : ω → Prop} {p : Program α} {w : ω}
    (hp : p.AllCalls P) (hstep : ∀ c, P c → ∀ w a w', J w → E c w a w' → J w') (hJ : J w) :
    p.Meets E J (fun _ => J) w := by
  induction p generalizing w with
  | done a => exact hJ
  | call c next ih => exact ⟨hJ, fun a w' ha => ih a (hp.2 a) (hstep c hp.1 w a w' hJ ha)⟩

/-- What no call of a program changes about the state of a host is kept by its runs. -/
theorem AllCalls.run_kept {J : σ → Prop} {h : Handler σ} {p : Program α} {s : σ}
    (hp : p.AllCalls P) (hstep : ∀ c s, P c → J s → J (h c s).2) (hJ : J s) : J (p.run h s).2 := by
  induction p generalizing s with
  | done a => exact hJ
  | call c next ih => exact ih _ (hp.2 _) (hstep c s hp.1 hJ)

/-! ## Calls and their answers -/

/-- The calls that a run makes, with their answers. -/
def exchanges (h : Handler σ) : Program α → σ → List Exchange
  | .done _, _ => []
  | .call c next, s => ⟨c, (h c s).1⟩ :: (next (h c s).1).exchanges h (h c s).2

theorem trace_eq_map (h : Handler σ) (p : Program α) (s : σ) :
    p.trace h s = (p.exchanges h s).map Sigma.fst := by
  induction p generalizing s with
  | done a => rfl
  | call c next ih => exact congrArg (c :: ·) (ih (h c s).1 (h c s).2)

theorem AllCalls.of_mem_exchanges {p : Program α} (hp : p.AllCalls P) (h : Handler σ) (s : σ) :
    ∀ e ∈ p.exchanges h s, P e.1 := fun e he =>
  hp.of_mem_trace h s e.1 (by
    rw [trace_eq_map]
    exact List.mem_map_of_mem he)

theorem exchanges_bind (h : Handler σ) (p : Program α) (f : α → Program β) (s : σ) :
    (p >>= f).exchanges h s = p.exchanges h s ++ (f (p.run h s).1).exchanges h (p.run h s).2 := by
  show (p.bind f).exchanges h s = _
  induction p generalizing s with
  | done a => rfl
  | call c next ih => exact congrArg (_ :: ·) (ih (h c s).1 (h c s).2)

theorem trace_bind (h : Handler σ) (p : Program α) (f : α → Program β) (s : σ) :
    (p >>= f).trace h s = p.trace h s ++ (f (p.run h s).1).trace h (p.run h s).2 := by
  rw [trace_eq_map, exchanges_bind, List.map_append, trace_eq_map, trace_eq_map]

/-- Calls get any answer, and both go on record. -/
def Records : Rule (List Exchange) := fun c past a past' => past' = past ++ [⟨c, a⟩]

/-- What a program meets whatever it is answered holds of the record of its runs. -/
theorem Meets.exchanges {I : List Exchange → Prop} {Q : α → List Exchange → Prop} {p : Program α}
    {past : List Exchange} (hp : p.Meets Records I Q past) (h : Handler σ) (s : σ) :
    Q (p.run h s).1 (past ++ p.exchanges h s) := by
  induction p generalizing past s with
  | done a =>
    rw [Program.exchanges, List.append_nil]
    exact hp
  | call c next ih =>
    have hnext := ih (h c s).1 (hp.2 (h c s).1 _ rfl) (h c s).2
    rwa [List.append_assoc, List.singleton_append] at hnext

/-- What no call of a program changes about the record is kept. -/
theorem AllCalls.meets_records {J : List Exchange → Prop} {p : Program α} {past : List Exchange}
    (hp : p.AllCalls P) (hstep : ∀ past c a, P c → J past → J (past ++ [⟨c, a⟩])) (hJ : J past) :
    p.Meets Records J (fun _ => J) past := by
  refine hp.meets_kept ?_ hJ
  rintro c hc past a _ hpast rfl
  exact hstep past c a hc hpast

end Program

/-! ## Programs that may fail -/

namespace Attempt

/-- Whatever the answers, every call has a property. -/
def AllCalls (P : Call → Prop) (p : Attempt ε α) : Prop := Program.AllCalls P p.run

theorem allCalls_pure (a : α) : AllCalls P (pure a : Attempt ε α) := trivial

theorem allCalls_throw (e : ε) : AllCalls P (throw e : Attempt ε α) := trivial

theorem allCalls_bind {p : Attempt ε α} {f : α → Attempt ε β} (hp : AllCalls P p)
    (hf : ∀ a, AllCalls P (f a)) : AllCalls P (p >>= f) := by
  refine Program.allCalls_bind (p := p.run) hp ?_
  rintro (e | a)
  · exact Program.allCalls_pure _
  · exact hf a

theorem allCalls_ofProgram {p : Program (Except ε α)} (h : p.AllCalls P) :
    AllCalls P (ofProgram p) := h

theorem allCalls_lift {p : Program α} (h : p.AllCalls P) : AllCalls P (liftM p : Attempt ε α) :=
  Program.allCalls_bind h fun _ => Program.allCalls_pure _

theorem allCalls_mapFailure {f : ε → δ} {p : Attempt ε α} (h : AllCalls P p) :
    AllCalls P (p.mapFailure f) :=
  Program.allCalls_bind (p := p.run) h fun _ => Program.allCalls_pure _

theorem allCalls_context {outer : String} {p : Attempt Report α} (h : AllCalls P p) :
    AllCalls P (p.context outer) := allCalls_mapFailure h

/-- An attempt goes on after a success only. -/
theorem exchanges_bind (h : Handler σ) (p : Attempt ε α) (f : α → Attempt ε β) (s : σ) :
    (p >>= f).run.exchanges h s = p.run.exchanges h s ++
      match (p.run.run h s).1 with
      | .ok a => (f a).run.exchanges h (p.run.run h s).2
      | .error _ => [] := by
  rw [ExceptT.run_bind, Program.exchanges_bind]
  cases (p.run.run h s).1 <;> rfl

theorem AllCalls.mono {Q : Call → Prop} {p : Attempt ε α} (hp : AllCalls P p)
    (h : ∀ c, P c → Q c) : AllCalls Q p := Program.AllCalls.mono (p := p.run) hp h

theorem AllCalls.meets_records {J : List Exchange → Prop} {p : Attempt ε α} {past : List Exchange}
    (hp : AllCalls P p) (hstep : ∀ past c a, P c → J past → J (past ++ [⟨c, a⟩])) (hJ : J past) :
    Meets Program.Records J (fun _ => J) (fun _ => J) p past := by
  refine Program.Meets.mono (Program.AllCalls.meets_records hp hstep hJ) (fun _ h => h) ?_
  intro r past' h
  rwa [ends_const]

end Attempt

end Provision
