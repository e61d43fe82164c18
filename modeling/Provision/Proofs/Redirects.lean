import Provision.Proofs.Transfer

/-!
# Where redirects lead

A fetch asks for one address after another, as the network redirects it, and the first answer that
is no redirect to follow decides what it comes to. The network may answer as it likes, and
differently each time.

* `Fetch.Redirects` is one redirect that is followed, `Fetch.Route` a sequence of them on a host.
* `Fetch.verdict` is what the last answer decides.
* `Fetch.follow_eq` and `Fetch.react_end` say what one answer does; `Fetch.run_route` carries this
  through a route, and `Fetch.run_end` is the last request.
* `Fetch.bounded_redirects` is the result: every fetch follows a route of at most five redirects and
  comes to the verdict at its end.
-/

namespace Provision

/-! ## The requests of a run -/

/-- A request with its answer. -/
abbrev Asked := Url × Except NoResponse Response

/-- The request that is made, if it is one. -/
def Exchange.asked? : Exchange → Option Asked
  | ⟨.request url, answer⟩ => some (url, answer)
  | _ => none

namespace Program

variable {α σ : Type}

/-- The requests that a run makes, with their answers. -/
def requests (h : Handler σ) (p : Program α) (s : σ) : List Asked :=
  (p.exchanges h s).filterMap Exchange.asked?

end Program

/-- Does a call leave the network alone? -/
def Call.isOffline : Call → Prop
  | .request _ => False
  | _ => True

/-- A program that leaves the network alone makes no requests. -/
theorem Program.requests_eq_nil {α σ : Type} {p : Program α} (hp : p.AllCalls Call.isOffline)
    (h : Handler σ) (s : σ) : p.requests h s = [] := by
  induction p generalizing s with
  | done a => rfl
  | call c next ih =>
    have hc : Exchange.asked? ⟨c, (h c s).1⟩ = none := by
      cases c with
      | request url => exact hp.1.elim
      | _ => rfl
    rw [Program.requests, Program.exchanges, List.filterMap_cons_none hc]
    exact ih _ (hp.2 _) _

/-! ## The failures of a program -/

namespace Attempt

variable {α β ε δ : Type} {P : ε → Prop}

/-- However a program is answered, a failure of it has a property. -/
def Fails (P : ε → Prop) (p : Attempt ε α) : Prop :=
  ∀ ⦃σ : Type⦄ (h : Handler σ) (s : σ) (e : ε), (p.run.run h s).1 = .error e → P e

theorem fails_pure (a : α) : Fails P (pure a : Attempt ε α) := by
  rintro σ h s e he
  cases he

theorem fails_throw {e : ε} (he : P e) : Fails P (throw e : Attempt ε α) := by
  rintro σ h s e' he'
  cases he'
  exact he

theorem fails_bind {p : Attempt ε α} {f : α → Attempt ε β} (hp : Fails P p)
    (hf : ∀ a, Fails P (f a)) : Fails P (p >>= f) := by
  intro σ h s e he
  rw [ExceptT.run_bind, Program.run_bind] at he
  cases hr : (p.run.run h s).1 with
  | error e' =>
    rw [hr] at he
    cases he
    exact hp h s e hr
  | ok a =>
    rw [hr] at he
    exact hf a h _ e he

theorem fails_mapFailure {f : δ → ε} {p : Attempt δ α} (hf : ∀ e, P (f e)) :
    Fails P (p.mapFailure f) := by
  intro σ h s e he
  change ((p.run >>= fun r => pure (r.mapError f)).run h s).1 = _ at he
  rw [Program.run_bind, Program.run_pure] at he
  cases hr : (p.run.run h s).1 with
  | error e' =>
    rw [hr] at he
    cases he
    exact hf e'
  | ok a =>
    rw [hr] at he
    cases he

end Attempt

namespace Fetch

variable {σ : Type}

/-! ## Routes -/

/-- A response that redirects from one address to another: its status says so, and its location is
a text that is not empty and leads to the other. -/
structure Redirects (u : Url) (r : Response) (v : Url) : Prop where
  status : r.status = 301 ∨ r.status = 302
  location : ∃ value text, r.location = some value ∧ headerText? value = some text ∧ text ≠ "" ∧
    u.join? text = some v

theorem isRedirect_iff {status : Nat} : isRedirect status = true ↔ status = 301 ∨ status = 302 := by
  simp [isRedirect]

theorem target?_eq_some_iff {u v : Url} {r : Response} : target? u r = some v ↔
    ∃ value text, r.location = some value ∧ headerText? value = some text ∧ text ≠ "" ∧
      u.join? text = some v := by
  simp [target?, Option.bind_eq_some_iff, String.isEmpty_iff]

theorem redirects_iff {u v : Url} {r : Response} :
    Redirects u r v ↔ isRedirect r.status = true ∧ target? u r = some v := by
  rw [isRedirect_iff, target?_eq_some_iff]
  exact ⟨fun h => ⟨h.status, h.location⟩, fun h => ⟨h.1, h.2⟩⟩

/-- Redirects that are followed on a host, one after another, from an address and a state to
another, with the requests on the way. -/
inductive Route (h : Handler σ) : Url → σ → List Asked → Url → σ → Prop
  | start {u : Url} {s : σ} : Route h u s [] u s
  | hop {u v w : Url} {s t : σ} {r : Response} {asked : List Asked} :
    (h (.request u) s).1 = .ok r → Redirects u r v →
      Route h v (h (.request u) s).2 asked w t → Route h u s ((u, .ok r) :: asked) w t

/-- An answer that ends a route with so many redirects: it is no redirect that can be followed, or
there have been as many as are followed. -/
def Ends (hops : Nat) (u : Url) (answer : Except NoResponse Response) : Prop :=
  hops = maxRedirects ∨ ∀ r v, answer = .ok r → ¬ Redirects u r v

/-- What the answer at the end of a route with so many redirects decides. -/
def verdict (create : Attempt Report Writer) (hops : Nat) (u : Url) :
    Except NoResponse Response → Attempt FetchError Nat
  | .error e => throw (.transport (noResponse u e))
  | .ok r =>
    if r.status = 200 then save create r
    else if r.status = 301 ∨ r.status = 302 then
      if hops = maxRedirects then throw (.tooManyRedirects maxRedirects)
      else throw (.missingLocation u.text)
    else throw (.status u.text r.status)

section

variable (create : Attempt Report Writer)

/-- How a fetch goes on after an answer, with so many redirects left to follow. -/
def react (hops : Nat) (u : Url) : Except NoResponse Response → Attempt FetchError Nat
  | .error e => throw (.transport (noResponse u e))
  | .ok r =>
    if isRedirect r.status then
      match hops with
      | 0 => throw (.tooManyRedirects maxRedirects)
      | hops + 1 =>
        match target? u r with
        | some v => follow create hops v
        | none => throw (.missingLocation u.text)
    else if r.status = 200 then save create r
    else throw (.status u.text r.status)

theorem follow_eq (hops : Nat) (u : Url) :
    (follow create hops u).run =
      .call (.request u) fun answer => (react create hops u answer).run := by
  cases hops with
  | zero =>
    refine congrArg (Program.call (.request u)) (funext fun answer => ?_)
    cases answer <;> rfl
  | succ hops =>
    refine congrArg (Program.call (.request u)) (funext fun answer => ?_)
    cases answer <;> rfl

/-- While there are hops left a redirect is followed. -/
theorem react_redirect {hops : Nat} {u v : Url} {r : Response} (hr : Redirects u r v) :
    react create (hops + 1) u (.ok r) = follow create hops v := by
  obtain ⟨hstatus, htarget⟩ := redirects_iff.1 hr
  unfold react
  dsimp only
  rw [if_pos hstatus, htarget]

/-- Any other answer decides. -/
theorem react_end {hops left : Nat} {u : Url} {answer : Except NoResponse Response}
    (hleft : hops + left = maxRedirects) (hend : Ends hops u answer) :
    react create left u answer = verdict create hops u answer := by
  cases answer with
  | error e => rfl
  | ok r =>
    unfold react verdict
    dsimp only
    by_cases hr : isRedirect r.status = true
    · have hstatus := isRedirect_iff.1 hr
      have hnot : r.status ≠ 200 := by omega
      rw [if_pos hr, if_neg hnot, if_pos hstatus]
      cases left with
      | zero => exact (if_pos hleft).symm
      | succ left =>
        have hlt : hops ≠ maxRedirects := by omega
        have hnone : target? u r = none := by
          refine Option.eq_none_iff_forall_ne_some.2 fun v hv => ?_
          exact hend.resolve_left hlt r v rfl (redirects_iff.2 ⟨hr, hv⟩)
        rw [if_neg hlt, hnone]
    · rw [if_neg hr, if_neg (mt isRedirect_iff.2 hr)]

variable {h : Handler σ} {u v : Url} {s t : σ} {asked : List Asked}

/-- After a route a fetch goes on from its end, with as many hops less. -/
theorem run_route (hroute : Route h u s asked v t) (hops : Nat) :
    (follow create (hops + asked.length) u).run.run h s = (follow create hops v).run.run h t ∧
      (follow create (hops + asked.length) u).run.requests h s =
        asked ++ (follow create hops v).run.requests h t := by
  induction hroute with
  | start => exact ⟨rfl, rfl⟩
  | @hop u v w s t r asked hanswer hr _ ih =>
    rw [List.length_cons, ← Nat.add_assoc, follow_eq, Program.run, Program.requests,
      Program.exchanges]
    dsimp only
    rw [hanswer, react_redirect create hr]
    exact ⟨ih.1, congrArg (_ :: ·) ih.2⟩

/-- The last request of a fetch, and what comes of its answer. -/
theorem run_end {hops left : Nat} (hleft : hops + left = maxRedirects)
    (hend : Ends hops u (h (.request u) s).1) :
    (follow create left u).run.run h s =
        (verdict create hops u (h (.request u) s).1).run.run h (h (.request u) s).2 ∧
      (follow create left u).run.requests h s = (u, (h (.request u) s).1) ::
        (verdict create hops u (h (.request u) s).1).run.requests h (h (.request u) s).2 := by
  rw [follow_eq, Program.run, Program.requests, Program.exchanges]
  dsimp only
  rw [react_end create hleft hend]
  exact ⟨rfl, rfl⟩

/-- On every host there is a route that cannot be followed any further, or as far as wanted. -/
theorem exists_route (h : Handler σ) (n : Nat) (u : Url) (s : σ) : ∃ asked v t,
    Route h u s asked v t ∧ asked.length ≤ n ∧
      (asked.length = n ∨ ∀ r w, (h (.request v) t).1 = .ok r → ¬ Redirects v r w) := by
  induction n generalizing u s with
  | zero => exact ⟨[], u, s, .start, Nat.le_refl _, .inl rfl⟩
  | succ n ih =>
    by_cases hnext : ∃ r v, (h (.request u) s).1 = .ok r ∧ Redirects u r v
    · obtain ⟨r, v, hanswer, hr⟩ := hnext
      obtain ⟨asked, w, t, hroute, hle, hend⟩ := ih v (h (.request u) s).2
      refine ⟨(u, .ok r) :: asked, w, t, .hop hanswer hr hroute, Nat.succ_le_succ hle, ?_⟩
      exact hend.imp_left (congrArg Nat.succ)
    · exact ⟨[], u, s, .start, Nat.zero_le _,
        .inr fun r w hanswer hr => hnext ⟨r, w, hanswer, hr⟩⟩

/-- What the last answer decides makes no requests of its own. -/
theorem allCalls_verdict (hcreate : Attempt.AllCalls Call.isOffline create) (hops : Nat) (u : Url)
    (answer : Except NoResponse Response) :
    Attempt.AllCalls Call.isOffline (verdict create hops u answer) := by
  unfold verdict
  cases answer with
  | error e => exact Attempt.allCalls_throw _
  | ok r =>
    dsimp only
    split_ifs
    · exact allCalls_save hcreate (fun _ _ => trivial) (fun _ => trivial) r
    all_goals exact Attempt.allCalls_throw _

/-- Saving fails for the file or for the connection only. -/
theorem fails_save (r : Response) : Attempt.Fails
    (fun e => (∃ cause, e = FetchError.write cause) ∨ ∃ cause, e = .transport cause)
    (save create r) := by
  have hchunks (w : Writer) (chunks : List Bytes) : Attempt.Fails
      (fun e => (∃ cause, e = FetchError.write cause) ∨ ∃ cause, e = .transport cause)
      (writeChunks w chunks) := by
    induction chunks with
    | nil => exact Attempt.fails_pure _
    | cons chunk chunks ih =>
      unfold writeChunks
      exact Attempt.fails_bind (Attempt.fails_mapFailure fun _ => .inl ⟨_, rfl⟩)
        fun _ => Attempt.fails_bind ih fun _ => Attempt.fails_pure _
  unfold save
  refine Attempt.fails_bind (Attempt.fails_mapFailure fun _ => .inl ⟨_, rfl⟩) fun w =>
    Attempt.fails_bind (hchunks w _) fun size => ?_
  cases r.bodyEnd with
  | broken => exact Attempt.fails_throw (.inr ⟨_, rfl⟩)
  | stalled => exact Attempt.fails_throw (.inr ⟨_, rfl⟩)
  | complete =>
    exact Attempt.fails_bind (Attempt.fails_mapFailure fun _ => .inl ⟨_, rfl⟩)
      fun _ => Attempt.fails_pure _

/-- There are too many redirects exactly if the last answer is one more. -/
theorem verdict_tooMany {hops : Nat} {answer : Except NoResponse Response} :
    (∃ n, ((verdict create hops u answer).run.run h s).1 = .error (.tooManyRedirects n)) ↔
      hops = maxRedirects ∧ ∃ r, answer = .ok r ∧ (r.status = 301 ∨ r.status = 302) := by
  cases answer with
  | error e =>
    refine ⟨?_, ?_⟩
    · rintro ⟨n, hn⟩
      cases hn
    · rintro ⟨-, r, hr, -⟩
      cases hr
  | ok r =>
    unfold verdict
    dsimp only
    split_ifs with hok hredirect hmax
    · refine ⟨?_, ?_⟩
      · rintro ⟨n, hn⟩
        rcases fails_save create r h s _ hn with ⟨_, hcause⟩ | ⟨_, hcause⟩ <;> cases hcause
      · rintro ⟨-, r', hr, hstatus⟩
        cases hr
        omega
    · exact ⟨fun _ => ⟨hmax, r, rfl, hredirect⟩, fun _ => ⟨_, rfl⟩⟩
    · refine ⟨?_, fun hn => absurd hn.1 hmax⟩
      rintro ⟨n, hn⟩
      cases hn
    · refine ⟨?_, ?_⟩
      · rintro ⟨n, hn⟩
        cases hn
      · rintro ⟨-, r', hr, hstatus⟩
        cases hr
        exact absurd hstatus hredirect

theorem verdict_ne_invalidUrl {hops : Nat} {answer : Except NoResponse Response} (text : String) :
    ((verdict create hops u answer).run.run h s).1 ≠ .error (.invalidUrl text) := by
  intro hn
  cases answer with
  | error e => cases hn
  | ok r =>
    unfold verdict at hn
    dsimp only at hn
    split_ifs at hn
    · rcases fails_save create r h s _ hn with ⟨_, hcause⟩ | ⟨_, hcause⟩ <;> cases hcause
    all_goals cases hn

end

/-! ## The whole fetch -/

/-- What is promised of a fetch on a host. -/
structure Contract (h : Handler σ) (s : σ) (create : Attempt Report Writer) (url : String) :
    Prop where
  /-- There are at most six requests. -/
  few : ((run create url).run.requests h s).length ≤ maxRedirects + 1
  /-- An address that cannot be read is not asked for. -/
  unread : Url.parse? url = none →
    (run create url).run.run h s = (.error (.invalidUrl url), s) ∧
      (run create url).run.requests h s = []
  /-- From any other there is a route that ends. -/
  ends : ∀ first, Url.parse? url = some first → ∃ asked u t, Route h first s asked u t ∧
    asked.length ≤ maxRedirects ∧ Ends asked.length u (h (.request u) t).1
  /-- A route that ends is the one that is taken, and its end decides. -/
  decided : ∀ first asked u t, Url.parse? url = some first → Route h first s asked u t →
    asked.length ≤ maxRedirects → Ends asked.length u (h (.request u) t).1 →
      (run create url).run.requests h s = asked ++ [(u, (h (.request u) t).1)] ∧
      (run create url).run.run h s =
        (verdict create asked.length u (h (.request u) t).1).run.run h (h (.request u) t).2
  /-- Nothing else counts as an address that cannot be read. -/
  invalidUrl : (∃ text, ((run create url).run.run h s).1 = .error (.invalidUrl text)) ↔
    Url.parse? url = none
  /-- There are too many redirects exactly if five can be followed and a sixth comes after them,
  wherever it may lead. -/
  tooMany : (∃ n, ((run create url).run.run h s).1 = .error (.tooManyRedirects n)) ↔
    ∃ first asked u t r, Url.parse? url = some first ∧ Route h first s asked u t ∧
      asked.length = maxRedirects ∧ (h (.request u) t).1 = .ok r ∧ (r.status = 301 ∨ r.status = 302)

section

variable {h : Handler σ} {s t : σ} {create : Attempt Report Writer} {url : String} {first u : Url}
  {asked : List Asked}

theorem run_unread (hparse : Url.parse? url = none) :
    (run create url).run.run h s = (.error (.invalidUrl url), s) ∧
      (run create url).run.requests h s = [] := by
  rw [run, hparse]
  exact ⟨rfl, rfl⟩

/-- A fetch takes the route that ends, and the answer to its last request decides. -/
theorem run_decided (hcreate : Attempt.AllCalls Call.isOffline create)
    (hparse : Url.parse? url = some first) (hroute : Route h first s asked u t)
    (hle : asked.length ≤ maxRedirects) (hend : Ends asked.length u (h (.request u) t).1) :
    (run create url).run.requests h s = asked ++ [(u, (h (.request u) t).1)] ∧
      (run create url).run.run h s =
        (verdict create asked.length u (h (.request u) t).1).run.run h (h (.request u) t).2 := by
  obtain ⟨left, hleft⟩ := Nat.exists_eq_add_of_le hle
  obtain ⟨hrun, hasked⟩ := run_route create hroute left
  obtain ⟨hlast, haskedLast⟩ := run_end create hleft.symm hend
  rw [run, hparse, hleft, Nat.add_comm]
  refine ⟨?_, hrun.trans hlast⟩
  rw [hasked, haskedLast, Program.requests_eq_nil (allCalls_verdict create hcreate _ _ _)]

end

/-- Every fetch is bounded in its redirects, whatever the network answers, as long as creating the
file makes no requests. -/
theorem bounded_redirects {σ : Type} (h : Handler σ) (s : σ) (create : Attempt Report Writer)
    (hcreate : Attempt.AllCalls Call.isOffline create) (url : String) :
    Contract h s create url where
  few := by
    cases hparse : Url.parse? url with
    | none =>
      rw [(run_unread hparse).2]
      exact Nat.zero_le _
    | some first =>
      obtain ⟨asked, u, t, hroute, hle, hend⟩ := exists_route h maxRedirects first s
      rw [(run_decided hcreate hparse hroute hle hend).1, List.length_append]
      exact Nat.succ_le_succ hle
  unread := run_unread
  ends first _ := exists_route h maxRedirects first s
  decided _ _ _ _ hparse hroute hle hend := run_decided hcreate hparse hroute hle hend
  invalidUrl := by
    refine ⟨?_, fun hparse => ⟨url, by rw [(run_unread hparse).1]⟩⟩
    rintro ⟨text, htext⟩
    cases hparse : Url.parse? url with
    | none => rfl
    | some first =>
      obtain ⟨asked, u, t, hroute, hle, hend⟩ := exists_route h maxRedirects first s
      rw [(run_decided hcreate hparse hroute hle hend).2] at htext
      exact absurd htext (verdict_ne_invalidUrl create text)
  tooMany := by
    constructor
    · rintro ⟨n, hn⟩
      cases hparse : Url.parse? url with
      | none =>
        rw [(run_unread hparse).1] at hn
        cases hn
      | some first =>
        obtain ⟨asked, u, t, hroute, hle, hend⟩ := exists_route h maxRedirects first s
        rw [(run_decided hcreate hparse hroute hle hend).2] at hn
        obtain ⟨hlength, r, hanswer, hstatus⟩ := (verdict_tooMany create).1 ⟨n, hn⟩
        exact ⟨first, asked, u, t, r, rfl, hroute, hlength, hanswer, hstatus⟩
    · rintro ⟨first, asked, u, t, r, hparse, hroute, hlength, hanswer, hstatus⟩
      rw [(run_decided hcreate hparse hroute (Nat.le_of_eq hlength) (.inl hlength)).2]
      exact (verdict_tooMany create).2 ⟨hlength, r, hanswer, hstatus⟩

namespace Sample

/-- A network that answers every request by a redirect, but the sixth with a body. -/
def serve (_ : Url) : Nat → Except NoResponse Response × Nat
  | 5 => (.ok ⟨200, none, [[1, 2], [3]], .complete⟩, 6)
  | n => (.ok ⟨302, some (Bytes.ofText "/next"), [], .complete⟩, n + 1)

end Sample

/-- Five redirects and then a body: the body is fetched. -/
theorem bounded_redirects_sample :
    ((run (Download.createAt (.ofText "/d")) "http://[::1]/a").run.run
        (Memory.handle Sample.serve) ({}, 0)).1 = .ok 3 ∧
      Contract (Memory.handle Sample.serve) ({}, 0) (Download.createAt (.ofText "/d"))
        "http://[::1]/a" :=
  ⟨by decide +kernel, bounded_redirects _ _ _
    (Attempt.allCalls_context (Attempt.allCalls_ofProgram (Program.allCalls_ask trivial))) _⟩

end Fetch

end Provision
