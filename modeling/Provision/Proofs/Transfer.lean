import Provision.Proofs.Calls
import Provision.Proofs.Unpacking

/-!
# What a download promises

A download that succeeds has put the whole body into its destination and changed nothing else; one
that fails has left nothing there, neither a part of the body nor an older file. The destination is
created at most once, and not before there is something to write.

* `Download.CreatesOnce` is about the record of a run: at most one file is created, after a response
  with status 200.
* `createsOnce_run`: so it is for a download, whatever it is answered.
* `download_contract` puts this together with what a download leaves on a host.
-/

namespace Provision

/-- Does a call create a file? -/
def Call.creates : Call → Bool
  | .create _ => true
  | _ => false

/-- Was a file to be created? -/
def Exchange.creates (e : Exchange) : Bool := e.1.creates

/-- Has a response with status 200 arrived? -/
def Exchange.isSuccess : Exchange → Bool
  | ⟨.request _, .ok response⟩ => response.status = 200
  | _ => false

/-! ## The calls of a fetch and of a guard -/

section Calls

variable {P : Call → Prop}

/-- Writing chunks makes only the calls that write them. -/
theorem Fetch.allCalls_writeChunks (hwrite : ∀ file chunk, P (.write file chunk)) (file : Writer)
    (chunks : List Bytes) : Attempt.AllCalls P (writeChunks file chunks) := by
  induction chunks with
  | nil => exact Attempt.allCalls_pure _
  | cons chunk chunks ih =>
    unfold writeChunks
    exact Attempt.allCalls_bind (Attempt.allCalls_mapFailure (Program.allCalls_ask (hwrite _ _)))
      fun _ => Attempt.allCalls_bind ih fun _ => Attempt.allCalls_pure _

/-- Saving a body creates a file, writes chunks and flushes. -/
theorem Fetch.allCalls_save {create : Attempt Report Writer} (hcreate : Attempt.AllCalls P create)
    (hwrite : ∀ file chunk, P (.write file chunk)) (hflush : ∀ file, P (.flush file))
    (response : Response) : Attempt.AllCalls P (save create response) := by
  unfold save
  refine Attempt.allCalls_bind (Attempt.allCalls_mapFailure hcreate) fun file =>
    Attempt.allCalls_bind (allCalls_writeChunks hwrite file _) fun size => ?_
  cases response.bodyEnd with
  | broken => exact Attempt.allCalls_throw _
  | stalled => exact Attempt.allCalls_throw _
  | complete =>
    exact Attempt.allCalls_bind (Attempt.allCalls_mapFailure (Program.allCalls_ask (hflush file)))
      fun _ => Attempt.allCalls_pure _

/-- A guard looks at its path and removes what is there. -/
theorem Guard.allCalls_remove {path : Path} (hlook : P (.pathExists path)) (hkind : P (.isDir path))
    (htree : P (.removeTree path)) (hfile : P (.removeFile path)) :
    (remove path).AllCalls P := by
  unfold remove
  refine Program.allCalls_bind (Program.allCalls_ask hlook) fun found => ?_
  cases found with
  | false => exact Program.allCalls_pure _
  | true =>
    refine Program.allCalls_bind (Program.allCalls_ask hkind) fun isDir => ?_
    cases isDir with
    | false => exact Program.allCalls_bind (Program.allCalls_ask hfile) fun _ => trivial
    | true => exact Program.allCalls_bind (Program.allCalls_ask htree) fun _ => trivial

end Calls

namespace Download

open Memory

/-! ## When the destination is created -/

/-- At most one file is created, and only after a response with status 200. -/
structure CreatesOnce (past : List Exchange) : Prop where
  once : past.countP Exchange.creates ≤ 1
  late : ∀ before e after, past = before ++ e :: after → e.creates = true →
    ∃ r ∈ before, r.isSuccess = true

/-- No file has been created. -/
def CreatesNone (past : List Exchange) : Prop := past.countP Exchange.creates = 0

section Record

variable {past : List Exchange} {c : Call}

theorem countP_creates_snoc (hc : c.creates = false) (a : c.Answer) :
    List.countP Exchange.creates (past ++ [⟨c, a⟩]) = past.countP Exchange.creates := by
  have hlast : Exchange.creates ⟨c, a⟩ = false := hc
  rw [List.countP_append, List.countP_singleton, hlast]
  rfl

theorem CreatesNone.snoc (h : CreatesNone past) (hc : c.creates = false) (a : c.Answer) :
    CreatesNone (past ++ [⟨c, a⟩]) := (countP_creates_snoc hc a).trans h

theorem CreatesNone.createsOnce (h : CreatesNone past) : CreatesOnce past where
  once := by
    rw [h]
    exact Nat.zero_le 1
  late before e after heq he := by
    have hnot := List.countP_eq_zero.1 h e (by rw [heq]; simp)
    exact absurd he hnot

/-- A place in a longer record is its end or a place in the record before. -/
theorem snoc_eq_append_cons {before after : List Exchange} {e x : Exchange}
    (h : past ++ [x] = before ++ e :: after) :
    (before = past ∧ e = x) ∨ ∃ after', past = before ++ e :: after' := by
  rcases List.eq_nil_or_concat after with rfl | ⟨after', y, rfl⟩
  · obtain ⟨hbefore, hlast⟩ := List.append_inj' h rfl
    exact .inl ⟨hbefore.symm, (List.singleton_inj.1 hlast).symm⟩
  · rw [List.concat_eq_append, ← List.cons_append, ← List.append_assoc] at h
    exact .inr ⟨after', (List.append_inj' h rfl).1⟩

theorem CreatesOnce.snoc (h : CreatesOnce past) (hc : c.creates = false) (a : c.Answer) :
    CreatesOnce (past ++ [⟨c, a⟩]) where
  once := by
    rw [countP_creates_snoc hc]
    exact h.once
  late before e after heq he := by
    rcases snoc_eq_append_cons heq with ⟨-, rfl⟩ | ⟨after', hpast⟩
    · rw [Exchange.creates, hc] at he
      cases he
    · exact h.late before e after' hpast he

/-- The destination is created once there has been a success. -/
theorem CreatesNone.create (h : CreatesNone past) (hsuccess : ∃ r ∈ past, r.isSuccess = true)
    (a : c.Answer) : CreatesOnce (past ++ [⟨c, a⟩]) where
  once := by
    rw [List.countP_append, h, Nat.zero_add]
    exact List.countP_le_length
  late before e after heq he := by
    rcases snoc_eq_append_cons heq with ⟨rfl, -⟩ | ⟨after', hpast⟩
    · exact hsuccess
    · exact h.createsOnce.late before e after' hpast he

end Record

section Calls

variable {α ε : Type} {past : List Exchange} {path : Path}

/-- After what is on record, a program creates at most one file in all, and in time. -/
def StaysOnce (p : Attempt ε α) (past : List Exchange) : Prop :=
  Attempt.Meets Program.Records CreatesOnce (fun _ => CreatesOnce) (fun _ => CreatesOnce) p past

/-- The rest of a program creates nothing. -/
theorem CreatesOnce.keep {p : Program α} (h : CreatesOnce past)
    (hp : p.AllCalls fun c => c.creates = false) :
    p.Meets Program.Records CreatesOnce (fun _ => CreatesOnce) past :=
  hp.meets_records (fun _ _ a hc hpast => hpast.snoc hc a) h

theorem CreatesOnce.stays {p : Attempt ε α} (h : CreatesOnce past)
    (hp : p.AllCalls fun c => c.creates = false) : StaysOnce p past :=
  hp.meets_records (fun _ _ a hc hpast => hpast.snoc hc a) h

/-- Writing a body that has arrived creates the destination and no other file. -/
theorem staysOnce_save (response : Response) (h : CreatesNone past)
    (hsuccess : ∃ r ∈ past, r.isSuccess = true) :
    StaysOnce (Fetch.save (createAt path) response) past := by
  unfold Fetch.save createAt
  refine Attempt.meets_bind (Attempt.meets_mapFailure (Attempt.meets_context
    (Attempt.meets_ofProgram (Program.meets_ask h.createsOnce ?_))))
  rintro (e | f) past₁ rfl
  · exact h.create hsuccess _
  · refine (h.create hsuccess _).stays
      (Attempt.allCalls_bind (Fetch.allCalls_writeChunks (fun _ _ => rfl) f response.chunks)
        fun size => ?_)
    cases response.bodyEnd with
    | broken => exact Attempt.allCalls_throw _
    | stalled => exact Attempt.allCalls_throw _
    | complete =>
      exact Attempt.allCalls_bind (Attempt.allCalls_mapFailure (Program.allCalls_ask rfl))
        fun _ => Attempt.allCalls_pure _

/-- Fetching begins with a request, after which there is still no file. -/
theorem staysOnce_answer (url : Url) {next : Response → Attempt FetchError α}
    {f : NoResponse → FetchError} (h : CreatesNone past)
    (hnext : ∀ response, StaysOnce (next response) (past ++ [⟨.request url, .ok response⟩])) :
    StaysOnce ((Attempt.ofProgram (.ask (.request url))).mapFailure f >>= next) past := by
  refine Attempt.meets_bind (Attempt.meets_mapFailure
    (Attempt.meets_ofProgram (Program.meets_ask h.createsOnce ?_)))
  rintro (e | response) past₁ rfl
  · exact (h.snoc rfl _).createsOnce
  · exact hnext response

/-- A response that is no redirect is saved or refused. -/
theorem staysOnce_final (url : Url) (response : Response) (h : CreatesNone past) :
    StaysOnce (if response.status = 200 then Fetch.save (createAt path) response
        else throw (.status url.text response.status))
      (past ++ [⟨.request url, .ok response⟩]) := by
  have hnone := h.snoc (c := .request url) rfl (.ok response)
  split_ifs with hs
  · refine staysOnce_save response hnone
      ⟨⟨.request url, .ok response⟩, List.mem_append_right _ (List.mem_singleton_self _), ?_⟩
    exact decide_eq_true hs
  · exact Attempt.meets_throw hnone.createsOnce

/-- While redirects are followed nothing is created. -/
theorem staysOnce_follow (hops : Nat) (url : Url) (h : CreatesNone past) :
    StaysOnce (Fetch.follow (createAt path) hops url) past := by
  induction hops generalizing url past with
  | zero =>
    unfold Fetch.follow
    refine staysOnce_answer url h fun response => ?_
    by_cases hr : Fetch.isRedirect response.status = true
    · rw [if_pos hr]
      exact Attempt.meets_throw (h.snoc rfl _).createsOnce
    · rw [if_neg hr]
      exact staysOnce_final url response h
  | succ hops ih =>
    unfold Fetch.follow
    refine staysOnce_answer url h fun response => ?_
    by_cases hr : Fetch.isRedirect response.status = true
    · rw [if_pos hr]
      dsimp only
      cases Fetch.target? url response with
      | none => exact Attempt.meets_throw (h.snoc rfl _).createsOnce
      | some next => exact ih next (h.snoc rfl _)
    · rw [if_neg hr]
      exact staysOnce_final url response h

theorem staysOnce_fetch (url : String) (h : CreatesNone past) :
    StaysOnce (Fetch.run (createAt path) url) past := by
  unfold Fetch.run
  cases Url.parse? url with
  | none => exact Attempt.meets_throw h.createsOnce
  | some parsed => exact staysOnce_follow _ parsed h

/-- Before and after the transfer there are only messages and the guard. -/
theorem staysOnce_run (url : String) (path : Path) : StaysOnce (run url path) [] := by
  have hnone : CreatesNone [] := rfl
  have hlog : ∀ message, (logInfo message).AllCalls fun c => c.creates = false :=
    fun _ => Program.allCalls_ask rfl
  unfold run
  refine Attempt.meets_bind (Attempt.meets_lift (Program.meets_ask hnone.createsOnce ?_))
  rintro a past₁ rfl
  refine Attempt.meets_bind (meets_onFailure (Attempt.Meets.mono
    (staysOnce_fetch url (hnone.snoc rfl a)) (fun _ h => h) ?_ ?_))
  · intro size past₂ h
    refine Attempt.meets_bind (Attempt.meets_lift (Program.Meets.mono (h.keep (hlog _))
      (fun _ h => h) fun _ _ h => ?_))
    exact Attempt.meets_pure h
  · exact fun _ past₂ h => h.keep (Guard.allCalls_remove rfl rfl rfl rfl)

/-- On any host a download creates at most one file, and only once it has something to write. -/
theorem createsOnce_run {σ : Type} (h : Handler σ) (s : σ) (url : String) (path : Path) :
    CreatesOnce ((run url path).run.exchanges h s) := by
  have hend := Program.Meets.exchanges (staysOnce_run url path) h s
  rwa [Attempt.ends_const, List.nil_append] at hend

end Calls

/-! ## What is left -/

/-- What a download promises of its result and of the host and the network after it. -/
structure Contract {η : Type} (serve : Url → η → Except NoResponse Response × η) (url : String)
    (dest : Place) (s : Memory × η) (r : Except FetchError Nat × (Memory × η)) : Prop where
  /-- The destination holds the body that the network leads to, and nothing else has changed. -/
  delivered : ∀ size, r.1 = .ok size → ∃ body mode,
    Fetch.Serves serve url s.2 body r.2.2 ∧ node? r.2.1.tree dest = some (.file body mode) ∧
      size = body.length ∧ ∀ q, q ≠ dest → node? r.2.1.tree q = node? s.1.tree q
  /-- Nothing else has changed, and nothing is left unless removals are made to fail. -/
  failed : ∀ e, r.1 = .error e →
    (∀ q, ¬ dest <+: q → node? r.2.1.tree q = node? s.1.tree q) ∧
      ((∀ f ∈ s.1.faults, f.point ≠ .removeFile ∧ f.point ≠ .removeTree) →
        node? r.2.1.tree dest = none)

/-- A download to any place but the root, whatever the files are, the network answers and fails. It
keeps its contract, and it creates its destination at most once and only after a response with
status 200 has arrived. -/
theorem download_contract {η : Type} (serve : Url → η → Except NoResponse Response × η)
    (m : Memory) (n : η) (url : String) (path : Path) (hs : Sound m.tree)
    (hroot : m.place path ≠ []) :
    Contract serve url (m.place path) (m, n) ((run url path).run.run (handle serve) (m, n)) ∧
      CreatesOnce ((run url path).run.exchanges (handle serve) (m, n)) := by
  refine ⟨?_, createsOnce_run (handle serve) (m, n) url path⟩
  obtain ⟨w', hshow, hend⟩ := (keeps_ofHost serve m).run (shows_ofHost serve n hs)
    (meets_download (a := m.place path) url rfl hroot rfl)
  constructor
  · intro size hsize
    rw [hsize] at hend
    obtain ⟨hfetching, hfree, body, mode, hserves, hfile, hlength⟩ := hend
    rw [hshow.tree, hshow.net]
    refine ⟨body, mode, hserves, hfile, hlength, fun q hq => ?_⟩
    exact hfetching.eq_of_ne hs w'.sound hfree hq
  · intro e he
    rw [he] at hend
    obtain ⟨hfetching, -, hgone⟩ := hend
    rw [hshow.tree]
    refine ⟨hfetching.only, fun hremove => ?_⟩
    rcases hgone with ⟨f, hf, hpoint⟩ | ⟨f, hf, hpoint⟩ | hgone
    · exact absurd hpoint (hremove f hf).1
    · exact absurd hpoint (hremove f hf).2
    · exact hgone

namespace Sample

/-- A network that redirects the first request and answers the next in two pieces. -/
def serve (_ : Url) : Nat → Except NoResponse Response × Nat
  | 0 => (.ok ⟨302, some (Bytes.ofText "/b"), [], .complete⟩, 1)
  | n + 1 => (.ok ⟨200, none, [[1, 2], [3]], .complete⟩, n + 2)

/-- A host with an older and longer file at the destination. -/
def host : Memory where
  tree := ⟨[([Bytes.ofText "d"], .file [9, 9, 9, 9] 0o600)]⟩

end Sample

/-- The pieces of the body take the place of the older file. -/
theorem download_contract_sample :
    ((run "http://[::1]/a" (.ofText "/d")).run.run (handle Sample.serve) (Sample.host, 0)).1 =
        .ok 3 ∧
      Contract Sample.serve "http://[::1]/a" (Sample.host.place (.ofText "/d")) (Sample.host, 0)
        ((run "http://[::1]/a" (.ofText "/d")).run.run (handle Sample.serve) (Sample.host, 0)) ∧
      CreatesOnce ((run "http://[::1]/a" (.ofText "/d")).run.exchanges (handle Sample.serve)
        (Sample.host, 0)) :=
  ⟨by decide +kernel, download_contract Sample.serve Sample.host 0 "http://[::1]/a" (.ofText "/d")
    (by decide +kernel) (by decide +kernel)⟩

end Download

end Provision
