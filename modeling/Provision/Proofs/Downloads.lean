import Provision.Install
import Provision.Proofs.Steps

/-!
# What a download does

A download changes nothing but its destination. When it succeeds, the destination is a file with
the body that the network led to; when it fails, nothing is left there unless removals fail too.
Without injected failures it fails only if the network leads to none or no file can be created
there.

* `Fetch.Leads` says which body the network leads to from an address, and over how many redirects.
* `meets_remove` says what a guard leaves.
* `meets_download`: what a download meets, whatever fails.
-/

namespace Provision

/-! ## Where the network leads -/

/-- From an address the network leads over at most so many redirects to a complete body. -/
inductive Fetch.Leads {η : Type} (serve : Url → η → Except NoResponse Response × η) :
    Nat → Url → η → Bytes → η → Prop
  | body {hops : Nat} {url : Url} {n n' : η} {response : Response}
      (answer : serve url n = (.ok response, n')) (status : response.status = 200)
      (complete : response.bodyEnd = .complete) :
      Leads serve hops url n response.chunks.flatten n'
  | hop {hops : Nat} {url next : Url} {n n' n'' : η} {response : Response} {body : Bytes}
      (answer : serve url n = (.ok response, n')) (redirect : Fetch.isRedirect response.status)
      (target : Fetch.target? url response = some next) (rest : Leads serve hops next n' body n'') :
      Leads serve (hops + 1) url n body n''

/-- The network leads to one body only. -/
theorem Fetch.Leads.unique {η : Type} {serve : Url → η → Except NoResponse Response × η}
    {hops : Nat} {url : Url} {n n₁ n₂ : η} {body₁ body₂ : Bytes}
    (h₁ : Fetch.Leads serve hops url n body₁ n₁) (h₂ : Fetch.Leads serve hops url n body₂ n₂) :
    body₁ = body₂ ∧ n₁ = n₂ := by
  induction h₁ generalizing body₂ n₂ with
  | body answer status complete =>
    cases h₂ with
    | body answer' =>
      rw [answer] at answer'
      cases answer'
      exact ⟨rfl, rfl⟩
    | hop answer' redirect =>
      rw [answer] at answer'
      cases answer'
      rw [status] at redirect
      cases redirect
  | hop answer redirect target rest ih =>
    cases h₂ with
    | body answer' status =>
      rw [answer] at answer'
      cases answer'
      rw [status] at redirect
      cases redirect
    | hop answer' redirect' target' rest' =>
      rw [answer] at answer'
      cases answer'
      rw [target] at target'
      cases target'
      exact ih rest'

/-- A text is the address of a body, reached over as many redirects as are followed at most. -/
def Fetch.Serves {η : Type} (serve : Url → η → Except NoResponse Response × η) (url : String)
    (n : η) (body : Bytes) (n' : η) : Prop :=
  ∃ parsed, Url.parse? url = some parsed ∧ Fetch.Leads serve Fetch.maxRedirects parsed n body n'

theorem Fetch.Serves.unique {η : Type} {serve : Url → η → Except NoResponse Response × η}
    {url : String} {n n₁ n₂ : η} {body₁ body₂ : Bytes}
    (h₁ : Fetch.Serves serve url n body₁ n₁) (h₂ : Fetch.Serves serve url n body₂ n₂) :
    body₁ = body₂ ∧ n₁ = n₂ := by
  obtain ⟨parsed₁, hparse₁, hleads₁⟩ := h₁
  obtain ⟨parsed₂, hparse₂, hleads₂⟩ := h₂
  rw [hparse₁] at hparse₂
  cases hparse₂
  exact hleads₁.unique hleads₂

namespace Memory

open Fetch (Leads Serves)

variable {α ε η : Type} {S : Setting η} {I : World η → Prop} {w : World η} {path : Path}

/-- No failures are injected. -/
def Setting.Calm (S : Setting η) : Prop := ∀ point, ¬ S.mayFail point

theorem Setting.calm_ofHost {serve : Url → η → Except NoResponse Response × η} {m : Memory}
    (h : m.faults = []) : (Setting.ofHost serve m).Calm := by
  rintro point ⟨f, hf, -⟩
  rw [h] at hf
  cases hf

/-- Without injected failures a call fails only when the operation does. -/
theorem Setting.Refuses.error {point : Point} {result : Except Report α}
    (h : S.Refuses point result) (hc : S.Calm) : ∃ e, result = .error e :=
  h.resolve_left (hc point)

/-! ## Guards -/

theorem meets_remove {Q : Unit → World η → Prop} (hp : S.place path ≠ []) (hI : I w)
    (hgone : ∀ w' : World η,
      (∀ q, node? w'.tree q = if S.place path <+: q then none else node? w.tree q) →
        w'.net = w.net → Q () w')
    (hkept : S.mayFail .removeFile ∨ S.mayFail .removeTree → Q () w) :
    (Guard.remove path).Meets S.Step I Q w := by
  unfold Guard.remove
  refine Program.meets_bind (meets_pathExists hI ?_)
  cases hn : node? w.tree (S.place path) with
  | none =>
    -- nothing is there, so nothing is below it either
    refine Program.meets_pure (hgone w (fun q => ?_) rfl)
    split_ifs with hq
    · obtain ⟨rest, rfl⟩ := hq
      by_cases hr : rest = []
      · rw [hr, List.append_nil, hn]
      · exact w.sound.none_below hr (by simp [hn])
    · rfl
  | some v =>
    have hremoved : ∀ w' : World η, w'.tree = w.tree.removeAt (S.place path) → w'.net = w.net →
        Q () w' := by
      intro w' ht hnet
      refine hgone w' (fun q => ?_) hnet
      rw [ht, node?_removeAt _ hp]
    refine Program.meets_bind (meets_isDir hI ?_)
    cases v with
    | dir =>
      rw [hasDir_iff.2 hn]
      refine Program.meets_call hI ?_
      rintro r w' (⟨⟨hf, -⟩, hw⟩ | ⟨e, he, -, -⟩ | ⟨t, ht, -, hw⟩)
      · rw [World.eq_of_view hw]
        exact Program.meets_pure (hkept (.inr hf))
      · exact absurd hn (dropDir_error he)
      · obtain ⟨htree, hnet⟩ := View.ext_iff.1 hw
        exact Program.meets_pure (hremoved w' (htree.trans (dropDir_ok ht).2) hnet)
    | file bytes mode =>
      rw [show hasDir w.tree (S.place path) = false by simp [hasDir, hn]]
      refine Program.meets_call hI ?_
      rintro r w' (⟨⟨hf, -⟩, hw⟩ | ⟨e, he, -, -⟩ | ⟨t, ht, -, hw⟩)
      · rw [World.eq_of_view hw]
        exact Program.meets_pure (hkept (.inl hf))
      · exact absurd ⟨bytes, mode, hn⟩ (dropFile_error he)
      · obtain ⟨htree, hnet⟩ := View.ext_iff.1 hw
        exact Program.meets_pure (hremoved w' (htree.trans (dropFile_ok ht).2) hnet)

theorem meets_onFailure {ω : Type} {E : Rule ω} {I : ω → Prop} {w : ω} {Q : α → ω → Prop}
    {R : ε → ω → Prop} {work : Attempt ε α}
    (h : Attempt.Meets E I Q (fun e w => (Guard.remove path).Meets E I (fun _ w => R e w) w)
      work w) :
    Attempt.Meets E I Q R (Guard.onFailure path work) w := by
  unfold Guard.onFailure
  refine Attempt.meets_ofProgram (Program.meets_bind (Program.Meets.mono h (fun _ hw => hw) ?_))
  rintro (e | a) w' hw
  · exact Program.meets_bind hw
  · exact Program.meets_pure hw

theorem meets_always {Q : α → World η → Prop} {R : ε → World η → Prop} {work : Attempt ε α}
    (h : Attempt.Meets S.Step I
      (fun a w => (Guard.remove path).Meets S.Step I (fun _ w => Q a w) w)
      (fun e w => (Guard.remove path).Meets S.Step I (fun _ w => R e w) w) work w) :
    Attempt.Meets S.Step I Q R (Guard.always path work) w := by
  unfold Guard.always
  refine Attempt.meets_ofProgram (Program.meets_andThen (Program.Meets.mono h (fun _ hw => hw) ?_))
  rintro (e | a) w' hw
  · exact hw
  · exact hw

/-! ## Fetching -/

/-- A tree during a download to a place: nothing else has changed, and no directory has come to be
there. -/
structure Fetching (a : Place) (t t' : Tree Node) : Prop where
  only : OnlyIn a t t'
  noDir : node? t' a = some .dir → node? t a = some .dir

theorem Fetching.refl (a : Place) (t : Tree Node) : Fetching a t t := ⟨.refl a t, fun h => h⟩

theorem Fetching.of_file {a : Place} {t t' : Tree Node} {bytes : Bytes} {mode : Nat}
    (h : OnlyIn a t t') (hn : node? t' a = some (.file bytes mode)) : Fetching a t t' :=
  ⟨h, fun hd => by rw [hn] at hd; cases hd⟩

theorem Fetching.append {a : Place} {t t' : Tree Node} {bytes : Bytes} {mode : Nat}
    (h : Fetching a t t') (hn : node? t' a = some (.file bytes mode)) (chunk : Bytes) :
    Fetching a t (append t' a chunk) :=
  .of_file (h.only.trans (onlyIn_append _ chunk (List.prefix_refl a))) (node?_append_self hn chunk)

theorem Fetching.makeFile {a : Place} {t t' t'' : Tree Node} (h : Fetching a t t')
    (hm : makeFile t' a = .ok t'') : Fetching a t t'' := by
  obtain ⟨mode, hn⟩ := node?_makeFile_self hm
  exact .of_file (h.only.trans (onlyIn_makeFile hm (List.prefix_refl a))) hn

theorem Fetching.removed {a : Place} {t t' t'' : Tree Node} (h : Fetching a t t')
    (hr : ∀ q, node? t'' q = if a <+: q then none else node? t' q) : Fetching a t t'' where
  only q hq := by rw [hr, if_neg hq, h.only q hq]
  noDir hd := by
    rw [hr, if_pos (List.prefix_refl a)] at hd
    cases hd

section Fetch

variable {a : Place} {t : Tree Node}

/-- Writing chunks appends them in turn and counts their bytes; it fails only at the writer's limit.
-/
theorem meets_writeChunks {f : Writer} (hf : S.place f.path = a) (chunks : List Bytes)
    {bytes : Bytes} {mode : Nat} (h : Fetching a t w.tree)
    (hn : node? w.tree a = some (.file bytes mode)) :
    Attempt.Meets S.Step (fun w => Fetching a t w.tree)
      (fun size w' => Fetching a t w'.tree ∧ w'.net = w.net ∧ size = chunks.flatten.length ∧
        node? w'.tree a = some (.file (bytes ++ chunks.flatten) mode))
      (fun _ w' => Fetching a t w'.tree ∧ f.limit.isSome) (Fetch.writeChunks f chunks) w := by
  induction chunks generalizing w bytes with
  | nil =>
    refine Attempt.meets_pure ⟨h, rfl, rfl, ?_⟩
    rw [List.flatten_nil, List.append_nil, hn]
  | cons chunk chunks ih =>
    unfold Fetch.writeChunks
    refine Attempt.meets_bind (Attempt.meets_mapFailure (meets_write h ?_ ?_))
    · intro w' htree hnet
      rw [hf] at htree
      have h' : Fetching a t w'.tree := by
        rw [htree]
        exact h.append hn chunk
      have hn' : node? w'.tree a = some (.file (bytes ++ chunk) mode) := by
        rw [htree]
        exact node?_append_self hn chunk
      refine Attempt.meets_bind (Attempt.Meets.mono (ih h' hn') (fun _ hw => hw) ?_
        fun _ _ hw => hw)
      rintro rest w'' ⟨h'', hnet', hrest, hn''⟩
      refine Attempt.meets_pure ⟨h'', hnet'.trans hnet, ?_, ?_⟩
      · rw [hrest, List.flatten_cons, List.length_append]
      · rw [hn'', List.flatten_cons, List.append_assoc]
    · intro e k w' hl htree hnet
      refine ⟨?_, hl⟩
      rw [htree, hf]
      exact h.append hn _

/-- A place at which a file can be created. -/
def Writable (t : Tree Node) (a : Place) : Prop :=
  node? t a.dropLast = some .dir ∧ node? t a ≠ some .dir

theorem Writable.makeFile {e : Report} (h : Writable t a) : makeFile t a ≠ .error e := by
  intro he
  rcases makeFile_error he with hd | ⟨-, hd⟩
  · exact h.2 hd
  · exact hd h.1

/-- Saving a response writes its whole body. Without injected failures it fails only when the body
is not complete. -/
theorem meets_save (response : Response) (ha : S.place path = a) (h : w.tree = t) :
    Attempt.Meets S.Step (fun w => Fetching a t w.tree)
      (fun size w' => Fetching a t w'.tree ∧ node? t a ≠ some .dir ∧ w'.net = w.net ∧
        response.bodyEnd = .complete ∧ size = response.chunks.flatten.length ∧
        ∃ mode, node? w'.tree a = some (.file response.chunks.flatten mode))
      (fun _ w' => Fetching a t w'.tree ∧
        (S.Calm → Writable t a → response.bodyEnd ≠ .complete))
      (Fetch.save (Download.createAt path) response) w := by
  have h₀ : Fetching a t w.tree := by
    rw [h]
    exact .refl a t
  unfold Fetch.save Download.createAt
  refine Attempt.meets_bind (Attempt.meets_mapFailure (Attempt.meets_context
    (meets_create h₀ ?_ ?_)))
  · intro f w' hf hmake hnet
    rw [ha] at hmake
    obtain ⟨mode, hn⟩ := node?_makeFile_self hmake
    have hfree : node? t a ≠ some .dir := by
      rw [h] at hmake
      obtain ⟨-, ⟨bytes, old, hold, -⟩ | ⟨hnone, -, -⟩⟩ := makeFile_ok hmake
      · simp [hold]
      · simp [hnone]
    have hpath : S.place f.path = a := by rw [hf.path_eq, ha]
    refine Attempt.meets_bind (Attempt.Meets.mono
      (meets_writeChunks hpath response.chunks (h₀.makeFile hmake) hn) (fun _ hw => hw) ?_ ?_)
    · rintro size w'' ⟨h'', hnet', hsize, hn'⟩
      rw [List.nil_append] at hn'
      cases hend : response.bodyEnd with
      | broken => exact Attempt.meets_throw ⟨h'', fun _ _ hc => by cases hc⟩
      | stalled => exact Attempt.meets_throw ⟨h'', fun _ _ hc => by cases hc⟩
      | complete =>
        refine Attempt.meets_bind (Attempt.meets_mapFailure (meets_flush h'' ?_ ?_))
        · exact Attempt.meets_pure ⟨h'', hfree, hnet'.trans hnet, rfl, hsize, mode, hn'⟩
        · exact fun e hflush => ⟨h'', fun hc => absurd (hf.flush hflush) (hc _)⟩
    · rintro e w'' ⟨h'', hl⟩
      exact ⟨h'', fun hc => absurd (hf.limit hl) (hc _)⟩
  · intro e he
    refine ⟨h₀, fun hc hw => ?_⟩
    obtain ⟨e', he'⟩ := he.error hc
    rw [ha, h] at he'
    exact absurd he' hw.makeFile

/-- Fetching begins with a request, whose failure leads nowhere. -/
theorem meets_answer {hops : Nat} (url : Url) {next : Response → Attempt FetchError Nat}
    {Q : Nat → World η → Prop} (h : w.tree = t)
    (hnext : ∀ response, ∀ w' : World η, S.serve url w.net = (.ok response, w'.net) → w'.tree = t →
      Attempt.Meets S.Step (fun w => Fetching a t w.tree) Q
        (fun _ w' => Fetching a t w'.tree ∧
          (S.Calm → Writable t a → ∀ body n, ¬ Leads S.serve hops url w.net body n))
        (next response) w') :
    Attempt.Meets S.Step (fun w => Fetching a t w.tree) Q
      (fun _ w' => Fetching a t w'.tree ∧
        (S.Calm → Writable t a → ∀ body n, ¬ Leads S.serve hops url w.net body n))
      ((Attempt.ofProgram (.ask (.request url))).mapFailure
        (FetchError.transport ∘ Fetch.noResponse url) >>= next) w := by
  have h₀ : Fetching a t w.tree := by
    rw [h]
    exact .refl a t
  refine Attempt.meets_bind (Attempt.meets_mapFailure (meets_request h₀ ?_ ?_))
  · intro response w' hserve htree
    exact hnext response w' hserve (htree.trans h)
  · intro e w' hserve htree
    refine ⟨?_, fun _ _ body n hl => ?_⟩
    · rw [htree]
      exact h₀
    · cases hl with
      | body answer =>
        rw [hserve] at answer
        cases answer
      | hop answer =>
        rw [hserve] at answer
        cases answer

/-- A response that is no redirect is saved or refused. -/
theorem meets_final {w' : World η} (hops : Nat) {url : Url} {response : Response}
    (ha : S.place path = a) (h : w'.tree = t)
    (hserve : S.serve url w.net = (.ok response, w'.net))
    (hr : ¬ Fetch.isRedirect response.status = true) :
    Attempt.Meets S.Step (fun w => Fetching a t w.tree)
      (fun size w'' => Fetching a t w''.tree ∧ node? t a ≠ some .dir ∧ ∃ body mode,
        Leads S.serve hops url w.net body w''.net ∧ node? w''.tree a = some (.file body mode) ∧
          size = body.length)
      (fun _ w'' => Fetching a t w''.tree ∧
        (S.Calm → Writable t a → ∀ body n, ¬ Leads S.serve hops url w.net body n))
      (if response.status = 200 then Fetch.save (Download.createAt path) response
        else throw (.status url.text response.status)) w' := by
  have hleads : ∀ body n, Leads S.serve hops url w.net body n →
      response.status = 200 ∧ response.bodyEnd = .complete := by
    intro body n hl
    cases hl with
    | body answer status complete =>
      rw [hserve] at answer
      cases answer
      exact ⟨status, complete⟩
    | hop answer redirect =>
      rw [hserve] at answer
      cases answer
      exact absurd redirect hr
  split_ifs with hs
  · refine Attempt.Meets.mono (meets_save response ha h) (fun _ hw => hw) ?_ ?_
    · rintro size w'' ⟨h'', hfree, hnet, hend, hsize, mode, hn⟩
      refine ⟨h'', hfree, _, mode, ?_, hn, hsize⟩
      rw [hnet]
      exact .body hserve hs hend
    · rintro e w'' ⟨h'', hend⟩
      exact ⟨h'', fun hc hw body n hl => hend hc hw (hleads body n hl).2⟩
  · refine Attempt.meets_throw ⟨?_, fun _ _ body n hl => hs (hleads body n hl).1⟩
    rw [h]
    exact .refl a t

/-- Fetching gives the body to which the network leads. Without injected failures it fails only when
there is none. -/
theorem meets_follow (hops : Nat) (url : Url) (ha : S.place path = a) (h : w.tree = t) :
    Attempt.Meets S.Step (fun w => Fetching a t w.tree)
      (fun size w' => Fetching a t w'.tree ∧ node? t a ≠ some .dir ∧ ∃ body mode,
        Leads S.serve hops url w.net body w'.net ∧ node? w'.tree a = some (.file body mode) ∧
          size = body.length)
      (fun _ w' => Fetching a t w'.tree ∧
        (S.Calm → Writable t a → ∀ body n, ¬ Leads S.serve hops url w.net body n))
      (Fetch.follow (Download.createAt path) hops url) w := by
  induction hops generalizing url w with
  | zero =>
    unfold Fetch.follow
    refine meets_answer url h ?_
    intro response w' hserve htree
    by_cases hr : Fetch.isRedirect response.status = true
    · rw [if_pos hr]
      refine Attempt.meets_throw ⟨htree ▸ .refl a t, ?_⟩
      rintro - - body n hl
      cases hl with
      | body answer status =>
        rw [hserve] at answer
        cases answer
        rw [status] at hr
        cases hr
    · rw [if_neg hr]
      exact meets_final 0 ha htree hserve hr
  | succ hops ih =>
    unfold Fetch.follow
    refine meets_answer url h ?_
    intro response w' hserve htree
    by_cases hr : Fetch.isRedirect response.status = true
    · rw [if_pos hr]
      dsimp only
      have hleads : ∀ body n, Leads S.serve (hops + 1) url w.net body n →
          ∃ next, Fetch.target? url response = some next ∧
            Leads S.serve hops next w'.net body n := by
        intro body n hl
        cases hl with
        | body answer status =>
          rw [hserve] at answer
          cases answer
          rw [status] at hr
          cases hr
        | hop answer redirect target rest =>
          rw [hserve] at answer
          cases answer
          exact ⟨_, target, rest⟩
      cases hnext : Fetch.target? url response with
      | none =>
        refine Attempt.meets_throw ⟨htree ▸ .refl a t, ?_⟩
        rintro - - body n hl
        obtain ⟨next, hnext', -⟩ := hleads body n hl
        rw [hnext] at hnext'
        cases hnext'
      | some next =>
        refine Attempt.Meets.mono (ih next htree) (fun _ hw => hw) ?_ ?_
        · rintro size w'' ⟨h'', hfree, body, mode, hl, hn, hsize⟩
          exact ⟨h'', hfree, body, mode, .hop hserve hr hnext hl, hn, hsize⟩
        · rintro e w'' ⟨h'', hno⟩
          refine ⟨h'', fun hc hw body n hl => ?_⟩
          obtain ⟨next', hnext', hrest⟩ := hleads body n hl
          rw [hnext] at hnext'
          cases hnext'
          exact hno hc hw body n hrest
    · rw [if_neg hr]
      exact meets_final (hops + 1) ha htree hserve hr

/-- Fetching a text gives the body of which it is the address. -/
theorem meets_fetch (url : String) (ha : S.place path = a) (h : w.tree = t) :
    Attempt.Meets S.Step (fun w => Fetching a t w.tree)
      (fun size w' => Fetching a t w'.tree ∧ node? t a ≠ some .dir ∧ ∃ body mode,
        Serves S.serve url w.net body w'.net ∧ node? w'.tree a = some (.file body mode) ∧
          size = body.length)
      (fun _ w' => Fetching a t w'.tree ∧
        (S.Calm → Writable t a → ∀ body n, ¬ Serves S.serve url w.net body n))
      (Fetch.run (Download.createAt path) url) w := by
  unfold Fetch.run
  cases hparse : Url.parse? url with
  | none =>
    refine Attempt.meets_throw ⟨h ▸ .refl a t, ?_⟩
    rintro - - body n ⟨parsed, hparsed, -⟩
    rw [hparse] at hparsed
    cases hparsed
  | some parsed =>
    refine Attempt.Meets.mono (meets_follow Fetch.maxRedirects parsed ha h) (fun _ hw => hw) ?_ ?_
    · rintro size w' ⟨h', hfree, body, mode, hl, hn, hsize⟩
      exact ⟨h', hfree, body, mode, ⟨parsed, hparse, hl⟩, hn, hsize⟩
    · rintro e w' ⟨h', hno⟩
      refine ⟨h', ?_⟩
      rintro hc hw body n ⟨parsed', hparsed, hl⟩
      rw [hparse] at hparsed
      cases hparsed
      exact hno hc hw body n hl

/-- What a download does. Only its destination changes. After a success the body that the network
leads to is there and its bytes have been counted; after a failure nothing is, unless removals fail.
Without injected failures it fails only if there is no such body. -/
theorem meets_download (url : String) (ha : S.place path = a) (hne : a ≠ []) (h : w.tree = t) :
    Attempt.Meets S.Step (fun w => Fetching a t w.tree)
      (fun size w' => Fetching a t w'.tree ∧ node? t a ≠ some .dir ∧ ∃ body mode,
        Serves S.serve url w.net body w'.net ∧ node? w'.tree a = some (.file body mode) ∧
          size = body.length)
      (fun _ w' => Fetching a t w'.tree ∧
        (S.Calm → Writable t a → ∀ body n, ¬ Serves S.serve url w.net body n) ∧
        (S.mayFail .removeFile ∨ S.mayFail .removeTree ∨ node? w'.tree a = none))
      (Download.run url path) w := by
  have h₀ : Fetching a t w.tree := by
    rw [h]
    exact .refl a t
  unfold Download.run
  refine Attempt.meets_bind (Attempt.meets_lift (meets_log h₀ ?_ _ _))
  refine Attempt.meets_bind (meets_onFailure (Attempt.Meets.mono (meets_fetch url ha h)
    (fun _ hw => hw) ?_ ?_))
  · rintro size w' ⟨h', hbody⟩
    refine Attempt.meets_bind (Attempt.meets_lift (meets_log h' ?_ _ _))
    exact Attempt.meets_pure ⟨h', hbody⟩
  · rintro e w' ⟨h', hno⟩
    refine meets_remove (by rwa [ha]) h' ?_ ?_
    · intro w'' hgone hnet
      rw [ha] at hgone
      refine ⟨h'.removed hgone, hno, .inr (.inr ?_)⟩
      rw [hgone, if_pos (List.prefix_refl a)]
    · rintro (hf | hf)
      · exact ⟨h', hno, .inl hf⟩
      · exact ⟨h', hno, .inr (.inl hf)⟩

end Fetch

end Memory

end Provision
