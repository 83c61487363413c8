import UnifyAir.Nrf.Tokens

/-!
# UnifyAir — whom the access tokens of an `NrfClient` are for

`get_token::<T>` asks the NRF for a token with target NF type `T`, and stores the token under the
service list alone. A later call with the same services and another `T` finds that entry.

* **`logged_of_run`** — a client's run is a run of its `TokenStore`, so what `get` and `set` hand
  out is what a request for these services was answered with.
* **`own_tokens_iff_one_target`** — all tokens are for the type they are asked for, whatever the
  order of the calls, exactly when no service list is used with two types.
* **`token_of_other_target`** — one service list, two types.
-/

namespace UnifyAir.Nrf

open Concurrency
open TokenStore (TaskId TokenEntry)

variable {N S R : Type}

/-- Every token returned by a call was obtained with the call's own target NF type and its own
service list. -/
def OwnTokens (s : State N S R) : Prop :=
  ∀ t target services entry, s.calls t = .returned target services (.ok entry) →
    ∃ v, entry.get s.nfTokenStore.arcs = some v ∧ v.auth.targetNfType = target ∧
      v.auth.targetServiceName = services

/-- A step does not begin a call that is not allowed. -/
def Permitted (Allowed : N → List S → Prop) (_ : State N S R) (a : Act N S R) : Prop :=
  ∀ t target services, a = .getToken t target services → Allowed target services

/-! ## The run of the store

The token store takes some of the client's steps and not others, so its own schedule is not the
client's. `Logged` keeps the two side by side, and with them what each call may have in its hands;
the invariants of `TokenStore` then apply to the store's schedule. -/

abbrev StoreAct (N S R : Type) := TokenStore.Act (List S) (Token N S R) NrfAuthorizationError

/-- A token is for services that make a scope, and somebody has asked for it. -/
def Asked (oasbi : Oasbi S) (as : List (Act N S R)) (v : Token N S R) : Prop :=
  oasbi.isScope (scopeText oasbi v.auth.targetServiceName) = true ∧
    ∃ t, Act.getToken t v.auth.targetNfType v.auth.targetServiceName ∈ as

/-- What the schedules of the client and of its store say of a call. -/
def LoggedAt (oasbi : Oasbi S) (as : List (Act N S R)) (bs : List (StoreAct N S R))
    (store : Store N S R) (t : CallId) : GetToken N S → Prop
  | .getting target services => Act.getToken t target services ∈ as
  | .setting auth => Act.getToken t auth.targetNfType auth.targetServiceName ∈ as ∧
      .set (setCall t) auth.targetServiceName ∈ bs
  | .returned target services (.ok entry) => Act.getToken t target services ∈ as ∧
      ∃ v, entry.get store.arcs = some v ∧ v.auth.targetServiceName = services ∧ Asked oasbi as v
  | _ => True

/-- A longer schedule has all the requests of a shorter one. -/
theorem Asked.mono {oasbi : Oasbi S} {as as' : List (Act N S R)} (has : as ⊆ as')
    {v : Token N S R} (h : Asked oasbi as v) : Asked oasbi as' v := by
  obtain ⟨hscope, t, ht⟩ := h
  exact ⟨hscope, t, has ht⟩

/-- What was logged stays logged: the schedules only grow, and an `Arc`, once made, keeps its cell.
One case for each state of a call. -/
theorem LoggedAt.mono {oasbi : Oasbi S} {as as' : List (Act N S R)} {bs bs' : List (StoreAct N S R)}
    {store store' : Store N S R} (has : as ⊆ as') (hbs : bs ⊆ bs')
    (harcs : store.arcs <+: store'.arcs) {t : CallId} {c : GetToken N S}
    (h : LoggedAt oasbi as bs store t c) : LoggedAt oasbi as' bs' store' t c := by
  match c, h with
  | .getting .., h => exact has h
  | .setting _, ⟨hget, hset⟩ => exact ⟨has hget, hbs hset⟩
  | .returned _ _ (.ok _), ⟨hget, v, hv, hservices, hasked⟩ =>
    exact ⟨has hget, v, TokenStore.TokenEntry.get_of_grown harcs hv, hservices, hasked.mono has⟩
  | .idle, _ | .returned _ _ (.error _), _ | .dropped, _ => trivial

variable [DecidableEq S]

/-- The client after the schedule `as`, its store after `bs`. -/
structure Logged (oasbi : Oasbi S) (as : List (Act N S R)) (bs : List (StoreAct N S R))
    (store : Store N S R) (calls : CallId → GetToken N S) : Prop where
  run : (TokenStore.system _ _ _).Run bs store
  resolved : ∀ i v, .resolve i (.ok v) ∈ bs →
    Asked oasbi as v ∧ .set i v.auth.targetServiceName ∈ bs
  calls : ∀ t, LoggedAt oasbi as bs store t (calls t)

variable {oasbi : Oasbi S} {source : N}

/-- The client makes a step in which the store does nothing. -/
theorem Logged.extend {as : List (Act N S R)} {bs : List (StoreAct N S R)} {store : Store N S R}
    {calls : CallId → GetToken N S} (h : Logged oasbi as bs store calls) (a : Act N S R) :
    Logged oasbi (as ++ [a]) bs store calls where
  run := h.run
  resolved i v hv :=
    ⟨(h.resolved i v hv).1.mono (List.subset_append_left _ _), (h.resolved i v hv).2⟩
  calls t := (h.calls t).mono (List.subset_append_left _ _) (List.Subset.refl _)
    (List.prefix_refl _)

/-- A call moves to a state that the log allows. All other calls keep what is logged of them. -/
theorem Logged.setToken {as : List (Act N S R)} {bs : List (StoreAct N S R)} {store : Store N S R}
    {calls : CallId → GetToken N S} (h : Logged oasbi as bs store calls) {t : CallId}
    {c : GetToken N S} (hc : LoggedAt oasbi as bs store t c) :
    Logged oasbi as bs store (Function.update calls t c) where
  run := h.run
  resolved := h.resolved
  calls t' := by
    -- the call that moves, and the others
    rcases update_cases (rfl : Function.update calls t c t' = _) with ⟨rfl, hnew⟩ | ⟨-, heq⟩
    · rw [← hnew]
      exact hc
    · rw [← heq]
      exact h.calls t'

/-- The store makes a step. What it resolves a future with must have been asked for, and by a `set`
with the services of the token. -/
theorem Logged.storeStep {as : List (Act N S R)} {bs : List (StoreAct N S R)}
    {store store' : Store N S R} {calls : CallId → GetToken N S}
    (h : Logged oasbi as bs store calls) {b : StoreAct N S R}
    (hstep : TokenStore.step store b = some store')
    (hb : ∀ i v, b = .resolve i (.ok v) → Asked oasbi as v ∧ .set i v.auth.targetServiceName ∈ bs) :
    Logged oasbi as (bs ++ [b]) store' calls where
  run := .snoc h.run trivial hstep
  resolved i v hv := by
    have hres : Asked oasbi as v ∧ .set i v.auth.targetServiceName ∈ bs := by
      rcases List.mem_append.mp hv with hv | hv
      · exact h.resolved i v hv
      · exact hb i v (List.mem_singleton.mp hv).symm
    exact ⟨hres.1, List.mem_append_left _ hres.2⟩
  calls t := (h.calls t).mono (List.Subset.refl _) (List.subset_append_left _ _)
    (TokenStore.step_cases hstep).arcs_grow

omit [DecidableEq S] in
/-- What a request resolves to has been asked for: a token is made of the caller's own
`Authentication`, and only for services that make a scope. -/
theorem asked_of_request {as : List (Act N S R)} {auth : Authentication N S} {t : CallId}
    {nrf : AccessTokenReq N → Exchange (AccessTokenRequestResponse R)} {v : Token N S R}
    (hget : Act.getToken t auth.targetNfType auth.targetServiceName ∈ as)
    (h : (authenticaionRequest oasbi auth nrf).map (fun rsp => (⟨rsp, auth⟩ : Token N S R)) = .ok v) :
    Asked oasbi as v ∧ v.auth = auth := by
  have hscope : oasbi.isScope (scopeText oasbi auth.targetServiceName) = true := by
    by_contra hbad
    simp [authenticaionRequest, accessTokenReq, hbad, Except.map] at h
  -- a request that fails makes no token
  cases hreq : authenticaionRequest oasbi auth nrf with
  | error err => rw [hreq] at h; cases h
  | ok rsp =>
    rw [hreq] at h
    cases h
    exact ⟨⟨hscope, t, hget⟩, rfl⟩

/-- A token that the store hands out under a key is for these services. Each `set` has one key, so
the one that supplied the token is the one that asked for it. -/
theorem Logged.supplied {as : List (Act N S R)} {bs : List (StoreAct N S R)} {store : Store N S R}
    {calls : CallId → GetToken N S} (h : Logged oasbi as bs store calls) {key : List S}
    {v : Token N S R} (hsupplied : TokenStore.Supplied bs key v) :
    v.auth.targetServiceName = key ∧ Asked oasbi as v := by
  obtain ⟨o, hset, hres⟩ := hsupplied
  obtain ⟨hasked, hset'⟩ := h.resolved o v hres
  exact ⟨TokenStore.set_once h.run hset' hset, hasked⟩

/-- What a call finds in the store, or is answered, it may return. -/
theorem Logged.returned {as : List (Act N S R)} {bs : List (StoreAct N S R)} {store : Store N S R}
    {calls : CallId → GetToken N S} (h : Logged oasbi as bs store calls) {t : CallId} {target : N}
    {services : List S} {entry : TokenEntry} {v : Token N S R}
    (hget : Act.getToken t target services ∈ as) (hv : entry.get store.arcs = some v)
    (hsupplied : TokenStore.Supplied bs services v) :
    LoggedAt oasbi as bs store t (.returned target services (.ok entry)) := by
  obtain ⟨hservices, hasked⟩ := h.supplied hsupplied
  exact ⟨hget, v, hv, hservices, hasked⟩

/-- Every step of the client is none, one or two steps of its store. The two ends of a call need the
most: it returns what its `get` found, or what its own `set` was given. -/
theorem Logged.step {as : List (Act N S R)} {bs : List (StoreAct N S R)} {s s' : State N S R}
    {a : Act N S R} (h : Logged oasbi as bs s.nfTokenStore s.calls) (hkeyed : Keyed s)
    (hstep : Step oasbi source s a s') :
    ∃ bs', Logged oasbi (as ++ [a]) bs' s'.nfTokenStore s'.calls := by
  have hsrc := TokenStore.sourced_of_run h.run
  -- the log grows with each step of the store and stays with the others
  cases hstep with
  | @getToken t target services store hc hstore =>
    exact ⟨_, ((h.extend _).storeStep hstore nofun).setToken
      (List.mem_append_right _ (List.mem_singleton_self _))⟩
  | advance hi hstore => exact ⟨_, (h.extend _).storeStep hstore nofun⟩
  -- what the future resolves to was asked for by this very call
  | @resolve t nrf auth store hc hstore =>
    have hcall := h.calls t
    rw [hc] at hcall
    refine ⟨_, (h.storeStep hstore ?_).extend _⟩
    intro i v hres
    injection hres with hi hres
    obtain ⟨hasked, hauth⟩ := asked_of_request hcall.1 hres
    rw [hauth, ← hi]
    exact ⟨hasked, hcall.2⟩
  | @found t target services key entry hc hret =>
    have hcall := (h.extend (.resume t)).calls t
    have hop := (hkeyed.of_getting hc).1
    have hentry := hsrc.calls (getCall t)
    rw [hc] at hcall
    rw [hret] at hentry hop
    cases hop
    obtain ⟨v, hv, hsupplied⟩ := hentry
    exact ⟨bs, (h.extend _).setToken ((h.extend _).returned hcall hv hsupplied)⟩
  | @request t target services key store hc hret hstore =>
    have hcall := h.calls t
    rw [hc] at hcall
    exact ⟨_, ((h.extend _).storeStep hstore nofun).setToken
      ⟨List.mem_append_left _ hcall, List.mem_append_right _ (List.mem_singleton_self _)⟩⟩
  | readFailed => exact ⟨bs, (h.extend _).setToken trivial⟩
  | @answered t auth key res hc hret =>
    have hcall := (h.extend (.resume t)).calls t
    have hentry := hsrc.calls (setCall t)
    rw [hc] at hcall
    rw [hret] at hentry
    refine ⟨bs, (h.extend _).setToken ?_⟩
    cases res with
    | error err => trivial
    | ok entry =>
      obtain ⟨v, hv, hres⟩ := hentry
      exact (h.extend _).returned hcall.1 hv ⟨setCall t, hcall.2, hres⟩
  | drop hi hstore => exact ⟨_, ((h.extend _).storeStep hstore nofun).setToken trivial⟩
  | store => exact ⟨bs, h.extend _⟩

/-- A new client, before any step of it or of its store. -/
theorem logged_new : Logged (R := R) oasbi [] [] (.new _ _ _) fun _ => (.idle : GetToken N S) where
  run := .nil
  resolved := nofun
  calls _ := trivial

/-- **The store of a client runs as a store.** By induction on the client's run; the store's
schedule is built along the way. -/
theorem logged_of_run {as : List (Act N S R)} {s : State N S R}
    (run : (tokenSystem R oasbi source).Run as s) :
    ∃ bs, Logged oasbi as bs s.nfTokenStore s.calls := by
  refine run.history (P := fun as s => ∃ bs, Logged oasbi as bs s.nfTokenStore s.calls)
    ⟨[], logged_new⟩ ?_
  intro as s a s' run ⟨bs, h⟩ _ hstep
  exact h.step (keyed_of_run run) (step_cases hstep)

/-! ## One service list, one target

A token is found again by its services alone. So the tokens of a client are for the right type as
long as the services say which type is meant, and no longer: the run in which they do not is two
calls long. -/

/-- The sufficient half. The token that a call returns was asked for under the same services, so for
the same target. -/
theorem own_tokens_of_one_target {Allowed : N → List S → Prop}
    (hone : ∀ target target' services, oasbi.isScope (scopeText oasbi services) = true →
      Allowed target services → Allowed target' services → target = target')
    {as : List (Act N S R)} {s : State N S R}
    (run : (tokenSystem R oasbi source).RunUnder (Permitted Allowed) as s) : OwnTokens s := by
  intro t target services entry hret
  have hallowed : ∀ t target services, Act.getToken t target services ∈ as →
      Allowed target services := fun t target services hmem =>
    run.mem (Q := fun a => ∀ t target services, a = .getToken t target services →
      Allowed target services) (fun _ _ h => h) _ hmem t target services rfl
  obtain ⟨bs, hlogged⟩ := logged_of_run run.run
  have hcall := hlogged.calls t
  rw [hret] at hcall
  obtain ⟨hget, v, hv, rfl, hscope, o, hasked⟩ := hcall
  exact ⟨v, hv, hone _ _ _ hscope (hallowed o _ _ hasked) (hallowed t _ _ hget), rfl⟩

/-- A first call up to the write of its token. -/
def firstCall (rsp : R) (target : N) (services : List S) : List (Act N S R) :=
  [.getToken 0 target services, .advance 0, .resume 0, .advance 0, .advance 0, .advance 0,
    .resolve 0 (grant rsp), .advance 0]

/-- After a first call that is granted, its token is in the store. The services and the target are
arbitrary, so the run is computed by `simp` and not by `decide`. -/
theorem firstCall_stores (oasbi : Oasbi S) (source : N) (rsp : R) (target : N) {services : List S}
    (hscope : oasbi.isScope (scopeText oasbi services) = true) :
    ∃ s id v, (tokenSystem R oasbi source).exec (firstCall rsp target services) = some s ∧
      s.calls 1 = .idle ∧ s.nfTokenStore.entry services = some (1, ⟨id, .ready v⟩) ∧
      v.auth.targetNfType = target := by
  have hbegin : (tokenSystem R oasbi source).step (.new N S R) (.getToken 0 target services) =
      some _ := rfl
  simp only [System.exec, firstCall, List.foldlM_cons, List.foldlM_nil]
  rw [show (tokenSystem R oasbi source).init = .new N S R from rfl, hbegin]
  simp [tokenSystem, step, State.new, State.begin, State.withStore, State.setToken, State.resume,
    State.request, State.authentication, GetToken.inner, getCall, setCall, TokenStore.step,
    TokenStore.State.new, TokenStore.State.advance, TokenStore.State.setCall,
    TokenStore.State.readEntry, TokenStore.State.entry, TokenStore.State.begin,
    TokenStore.State.checkEntry, TokenStore.State.upsert, TokenStore.State.resolveFuture,
    TokenStore.State.outcome, TokenStore.State.write, authenticaionRequest, accessTokenReq, hscope,
    grant, tokenOf, Except.map]

/-- A call with these services, whatever its target. -/
def nextCall (R : Type) (t : CallId) (target : N) (services : List S) : List (Act N S R) :=
  [.getToken t target services, .advance t, .resume t]

/-- A token in the store is returned to every call with its services. Nothing on the way looks at
the target of the call. -/
theorem nextCall_returns (oasbi : Oasbi S) (source : N) {s : State N S R} (hkeyed : Keyed s)
    {t : CallId} (target : N) {services : List S} {arc : TokenStore.ArcId} {id : BitVec 32}
    {v : Token N S R} (hc : s.calls t = .idle)
    (hentry : s.nfTokenStore.entry services = some (arc, ⟨id, .ready v⟩)) :
    ∃ s', (nextCall R t target services).foldlM (step oasbi source) s = some s' ∧
      s'.calls t = .returned target services (.ok ⟨arc⟩) ∧
      s'.nfTokenStore.arcs = s.nfTokenStore.arcs := by
  have hidle := hkeyed t
  rw [hc] at hidle
  have hread : (s.nfTokenStore.setCall (getCall t) (.getRead services 1)).entry services =
      some (arc, ⟨id, .ready v⟩) := hentry
  simp only [TokenStore.State.setCall] at hread
  simp [nextCall, step, hc, TokenStore.step, hidle.1, State.begin, GetToken.inner,
    TokenStore.State.advance, TokenStore.State.setCall, State.withStore, State.resume,
    TokenStore.State.readEntry, State.setToken, hread, TokenStore.TokenEntry.newUnchecked]

/-- The first call stores its token, the second one is given it, whatever the two targets are. For
the key is the list of services, and the second call finds it there. -/
theorem second_call_given (oasbi : Oasbi S) (source : N) (rsp : R) (target target' : N)
    {services : List S}
    (hscope : oasbi.isScope (scopeText oasbi services) = true) :
    ∃ s v, (tokenSystem R oasbi source).Run
        (firstCall rsp target services ++ nextCall R 1 target' services) s ∧
      s.calls 1 = .returned target' services (.ok ⟨1⟩) ∧
      TokenEntry.get s.nfTokenStore.arcs ⟨1⟩ = some v ∧ v.auth.targetNfType = target := by
  obtain ⟨s, id, v, hexec, hidle, hentry, htarget⟩ :=
    firstCall_stores oasbi source rsp target hscope
  obtain ⟨s', hexec', hret, harcs⟩ := nextCall_returns oasbi source
    (keyed_of_run (System.run_of_exec hexec)) target' hidle hentry
  refine ⟨s', v, System.run_of_exec ?_, hret, ?_, htarget⟩
  · rw [System.exec, List.foldlM_append]
    show ((tokenSystem R oasbi source).exec _).bind _ = _
    rw [hexec]
    exact hexec'
  · rw [harcs]
    exact TokenStore.TokenEntry.get_of_ready (TokenStore.entry_eq_some.mp hentry).2

/-- **Tokens are for whom they are asked for, exactly when no service list has two targets.**
`Allowed` says which calls are made at all; services that do not make a scope get no token, so
nothing is asked of them. -/
theorem own_tokens_iff_one_target [Inhabited R] (oasbi : Oasbi S) (source : N)
    (Allowed : N → List S → Prop) :
    (∀ (as : List (Act N S R)) s,
        (tokenSystem R oasbi source).RunUnder (Permitted Allowed) as s → OwnTokens s) ↔
      ∀ target target' services, oasbi.isScope (scopeText oasbi services) = true →
        Allowed target services → Allowed target' services → target = target' := by
  constructor
  · -- two targets for one list make two keys equal, so the second call gets the first one's token
    intro hown target target' services hscope hallowed hallowed'
    obtain ⟨s, v, hrun, hret, hv, htarget⟩ :=
      second_call_given oasbi source (default : R) target target' hscope
    -- the run that refutes a second target makes two calls, and both are allowed
    have hpermitted : ∀ s', ∀ a ∈ firstCall default target services ++ nextCall R 1 target' services,
        Permitted Allowed s' a := by
      intro _ a ha t target'' services' heq
      subst heq
      simp only [firstCall, nextCall, List.mem_append, List.mem_cons, Act.getToken.injEq,
        reduceCtorEq, List.not_mem_nil, or_false] at ha
      rcases ha with ⟨-, rfl, rfl⟩ | ⟨-, rfl, rfl⟩
      · exact hallowed
      · exact hallowed'
    obtain ⟨w, hw, htarget', -⟩ := hown _ s (.of_mem hrun hpermitted) 1 target' services ⟨1⟩ hret
    obtain rfl : v = w := Option.some.inj (hv.symm.trans hw)
    rw [← htarget, htarget']
  · exact fun hone as s run => own_tokens_of_one_target hone run

/-- Calls for the services `[5]`: with target 1, which is granted, and then with target 2. -/
def twoTargets : List (Act Nat Nat Nat) :=
  firstCall 7 1 [5] ++ [.advance 0, .resume 0] ++ nextCall Nat 1 2 [5]

/-- **One service list, two types.** The second call is given the token that was granted for the
first one's target. -/
theorem token_of_other_target :
    ∃ s, (tokenSystem Nat digitOasbi 0).Run twoTargets s ∧
      s.calls 0 = .returned 1 [5] (.ok ⟨1⟩) ∧ s.calls 1 = .returned 2 [5] (.ok ⟨1⟩) ∧
      TokenEntry.get s.nfTokenStore.arcs ⟨1⟩ = some ⟨7, ⟨0, 0, 1, [5]⟩⟩ ∧ ¬ OwnTokens s := by
  let s := ((tokenSystem Nat digitOasbi 0).exec twoTargets).get (by decide)
  have hrun : (tokenSystem Nat digitOasbi 0).Run twoTargets s := System.run_of_exec (by simp [s])
  refine ⟨s, hrun, rfl, rfl, rfl, fun hown => ?_⟩
  obtain ⟨v, hv, htarget, -⟩ := hown 1 2 [5] ⟨1⟩ rfl
  cases (show some (⟨7, ⟨0, 0, 1, [5]⟩⟩ : Token Nat Nat Nat) = some v from hv)
  cases htarget

end UnifyAir.Nrf
