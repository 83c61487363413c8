import UnifyAir.Nrf.Client
import UnifyAir.TokenStore.Entries

/-!
# UnifyAir — the access tokens of an `NrfClient`

`utils/client/src/nrf_client.rs`, the authorization side. `get_token` looks the service list up
in the client's `TokenStore` and, when there is no entry, has `set` run an `authenticaion_request`
for it.

The system is the `TokenStore` of one client together with the `get_token` calls on it: `GetToken`
is the program counter of a call with its locals, and the `get` and the `set` it makes are calls
of the store under ids of their own. The future of an `authenticaion_request` is made before `set`
is called and polled when `set` awaits it, so the request is in flight while the `set` call is.

A token is stored with the arguments of the request it answers, and `since` has how many `Arc`s
there were when a call began; the code reads neither.
-/

namespace UnifyAir.Nrf

open Concurrency
open TokenStore (TaskId TokenEntry StoreError)

abbrev CallId := Nat

/-- `AccessTokenErr`, its error code. -/
abbrev AccessTokenErr := String

/-- What the types of `oasbi` say about texts: how a service is written, and which texts
`AccessTokenReqScope::from_str` takes. -/
structure Oasbi (S : Type) where
  serviceName : S → List Char
  isScope : List Char → Bool

/-- `AccessTokenReq`, the fields the client fills in. -/
structure AccessTokenReq (N : Type) where
  nfInstanceId : NfInstanceId
  nfType : Option N
  targetNfType : Option N
  scope : List Char

/-- `AccessTokenRequestResponse`; `R` is `AccessTokenRsp`. -/
inductive AccessTokenRequestResponse (R : Type) where
  | status200 (body : R)
  | status400 (body : AccessTokenErr)
  -- one of the error statuses that come with problem details
  | problem (problem : ProblemDetails)
  | other

/-- `NrfAuthorizationError`, as `authenticaion_request` returns it. -/
inductive NrfAuthorizationError where
  | invalidRequestScope (scope : List Char)
  | genericClientError (err : GenericClientError)
  | accessTokenError (err : AccessTokenErr)
  deriving DecidableEq, Repr

/-- The arguments of an `authenticaion_request`; `N` is `NfType`, `S` is `ServiceName`. -/
structure Authentication (N S : Type) where
  sourceInstanceId : NfInstanceId
  sourceNfType : N
  targetNfType : N
  targetServiceName : List S
  deriving DecidableEq, Repr

/-- A token and the request it answers. -/
structure Token (N S R : Type) where
  rsp : R
  auth : Authentication N S
  deriving DecidableEq, Repr

section Request

variable {N S R : Type} (oasbi : Oasbi S)

/-- The names of the services with blanks between them. -/
def scopeText (services : List S) : List Char :=
  [' '].intercalate (services.map oasbi.serviceName)

/-- The request for a token. -/
def accessTokenReq (auth : Authentication N S) :
    Except NrfAuthorizationError (AccessTokenReq N) :=
  let scope := scopeText oasbi auth.targetServiceName
  if oasbi.isScope scope then
    .ok ⟨auth.sourceInstanceId, some auth.sourceNfType, some auth.targetNfType, scope⟩
  else
    .error (.invalidRequestScope scope)

/-- The `match` on the answer. -/
def tokenOf (status : UInt16) :
    AccessTokenRequestResponse R → Except NrfAuthorizationError R
  | .status200 body => .ok body
  | .status400 body => .error (.accessTokenError body)
  | .problem problem => .error (.genericClientError (.invalidResponse status (some problem)))
  | .other => .error (.genericClientError (.invalidResponse status none))

/-- `authenticaion_request`, where an exchange with the NRF gives `nrf`. -/
def authenticaionRequest (auth : Authentication N S)
    (nrf : AccessTokenReq N → Exchange (AccessTokenRequestResponse R)) :
    Except NrfAuthorizationError R :=
  match accessTokenReq oasbi auth with
  | .error err => .error err
  | .ok req => match nrf req with
    | .error err => .error (.genericClientError err)
    | .ok (status, response) => tokenOf status response

/-- `authenticaion_request` comes to send its request: the services make a scope, and
`prepare_request` does not fail. -/
def sends (auth : Authentication N S)
    (nrf : AccessTokenReq N → Exchange (AccessTokenRequestResponse R)) : Bool :=
  match accessTokenReq oasbi auth with
  | .error _ => false
  | .ok req => match nrf req with
    | .error .notPrepared => false
    | _ => true

/-- What is not sent fails. A request that was made in vain has the error of what it failed at, and
the NRF has not heard of it. -/
theorem error_of_not_sends {auth : Authentication N S}
    {nrf : AccessTokenReq N → Exchange (AccessTokenRequestResponse R)}
    (h : sends oasbi auth nrf = false) :
    ∃ err, authenticaionRequest oasbi auth nrf = .error err := by
  unfold sends at h
  unfold authenticaionRequest
  cases hreq : accessTokenReq oasbi auth with
  | error err => exact ⟨err, rfl⟩
  | ok req =>
    rw [hreq] at h
    dsimp only at h ⊢
    cases hnrf : nrf req with
    | error err => exact ⟨_, rfl⟩
    | ok answer =>
      rw [hnrf] at h
      cases h

/-- The NRF answers every request with `rsp`. -/
def grant (rsp : R) : AccessTokenReq N → Exchange (AccessTokenRequestResponse R) :=
  fun _ => .ok (200, .status200 rsp)

/-- The NRF answers every request with a server error. -/
def refuse : AccessTokenReq N → Exchange (AccessTokenRequestResponse R) :=
  fun _ => .ok (503, .problem "Service Unavailable")

/-- Services by their digit, and every text but the empty one a scope. -/
def digitOasbi : Oasbi Nat where
  serviceName service := [Nat.digitChar service]
  isScope text := !text.isEmpty

end Request

/-- Where a `get_token` call stands. The `StoreError` of a result is in the `TokenStoreError` that
`?` puts around it. -/
inductive GetToken (N S : Type) where
  | idle
  -- awaits `nf_token_store.get`
  | getting (target : N) (services : List S)
  -- awaits `nf_token_store.set`
  | setting (auth : Authentication N S)
  | returned (target : N) (services : List S)
      (res : Except (StoreError NrfAuthorizationError) TokenEntry)
  | dropped
  deriving DecidableEq

/-- The `get` call of a `get_token` call. -/
def getCall (t : CallId) : TaskId := 2 * t

/-- The `set` call of a `get_token` call. -/
def setCall (t : CallId) : TaskId := 2 * t + 1

/-- The call of the store that a `get_token` call awaits. -/
def GetToken.inner {N S : Type} (t : CallId) : GetToken N S → Option TaskId
  | .getting .. => some (getCall t)
  | .setting _ => some (setCall t)
  | _ => none

abbrev Store (N S R : Type) := TokenStore.State (List S) (Token N S R) NrfAuthorizationError

structure State (N S R : Type) where
  nfConfig : NfConfig
  nfTokenStore : Store N S R
  calls : CallId → GetToken N S
  since : CallId → Nat

/-- A new client. -/
def State.new (N S R : Type) : State N S R where
  nfConfig := .default
  nfTokenStore := .new _ _ _
  calls := fun _ => .idle
  since := fun _ => 0

inductive Act (N S R : Type) where
  -- somebody calls `get_token::<target>(services)`
  | getToken (t : CallId) (target : N) (services : List S)
  -- the call of the store that `t` awaits takes its next step
  | advance (t : CallId)
  -- the `authenticaion_request` of `t` completes
  | resolve (t : CallId) (nrf : AccessTokenReq N → Exchange (AccessTokenRequestResponse R))
  -- the call of the store that `t` awaits has returned
  | resume (t : CallId)
  -- the caller of `t` drops it
  | drop (t : CallId)
  -- a registration stores a new `NfConfig`
  | store (nfConfig : NfConfig)

variable {N S R : Type}

namespace State

def setToken (s : State N S R) (t : CallId) (c : GetToken N S) : State N S R :=
  { s with calls := Function.update s.calls t c }

def withStore (s : State N S R) (store : Store N S R) : State N S R :=
  { s with nfTokenStore := store }

/-- `get_token` calls `get`. -/
def begin (s : State N S R) (t : CallId) (target : N) (services : List S) (store : Store N S R) :
    State N S R :=
  { s with
    nfTokenStore := store
    calls := Function.update s.calls t (.getting target services)
    since := Function.update s.since t s.nfTokenStore.arcs.length }

/-- The arguments of the request that `get_token` makes. -/
def authentication (s : State N S R) (source target : N) (services : List S) :
    Authentication N S where
  sourceInstanceId := s.nfConfig.nfInstanceId
  sourceNfType := source
  targetNfType := target
  targetServiceName := services

variable [DecidableEq S]

/-- There is no entry: `get_token` calls `set`. -/
def request (s : State N S R) (source : N) (t : CallId) (target : N) (services : List S) :
    Option (State N S R) :=
  (TokenStore.step s.nfTokenStore (.set (setCall t) services)).map fun store =>
    (s.withStore store).setToken t (.setting (s.authentication source target services))

/-- `get_token` after the call it awaits has returned. -/
def resume (s : State N S R) (source : N) (t : CallId) : Option (State N S R) :=
  match s.calls t with
  | .getting target services => match s.nfTokenStore.calls (getCall t) with
    | .getReturned _ (.ok (some entry)) =>
      some (s.setToken t (.returned target services (.ok entry)))
    | .getReturned _ (.ok none) => s.request source t target services
    | .getReturned _ (.error err) => some (s.setToken t (.returned target services (.error err)))
    | _ => none
  | .setting auth => match s.nfTokenStore.calls (setCall t) with
    | .setReturned _ res =>
      some (s.setToken t (.returned auth.targetNfType auth.targetServiceName res))
    | _ => none
  | _ => none

end State

variable [DecidableEq S]

/-- One step of the client of an NF of type `source`. -/
def step (oasbi : Oasbi S) (source : N) (s : State N S R) : Act N S R → Option (State N S R)
  | .getToken t target services => match s.calls t with
    | .idle => (TokenStore.step s.nfTokenStore (.get (getCall t) services)).map
        (s.begin t target services)
    | _ => none
  | .advance t => match (s.calls t).inner t with
    | some i => (TokenStore.step s.nfTokenStore (.advance i)).map s.withStore
    | none => none
  | .resolve t nrf => match s.calls t with
    | .setting auth =>
      let res := (authenticaionRequest oasbi auth nrf).map fun rsp => ⟨rsp, auth⟩
      (TokenStore.step s.nfTokenStore (.resolve (setCall t) res)).map s.withStore
    | _ => none
  | .resume t => s.resume source t
  | .drop t => match (s.calls t).inner t with
    | some i => (TokenStore.step s.nfTokenStore (.drop i)).map fun store =>
        (s.withStore store).setToken t .dropped
    | none => none
  | .store nfConfig => some { s with nfConfig := nfConfig }

/-- One client and any number of concurrent `get_token` calls on it. -/
def tokenSystem (R : Type) (oasbi : Oasbi S) (source : N) : System (State N S R) (Act N S R) where
  init := .new N S R
  step := step oasbi source

/-! ## What one step can do

The step function again as an inductive relation. A step of the client that moves `get` or `set`
contains the step of the store, so the inversion of the store's step function can be used inside. -/

/-- The transitions of the client. -/
inductive Step (oasbi : Oasbi S) (source : N) (s : State N S R) :
    Act N S R → State N S R → Prop where
  | getToken {t : CallId} {target : N} {services : List S} {store : Store N S R}
      (hc : s.calls t = .idle)
      (hstore : TokenStore.step s.nfTokenStore (.get (getCall t) services) = some store) :
      Step oasbi source s (.getToken t target services) (s.begin t target services store)
  | advance {t : CallId} {i : TaskId} {store : Store N S R} (hi : (s.calls t).inner t = some i)
      (hstore : TokenStore.step s.nfTokenStore (.advance i) = some store) :
      Step oasbi source s (.advance t) (s.withStore store)
  | resolve {t : CallId} {nrf : AccessTokenReq N → Exchange (AccessTokenRequestResponse R)}
      {auth : Authentication N S} {store : Store N S R} (hc : s.calls t = .setting auth)
      (hstore : TokenStore.step s.nfTokenStore (.resolve (setCall t)
        ((authenticaionRequest oasbi auth nrf).map fun rsp => ⟨rsp, auth⟩)) = some store) :
      Step oasbi source s (.resolve t nrf) (s.withStore store)
  | found {t : CallId} {target : N} {services key : List S} {entry : TokenEntry}
      (hc : s.calls t = .getting target services)
      (hret : s.nfTokenStore.calls (getCall t) = .getReturned key (.ok (some entry))) :
      Step oasbi source s (.resume t) (s.setToken t (.returned target services (.ok entry)))
  | request {t : CallId} {target : N} {services key : List S} {store : Store N S R}
      (hc : s.calls t = .getting target services)
      (hret : s.nfTokenStore.calls (getCall t) = .getReturned key (.ok none))
      (hstore : TokenStore.step s.nfTokenStore (.set (setCall t) services) = some store) :
      Step oasbi source s (.resume t) ((s.withStore store).setToken t
        (.setting (s.authentication source target services)))
  | readFailed {t : CallId} {target : N} {services key : List S}
      {err : StoreError NrfAuthorizationError} (hc : s.calls t = .getting target services)
      (hret : s.nfTokenStore.calls (getCall t) = .getReturned key (.error err)) :
      Step oasbi source s (.resume t) (s.setToken t (.returned target services (.error err)))
  | answered {t : CallId} {auth : Authentication N S} {key : List S}
      {res : Except (StoreError NrfAuthorizationError) TokenEntry}
      (hc : s.calls t = .setting auth)
      (hret : s.nfTokenStore.calls (setCall t) = .setReturned key res) :
      Step oasbi source s (.resume t)
        (s.setToken t (.returned auth.targetNfType auth.targetServiceName res))
  | drop {t : CallId} {i : TaskId} {store : Store N S R} (hi : (s.calls t).inner t = some i)
      (hstore : TokenStore.step s.nfTokenStore (.drop i) = some store) :
      Step oasbi source s (.drop t) ((s.withStore store).setToken t .dropped)
  | store {nfConfig : NfConfig} :
      Step oasbi source s (.store nfConfig) { s with nfConfig := nfConfig }

variable {oasbi : Oasbi S} {source : N}

/-- The steps in which a call goes on from what the store has returned to it: it ends with the entry
or with an error, or begins its `set`. -/
theorem resume_cases {s s' : State N S R} {t : CallId} (h : s.resume source t = some s') :
    Step oasbi source s (.resume t) s' := by
  unfold State.resume at h
  split at h
  · next hc =>
    split at h
    · next hret => cases h; exact .found hc hret
    · next hret =>
      obtain ⟨store, hstore, rfl⟩ := Option.map_eq_some_iff.mp h
      exact .request hc hret hstore
    · next hret => cases h; exact .readFailed hc hret
    · cases h
  · next hc =>
    split at h
    · next hret => cases h; exact .answered hc hret
    · cases h
  · cases h

/-- The inversion of the step function: a step that is enabled is one of the transitions of the
client, each with the step of the store that it makes, if it makes one. -/
theorem step_cases {s s' : State N S R} {a : Act N S R} (h : step oasbi source s a = some s') :
    Step oasbi source s a s' := by
  cases a with
  | getToken t target services =>
    simp only [step] at h
    split at h
    · next hc =>
      obtain ⟨store, hstore, rfl⟩ := Option.map_eq_some_iff.mp h
      exact .getToken hc hstore
    · cases h
  | advance t =>
    simp only [step] at h
    split at h
    · next hi =>
      obtain ⟨store, hstore, rfl⟩ := Option.map_eq_some_iff.mp h
      exact .advance hi hstore
    · cases h
  | resolve t nrf =>
    simp only [step] at h
    split at h
    · next hc =>
      obtain ⟨store, hstore, rfl⟩ := Option.map_eq_some_iff.mp h
      exact .resolve hc hstore
    · cases h
  | resume t => exact resume_cases h
  | drop t =>
    simp only [step] at h
    split at h
    · next hi =>
      obtain ⟨store, hstore, rfl⟩ := Option.map_eq_some_iff.mp h
      exact .drop hi hstore
    · cases h
  | store nfConfig =>
    cases h
    exact .store

/-! ## The calls of the store belong to their callers

A call of the client makes a `get` and maybe a `set` of the store. They are numbered by their
caller, so that each call of the store has one caller and the two systems can be looked at side by
side. -/

/-- A `get` and a `set` of the store are never the same call, whoever made them. -/
theorem getCall_ne_setCall (t t' : CallId) : getCall t ≠ setCall t' := by
  show (2 * t : Nat) ≠ 2 * t' + 1
  omega

theorem getCall_ne {t t' : CallId} (h : t' ≠ t) : getCall t' ≠ getCall t := by
  show ¬ (2 * t' : Nat) = 2 * t
  exact fun heq => h (Nat.mul_left_cancel (by decide) heq)

theorem setCall_ne {t t' : CallId} (h : t' ≠ t) : setCall t' ≠ setCall t := by
  show ¬ (2 * t' + 1 : Nat) = 2 * t + 1
  exact fun heq => getCall_ne h (Nat.succ.inj heq)

omit [DecidableEq S] in
/-- A call under way is in its `get` or in its `set`. -/
theorem inner_cases {c : GetToken N S} {t : CallId} {i : TaskId} (h : c.inner t = some i) :
    (∃ target services, c = .getting target services ∧ i = getCall t) ∨
      ∃ auth, c = .setting auth ∧ i = setCall t := by
  cases c with
  | getting target services => cases h; exact Or.inl ⟨target, services, rfl, rfl⟩
  | setting auth => cases h; exact Or.inr ⟨auth, rfl, rfl⟩
  | idle | returned | dropped => cases h

abbrev StoreCall (N S R : Type) := TokenStore.Call (List S) (Token N S R) NrfAuthorizationError

omit [DecidableEq S] in
/-- One call moves, and with it at most the calls of the store that are its own. -/
theorem forall_move {P : CallId → StoreCall N S R → StoreCall N S R → GetToken N S → Prop}
    {store store' : Store N S R} {calls : CallId → GetToken N S} {t : CallId} {c : GetToken N S}
    (h : ∀ t', P t' (store.calls (getCall t')) (store.calls (setCall t')) (calls t'))
    (hother : ∀ i, i ≠ getCall t → i ≠ setCall t → store'.calls i = store.calls i)
    (hc : P t (store'.calls (getCall t)) (store'.calls (setCall t)) c) (t' : CallId) :
    P t' (store'.calls (getCall t')) (store'.calls (setCall t')) (Function.update calls t c t') := by
  rcases update_cases (rfl : Function.update calls t c t' = _) with ⟨rfl, hnew⟩ | ⟨hne, hold⟩
  · rw [← hnew]
    exact hc
  · rw [hother _ (getCall_ne hne) (getCall_ne_setCall t' t),
      hother _ (getCall_ne_setCall t t').symm (setCall_ne hne), ← hold]
    exact h t'

omit [DecidableEq S] in
/-- The calls of the store that are one call's own move, their caller stays where it is. -/
theorem forall_stay {P : CallId → StoreCall N S R → StoreCall N S R → GetToken N S → Prop}
    {store store' : Store N S R} {calls : CallId → GetToken N S} {t : CallId} {c : GetToken N S}
    (h : ∀ t', P t' (store.calls (getCall t')) (store.calls (setCall t')) (calls t'))
    (hother : ∀ i, i ≠ getCall t → i ≠ setCall t → store'.calls i = store.calls i)
    (hcall : calls t = c) (hc : P t (store'.calls (getCall t)) (store'.calls (setCall t)) c)
    (t' : CallId) : P t' (store'.calls (getCall t')) (store'.calls (setCall t')) (calls t') := by
  have hmove := forall_move h hother hc t'
  rw [← hcall, Function.update_eq_self] at hmove
  exact hmove

/-- What the `get` and the `set` of a call are when it stands at the last argument: they are about
its services, and those it has not made yet are idle. -/
def KeyedAt (get set : StoreCall N S R) : GetToken N S → Prop
  | .idle => get = .idle ∧ set = .idle
  | .getting _ services => get.op = some (.get, services) ∧ set = .idle
  | .setting auth => (∃ key, get = .getReturned key (.ok none)) ∧
      set.op = some (.set, auth.targetServiceName)
  | _ => True

def Keyed (s : State N S R) : Prop :=
  ∀ t, KeyedAt (s.nfTokenStore.calls (getCall t)) (s.nfTokenStore.calls (setCall t)) (s.calls t)

section Owned

omit [DecidableEq S]

variable {s : State N S R} {t : CallId}

/-- A call in its `get` has made it for its own services, and no `set` yet. -/
theorem Keyed.of_getting (h : Keyed s) {target : N} {services : List S}
    (hc : s.calls t = .getting target services) :
    (s.nfTokenStore.calls (getCall t)).op = some (.get, services) ∧
      s.nfTokenStore.calls (setCall t) = .idle := by
  have howned := h t
  rw [hc] at howned
  exact howned

/-- A call in its `set` has made it for its own services, after a `get` that found nothing. -/
theorem Keyed.of_setting (h : Keyed s) {auth : Authentication N S}
    (hc : s.calls t = .setting auth) :
    (∃ key, s.nfTokenStore.calls (getCall t) = .getReturned key (.ok none)) ∧
      (s.nfTokenStore.calls (setCall t)).op = some (.set, auth.targetServiceName) := by
  have howned := h t
  rw [hc] at howned
  exact howned

end Owned

/-- Every step keeps the calls of the store with their callers: a step moves one call, and with it
the calls of the store that are its own. -/
theorem Keyed.step {s s' : State N S R} {a : Act N S R} (h : Keyed s)
    (hstep : Step oasbi source s a s') : Keyed s' := by
  cases hstep with
  | @getToken t target services store hc hstore =>
    have hstore := TokenStore.step_cases hstore
    have hidle := h t
    rw [hc] at hidle
    have hset : store.calls (setCall t) = .idle :=
      (hstore.calls_other (getCall_ne_setCall t t).symm).trans hidle.2
    cases hstore with
    | get =>
      exact forall_move h (fun i hi _ => Function.update_of_ne hi ..)
        ⟨congrArg TokenStore.Call.op (TokenStore.setCall_calls_self ..), hset⟩
  | @advance t i store hi hstore =>
    have hstore := TokenStore.step_cases hstore
    have hop := hstore.op_eq (Or.inl ⟨_, rfl⟩)
    rcases inner_cases hi with ⟨target, services, hc, rfl⟩ | ⟨auth, hc, rfl⟩
    · exact forall_stay h (fun j hj _ => hstore.calls_other hj) hc ⟨(hop _).trans (h.of_getting hc).1,
        (hstore.calls_other (getCall_ne_setCall t t).symm).trans (h.of_getting hc).2⟩
    · refine forall_stay h (fun j _ hj => hstore.calls_other hj) hc ?_
      rw [show (s.withStore store).nfTokenStore.calls (getCall t) = _ from
        hstore.calls_other (getCall_ne_setCall t t)]
      exact ⟨(h.of_setting hc).1, (hop _).trans (h.of_setting hc).2⟩
  | @resolve t nrf auth store hc hstore =>
    have hstore := TokenStore.step_cases hstore
    have hop := hstore.op_eq (Or.inr ⟨_, _, rfl⟩)
    refine forall_stay h (fun j _ hj => hstore.calls_other hj) hc ?_
    rw [show (s.withStore store).nfTokenStore.calls (getCall t) = _ from
      hstore.calls_other (getCall_ne_setCall t t)]
    exact ⟨(h.of_setting hc).1, (hop _).trans (h.of_setting hc).2⟩
  | @request t target services key store hc hret hstore =>
    have hstore := TokenStore.step_cases hstore
    have hget : store.calls (getCall t) = .getReturned key (.ok none) :=
      (hstore.calls_other (getCall_ne_setCall t t)).trans hret
    cases hstore with
    | set =>
      exact forall_move h (fun i _ hi => Function.update_of_ne hi ..)
        ⟨⟨key, hget⟩, congrArg TokenStore.Call.op (TokenStore.setCall_calls_self ..)⟩
  | found | readFailed | answered => exact forall_move h (fun _ _ _ => rfl) trivial
  | @drop t i store hi hstore =>
    refine forall_move h (fun j hget hset => (TokenStore.step_cases hstore).calls_other ?_) trivial
    rcases inner_cases hi with ⟨_, _, _, rfl⟩ | ⟨_, _, rfl⟩
    · exact hget
    · exact hset
  | store => exact h

theorem keyed_of_run {as : List (Act N S R)} {s : State N S R}
    (run : (tokenSystem R oasbi source).Run as s) : Keyed s :=
  run.invariant (fun _ => ⟨rfl, rfl⟩) fun _ _ _ _ _ h _ hstep => h.step (step_cases hstep)

/-! ## The store runs as a store

What was proved of the store alone holds of the store inside the client, since the client does
nothing to it but by its calls. -/

/-- A step of the client is a step of its store or leaves it alone, and a future of the store
resolves to what the request was answered with. The value of a token is thus the one that the NRF
has granted to this very request. -/
theorem Step.store_cases {s s' : State N S R} {a : Act N S R} (h : Step oasbi source s a s') :
    s'.nfTokenStore = s.nfTokenStore ∨
      ∃ b, TokenStore.step s.nfTokenStore b = some s'.nfTokenStore ∧
        ∀ i res, b = .resolve i res → ∃ t auth nrf, a = .resolve t nrf ∧ i = setCall t ∧
          s.calls t = .setting auth ∧
          res = (authenticaionRequest oasbi auth nrf).map fun rsp => ⟨rsp, auth⟩ := by
  cases h with
  | getToken hc hstore => exact Or.inr ⟨_, hstore, nofun⟩
  | advance hi hstore => exact Or.inr ⟨_, hstore, nofun⟩
  | @resolve t nrf auth store hc hstore =>
    refine Or.inr ⟨_, hstore, fun i res heq => ?_⟩
    cases heq
    exact ⟨t, auth, nrf, rfl, rfl, hc, rfl⟩
  | request hc hret hstore => exact Or.inr ⟨_, hstore, nofun⟩
  | drop hi hstore => exact Or.inr ⟨_, hstore, nofun⟩
  | found | readFailed | answered | store => exact Or.inl rfl

/-- The store of a client has been run as a store, by some schedule; so its entries are accounted
for. -/
theorem sourced_of_tokens {as : List (Act N S R)} {s : State N S R}
    (run : (tokenSystem R oasbi source).Run as s) : ∃ bs, TokenStore.Sourced bs s.nfTokenStore := by
  have hrun : ∃ bs, (TokenStore.system _ _ _).Run bs s.nfTokenStore := by
    refine run.invariant (P := fun s => ∃ bs, (TokenStore.system _ _ _).Run bs s.nfTokenStore)
      ⟨[], .nil⟩ ?_
    intro as s a s' _ ⟨bs, hbs⟩ _ hstep
    rcases (step_cases hstep).store_cases with heq | ⟨b, hb, -⟩
    · rw [heq]
      exact ⟨bs, hbs⟩
    · exact ⟨_, .snoc hbs trivial hb⟩
  obtain ⟨bs, hbs⟩ := hrun
  exact ⟨bs, TokenStore.sourced_of_run hbs⟩

end UnifyAir.Nrf
