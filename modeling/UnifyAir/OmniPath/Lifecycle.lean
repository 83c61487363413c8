import UnifyAir.OmniPath.Identity

/-!
# UnifyAir — one run of an NF

`NfApp::run` of `lightning-cli/src/nf_type.rs` with the `OmniPathApp`. After `initialize`, a
`select!` runs the registration followed by `start` on one side and waits for a termination
signal on the other. Whichever comes first, the other is dropped, and `deregister_nf` follows.

A step is what the run does between two `await`s. How each part turns out, when the signal comes,
and what the NRF does with a request is in the action; `Main` says how far the side of the
`select!` with the registration has come, which the signal can drop at any of its `await`s.

`registrations`, `accepted` and `deregistrations` are histories: the ids in the registration
requests sent, the ids for which the NRF has accepted one, and the ids in the deregistration
requests sent. The NRF answers a registration with success only under an id it has accepted.
-/

namespace UnifyAir.OmniPath

open Concurrency
open AppContext (AppContextInner)
open Nrf

/-- `OmniPathError`. -/
inductive OmniPathError where
  | configError
  | nrfError (err : NrfError)
  | ngapNetworkError
  | globalAppContextSetError
  deriving DecidableEq, Repr

/-- `NfError<OmniPathError>`. -/
inductive NfError where
  | initializationFailedError (err : OmniPathError)
  | runtimeError (err : OmniPathError)
  | shutdownDeregistrationFailedError (err : OmniPathError)
  | runtimeWithDeregistrationError (err dregErr : OmniPathError)
  deriving DecidableEq, Repr

/-- How far the registration and `start` have come. -/
inductive Main where
  -- about to build the profile and the request
  | registering
  -- awaits the answer of the NRF
  | inFlight
  -- registered, awaits `start`
  | starting
  deriving DecidableEq, Repr

/-- How the `select!` has ended. -/
inductive Ended where
  | signalled
  | finished (res : Except OmniPathError Unit)
  deriving DecidableEq, Repr

/-- Where a run stands. -/
inductive Run where
  | initializing
  | selecting (main : Main)
  -- `deregister_nf_instance`: about to build the request
  | deregistering (ended : Ended)
  -- awaits the token for it
  | authorizing (ended : Ended) (nfInstanceId : NfInstanceId)
  -- has sent it, awaits the answer of the NRF
  | deregisterInFlight (ended : Ended)
  | returned (res : Except NfError Unit)
  deriving DecidableEq, Repr

structure State where
  app : OmniPathApp
  run : Run
  -- `register_nf` has returned `Ok`
  registered : Bool
  registrations : List NfInstanceId
  accepted : List NfInstanceId
  deregistrations : List NfInstanceId

/-- Before `initialize`, which is going to make the app context `ctx` and a new NRF client. -/
def State.new (ctx : AppContextInner) : State where
  app := ⟨.default, ctx⟩
  run := .initializing
  registered := false
  registrations := []
  accepted := []
  deregistrations := []

inductive Act where
  | initialized (res : Except OmniPathError Unit)
  -- the registration request is built and sent
  | register (res : Except NrfError Unit)
  -- the NRF accepts a registration, under this id
  | accept (nfInstanceId : NfInstanceId)
  | answer (exchange : Exchange RegisterNfInstanceResponse)
  | started (res : Except OmniPathError Unit)
  | signal
  -- the deregistration request is built
  | deregister (res : Except NrfError Unit)
  | authorize (res : Except NrfError Unit)
  | deregistered (res : Except NrfError Unit)

/-- The end of `run`. -/
def result : Ended → Except OmniPathError Unit → Except NfError Unit
  | .signalled, dregRes => dregRes.mapError .shutdownDeregistrationFailedError
  | .finished (.ok ()), .error dregErr => .error (.shutdownDeregistrationFailedError dregErr)
  | .finished (.error err), .ok () => .error (.runtimeError err)
  | .finished (.error err), .error dregErr => .error (.runtimeWithDeregistrationError err dregErr)
  | .finished (.ok ()), .ok () => .ok ()

variable (fromStr : List Char → Option NfInstanceId)

/-- The id under which an answer to a registration says the NRF has accepted it. -/
def acceptedAs (requested : NfInstanceId) : Exchange RegisterNfInstanceResponse → Option NfInstanceId
  | .ok (_, .status200 _) => some requested
  | .ok (_, .status201 _ location) => (locationId fromStr location).toOption
  | _ => none

namespace State

/-- The end of `deregister_nf`. -/
def finish (s : State) (ended : Ended) (res : Except NrfError Unit) : State :=
  { s with run := .returned (result ended (res.mapError .nrfError)) }

/-- The registration request goes out. -/
def sendRegistration (s : State) : State :=
  { s with
    run := .selecting .inFlight
    registrations := s.registrations ++ [s.app.appContext.getNfId] }

/-- The rest of `register_nf`, with the answer. -/
def onAnswer (s : State) (exchange : Exchange RegisterNfInstanceResponse) : State :=
  match registerNf fromStr s.app (.ok ()) exchange with
  | (.ok (), app) => { s with app, run := .selecting .starting, registered := true }
  | (.error err, app) =>
    { s with app, run := .deregistering (.finished (.error (.nrfError err))) }

/-- The deregistration request goes out. -/
def sendDeregistration (s : State) (ended : Ended) (nfInstanceId : NfInstanceId) : State :=
  { s with
    run := .deregisterInFlight ended
    deregistrations := s.deregistrations ++ [nfInstanceId] }

/-- `get_nf_id` and `set_auth_token` of `deregister_nf_instance`. -/
def onDeregister (s : State) (ended : Ended) : State :=
  let nfInstanceId := s.app.nrfClient.nfInstanceId
  if s.app.nrfClient.oauthEnabled then { s with run := .authorizing ended nfInstanceId }
  else s.sendDeregistration ended nfInstanceId

end State

/-- One step of the system. -/
def step (s : State) : Act → Option State
  | .initialized res => match s.run with
    | .initializing => match res with
      | .ok () => some { s with run := .selecting .registering }
      | .error err => some { s with run := .returned (.error (.initializationFailedError err)) }
    | _ => none
  | .register res => match s.run with
    | .selecting .registering => match res with
      | .ok () => some s.sendRegistration
      | .error err =>
        some { s with run := .deregistering (.finished (.error (.nrfError err))) }
    | _ => none
  | .accept nfInstanceId =>
    if s.registrations = [] then none
    else some { s with accepted := s.accepted ++ [nfInstanceId] }
  | .answer exchange => match s.run with
    | .selecting .inFlight =>
      if (acceptedAs fromStr s.app.appContext.getNfId exchange).all (s.accepted.contains ·) then
        some (s.onAnswer fromStr exchange)
      else none
    | _ => none
  | .started res => match s.run with
    | .selecting .starting => some { s with run := .deregistering (.finished res) }
    | _ => none
  | .signal => match s.run with
    | .selecting _ => some { s with run := .deregistering .signalled }
    | _ => none
  | .deregister res => match s.run with
    | .deregistering ended => match res with
      | .ok () => some (s.onDeregister ended)
      | .error err => some (s.finish ended (.error err))
    | _ => none
  | .authorize res => match s.run with
    | .authorizing ended nfInstanceId => match res with
      | .ok () => some (s.sendDeregistration ended nfInstanceId)
      | .error err => some (s.finish ended (.error err))
    | _ => none
  | .deregistered res => match s.run with
    | .deregisterInFlight ended => some (s.finish ended res)
    | _ => none

/-- A run of `NfApp::run` for an `OmniPathApp`. -/
def system (ctx : AppContextInner) : System State Act where
  init := .new ctx
  step := step fromStr

/-! ## What one step can do

The step function again as an inductive relation, with one case for every branch of `run` and of
`deregister_nf`. -/

/-- The transitions of the system. -/
inductive Step (s : State) : Act → State → Prop where
  | initialized (hrun : s.run = .initializing) :
      Step s (.initialized (.ok ())) { s with run := .selecting .registering }
  | initializeFailed {err : OmniPathError} (hrun : s.run = .initializing) :
      Step s (.initialized (.error err))
        { s with run := .returned (.error (.initializationFailedError err)) }
  | register (hrun : s.run = .selecting .registering) :
      Step s (.register (.ok ())) s.sendRegistration
  | registerFailed {err : NrfError} (hrun : s.run = .selecting .registering) :
      Step s (.register (.error err))
        { s with run := .deregistering (.finished (.error (.nrfError err))) }
  | accept {nfInstanceId : NfInstanceId} (hsent : s.registrations ≠ []) :
      Step s (.accept nfInstanceId) { s with accepted := s.accepted ++ [nfInstanceId] }
  | answer {exchange : Exchange RegisterNfInstanceResponse} (hrun : s.run = .selecting .inFlight)
      (haccepted : ∀ id ∈ acceptedAs fromStr s.app.appContext.getNfId exchange, id ∈ s.accepted) :
      Step s (.answer exchange) (s.onAnswer fromStr exchange)
  | started {res : Except OmniPathError Unit} (hrun : s.run = .selecting .starting) :
      Step s (.started res) { s with run := .deregistering (.finished res) }
  | signal {main : Main} (hrun : s.run = .selecting main) :
      Step s .signal { s with run := .deregistering .signalled }
  | deregister {ended : Ended} (hrun : s.run = .deregistering ended) :
      Step s (.deregister (.ok ())) (s.onDeregister ended)
  | deregisterFailed {ended : Ended} {err : NrfError} (hrun : s.run = .deregistering ended) :
      Step s (.deregister (.error err)) (s.finish ended (.error err))
  | authorize {ended : Ended} {nfInstanceId : NfInstanceId}
      (hrun : s.run = .authorizing ended nfInstanceId) :
      Step s (.authorize (.ok ())) (s.sendDeregistration ended nfInstanceId)
  | authorizeFailed {ended : Ended} {nfInstanceId : NfInstanceId} {err : NrfError}
      (hrun : s.run = .authorizing ended nfInstanceId) :
      Step s (.authorize (.error err)) (s.finish ended (.error err))
  | deregistered {ended : Ended} {res : Except NrfError Unit}
      (hrun : s.run = .deregisterInFlight ended) :
      Step s (.deregistered res) (s.finish ended res)

variable {fromStr}

/-- The inversion of the step function. The steps follow the program: `initialize`, the registration
and the start of the AMF beside the signal, the end of the `select!`, the deregistration with its
token. -/
theorem step_cases {s s' : State} {a : Act} (h : step fromStr s a = some s') :
    Step fromStr s a s' := by
  cases a with
  | initialized res =>
    simp only [step] at h
    split at h
    · next hrun =>
      cases res with
      | ok => cases h; exact .initialized hrun
      | error err => cases h; exact .initializeFailed hrun
    · cases h
  | register res =>
    simp only [step] at h
    split at h
    · next hrun =>
      cases res with
      | ok => cases h; exact .register hrun
      | error err => cases h; exact .registerFailed hrun
    · cases h
  | accept id =>
    simp only [step] at h
    split at h
    · cases h
    · next hsent => cases h; exact .accept hsent
  | answer exchange =>
    simp only [step] at h
    split at h
    · next hrun =>
      split at h
      · next haccepted =>
        cases h
        rw [Option.all_eq_true] at haccepted
        exact .answer hrun fun id hid => List.contains_iff_mem.mp (haccepted id hid)
      · cases h
    · cases h
  | started res =>
    simp only [step] at h
    split at h
    · next hrun => cases h; exact .started hrun
    · cases h
  | signal =>
    simp only [step] at h
    split at h
    · next hrun => cases h; exact .signal hrun
    · cases h
  | deregister res =>
    simp only [step] at h
    split at h
    · next hrun =>
      cases res with
      | ok => cases h; exact .deregister hrun
      | error err => cases h; exact .deregisterFailed hrun
    · cases h
  | authorize res =>
    simp only [step] at h
    split at h
    · next hrun =>
      cases res with
      | ok => cases h; exact .authorize hrun
      | error err => cases h; exact .authorizeFailed hrun
    · cases h
  | deregistered res =>
    simp only [step] at h
    split at h
    · next hrun => cases h; exact .deregistered hrun
    · cases h

end UnifyAir.OmniPath
