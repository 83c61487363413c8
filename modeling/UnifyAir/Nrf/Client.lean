import Mathlib.Logic.Function.Basic

/-!
# UnifyAir — registering with the NRF

`utils/client/src/nrf_client.rs`, the management side. `register_nf_instance` puts a profile
under an instance id; the NRF confirms the id (200), or names the one it has assigned at the
end of a Location (201). What the client keeps of the answer is its `NfConfig`.

An exchange with the NRF (the request is prepared and sent, the answer is received and parsed) is
given by its outcome. How the text of a UUID is read is not in this repository; `fromStr` stands
for it, and is arbitrary. A text is the list of its characters.
-/

namespace UnifyAir.Nrf

/-- `NfInstanceId`, a UUID. -/
abbrev NfInstanceId := BitVec 128

/-- `NfInstanceId::default()`, the nil UUID. -/
def NfInstanceId.default : NfInstanceId := 0

abbrev ProblemDetails := String

/-- `serde_json::Value`, as far as the client tells values apart. -/
inductive Value where
  | bool (b : Bool)
  | other
  deriving DecidableEq, Repr

/-- `NfProfile1`, as far as the client reads it in an answer. -/
structure NfProfile where
  heartBeatTimer : Option UInt64
  customInfo : String → Option Value

/-- `NfConfig`. -/
structure NfConfig where
  heartbeatTimer : UInt64
  nfInstanceId : NfInstanceId
  oauthEnabled : Bool
  deriving DecidableEq, Repr

/-- `NfConfig::default()`, before any registration. -/
def NfConfig.default : NfConfig where
  heartbeatTimer := 0
  nfInstanceId := .default
  oauthEnabled := false

/-- `GenericClientError`. -/
inductive GenericClientError where
  -- `prepare_request` fails, so that nothing is sent
  | notPrepared
  -- the request is not executed, or the answer does not parse
  | requestFailed
  | invalidResponse (status : UInt16) (problem : Option ProblemDetails)
  deriving DecidableEq, Repr

/-- `NrfManagementError`. -/
inductive NrfManagementError where
  | invalidLocationSent (location : List Char)
  | locationParseError (location : List Char)
  | genericClientError (err : GenericClientError)
  | nrfAuthorizationError
  deriving DecidableEq, Repr

/-- `RegisterNfInstanceResponse`. -/
inductive RegisterNfInstanceResponse where
  | status200 (body : NfProfile)
  | status201 (body : NfProfile) (location : List Char)
  -- one of the error statuses that come with problem details
  | problem (problem : ProblemDetails)
  | other

/-- What an exchange gives: a status and the parsed answer, or the error before there is one. -/
abbrev Exchange (R : Type) := Except GenericClientError (UInt16 × R)

/-- `location.rfind('/')` and the slice behind it. -/
def lastSegment (location : List Char) : Option (List Char) :=
  if '/' ∈ location then some (location.reverse.takeWhile (· ≠ '/')).reverse else none

/-- The `oauth2` entry of the custom info. -/
def NfProfile.oauth2 (nf : NfProfile) : Bool :=
  match nf.customInfo "oauth2" with
  | some (.bool true) => true
  | _ => false

/-- The `NfConfig` of a registration under `nfInstanceId` that was answered with `nf` and the
assigned id. -/
def NfConfig.ofAnswer (nfInstanceId : NfInstanceId) (nf : NfProfile)
    (id : Option NfInstanceId) : NfConfig where
  heartbeatTimer := nf.heartBeatTimer.getD 0
  nfInstanceId := id.getD nfInstanceId
  oauthEnabled := nf.oauth2

section Register

variable (fromStr : List Char → Option NfInstanceId)

/-- The id that a Location names. -/
def locationId (location : List Char) : Except NrfManagementError NfInstanceId :=
  match lastSegment location with
  | some segment => match fromStr segment with
    | some id => .ok id
    | none => .error (.invalidLocationSent location)
  | none => .error (.locationParseError location)

/-- What `register_nf_instance` makes of an answer. -/
def registered (status : UInt16) :
    RegisterNfInstanceResponse → Except NrfManagementError (NfProfile × Option NfInstanceId)
  | .status200 body => .ok (body, none)
  | .status201 body location => (locationId fromStr location).map fun id => (body, some id)
  | .problem problem => .error (.genericClientError (.invalidResponse status (some problem)))
  | .other => .error (.genericClientError (.invalidResponse status none))

/-- `register_nf_instance`: its result, and the client's `NfConfig` after it. -/
def registerNfInstance (nfConfig : NfConfig) (nfInstanceId : NfInstanceId)
    (exchange : Exchange RegisterNfInstanceResponse) :
    Except NrfManagementError (NfProfile × Option NfInstanceId) × NfConfig :=
  match exchange with
  | .error err => (.error (.genericClientError err), nfConfig)
  | .ok (status, response) => match registered fromStr status response with
    | .error err => (.error err, nfConfig)
    | .ok (nf, id) => (.ok (nf, id), .ofAnswer nfInstanceId nf id)

end Register

example : lastSegment ['/', 'n', 'f', '/', '1', '2'] = some ['1', '2'] := by decide

end UnifyAir.Nrf
