import UnifyAir.AppContext
import UnifyAir.Text.Hex

/-!
# UnifyAir — the instance id after a registration

`register_nf` of `app/src/lib.rs`. The id of this NF is kept twice: the app context has the one
it registers under, the NRF client the one it deregisters and asks for tokens with. When the NRF
assigns an id, `register_nf_instance` stores it in the client, and `register_nf` commits it to the
app context only if it is the id that is there already.

* **`one_identity_iff_not_reassigned`** — after a registration the two agree, exactly when the NRF
  has assigned no other id.
* **`two_identities`** — a Location with another id.
-/

namespace UnifyAir.OmniPath

open AppContext (AppContextInner)
open Nrf

/-- The text of a `ModelBuildError`. -/
abbrev ModelBuildError := String

/-- `NrfError`. -/
inductive NrfError where
  | modelBuildError (err : ModelBuildError)
  | nrfManagementError (err : NrfManagementError)
  deriving DecidableEq, Repr

/-- `OmniPathApp`: the `nf_config` of its NRF client, and its app context. -/
structure OmniPathApp where
  nrfClient : NfConfig
  appContext : AppContextInner
  deriving DecidableEq, Repr

variable (fromStr : List Char → Option NfInstanceId)

/-- The end of `register_nf`, with the id that `register_nf_instance` has returned. -/
def commitId (app : OmniPathApp) (instanceId : Option NfInstanceId) : OmniPathApp :=
  match instanceId with
  | some nfId =>
    if nfId = app.appContext.getNfId then
      { app with appContext := app.appContext.commitConfig fun config => { config with nfId } }
    else app
  | none => app

/-- `register_nf`. `nfProfile` is what `build_nf_profile` gives; the profile itself only goes to
the NRF. -/
def registerNf (app : OmniPathApp) (nfProfile : Except ModelBuildError Unit)
    (exchange : Exchange RegisterNfInstanceResponse) : Except NrfError Unit × OmniPathApp :=
  match nfProfile with
  | .error err => (.error (.modelBuildError err), app)
  | .ok () =>
    let nfInstanceId := app.appContext.getNfId
    match registerNfInstance fromStr app.nrfClient nfInstanceId exchange with
    | (.error err, nrfClient) =>
      (.error (.nrfManagementError err), { app with nrfClient })
    | (.ok (_, instanceId), nrfClient) => (.ok (), commitId { app with nrfClient } instanceId)

/-- The app context and the NRF client have one id. -/
def OmniPathApp.OneIdentity (app : OmniPathApp) : Prop :=
  app.appContext.getNfId = app.nrfClient.nfInstanceId

/-- The NRF answers a registration that could be sent with an id other than the requested one. -/
def Reassigned (app : OmniPathApp) (nfProfile : Except ModelBuildError Unit)
    (exchange : Exchange RegisterNfInstanceResponse) : Prop :=
  nfProfile = .ok () ∧ ∃ status body location nfId,
    exchange = .ok (status, .status201 body location) ∧
    locationId fromStr location = .ok nfId ∧ nfId ≠ app.appContext.getNfId

/-- The commit changes nothing: it is made only when there is nothing to change. -/
theorem commitId_eq (app : OmniPathApp) (instanceId : Option NfInstanceId) :
    commitId app instanceId = app := by
  unfold commitId
  split
  · -- the id is committed only if it is the present one
    split
    · next nfId hid => subst hid; rfl
    · rfl
  · rfl

variable {fromStr}

/-- What `registered` has found in an answer that it takes: no id, or the id at the end of a
Location. -/
theorem registered_eq_ok {status : UInt16} {response : RegisterNfInstanceResponse}
    {nf : NfProfile} {id : Option NfInstanceId}
    (h : registered fromStr status response = .ok (nf, id)) :
    (response = .status200 nf ∧ id = none) ∨ ∃ location nfId, response = .status201 nf location ∧
      locationId fromStr location = .ok nfId ∧ id = some nfId := by
  -- an update has no Location, a creation must have one
  cases response with
  | status200 body => cases h; exact Or.inl ⟨rfl, rfl⟩
  | status201 body location =>
    simp only [registered] at h
    cases hid : locationId fromStr location with
    | error err => rw [hid] at h; cases h
    | ok nfId => rw [hid] at h; cases h; exact Or.inr ⟨location, nfId, rfl, hid, rfl⟩
  | problem | other => cases h

/-- What `register_nf` does when it returns `Ok`. The profile was built, the exchange came to an
answer, and the answer is a success; the two ids it leaves are read off the answer. -/
theorem registerNf_ok {app : OmniPathApp} {nfProfile : Except ModelBuildError Unit}
    {exchange : Exchange RegisterNfInstanceResponse}
    (h : (registerNf fromStr app nfProfile exchange).1 = .ok ()) :
    nfProfile = .ok () ∧ ∃ status response nf id, exchange = .ok (status, response) ∧
      registered fromStr status response = .ok (nf, id) ∧
      (registerNf fromStr app nfProfile exchange).2 =
        { app with nrfClient := .ofAnswer app.appContext.getNfId nf id } := by
  -- the three things that may fail, in the order of the source
  cases nfProfile with
  | error err => cases h
  | ok =>
    refine ⟨rfl, ?_⟩
    simp only [registerNf, registerNfInstance] at h ⊢
    cases exchange with
    | error err => cases h
    | ok answer =>
      obtain ⟨status, response⟩ := answer
      simp only at h ⊢
      cases hres : registered fromStr status response with
      | error err => rw [hres] at h; cases h
      | ok res =>
        obtain ⟨nf, id⟩ := res
        exact ⟨status, response, nf, id, rfl, hres, commitId_eq _ id⟩

/-- **One identity, exactly unless it was reassigned.** Whatever the NRF answers and whatever the
state before: if `register_nf` returns `Ok` then the app context and the NRF client have one id,
if and only if the NRF has not assigned another id than the requested one. -/
theorem one_identity_iff_not_reassigned (fromStr : List Char → Option NfInstanceId)
    (app : OmniPathApp) (nfProfile : Except ModelBuildError Unit)
    (exchange : Exchange RegisterNfInstanceResponse) :
    ((registerNf fromStr app nfProfile exchange).1 = .ok () →
      (registerNf fromStr app nfProfile exchange).2.OneIdentity) ↔
    ¬ Reassigned fromStr app nfProfile exchange := by
  constructor
  · -- an id that differs from the requested one is taken on by the client alone
    rintro hone ⟨rfl, status, body, location, nfId, rfl, hid, hne⟩
    have hres : registered fromStr status (.status201 body location) = .ok (body, some nfId) := by
      simp [registered, hid, Except.map]
    have hreg : registerNf fromStr app (.ok ()) (.ok (status, .status201 body location)) =
        (.ok (), { app with nrfClient := .ofAnswer app.appContext.getNfId body (some nfId) }) := by
      simp [registerNf, registerNfInstance, hres, commitId_eq]
    rw [hreg] at hone
    exact hne (hone rfl).symm
  · intro hno hok
    obtain ⟨hprofile, status, response, nf, id, hex, hres, hafter⟩ := registerNf_ok hok
    rw [hafter]
    rcases registered_eq_ok hres with ⟨-, rfl⟩ | ⟨location, nfId, rfl, hid, rfl⟩
    · rfl
    · by_contra hne
      exact hno ⟨hprofile, status, nf, location, nfId, hex, hid, fun heq => hne heq.symm⟩

/-- `Uuid::from_str` on a text in the simple form, 32 hex digits. -/
def simpleUuid (text : List Char) : Option NfInstanceId :=
  if text.length = 32 then (Hex.value text).map (BitVec.ofNat 128) else none

/-- The app with the id 7, before it registers. -/
def freshApp : OmniPathApp := ⟨.default, AppContext.emptyContext⟩

def nrfProfile : NfProfile := ⟨some 60, fun _ => none⟩

/-- The NRF has created a resource for the id 9. -/
def createdNine : Exchange RegisterNfInstanceResponse :=
  .ok (201, .status201 nrfProfile (['/', 'n', 'f', '/'] ++ List.replicate 31 '0' ++ ['9']))

/-- `register_nf` returns `Ok` and leaves the app context with the id it had. The NRF knows the NF
under another one, which only the client has. -/
theorem two_identities :
    (registerNf simpleUuid freshApp (.ok ()) createdNine).1 = .ok () ∧
      (registerNf simpleUuid freshApp (.ok ()) createdNine).2.appContext.getNfId = 7 ∧
      (registerNf simpleUuid freshApp (.ok ()) createdNine).2.nrfClient.nfInstanceId = 9 ∧
      ¬ (registerNf simpleUuid freshApp (.ok ()) createdNine).2.OneIdentity := by
  refine ⟨by decide, by decide, by decide, ?_⟩
  show ¬ _ = _
  decide

end UnifyAir.OmniPath
