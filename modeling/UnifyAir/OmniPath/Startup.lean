import UnifyAir.AppContext
import UnifyAir.Ngap.Response
import UnifyAir.OmniPath.Identity

/-!
# UnifyAir — from a validated configuration to the NG Setup response

`config/mod.rs`, `lib.rs` and `builder/sbi/nrf.rs` of the app. `SerdeValidated` keeps a configuration
that the rules of its types accept. The start of the AMF takes the first NGAP address of it, the
profile for the NRF the first GUAMI, and the NG Setup response its PLMNs and slices; no rule asks for
an NGAP address.

A function that can panic gives an `Option`, and `none` where it does.

* **`never_panics_iff`** — a validated configuration never makes the AMF panic, exactly when it has
  an NGAP address or its NRF URI is not a URL.
* **`no_ngap_address`** — a configuration with an empty `ngap_ip_list`.
-/

namespace UnifyAir.OmniPath.Startup

open Nrf (NfInstanceId)
open Ngap (Guami PlmnSupportItem Tai)

/-! ## Configurations

The configuration as it is read from the file, with the fields that the start, the profile and the
NG Setup response use. -/

/-- `IpAddr`, by its text. -/
inductive IpAddr where
  | v4 (text : List Char)
  | v6 (text : List Char)
  deriving DecidableEq, Repr

def IpAddr.text : IpAddr → List Char
  | v4 text | v6 text => text

/-- `UriScheme`. -/
inductive UriScheme where
  | http
  | https
  deriving DecidableEq, Repr

def UriScheme.text : UriScheme → List Char
  | http => "http".toList
  | https => "https".toList

/-- `ServiceName`; those of an AMF are told apart. -/
inductive ServiceName where
  | namfComm
  | namfEvts
  | namfMt
  | namfLoc
  | other (name : String)
  deriving DecidableEq, Repr

/-- `SemVer`: its major version, and its text. -/
structure SemVer where
  major : Nat
  text : List Char
  deriving DecidableEq, Repr

structure Info where
  version : SemVer
  description : String
  deriving DecidableEq, Repr

/-- `SCTP`. -/
structure Sctp where
  numOstreams : UInt16
  maxInstreams : UInt16
  maxAttempts : UInt16
  maxInitTimeout : UInt16
  deriving DecidableEq, Repr

/-- `Configuration` of the file. -/
structure Configuration where
  amfName : String
  ngapIpList : List IpAddr
  ngapPort : UInt16
  servedGuamiList : NonEmpty Guami
  supportTaiList : List Tai
  plmnSupportList : NonEmpty PlmnSupportItem
  supportDnnList : List String
  nrfUri : List Char
  sctp : Sctp
  deriving DecidableEq, Repr

structure Sbi where
  scheme : UriScheme
  registerIp : IpAddr
  bindingIp : IpAddr
  port : UInt16
  serviceNameList : List ServiceName
  deriving DecidableEq, Repr

/-- `OmniPathConfig`. -/
structure OmniPathConfig where
  info : Info
  configuration : Configuration
  sbi : Sbi
  deriving DecidableEq, Repr

/-! ## Validation

The rules of the two `#[validate]` types and the wrapper that runs them. A validated configuration
carries the proof that no rule has found anything. -/

/-- What a rule finds wrong with a field. -/
inductive ValidationError where
  | minItems (field : String) (min : Nat)
  -- not all elements of the one list are present in the other
  | custom (field : String) (val enumerate : List ServiceName)
  deriving DecidableEq, Repr

/-- `#[validate(min_items = ..)]`. -/
def minItems {α : Type} (field : String) (min : Nat) (list : List α) : List ValidationError :=
  if min ≤ list.length then [] else [.minItems field min]

/-- `enum_list`. -/
def enumList (field : String) (enumerate val : List ServiceName) : List ValidationError :=
  if val.all (enumerate.contains ·) then [] else [.custom field val enumerate]

def Configuration.validate (config : Configuration) : List ValidationError :=
  minItems "support_tai_list" 1 config.supportTaiList ++
    minItems "support_dnn_list" 1 config.supportDnnList

def Sbi.validate (sbi : Sbi) : List ValidationError :=
  minItems "service_name_list" 1 sbi.serviceNameList ++
    enumList "service_name_list" [.namfComm, .namfEvts, .namfMt, .namfLoc] sbi.serviceNameList

def OmniPathConfig.validate (config : OmniPathConfig) : List ValidationError :=
  config.configuration.validate ++ config.sbi.validate

/-- `SerdeValidated<OmniPathConfig>`. -/
structure SerdeValidated where
  inner : OmniPathConfig
  valid : inner.validate = []

/-- `SerdeValidated::new`. -/
def SerdeValidated.new (value : OmniPathConfig) : Except (List ValidationError) SerdeValidated :=
  if h : value.validate = [] then .ok ⟨value, h⟩ else .error value.validate

/-! ## The app context

What is made of a validated configuration. Lists are taken over as they are. -/

/-- `NfServiceVersion`. -/
structure NfServiceVersion where
  apiFullVersion : List Char
  apiVersionInUri : List Char
  deriving DecidableEq, Repr

/-- `IpEndPoint`, over TCP. -/
structure IpEndPoint where
  ipv4Address : Option (List Char)
  ipv6Address : Option (List Char)
  deriving DecidableEq, Repr

/-- `NfService1`, of a registered service. -/
structure NfService1 where
  apiPrefix : Option (List Char)
  serviceInstanceId : List Char
  serviceName : ServiceName
  versions : List NfServiceVersion
  scheme : UriScheme
  ipEndPoints : List IpEndPoint
  deriving DecidableEq, Repr

/-- `Configuration` of the app context. -/
structure AppConfiguration extends shared : AppContext.Configuration where
  ngapIps : List IpAddr
  ngapPort : UInt16
  supportDnnList : List String
  tnlWeightFactor : UInt64
  nfServices : List NfService1
  deriving DecidableEq, Repr

/-- `get_ip_uri`. -/
def Sbi.getIpUri (sbi : Sbi) : List Char :=
  sbi.scheme.text ++ "://".toList ++ sbi.registerIp.text ++ ':' :: Nat.toDigits 10 sbi.port.toNat

/-- `build_nf_services`. -/
def buildNfServices (config : OmniPathConfig) : List NfService1 :=
  config.sbi.serviceNameList.mapIdx fun i serviceName =>
    { apiPrefix := some config.sbi.getIpUri
      serviceInstanceId := Nat.toDigits 10 i
      serviceName
      versions := [⟨config.info.version.text, 'v' :: Nat.toDigits 10 config.info.version.major⟩]
      scheme := config.sbi.scheme
      ipEndPoints := match config.sbi.registerIp with
        | .v4 v4 => [⟨some v4, none⟩]
        | .v6 v6 => [⟨none, some v6⟩] }

/-- `Configuration::new`, with the id that `Uuid::new_v4` gives. -/
def AppConfiguration.new (nfId : NfInstanceId) (validConfig : SerdeValidated) :
    AppConfiguration where
  name := validConfig.inner.configuration.amfName
  nfId := nfId
  ngapIps := validConfig.inner.configuration.ngapIpList
  ngapPort := validConfig.inner.configuration.ngapPort
  servedGuamiList := validConfig.inner.configuration.servedGuamiList
  supportDnnList := validConfig.inner.configuration.supportDnnList
  supportTaiList := validConfig.inner.configuration.supportTaiList
  plmnSupportList := validConfig.inner.configuration.plmnSupportList
  tnlWeightFactor := 0
  nfServices := buildNfServices validConfig.inner

/-- `AppContextInner`. -/
structure AppContextInner where
  config : AppConfiguration
  sbi : Sbi
  deriving DecidableEq, Repr

/-- `AppContext::initialize`. -/
def AppContextInner.new (nfId : NfInstanceId) (config : SerdeValidated) : AppContextInner where
  config := .new nfId config
  sbi := config.inner.sbi

/-! ## The start

`OmniPathApp::new` reads the NRF URI, validates, and then indexes the NGAP addresses. The index is
the one place where it can panic. -/

/-- The texts of errors from below. -/
abbrev ErrorText := String

/-- `OmniPathConfigError`. -/
inductive OmniPathConfigError where
  | invalidNrfUriError (err : ErrorText) (nrfUri : List Char)
  | invalidConfig (errors : List ValidationError)
  | clientBuildError (err : ErrorText)
  deriving DecidableEq, Repr

/-- `OmniPathError`, as far as the start goes. -/
inductive OmniPathError where
  | configError (err : OmniPathConfigError)
  | ngapNetworkError (err : ErrorText)
  | globalAppContextSetError
  deriving DecidableEq, Repr

/-- What the start asks of its surroundings: an HTTP client, a socket for the address, the place of
the global app context, and an id. -/
structure Surroundings where
  createNrfClient : Except ErrorText Unit
  network : IpAddr → UInt16 → Sctp → Except ErrorText Unit
  setAppContext : Except ErrorText Unit
  nfId : NfInstanceId

section Start

variable {U : Type} (parseUrl : List Char → Except ErrorText U)

/-- `OmniPathApp::initialize`; of the app that it makes, its app context. -/
def OmniPathApp.new (io : Surroundings) (config : OmniPathConfig) :
    Option (Except OmniPathError AppContextInner) :=
  match parseUrl config.configuration.nrfUri with
  | .error err =>
    some (.error (.configError (.invalidNrfUriError err config.configuration.nrfUri)))
  | .ok _ => match io.createNrfClient with
    | .error err => some (.error (.configError (.clientBuildError err)))
    | .ok () => match SerdeValidated.new config with
      | .error errors => some (.error (.configError (.invalidConfig errors)))
      | .ok validConfig =>
        let appContext := AppContextInner.new io.nfId validConfig
        -- the index panics on an empty list
        match appContext.config.ngapIps[0]? with
        | none => none
        | some ngapIp =>
          match io.network ngapIp appContext.config.ngapPort
              validConfig.inner.configuration.sctp with
          | .error err => some (.error (.ngapNetworkError err))
          | .ok () => match io.setAppContext with
            | .error _ => some (.error .globalAppContextSetError)
            | .ok () => some (.ok appContext)

end Start

/-! ## The profile

`build_nf_profile` indexes as well, but into a `NonEmpty`, which has a first element by its type. -/

/-- Indexing a `NonEmpty`. -/
def index {α : Type} (l : NonEmpty α) : Nat → Option α
  | 0 => some l.head
  | i + 1 => l.tail[i]?

inductive NfType where
  | amf
  deriving DecidableEq, Repr

inductive NfStatus where
  | registered
  deriving DecidableEq, Repr

structure AmfInfo where
  amfRegionId : UInt8
  amfSetId : UInt16
  guamiList : List Guami
  taiList : List Tai
  deriving DecidableEq, Repr

/-- `NfProfile1Unchecked`, without what stays at its default. -/
structure NfProfile1 where
  nfInstanceId : NfInstanceId
  nfType : NfType
  nfStatus : NfStatus
  amfInfo : Option AmfInfo
  plmnList : List PlmnId
  nfServices : List NfService1
  ipv4Addresses : List (List Char)
  ipv6Addresses : List (List Char)
  deriving DecidableEq, Repr

/-- `build_nf_profile`, with the check of `try_into`. -/
def AppContextInner.buildNfProfile (check : NfProfile1 → Except ModelBuildError Unit)
    (ctx : AppContextInner) : Option (Except ModelBuildError NfProfile1) := do
  let amfId := (← index ctx.config.servedGuamiList 0).amfId
  let amfInfo := {
    amfRegionId := amfId.regionId
    amfSetId := amfId.setId
    guamiList := ctx.config.servedGuamiList.toList
    taiList := ctx.config.supportTaiList }
  let (ipv4Addresses, ipv6Addresses) := match ctx.sbi.registerIp with
    | .v4 v4 => ([v4], [])
    | .v6 v6 => ([], [v6])
  let nfProfile := {
    nfInstanceId := ctx.config.nfId
    nfType := .amf
    nfStatus := .registered
    amfInfo := some amfInfo
    plmnList := ctx.config.plmnSupportList.toList.map (·.plmnId)
    nfServices := ctx.config.nfServices
    ipv4Addresses, ipv6Addresses }
  return (check nfProfile).map fun _ => nfProfile

/-! ## No panic

The three places together. The start is the only one that needs anything of a configuration; with it
the other two are total. -/

/-- What the types of `oasbi` promise: MCCs, MNCs and SDs have the digits that they should have. -/
structure Configuration.Typed (config : Configuration) : Prop where
  guami : ∀ guami ∈ config.servedGuamiList.toList, guami.plmnId.Valid
  plmnSupport : ∀ item ∈ config.plmnSupportList.toList, item.Valid

variable {U : Type}

/-- The AMF with this configuration never panics: not while it starts, and then neither when it
builds its profile nor when it answers an NG Setup request. -/
structure NeverPanics (parseUrl : List Char → Except ErrorText U) (hexDecode : HexDecode)
    (config : OmniPathConfig) : Prop where
  start : ∀ io, OmniPathApp.new parseUrl io config ≠ none
  profile : ∀ io ctx, OmniPathApp.new parseUrl io config = some (.ok ctx) →
    ∀ check, ctx.buildNfProfile check ≠ none
  ngSetup : ∀ io ctx, OmniPathApp.new parseUrl io config = some (.ok ctx) →
    ∀ (G : Type) (gnbContexts : G → Option (Ngap.GnbContext G)) request,
      Ngap.handleRequestNgap hexDecode gnbContexts ctx.config.toConfiguration request ≠ none

theorem new_eq_ok (validConfig : SerdeValidated) :
    SerdeValidated.new validConfig.inner = .ok validConfig := dif_pos validConfig.valid

/-- The start panics only at the index. Everything before that returns an error where it fails, and
it is reached only with an NRF URI that is a URL. -/
theorem start_panics {parseUrl : List Char → Except ErrorText U} {io : Surroundings}
    {config : OmniPathConfig} (h : OmniPathApp.new parseUrl io config = none) :
    (∃ url, parseUrl config.configuration.nrfUri = .ok url) ∧
      config.configuration.ngapIpList = [] := by
  unfold OmniPathApp.new at h
  -- the URI is read before the addresses are looked at
  split at h
  · cases h
  · next url hurl =>
    refine ⟨⟨url, hurl⟩, ?_⟩
    split at h
    · cases h
    · split at h
      · cases h
      · next validConfig hvalid =>
        have hinner : validConfig.inner = config := by
          unfold SerdeValidated.new at hvalid
          split at hvalid
          · cases hvalid
            rfl
          · cases hvalid
        dsimp only at h
        split at h
        · next hindex =>
          have hempty : validConfig.inner.configuration.ngapIpList[0]? = none := hindex
          rw [hinner] at hempty
          exact List.eq_nil_of_length_eq_zero (Nat.le_zero.mp (List.getElem?_eq_none_iff.mp hempty))
        · split at h
          · cases h
          · split at h <;> cases h

/-- The app context of a start that succeeds is the one of the configuration it was started with. -/
theorem ctx_of_start {parseUrl : List Char → Except ErrorText U} {io : Surroundings}
    {validConfig : SerdeValidated} {ctx : AppContextInner}
    (h : OmniPathApp.new parseUrl io validConfig.inner = some (.ok ctx)) :
    ctx = .new io.nfId validConfig := by
  unfold OmniPathApp.new at h
  rw [new_eq_ok] at h
  split at h
  · cases h
  · -- what fails ends the start before there is a context
    split at h
    · cases h
    · dsimp only at h
      split at h
      · cases h
      · split at h
        · cases h
        · split at h
          · cases h
          · cases h
            rfl

/-- The profile is built: a `NonEmpty` has a first element. -/
theorem buildNfProfile_ne_none (check : NfProfile1 → Except ModelBuildError Unit)
    (ctx : AppContextInner) : ctx.buildNfProfile check ≠ none :=
  Option.some_ne_none _

/-- The lists of a response are converted when the digits in them are right. -/
theorem exists_toNgap {hexDecode : HexDecode} (hhex : hexDecode.Inverse)
    {config : Ngap.Configuration}
    (hguami : ∀ guami ∈ config.servedGuamiList.toList, guami.plmnId.Valid)
    (hplmn : ∀ item ∈ config.plmnSupportList.toList, item.Valid) :
    ∃ resp, (Ngap.success config).toNgap hexDecode = some resp := by
  obtain ⟨plmns, hplmns, -⟩ := NonEmpty.exists_transform (P := fun _ _ => True) fun item hitem => by
    obtain ⟨ngap, hngap, -⟩ := Ngap.convertPlmnSupportItem_decodes hhex (hplmn item hitem)
    exact ⟨ngap, hngap, trivial⟩
  obtain ⟨guamis, hguamis, -⟩ := NonEmpty.exists_transform (P := fun _ _ => True)
    (f := fun item => (Ngap.convertGuami item).map Ngap.ServedGuamiItem.mk)
    (l := config.servedGuamiList) fun guami hmem => by
      obtain ⟨octets, -, hconvert⟩ := Ngap.exists_convertGuami (hguami guami hmem)
      exact ⟨_, by rw [hconvert]; rfl, trivial⟩
  exact ⟨_, Ngap.toNgap_success hplmns hguamis⟩

theorem handleRequest_ne_none {hexDecode : HexDecode} (hhex : hexDecode.Inverse)
    {config : Ngap.Configuration}
    (hguami : ∀ guami ∈ config.servedGuamiList.toList, guami.plmnId.Valid)
    (hplmn : ∀ item ∈ config.plmnSupportList.toList, item.Valid) {G : Type}
    (gnbContexts : G → Option (Ngap.GnbContext G)) (request : Ngap.NgSetupRequest G) :
    Ngap.handleRequestNgap hexDecode gnbContexts config request ≠ none := by
  unfold Ngap.handleRequestNgap
  split
  · next hresp =>
    obtain rfl := Ngap.eq_success_of_handleRequest hresp
    obtain ⟨resp, htoNgap⟩ := exists_toNgap hhex hguami hplmn
    rw [htoNgap]
    exact Option.some_ne_none _
  · exact Option.some_ne_none _

/-- Surroundings in which nothing fails. -/
def Surroundings.good : Surroundings where
  createNrfClient := .ok ()
  network := fun _ _ _ => .ok ()
  setAppContext := .ok ()
  nfId := 0

/-- **No panic, exactly with an NGAP address.** A validated configuration never makes the AMF panic,
whatever its surroundings answer, if and only if it lists an NGAP address or has an NRF URI that is
not a URL, with which the AMF does not get as far as that. -/
theorem never_panics_iff {parseUrl : List Char → Except ErrorText U} {hexDecode : HexDecode}
    (hhex : hexDecode.Inverse) (validConfig : SerdeValidated)
    (htyped : validConfig.inner.configuration.Typed) :
    NeverPanics parseUrl hexDecode validConfig.inner ↔
      validConfig.inner.configuration.ngapIpList ≠ [] ∨
        ∃ err, parseUrl validConfig.inner.configuration.nrfUri = .error err := by
  constructor
  · -- with an empty list and a URI that is a URL, surroundings in which all goes well lead to the
    -- index
    intro hnever
    by_contra hnot
    simp only [not_or, not_not, not_exists] at hnot
    obtain ⟨hempty, hurl⟩ := hnot
    apply hnever.start .good
    unfold OmniPathApp.new
    rw [new_eq_ok]
    cases hparse : parseUrl validConfig.inner.configuration.nrfUri with
    | error err => exact (hurl err hparse).elim
    | ok url =>
      show (match validConfig.inner.configuration.ngapIpList[0]? with
        | none => none
        | some ngapIp => _) = none
      rw [hempty]
      rfl
  · -- nothing but that index is ever out of bounds
    intro hcondition
    refine ⟨fun io h => ?_, fun io ctx _ check => buildNfProfile_ne_none check ctx,
      fun io ctx h G gnbContexts request => ?_⟩
    · obtain ⟨⟨url, hurl⟩, hempty⟩ := start_panics h
      rcases hcondition with hlist | ⟨err, herr⟩
      · exact hlist hempty
      · cases hurl.symm.trans herr
    · obtain rfl := ctx_of_start h
      exact handleRequest_ne_none hhex htyped.guami htyped.plmnSupport gnbContexts request

/-! ## Two configurations

With one NGAP address and with none; everything else is the same. -/

/-- The address of the NRF. -/
def nrfUri : List Char := "http://127.0.0.10:8000".toList

/-- `Url::parse`, on this one address. -/
def parseNrfUrl (text : List Char) : Except ErrorText Unit :=
  if text = nrfUri then .ok () else .error "relative URL without a base"

/-- A configuration with these NGAP addresses. -/
def configWith (ngapIpList : List IpAddr) : OmniPathConfig where
  info := ⟨⟨1, "1.0.0".toList⟩, "AMF"⟩
  configuration := {
    amfName := "amf"
    ngapIpList
    ngapPort := 38412
    servedGuamiList := Ngap.twoPlmns.servedGuamiList
    supportTaiList := Ngap.twoPlmns.supportTaiList
    plmnSupportList := Ngap.twoPlmns.plmnSupportList
    supportDnnList := ["internet"]
    nrfUri
    sctp := ⟨2, 5, 4, 8⟩ }
  sbi := ⟨.http, .v4 "127.0.0.18".toList, .v4 "127.0.0.18".toList, 8000, [.namfComm, .namfEvts]⟩

def validWith (ngapIpList : List IpAddr) : SerdeValidated := ⟨configWith ngapIpList, rfl⟩

/-- Their digits are those of a configuration that is known to be valid. -/
theorem configWith_typed (ngapIpList : List IpAddr) :
    (configWith ngapIpList).configuration.Typed where
  guami guami hguami := (Ngap.twoPlmns_valid.servedGuamiList guami hguami).plmnId
  plmnSupport := Ngap.twoPlmns_valid.plmnSupportList

/-- With an address the AMF starts. -/
theorem never_panics_loopback :
    NeverPanics parseNrfUrl fasterHex (configWith [.v4 "127.0.0.18".toList]) :=
  (never_panics_iff fasterHex_inverse (validWith [.v4 "127.0.0.18".toList])
    (configWith_typed _)).mpr (.inl (List.cons_ne_nil _ _))

/-- **No NGAP address.** The configuration is accepted, and the AMF panics at its start. -/
theorem no_ngap_address :
    SerdeValidated.new (configWith []) = .ok (validWith []) ∧ (configWith []).configuration.Typed ∧
      ¬ NeverPanics parseNrfUrl fasterHex (configWith []) :=
  ⟨rfl, configWith_typed [], fun hnever => hnever.start .good rfl⟩

end UnifyAir.OmniPath.Startup
