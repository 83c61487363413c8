import UnifyAir.Convert

/-!
# UnifyAir — the NG Setup handler

`app/src/ngap/core/ng_setup.rs`. The handler first asks `gnb_contexts` whether the Global
RAN Node ID is taken, which is a step of its own in the system of connections, and then
evaluates the request: it fills in the gNB context, converts the supported TAs and looks for
one the AMF supports. `evaluate` is everything after the first map call.

A request is accepted by some configuration exactly when its TAs convert
(`convertible_of_evaluate_ok`, `exists_evaluate_ok`).
-/

namespace UnifyAir.Ngap

/-- `CauseProtocol` and `CauseMisc`, as far as NG Setup uses them. -/
inductive CauseProtocol where
  | semanticError
  | messageNotCompatibleWithReceiverState
  | abstractSyntaxErrorFalselyConstructedMessage
  deriving DecidableEq, Repr

inductive CauseMisc where
  | unknownPlmnOrSnpn
  deriving DecidableEq, Repr

inductive Cause where
  | protocol (cause : CauseProtocol)
  | misc (cause : CauseMisc)
  deriving DecidableEq, Repr

/-- `PagingDrx`, by its index in the enumeration. -/
abbrev PagingDrx := Nat

structure ExtendedRanNodeName where
  ranNodeNameVisibleString : Option String
  ranNodeNameUtf8String : Option String
  deriving DecidableEq, Repr

structure BroadcastPlmnItem where
  plmnIdentity : PlmnIdentity
  taiSliceSupportList : NonEmpty NgapSnssai
  deriving DecidableEq, Repr

structure SupportedTaItem where
  tac : NgapTac
  broadcastPlmnList : NonEmpty BroadcastPlmnItem
  deriving DecidableEq, Repr

/-- `NgSetupRequest`; `G` is the type of Global RAN Node IDs. -/
structure NgSetupRequest (G : Type) where
  globalRanNodeId : G
  ranNodeName : Option String
  supportedTaList : NonEmpty SupportedTaItem
  defaultPagingDrx : PagingDrx
  extendedRanNodeName : Option ExtendedRanNodeName
  deriving DecidableEq, Repr

/-- The SBI `Tai`; the handler fills in `plmn_id` and `tac` and leaves `nid` out. -/
structure Tai where
  plmnId : PlmnId
  tac : List Char
  nid : Option (List Char) := none
  deriving DecidableEq, Repr

structure SupportedTai where
  tai : Tai
  snssais : NonEmpty Snssai
  deriving DecidableEq, Repr

/-- The SBI `Guami` and the configuration's `PlmnSupportItem`. -/
structure Guami where
  plmnId : PlmnId
  amfId : AmfId
  deriving DecidableEq, Repr, Inhabited

structure PlmnSupportItem where
  plmnId : PlmnId
  snssaiList : NonEmpty Snssai
  deriving DecidableEq, Repr, Inhabited

/-- `Configuration`, as far as NG Setup reads it. -/
structure Configuration where
  name : String
  servedGuamiList : NonEmpty Guami
  supportTaiList : List Tai
  plmnSupportList : NonEmpty PlmnSupportItem
  deriving DecidableEq, Repr, Inhabited

/-- `NgSetupResponse`; the two lists stand as the configuration has them, before they are
put into octets. -/
structure NgSetupResponse where
  amfName : String
  servedGuamiList : NonEmpty Guami
  relativeAmfCapacity : UInt8
  plmnSupportList : NonEmpty PlmnSupportItem
  deriving DecidableEq, Repr

structure NgSetupFailure where
  cause : Cause
  deriving DecidableEq, Repr

/-- `NgSetupError`. -/
inductive NgSetupError (G : Type) where
  | conversionError (err : ConversionError)
  | unsupportedTais (tais : List SupportedTai)
  | conflictingRanId (id : G)
  deriving DecidableEq, Repr

/-- `NgapResponseError<NgSetupFailure, NgSetupError>`. -/
structure NgapResponseError (G : Type) where
  failure : NgSetupFailure
  error : NgSetupError G
  deriving DecidableEq, Repr

variable {G : Type}

def newSemanticErrorCause : Cause := .protocol .semanticError

def buildFailure (cause : Cause) : NgSetupFailure := ⟨cause⟩

/-- The answer to a request whose Global RAN Node ID is in `gnb_contexts`. -/
def conflict (id : G) : NgapResponseError G :=
  ⟨buildFailure newSemanticErrorCause, .conflictingRanId id⟩

/-- `resolve_ran_name`. -/
def resolveRanName : Option String → Option ExtendedRanNodeName → String
  | some ranNodeName, none => ranNodeName
  | _, some ⟨some visible, none⟩ => visible
  | _, some ⟨_, some utf8⟩ => utf8
  | _, some ⟨none, none⟩ => ""
  | none, none => ""

/-- The inner loop of the handler on one broadcast PLMN. -/
def supportedTai (tac : NgapTac) (item : BroadcastPlmnItem) :
    Except ConversionError SupportedTai := do
  let plmnId ← convertPlmnIdToMccMnc item.plmnIdentity
  return {
    tai := { plmnId := plmnId, tac := convertNgapTacToSbiTac tac }
    snssais := item.taiSliceSupportList.map convertNgapSnssaiToSbiSnssai }

/-- The two nested loops of the handler over the supported TAs; the first PLMN identity that
does not convert ends both. -/
def supportedTais (list : NonEmpty SupportedTaItem) :
    Except ConversionError (List SupportedTai) := do
  let rows ← list.toList.mapM fun item => item.broadcastPlmnList.toList.mapM (supportedTai item.tac)
  return rows.flatten

/-- The `NgSetupResponse` of the success case. -/
def success (config : Configuration) : NgSetupResponse where
  plmnSupportList := config.plmnSupportList
  servedGuamiList := config.servedGuamiList
  relativeAmfCapacity := 255
  amfName := config.name

/-- The handler after its first map call. -/
def evaluate (config : Configuration) (list : NonEmpty SupportedTaItem) :
    Except (NgapResponseError G) NgSetupResponse :=
  match supportedTais list with
  | .error err => .error ⟨buildFailure newSemanticErrorCause, .conversionError err⟩
  | .ok tais =>
    let ranTaiSet := tais.map (·.tai)
    if config.supportTaiList.any (ranTaiSet.contains ·) then
      .ok (success config)
    else
      .error ⟨buildFailure (.misc .unknownPlmnOrSnpn), .unsupportedTais tais⟩

/-! ## Which requests can be accepted

A setup can still succeed at a point where the configuration in force at its evaluation is not known
yet. What such a setup has to meet is that its TAs convert; everything else some configuration
grants. -/

/-- Every PLMN identity of the request converts. -/
def Convertible (list : NonEmpty SupportedTaItem) : Bool := (supportedTais list).isOk

/-- A loop that succeeds has succeeded at its first element and at the others. -/
theorem mapM_cons_ok {α β ε : Type} {f : α → Except ε β} {a : α} {l : List α} {r : List β}
    (h : (a :: l).mapM f = .ok r) :
    ∃ b bs, f a = .ok b ∧ l.mapM f = .ok bs ∧ r = b :: bs := by
  rw [List.mapM_cons] at h
  cases hb : f a with
  | error e => rw [hb] at h; cases h
  | ok b =>
    rw [hb] at h
    cases hbs : l.mapM f with
    | error e => simp only [hbs] at h; cases h
    | ok bs => simp only [hbs] at h; cases h; exact ⟨b, bs, rfl, rfl, rfl⟩

/-- A request lists at least one TA with at least one PLMN, so there is something to look up. -/
theorem supportedTais_ne_nil {list : NonEmpty SupportedTaItem} {tais : List SupportedTai}
    (h : supportedTais list = .ok tais) : tais ≠ [] := by
  unfold supportedTais at h
  cases hrows : list.toList.mapM fun item =>
      item.broadcastPlmnList.toList.mapM (supportedTai item.tac) with
  | error e => rw [hrows] at h; cases h
  | ok rows =>
    rw [hrows] at h
    cases h
    obtain ⟨row, rest, hrow, -, rfl⟩ := mapM_cons_ok hrows
    obtain ⟨tai, tais, -, -, rfl⟩ := mapM_cons_ok hrow
    simp

/-- A request that is accepted converts: the handler returns at the first PLMN identity that does
not. -/
theorem convertible_of_evaluate_ok {config : Configuration} {list : NonEmpty SupportedTaItem}
    {resp : NgSetupResponse} (h : evaluate (G := G) config list = .ok resp) :
    Convertible list = true := by
  unfold evaluate at h
  cases htais : supportedTais list with
  | error e => rw [htais] at h; cases h
  | ok tais => simp [Convertible, htais, Except.isOk, Except.toBool]

/-- A request whose TAs convert is accepted by an AMF that supports one of them. The configuration
is made to order, with the first TAI of the request as its only one. -/
theorem exists_evaluate_ok {list : NonEmpty SupportedTaItem} (h : Convertible list = true) :
    ∃ config resp, evaluate (G := G) config list = .ok resp := by
  unfold Convertible at h
  cases htais : supportedTais list with
  | error e => rw [htais] at h; cases h
  | ok tais =>
    cases tais with
    | nil => exact absurd rfl (supportedTais_ne_nil htais)
    | cons t ts =>
      let config : Configuration := { (default : Configuration) with supportTaiList := [t.tai] }
      refine ⟨config, success config, ?_⟩
      simp only [evaluate, htais]
      rw [if_pos (by simp [config])]

end UnifyAir.Ngap
