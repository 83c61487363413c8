import UnifyAir.Denotation
import UnifyAir.Ngap.Spec

/-!
# UnifyAir — which NG Setup requests are accepted

The handler compares TAIs as text: what the request has in octets is printed with `faster_hex`,
in lower case, and looked up among the strings of the configuration. A TAC that the configuration
spells with a capital is therefore never found, whatever the request says.

* **`criterion_iff_lower_case`** — the handler accepts the requests with a TAI that denotes a
  configured one, and refuses the others with the failure that says why, exactly when a TAI that
  the request shares with the configuration is configured without capitals.
* **`capital_tac_refused`** — the TAC 00000A.
-/

namespace UnifyAir.Ngap

variable {G : Type}

/-- `handle_request` on a request, with what `gnb_contexts` and the app context hold when it looks
at them. -/
def handleRequest (gnbContexts : G → Option (GnbContext G)) (config : Configuration)
    (request : NgSetupRequest G) : Except (NgapResponseError G) NgSetupResponse :=
  match gnbContexts request.globalRanNodeId with
  | some _ => .error (conflict request.globalRanNodeId)
  | none => evaluate config request.supportedTaList

/-! ## The criterion

What an admission should depend on, in terms of what TAIs denote and not of how they are written.
`MeetsCriterion` has one field for each way in which the handler can end. -/

/-- What a TAI denotes. -/
structure TaiValue where
  tac : Nat
  mcc : List Nat
  mnc : List Nat
  deriving DecidableEq, Repr

/-- What the text of a configured TAI denotes. -/
def Tai.value (tai : Tai) : Option TaiValue := do
  let tac ← Hex.value tai.tac
  let mcc ← tai.plmnId.mcc.mapM Hex.digitValue
  let mnc ← tai.plmnId.mnc.mapM Hex.digitValue
  return ⟨tac, mcc, mnc⟩

/-- The pairs of a TAC and a broadcast PLMN of a request. -/
def pairs (list : NonEmpty SupportedTaItem) : List (NgapTac × PlmnIdentity) :=
  list.toList.flatMap fun item =>
    item.broadcastPlmnList.toList.map fun plmn => (item.tac, plmn.plmnIdentity)

/-- What a pair denotes. -/
def pairValue (pair : NgapTac × PlmnIdentity) : Option TaiValue :=
  pair.2.digits.map fun (mcc, mnc) => ⟨pair.1.value, mcc, mnc⟩

/-- A TAI of the configuration and a pair of the request denote the same. -/
def Match (tai : Tai) (pair : NgapTac × PlmnIdentity) : Prop :=
  ∃ v, tai.value = some v ∧ pairValue pair = some v

/-- A TAI as the validation of the configuration lets it through. -/
structure ValidTai (tai : Tai) : Prop where
  length : tai.tac.length = 6
  digits : ∀ c ∈ tai.tac, (Hex.digitValue c).isSome
  nid : tai.nid = none

/-- Every broadcast PLMN of the request decodes to decimal digits. -/
def AllDecode (list : NonEmpty SupportedTaItem) : Prop :=
  ∀ pair ∈ pairs list, pair.2.digits.isSome

instance (list : NonEmpty SupportedTaItem) : Decidable (AllDecode list) :=
  List.decidableBAll (fun pair : NgapTac × PlmnIdentity => pair.2.digits.isSome) (pairs list)

/-- Some pair of the request denotes the same as some configured TAI. -/
def Supported (config : Configuration) (list : NonEmpty SupportedTaItem) : Prop :=
  ∃ tai ∈ config.supportTaiList, ∃ pair ∈ pairs list, Match tai pair

/-- The result is what the criterion says: the response, or the failure of the first of its three
parts that does not hold. -/
structure MeetsCriterion (gnbContexts : G → Option (GnbContext G)) (config : Configuration)
    (request : NgSetupRequest G)
    (result : Except (NgapResponseError G) NgSetupResponse) : Prop where
  succeeds_iff : (∃ resp, result = .ok resp) ↔
    gnbContexts request.globalRanNodeId = none ∧ AllDecode request.supportedTaList ∧
      Supported config request.supportedTaList
  response : ∀ resp, result = .ok resp → resp = success config
  conflicting : gnbContexts request.globalRanNodeId ≠ none →
    result = .error (conflict request.globalRanNodeId)
  undecodable : gnbContexts request.globalRanNodeId = none → ¬ AllDecode request.supportedTaList →
    ∃ pair ∈ pairs request.supportedTaList, pair.2.digits = none ∧
      result = .error ⟨buildFailure newSemanticErrorCause, .conversionError ⟨pair.2⟩⟩
  unsupported : gnbContexts request.globalRanNodeId = none →
    AllDecode request.supportedTaList → ¬ Supported config request.supportedTaList →
    ∃ tais, supportedTais request.supportedTaList = .ok tais ∧
      result = .error ⟨buildFailure (.misc .unknownPlmnOrSnpn), .unsupportedTais tais⟩

/-- If the request shares a TAI with the configuration, it shares one that the configuration
writes without capitals. -/
def LowerCase (gnbContexts : G → Option (GnbContext G)) (config : Configuration)
    (request : NgSetupRequest G) : Prop :=
  gnbContexts request.globalRanNodeId = none → AllDecode request.supportedTaList →
    Supported config request.supportedTaList →
    ∃ tai ∈ config.supportTaiList, Hex.NoCapitals tai.tac ∧
      ∃ pair ∈ pairs request.supportedTaList, Match tai pair

/-! ## The nested loops

The handler collects the TAIs of the request in two nested loops and looks the configured ones up in
them. Here the loops are replaced by one walk over the pairs of a TAC and a PLMN. -/

theorem map_of_mapM_ok {α β ε : Type} {f : α → Except ε β} {l : List α} {r : List β}
    (h : l.mapM f = .ok r) : l.map f = r.map .ok := by
  induction l generalizing r with
  | nil =>
    cases h
    rfl
  | cons a l ih =>
    obtain ⟨b, bs, hb, hbs, rfl⟩ := mapM_cons_ok h
    rw [List.map_cons, List.map_cons, hb, ih hbs]

/-- A loop that fails has failed at some element, with its error. The elements behind it were not
looked at, so nothing is said of these. -/
theorem exists_mem_of_mapM_error {α β ε : Type} {f : α → Except ε β} {l : List α} {e : ε}
    (h : l.mapM f = .error e) : ∃ a ∈ l, f a = .error e := by
  -- the first element that fails is the one
  induction l with
  | nil => cases h
  | cons a l ih =>
    rw [List.mapM_cons] at h
    cases hb : f a with
    | error e' =>
      simp only [hb] at h
      cases h
      exact ⟨a, .head _, hb⟩
    | ok b =>
      cases hbs : l.mapM f with
      -- the first element is fine, so the error is from further on
      | error e' =>
        simp only [hb, hbs] at h
        cases h
        obtain ⟨a', ha', herr⟩ := ih hbs
        exact ⟨a', .tail _ ha', herr⟩
      | ok bs => simp only [hb, hbs] at h; cases h

/-- The TAI of a pair. -/
def taiOf (pair : NgapTac × PlmnIdentity) : Except ConversionError Tai :=
  (convertPlmnIdToMccMnc pair.2).map fun plmnId => ⟨plmnId, convertNgapTacToSbiTac pair.1, none⟩

/-- One pass of the inner loop, with the slices left out. -/
theorem map_tai_supportedTai (tac : NgapTac) (item : BroadcastPlmnItem) :
    (supportedTai tac item).map (·.tai) = taiOf (tac, item.plmnIdentity) := by
  unfold supportedTai taiOf
  cases convertPlmnIdToMccMnc item.plmnIdentity <;> rfl

/-- The inner loop is a walk over the pairs of one TAC. -/
theorem map_tai_row (tac : NgapTac) (items : List BroadcastPlmnItem) :
    (items.mapM (supportedTai tac)).map (List.map (·.tai)) =
      (items.map fun plmn => (tac, plmn.plmnIdentity)).mapM taiOf := by
  induction items with
  | nil => rfl
  | cons item items ih =>
    rw [List.mapM_cons, List.map_cons, List.mapM_cons, ← map_tai_supportedTai, ← ih]
    cases supportedTai tac item with
    | error e => rfl
    | ok st => cases items.mapM (supportedTai tac) <;> rfl

/-- The two loops collect the TAIs of the pairs. By induction on the TAs, with `map_tai_row` for
each. -/
theorem map_tai_supportedTais (list : NonEmpty SupportedTaItem) :
    (supportedTais list).map (List.map (·.tai)) = (pairs list).mapM taiOf := by
  unfold supportedTais pairs
  -- item by item; both sides stop at the first that cannot be decoded
  induction list.toList with
  | nil => rfl
  | cons item items ih =>
    rw [List.mapM_cons, List.flatMap_cons, List.mapM_append, ← ih, ← map_tai_row]
    cases item.broadcastPlmnList.toList.mapM (supportedTai item.tac) with
    | error e => rfl
    | ok row =>
      cases items.mapM fun item => item.broadcastPlmnList.toList.mapM (supportedTai item.tac) with
      | error e => rfl
      | ok rows =>
        show Except.ok _ = Except.ok _
        rw [List.flatten_cons, List.map_append]

/-- A pair has a TAI exactly when its PLMN identity decodes. -/
theorem isOk_taiOf (pair : NgapTac × PlmnIdentity) :
    (∃ tai, taiOf pair = .ok tai) ↔ pair.2.digits.isSome := by
  rw [taiOf, convertPlmn_eq]
  cases pair.2.digits with
  | none => exact ⟨fun ⟨_, h⟩ => (by cases h), fun h => (by cases h)⟩
  | some digits => exact ⟨fun _ => rfl, fun _ => ⟨_, rfl⟩⟩

theorem taiOf_error {pair : NgapTac × PlmnIdentity} {err : ConversionError}
    (h : taiOf pair = .error err) : pair.2.digits = none ∧ err = ⟨pair.2⟩ := by
  rw [taiOf, convertPlmn_eq] at h
  cases hdigits : pair.2.digits with
  | none =>
    rw [hdigits] at h
    cases h
    exact ⟨rfl, rfl⟩
  | some digits => rw [hdigits] at h; cases h

theorem allDecode_of_ok {list : NonEmpty SupportedTaItem} {tais : List SupportedTai}
    (h : supportedTais list = .ok tais) : AllDecode list := by
  intro pair hpair
  have hpairs := map_tai_supportedTais list
  rw [h] at hpairs
  have hmem : taiOf pair ∈ (pairs list).map taiOf := List.mem_map_of_mem hpair
  rw [map_of_mapM_ok hpairs.symm] at hmem
  obtain ⟨tai, -, htai⟩ := List.mem_map.mp hmem
  exact (isOk_taiOf pair).mp ⟨tai, htai.symm⟩

/-- The set of TAIs that the handler looks a configured TAI up in: the TAIs of the pairs. -/
theorem mem_supportedTais {list : NonEmpty SupportedTaItem} {tais : List SupportedTai}
    (h : supportedTais list = .ok tais) (tai : Tai) :
    tai ∈ tais.map (·.tai) ↔ ∃ pair ∈ pairs list, taiOf pair = .ok tai := by
  have hpairs := map_tai_supportedTais list
  rw [h] at hpairs
  rw [← List.mem_map, map_of_mapM_ok hpairs.symm]
  constructor
  · exact fun htai => List.mem_map_of_mem htai
  · intro htai
    obtain ⟨tai', htai', heq⟩ := List.mem_map.mp htai
    cases heq
    exact htai'

/-- If they fail, some PLMN identity does not decode, and the error is that one's. -/
theorem supportedTais_error {list : NonEmpty SupportedTaItem} {err : ConversionError}
    (h : supportedTais list = .error err) :
    ∃ pair ∈ pairs list, pair.2.digits = none ∧ err = ⟨pair.2⟩ := by
  have hpairs := map_tai_supportedTais list
  rw [h] at hpairs
  obtain ⟨pair, hpair, herr⟩ := exists_mem_of_mapM_error hpairs.symm
  exact ⟨pair, hpair, taiOf_error herr⟩

/-! ## Texts and what they denote

The handler compares texts. Two texts that denote the same TAI are the same text unless one of them
has a capital among its hex digits; and the text from the request, which `faster_hex` has printed,
has none. -/

theorem tai_value_iff {tai : Tai} {v : TaiValue} : tai.value = some v ↔
    Hex.value tai.tac = some v.tac ∧ tai.plmnId.mcc.mapM Hex.digitValue = some v.mcc ∧
      tai.plmnId.mnc.mapM Hex.digitValue = some v.mnc := by
  simp only [Tai.value, Option.bind_eq_bind, Option.bind_eq_some_iff, Option.pure_def]
  constructor
  · rintro ⟨tac, htac, mcc, hmcc, mnc, hmnc, heq⟩
    cases heq
    exact ⟨htac, hmcc, hmnc⟩
  · rintro ⟨htac, hmcc, hmnc⟩
    exact ⟨_, htac, _, hmcc, _, hmnc, rfl⟩

/-- A pair that decodes has one value, so matching it is denoting that value. -/
theorem match_iff {tai : Tai} {pair : NgapTac × PlmnIdentity} {mcc mnc : List Nat}
    (h : pair.2.digits = some (mcc, mnc)) :
    Match tai pair ↔ tai.value = some ⟨pair.1.value, mcc, mnc⟩ := by
  have hpair : pairValue pair = some ⟨pair.1.value, mcc, mnc⟩ := by rw [pairValue, h]; rfl
  constructor
  · intro ⟨v, htai, hv⟩
    rw [htai, ← hv, hpair]
  · exact fun htai => ⟨_, htai, hpair⟩

/-- A configured TAI is found under a pair of the request when it denotes the same and has no
capitals. For the digits of the PLMN both ways of writing are the same. -/
theorem taiOf_iff {tai : Tai} (hvalid : ValidTai tai) (pair : NgapTac × PlmnIdentity) :
    taiOf pair = .ok tai ↔ Match tai pair ∧ Hex.NoCapitals tai.tac := by
  cases hdigits : pair.2.digits with
  | none =>
    have herr : ¬ ∃ tai, taiOf pair = .ok tai := by rw [isOk_taiOf, hdigits]; simp
    refine ⟨fun h => (herr ⟨tai, h⟩).elim, fun ⟨⟨_, _, hv⟩, _⟩ => ?_⟩
    rw [pairValue, hdigits] at hv
    cases hv
  -- the TAI of the pair is known, and it is compared with the configured one field by field
  | some digits =>
    obtain ⟨mcc, mnc⟩ := digits
    obtain ⟨hmcc, hmnc⟩ := digits_lt hdigits
    have htai : taiOf pair = .ok ⟨.ofDigits mcc mnc, convertNgapTacToSbiTac pair.1, none⟩ := by
      rw [taiOf, convertPlmn_eq, hdigits]
      rfl
    rw [htai, match_iff hdigits, tai_value_iff, mapM_digitValue_iff hmcc, mapM_digitValue_iff hmnc]
    have htac := eq_convertTac_iff hvalid.length pair.1
    constructor
    · intro h
      cases h
      obtain ⟨hvalue, hcap⟩ := htac.mp rfl
      exact ⟨⟨hvalue, rfl, rfl⟩, hcap⟩
    · intro ⟨⟨hvalue, hmccText, hmncText⟩, hcap⟩
      obtain ⟨⟨mccText, mncText⟩, tac, nid⟩ := tai
      obtain rfl : nid = none := hvalid.nid
      obtain rfl : mccText = _ := hmccText
      obtain rfl : mncText = _ := hmncText
      rw [← htac.mpr ⟨hvalue, hcap⟩]
      rfl

/-- The test of the handler on a request whose PLMN identities all convert, for all configured TAIs
at once. It compares texts; `taiOf_iff` says for each pair when the texts are equal. -/
theorem found_iff {config : Configuration} (hvalid : ∀ tai ∈ config.supportTaiList, ValidTai tai)
    {list : NonEmpty SupportedTaItem} {tais : List SupportedTai}
    (h : supportedTais list = .ok tais) :
    config.supportTaiList.any ((tais.map (·.tai)).contains ·) = true ↔
      ∃ tai ∈ config.supportTaiList, Hex.NoCapitals tai.tac ∧
        ∃ pair ∈ pairs list, Match tai pair := by
  rw [List.any_eq_true]
  refine exists_congr fun tai => and_congr_right fun htai => ?_
  rw [List.contains_iff_mem, mem_supportedTais h]
  constructor
  · -- a TAI that is found was made of some pair, and conversely
    intro ⟨pair, hpair, heq⟩
    obtain ⟨hmatch, hcap⟩ := (taiOf_iff (hvalid tai htai) pair).mp heq
    exact ⟨hcap, pair, hpair, hmatch⟩
  · intro ⟨hcap, pair, hpair, hmatch⟩
    exact ⟨pair, hpair, (taiOf_iff (hvalid tai htai) pair).mpr ⟨hmatch, hcap⟩⟩

/-! ## The handler and the criterion

The answers of the handler one by one, each with what it needs to be the right one. -/

variable {gnbContexts : G → Option (GnbContext G)} {config : Configuration}
  {request : NgSetupRequest G}

/-- If the id is taken, the handler's answer is the right one, whatever else is in the request. -/
theorem meets_of_registered {ctx : GnbContext G}
    (hid : gnbContexts request.globalRanNodeId = some ctx) :
    MeetsCriterion gnbContexts config request (.error (conflict request.globalRanNodeId)) where
  succeeds_iff := ⟨fun ⟨_, h⟩ => (nomatch h), fun ⟨hfree, _⟩ => by rw [hid] at hfree; cases hfree⟩
  response := nofun
  conflicting := fun _ => rfl
  undecodable := fun hfree => by rw [hid] at hfree; cases hfree
  unsupported := fun hfree => by rw [hid] at hfree; cases hfree

/-- If a PLMN identity does not decode, the criterion is not met, and the failure says so: the loops
stop with its error before any TAI is compared. -/
theorem meets_of_undecodable {err : ConversionError}
    (hid : gnbContexts request.globalRanNodeId = none)
    (htais : supportedTais request.supportedTaList = .error err) :
    ¬ AllDecode request.supportedTaList ∧ MeetsCriterion gnbContexts config request
      (.error ⟨buildFailure newSemanticErrorCause, .conversionError err⟩) := by
  obtain ⟨pair, hpair, hdigits, rfl⟩ := supportedTais_error htais
  have hbad : ¬ AllDecode request.supportedTaList := by
    intro hall
    have := hall pair hpair
    rw [hdigits] at this
    cases this
  exact ⟨hbad, {
    succeeds_iff := ⟨fun ⟨_, h⟩ => (nomatch h), fun ⟨_, hall, _⟩ => (hbad hall).elim⟩
    response := nofun
    conflicting := fun h => (h hid).elim
    undecodable := fun _ _ => ⟨pair, hpair, hdigits, rfl⟩
    unsupported := fun _ hall => (hbad hall).elim }⟩

/-- When the identity is free and all PLMN identities convert, the criterion holds of the response
if the request is supported, and of the failure otherwise. -/
theorem meets_success_iff (hid : gnbContexts request.globalRanNodeId = none)
    (hall : AllDecode request.supportedTaList) :
    MeetsCriterion gnbContexts config request (.ok (success config)) ↔
      Supported config request.supportedTaList := by
  constructor
  · exact fun h => (h.succeeds_iff.mp ⟨_, rfl⟩).2.2
  · exact fun hsupported => {
      succeeds_iff := ⟨fun _ => ⟨hid, hall, hsupported⟩, fun _ => ⟨_, rfl⟩⟩
      response := fun resp h => by cases h; rfl
      conflicting := fun h => (h hid).elim
      undecodable := fun _ hbad => (hbad hall).elim
      unsupported := fun _ _ h => (h hsupported).elim }

/-- The other side: the failure for unsupported TAIs is right exactly when the request is not
supported. -/
theorem meets_unsupported_iff {tais : List SupportedTai}
    (hid : gnbContexts request.globalRanNodeId = none)
    (htais : supportedTais request.supportedTaList = .ok tais) :
    MeetsCriterion gnbContexts config request
        (.error ⟨buildFailure (.misc .unknownPlmnOrSnpn), .unsupportedTais tais⟩) ↔
      ¬ Supported config request.supportedTaList := by
  have hall := allDecode_of_ok htais
  constructor
  · -- what is supported would be accepted
    intro h hsupported
    obtain ⟨_, heq⟩ := h.succeeds_iff.mpr ⟨hid, hall, hsupported⟩
    cases heq
  · exact fun hsupported => {
      succeeds_iff := ⟨fun ⟨_, h⟩ => (nomatch h), fun ⟨_, _, h⟩ => (hsupported h).elim⟩
      response := nofun
      conflicting := fun h => (h hid).elim
      undecodable := fun _ hbad => (hbad hall).elim
      unsupported := fun _ _ _ => ⟨tais, htais, rfl⟩ }

/-- **The admission criterion.** Only capitals in the configuration break it. Both sides hold
outright when the id is taken or a PLMN identity does not decode; what is left is the lookup, where
`found_iff` decides. -/
theorem criterion_iff_lower_case (gnbContexts : G → Option (GnbContext G))
    (config : Configuration) (request : NgSetupRequest G)
    (hvalid : ∀ tai ∈ config.supportTaiList, ValidTai tai) :
    MeetsCriterion gnbContexts config request (handleRequest gnbContexts config request) ↔
      LowerCase gnbContexts config request := by
  unfold handleRequest
  -- the order of the source: is it registered, can it be decoded, is it supported
  cases hid : gnbContexts request.globalRanNodeId with
  | some ctx =>
    refine iff_of_true (meets_of_registered hid) fun hfree => ?_
    rw [hid] at hfree
    cases hfree
  | none =>
    show MeetsCriterion gnbContexts config request (evaluate config request.supportedTaList) ↔ _
    unfold evaluate
    cases htais : supportedTais request.supportedTaList with
    | error err =>
      obtain ⟨hbad, hmeets⟩ := meets_of_undecodable hid htais
      exact iff_of_true hmeets fun _ hall => (hbad hall).elim
    | ok tais =>
      have hall := allDecode_of_ok htais
      have hfound := found_iff hvalid htais
      -- all that is left of the condition is the lookup itself
      have hlower : LowerCase gnbContexts config request ↔
          (Supported config request.supportedTaList →
            config.supportTaiList.any ((tais.map (·.tai)).contains ·) = true) := by
        rw [hfound]
        exact ⟨fun h => h hid hall, fun h _ _ => h⟩
      rw [hlower]
      dsimp only
      split
      · next htrue =>
        obtain ⟨tai, htai, -, hmatch⟩ := hfound.mp htrue
        rw [meets_success_iff hid hall]
        exact iff_of_true ⟨tai, htai, hmatch⟩ fun _ => htrue
      · next hfalse =>
        rw [meets_unsupported_iff hid htais]
        exact ⟨fun hno hyes => (hno hyes).elim, fun h hyes => hfalse (h hyes)⟩

/-- A configuration with one TAI, of the PLMN 208-93. -/
def configOf (tac : List Char) : Configuration :=
  { (default : Configuration) with
    supportTaiList := [⟨⟨['2', '0', '8'], ['9', '3']⟩, tac, none⟩] }

/-- A request for the TAC 10 of the PLMN 208-93. -/
def requestTen : NgSetupRequest Nat where
  globalRanNodeId := 1
  ranNodeName := none
  supportedTaList := ⟨⟨⟨0x00, 0x00, 0x0A⟩, ⟨⟨⟨0x02, 0xF8, 0x39⟩, ⟨⟨1, none⟩, []⟩⟩, []⟩⟩, []⟩
  defaultPagingDrx := 0
  extendedRanNodeName := none

/-- The configured TAC 00000a is found in a request for the TAC 10. -/
theorem criterion_lower_ten : MeetsCriterion (fun _ => none) (configOf ['0', '0', '0', '0', '0', 'a'])
    requestTen (handleRequest (fun _ => none) (configOf ['0', '0', '0', '0', '0', 'a']) requestTen) :=
  (criterion_iff_lower_case _ _ _ (by
    intro tai htai
    obtain rfl := List.mem_singleton.mp htai
    exact ⟨rfl, List.all_eq_true.mp (by decide), rfl⟩)).mpr fun _ _ ⟨tai, htai, hmatch⟩ => by
      obtain rfl := List.mem_singleton.mp htai
      exact ⟨_, .head _, by decide, hmatch⟩

/-- **The TAC 00000A.** The configuration and the request denote the same TAI, and the request is
refused as unsupported. -/
theorem capital_tac_refused :
    (∀ tai ∈ (configOf ['0', '0', '0', '0', '0', 'A']).supportTaiList, ValidTai tai) ∧
    Supported (configOf ['0', '0', '0', '0', '0', 'A']) requestTen.supportedTaList ∧
    ¬ MeetsCriterion (fun _ => none) (configOf ['0', '0', '0', '0', '0', 'A']) requestTen
      (handleRequest (fun _ => none) (configOf ['0', '0', '0', '0', '0', 'A']) requestTen) := by
  have hsupported :
      Supported (configOf ['0', '0', '0', '0', '0', 'A']) requestTen.supportedTaList :=
    ⟨_, .head _, _, .head _, ⟨10, [2, 0, 8], [9, 3]⟩, by decide, by decide⟩
  refine ⟨?_, hsupported, fun h => ?_⟩
  · intro tai htai
    obtain rfl := List.mem_singleton.mp htai
    exact ⟨rfl, List.all_eq_true.mp (by decide), rfl⟩
  · obtain ⟨resp, hresp⟩ := h.succeeds_iff.mpr ⟨rfl, by decide, hsupported⟩
    cases hresp

end UnifyAir.Ngap
