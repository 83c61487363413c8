import Mathlib.Data.List.Forall2
import UnifyAir.Ngap.Criterion
import UnifyAir.Plmn

/-!
# UnifyAir — the NG Setup response in octets

`app/src/utils/convert/transform.rs`. The lists of the configuration go into the response through
`transform_nonempty`: PLMNs are packed into nibbles, the SDs of the slices are decoded from hex, and
AMF identities become three bit strings. A peer that decodes the response has the configuration.

* **`response_decodes`** — the handler's response decodes to the lists of a valid configuration,
  and none of the conversions panics.
-/

namespace UnifyAir

namespace NonEmpty

variable {α β : Type}

theorem toList_map (f : α → β) (l : NonEmpty α) : (l.map f).toList = l.toList.map f := rfl

theorem ext_toList {l l' : NonEmpty α} (h : l.toList = l'.toList) : l = l' := by
  obtain ⟨head, tail⟩ := l
  obtain ⟨head', tail'⟩ := l'
  obtain ⟨rfl, rfl⟩ := List.cons.inj h
  rfl

/-- A transformation that no element makes panic, with what it does to each. The relation `P`
carries what is to be known of the results. -/
theorem exists_transform {f : α → Option β} {P : α → β → Prop} {l : NonEmpty α}
    (h : ∀ a ∈ l.toList, ∃ b, f a = some b ∧ P a b) :
    ∃ l', l.transform f = some l' ∧ List.Forall₂ P l.toList l'.toList := by
  have htail : ∀ tail : List α, (∀ a ∈ tail, ∃ b, f a = some b ∧ P a b) →
      ∃ tail', tail.mapM f = some tail' ∧ List.Forall₂ P tail tail' := by
    intro tail
    -- the induction is on the tail, for the list itself is never empty
    induction tail with
    | nil => exact fun _ => ⟨[], rfl, .nil⟩
    | cons a tail ih =>
      intro h
      obtain ⟨⟨b, hb, hP⟩, hall⟩ := List.forall_mem_cons.mp h
      obtain ⟨tail', htail', hPs⟩ := ih hall
      refine ⟨b :: tail', ?_, .cons hP hPs⟩
      rw [List.mapM_cons, hb, htail']
      rfl
  obtain ⟨⟨b, hb, hP⟩, hall⟩ := List.forall_mem_cons.mp h
  obtain ⟨tail', htail', hPs⟩ := htail l.tail hall
  refine ⟨⟨b, tail'⟩, ?_, .cons hP hPs⟩
  rw [transform, hb, htail']
  rfl

end NonEmpty

/-- Decoding item by item, when each item decodes to what it was made of. -/
theorem mapM_of_forall₂ {α β ε : Type} {f : β → Except ε α} {g : α → α} {l : List α} {l' : List β}
    (h : List.Forall₂ (fun a b => f b = .ok (g a)) l l') : l'.mapM f = .ok (l.map g) := by
  induction h with
  | nil => rfl
  | cons hab _ ih =>
    rw [List.mapM_cons, hab, ih]
    rfl

theorem map_of_forall₂ {α β γ : Type} {f : β → γ} {g : α → γ} {l : List α} {l' : List β}
    (h : List.Forall₂ (fun a b => f b = g a) l l') : l'.map f = l.map g := by
  induction h with
  | nil => rfl
  | cons hab _ ih => rw [List.map_cons, List.map_cons, hab, ih]

/-! ## Slices

An SD is six hex digits as text and three octets in the response. `faster_hex` is outside of the
repository: `HexDecode.Inverse` is all that is relied on. -/

/-- The pattern of an `SnssaiSd`: six hex digits. -/
def IsSd (text : List Char) : Prop :=
  text.length = 6 ∧ text.all (fun c => (Hex.digitValue c).isSome) = true

instance (text : List Char) : Decidable (IsSd text) := inferInstanceAs (Decidable (_ ∧ _))

def Snssai.Valid (snssai : Snssai) : Prop := ∀ sd, snssai.sd = some sd → IsSd sd

/-- The slice with its SD in small letters. -/
def Snssai.lowerCase (snssai : Snssai) : Snssai :=
  { snssai with sd := snssai.sd.map (List.map Char.toLower) }

/-- What `faster_hex` promises of six hex digits: they are decoded, and what they are decoded to
is encoded to them again, in small letters. -/
def HexDecode.Inverse (hexDecode : HexDecode) : Prop :=
  ∀ sd, IsSd sd → ∃ b₁ b₂ b₃, hexDecode (asBytes sd) = some (b₁, b₂, b₃) ∧
    hexString [b₁, b₂, b₃] = sd.map Char.toLower

/-- A slice is converted, and a peer that converts it back has it, with the SD in small letters. The
configuration may have capitals; three octets do not tell. -/
theorem convertSnssai_decodes {hexDecode : HexDecode} (hhex : hexDecode.Inverse) {snssai : Snssai}
    (h : snssai.Valid) : ∃ ngap, convertSbiSnssaiToNgapSnssai hexDecode snssai = some ngap ∧
      convertNgapSnssaiToSbiSnssai ngap = snssai.lowerCase := by
  obtain ⟨sst, sd⟩ := snssai
  -- a slice without a differentiator has nothing that could fail
  cases sd with
  | none => exact ⟨_, rfl, rfl⟩
  | some sd =>
    obtain ⟨b₁, b₂, b₃, hdecode, hlower⟩ := hhex sd (h sd rfl)
    refine ⟨⟨sst, some (b₁, b₂, b₃)⟩, ?_, ?_⟩
    · show (hexDecode (asBytes sd)).map _ = _
      rw [hdecode]
      rfl
    · show Snssai.mk sst (some (hexString [b₁, b₂, b₃])) = _
      rw [hlower]
      rfl

/-! ### Hex decoding of an SD

A decoder that has the documented behaviour, so that the hypothesis is met by something. -/

/-- Two hex digits in one octet. -/
def hexOctet (high low : UInt8) : Option UInt8 := do
  let high ← Hex.digitValue (.ofNat high.toNat)
  let low ← Hex.digitValue (.ofNat low.toNat)
  return nibbles high low

/-- `hex_decode` on the six bytes of an SD. -/
def fasterHex : HexDecode
  | [c₁, c₂, c₃, c₄, c₅, c₆] => do
    return (← hexOctet c₁ c₂, ← hexOctet c₃ c₄, ← hexOctet c₅ c₆)
  | _ => none

/-- The small letter of a hex digit is the character that its value is printed with. It is checked
for the 128 characters of ASCII, since there are no other hex digits. -/
theorem toLower_eq_digitChar {c : Char} {d : Nat} (h : Hex.digitValue c = some d) :
    c.toLower = Nat.digitChar d := by
  have hall : ∀ n < 128, ∀ d ∈ Hex.digitValue (Char.ofNat n),
      (Char.ofNat n).toLower = Nat.digitChar d := by decide
  have hc := hall c.toNat (Hex.ascii_of_digitValue h) d
  rw [Char.ofNat_toNat] at hc
  exact hc h

/-- Two digits make the octet with their values as nibbles. -/
theorem hexOctet_eq {high low : Char} {d e : Nat} (hd : Hex.digitValue high = some d)
    (he : Hex.digitValue low = some e) :
    hexOctet (.ofNat high.toNat) (.ofNat low.toNat) = some (nibbles d e) := by
  have hchar : ∀ {c : Char} {d : Nat}, Hex.digitValue c = some d →
      Char.ofNat (UInt8.ofNat c.toNat).toNat = c := fun {c d} h => by
    have hlt := Hex.ascii_of_digitValue h
    rw [UInt8.toNat_ofNat_of_lt' (show c.toNat < 256 by omega), Char.ofNat_toNat]
  rw [hexOctet, hchar hd, hchar he, hd, he]
  rfl

/-- And such an octet is printed as the two digits. -/
theorem hexString_nibbles {d e : Nat} (hd : d < 16) (he : e < 16) (octets : List UInt8) :
    hexString (nibbles d e :: octets) = Nat.digitChar d :: Nat.digitChar e :: hexString octets := by
  show digit (nibbles d e >>> 4) :: digit (nibbles d e &&& 0x0F) :: hexString octets = _
  rw [digit, digit, toNat_high, toNat_low, nibbles_high hd he, nibbles_low hd he]

/-- The decoder decodes every SD, and what it decodes to is printed as the SD in small letters. Two
digits make an octet, and the octet is printed with the same two digits. -/
theorem fasterHex_inverse : HexDecode.Inverse fasterHex := by
  intro sd hsd
  have hdigits : ∀ c ∈ sd, ∃ d, Hex.digitValue c = some d := fun c hc =>
    Option.isSome_iff_exists.mp (List.all_eq_true.mp hsd.2 c hc)
  have hascii : ∀ c ∈ sd, c.toNat < 128 := fun c hc =>
    let ⟨_, hd⟩ := hdigits c hc
    Hex.ascii_of_digitValue hd
  match sd, hsd.1 with
  -- six digits make three octets
  | [c₁, c₂, c₃, c₄, c₅, c₆], _ =>
    simp only [List.forall_mem_cons] at hdigits
    obtain ⟨⟨d₁, h₁⟩, ⟨d₂, h₂⟩, ⟨d₃, h₃⟩, ⟨d₄, h₄⟩, ⟨d₅, h₅⟩, ⟨d₆, h₆⟩, -⟩ := hdigits
    refine ⟨nibbles d₁ d₂, nibbles d₃ d₄, nibbles d₅ d₆, ?_, ?_⟩
    · rw [asBytes_ascii hascii]
      show (do return (← hexOctet _ _, ← hexOctet _ _, ← hexOctet _ _) : Option _) = _
      rw [hexOctet_eq h₁ h₂, hexOctet_eq h₃ h₄, hexOctet_eq h₅ h₆]
      rfl
    · have hlt := fun {c : Char} {d : Nat} => Hex.digitValue_lt (c := c) (d := d)
      rw [hexString_nibbles (hlt h₁) (hlt h₂), hexString_nibbles (hlt h₃) (hlt h₄),
        hexString_nibbles (hlt h₅) (hlt h₆), ← toLower_eq_digitChar h₁, ← toLower_eq_digitChar h₂,
        ← toLower_eq_digitChar h₃, ← toLower_eq_digitChar h₄, ← toLower_eq_digitChar h₅,
        ← toLower_eq_digitChar h₆]
      rfl

namespace Ngap

/-! ## The response

The two conversions of the success case. `transform_nonempty` keeps the order and the length of a
list; `none` stands for a panic in a conversion. -/

/-- The NGAP `Guami`. -/
structure NgapGuami where
  plmnIdentity : PlmnIdentity
  amfRegionId : BitVec 8
  amfSetId : BitVec 10
  amfPointer : BitVec 6
  deriving DecidableEq, Repr

/-- The items of the lists, as far as the conversions fill them in. -/
structure ServedGuamiItem where
  guami : NgapGuami
  deriving DecidableEq, Repr

structure SliceSupportItem where
  snssai : NgapSnssai
  deriving DecidableEq, Repr

structure NgapPlmnSupportItem where
  plmnIdentity : PlmnIdentity
  sliceSupportList : NonEmpty SliceSupportItem
  deriving DecidableEq, Repr

/-- The `NgSetupResponse` of `ngap_models`. -/
structure NgapNgSetupResponse where
  amfName : String
  servedGuamiList : NonEmpty ServedGuamiItem
  relativeAmfCapacity : UInt8
  plmnSupportList : NonEmpty NgapPlmnSupportItem
  deriving DecidableEq, Repr

def convertGuami (guami : Guami) : Option NgapGuami := do
  let (amfRegionId, amfSetId, amfPointer) := guami.amfId.toNgap
  let plmnIdentity ← convertMccMncToPlmnId guami.plmnId.mcc guami.plmnId.mnc
  return ⟨plmnIdentity, amfRegionId, amfSetId, amfPointer⟩

def convertServedGuamiList (list : NonEmpty Guami) : Option (NonEmpty ServedGuamiItem) :=
  list.transform fun item => (convertGuami item).map fun guami => { guami }

variable (hexDecode : HexDecode)

def convertSliceSupportList (list : NonEmpty Snssai) : Option (NonEmpty SliceSupportItem) :=
  list.transform fun item =>
    (convertSbiSnssaiToNgapSnssai hexDecode item).map fun snssai => { snssai }

def convertPlmnSupportItem (item : PlmnSupportItem) : Option NgapPlmnSupportItem := do
  let plmnIdentity ← convertMccMncToPlmnId item.plmnId.mcc item.plmnId.mnc
  let sliceSupportList ← convertSliceSupportList hexDecode item.snssaiList
  return { plmnIdentity, sliceSupportList }

def convertPlmnSupportList (list : NonEmpty PlmnSupportItem) :
    Option (NonEmpty NgapPlmnSupportItem) :=
  list.transform (convertPlmnSupportItem hexDecode)

/-- The two `ngap_convert` calls of the success case. -/
def NgSetupResponse.toNgap (resp : NgSetupResponse) : Option NgapNgSetupResponse := do
  let plmnSupportList ← convertPlmnSupportList hexDecode resp.plmnSupportList
  let servedGuamiList ← convertServedGuamiList resp.servedGuamiList
  return {
    plmnSupportList, servedGuamiList
    relativeAmfCapacity := resp.relativeAmfCapacity
    amfName := resp.amfName }

/-- `handle_request` with the conversions of its success case; `none` is a panic in one of
them. -/
def handleRequestNgap {G : Type} (gnbContexts : G → Option (GnbContext G))
    (config : Configuration) (request : NgSetupRequest G) :
    Option (Except (NgapResponseError G) NgapNgSetupResponse) :=
  match handleRequest gnbContexts config request with
  | .ok resp => (resp.toNgap hexDecode).map .ok
  | .error err => some (.error err)

/-! ## Reading it back

The reader is a peer: it uses the converters of the other direction, which the repository has too.
Each item of the response decodes to the item of the configuration that it was made of. -/

/-- What a gNB reads in an item: the converters of the other direction, and bit strings as
numbers. -/
def ServedGuamiItem.decode (item : ServedGuamiItem) : Except ConversionError Guami := do
  let plmnId ← convertPlmnIdToMccMnc item.guami.plmnIdentity
  return ⟨plmnId, .ofNat item.guami.amfRegionId.toNat, .ofNat item.guami.amfSetId.toNat,
    .ofNat item.guami.amfPointer.toNat⟩

def NgapPlmnSupportItem.decode (item : NgapPlmnSupportItem) :
    Except ConversionError PlmnSupportItem := do
  let plmnId ← convertPlmnIdToMccMnc item.plmnIdentity
  return ⟨plmnId, item.sliceSupportList.map fun slice => convertNgapSnssaiToSbiSnssai slice.snssai⟩

def PlmnSupportItem.lowerCase (item : PlmnSupportItem) : PlmnSupportItem :=
  { item with snssaiList := item.snssaiList.map Snssai.lowerCase }

/-- What the types of its fields, and the ranges of an AMF identity, promise. -/
structure Guami.Valid (guami : Guami) : Prop where
  plmnId : guami.plmnId.Valid
  setId : guami.amfId.setId.toNat < 1024
  pointerId : guami.amfId.pointerId.toNat < 64

structure PlmnSupportItem.Valid (item : PlmnSupportItem) : Prop where
  plmnId : item.plmnId.Valid
  snssaiList : ∀ snssai ∈ item.snssaiList.toList, snssai.Valid

/-- A configuration as far as the response is made of it. -/
structure Configuration.Valid (config : Configuration) : Prop where
  servedGuamiList : ∀ guami ∈ config.servedGuamiList.toList, guami.Valid
  plmnSupportList : ∀ item ∈ config.plmnSupportList.toList, item.Valid

/-- A peer that decodes the response item by item has the lists of the configuration, in their
order, but for the case of hex letters. -/
structure NgapNgSetupResponse.Encodes (resp : NgapNgSetupResponse) (config : Configuration) :
    Prop where
  plmnSupportLength : resp.plmnSupportList.toList.length = config.plmnSupportList.toList.length
  servedGuamiLength : resp.servedGuamiList.toList.length = config.servedGuamiList.toList.length
  plmnSupportList : resp.plmnSupportList.toList.mapM (·.decode) =
    .ok (config.plmnSupportList.toList.map (·.lowerCase))
  servedGuamiList : resp.servedGuamiList.toList.mapM (·.decode) = .ok config.servedGuamiList.toList

variable {hexDecode}

/-- A GUAMI is converted when its PLMN is well formed. Its AMF identity is cut into region, set and
pointer whatever it is. -/
theorem exists_convertGuami {guami : Guami} (h : guami.plmnId.Valid) :
    ∃ octets, convertPlmnIdToMccMnc octets = .ok guami.plmnId ∧
      convertGuami guami =
        some ⟨octets, guami.amfId.toNgap.1, guami.amfId.toNgap.2.1, guami.amfId.toNgap.2.2⟩ := by
  obtain ⟨octets, hencode, hdecode⟩ := decode_encode h
  refine ⟨octets, hdecode, ?_⟩
  rw [convertGuami, hencode]
  rfl

/-- And if set and pointer are in range, none of it is lost. -/
theorem convertGuami_decodes {guami : Guami} (h : guami.Valid) :
    ∃ ngap, convertGuami guami = some ngap ∧ ServedGuamiItem.decode ⟨ngap⟩ = .ok guami := by
  obtain ⟨octets, hdecode, hconvert⟩ := exists_convertGuami h.plmnId
  refine ⟨_, hconvert, ?_⟩
  obtain ⟨plmnId, amfId⟩ := guami
  rw [ServedGuamiItem.decode, hdecode, amfId.toNgap_regionId, amfId.toNgap_setId h.setId,
    amfId.toNgap_pointerId h.pointerId, UInt8.ofNat_toNat, UInt16.ofNat_toNat, UInt8.ofNat_toNat]
  rfl

theorem convertServedGuamiList_decodes {list : NonEmpty Guami}
    (h : ∀ guami ∈ list.toList, guami.Valid) : ∃ items, convertServedGuamiList list = some items ∧
      List.Forall₂ (fun guami item => ServedGuamiItem.decode item = .ok guami)
        list.toList items.toList := by
  refine NonEmpty.exists_transform fun guami hguami => ?_
  obtain ⟨ngap, hconvert, hdecode⟩ := convertGuami_decodes (h guami hguami)
  exact ⟨⟨ngap⟩, by rw [hconvert]; rfl, hdecode⟩

theorem convertSliceSupportList_decodes (hhex : hexDecode.Inverse) {list : NonEmpty Snssai}
    (h : ∀ snssai ∈ list.toList, snssai.Valid) :
    ∃ slices, convertSliceSupportList hexDecode list = some slices ∧
      (slices.map fun slice => convertNgapSnssaiToSbiSnssai slice.snssai) =
        list.map Snssai.lowerCase := by
  obtain ⟨slices, htransform, hslices⟩ := NonEmpty.exists_transform
    (f := fun item => (convertSbiSnssaiToNgapSnssai hexDecode item).map SliceSupportItem.mk)
    (P := fun snssai slice => convertNgapSnssaiToSbiSnssai slice.snssai = snssai.lowerCase)
    (l := list) fun snssai hsnssai => by
      obtain ⟨ngap, hconvert, hdecode⟩ := convertSnssai_decodes hhex (h snssai hsnssai)
      exact ⟨⟨ngap⟩, by rw [hconvert]; rfl, hdecode⟩
  refine ⟨slices, htransform, NonEmpty.ext_toList ?_⟩
  rw [NonEmpty.toList_map, NonEmpty.toList_map]
  exact map_of_forall₂ hslices

theorem convertPlmnSupportItem_decodes (hhex : hexDecode.Inverse) {item : PlmnSupportItem}
    (h : item.Valid) : ∃ ngap, convertPlmnSupportItem hexDecode item = some ngap ∧
      ngap.decode = .ok item.lowerCase := by
  obtain ⟨octets, hencode, hdecode⟩ := decode_encode h.plmnId
  obtain ⟨slices, hconvert, hslices⟩ := convertSliceSupportList_decodes hhex h.snssaiList
  refine ⟨⟨octets, slices⟩, ?_, ?_⟩
  · rw [convertPlmnSupportItem, hencode, hconvert]
    rfl
  · rw [NgapPlmnSupportItem.decode, hdecode, hslices]
    rfl

theorem toNgap_success {config : Configuration} {plmns : NonEmpty NgapPlmnSupportItem}
    {guamis : NonEmpty ServedGuamiItem}
    (hplmns : convertPlmnSupportList hexDecode config.plmnSupportList = some plmns)
    (hguamis : convertServedGuamiList config.servedGuamiList = some guamis) :
    (success config).toNgap hexDecode = some ⟨config.name, guamis, 255, plmns⟩ := by
  rw [NgSetupResponse.toNgap, success, hplmns, hguamis]
  rfl

/-- The response for a valid configuration is built, and decodes to its lists. -/
theorem toNgap_decodes (hhex : hexDecode.Inverse) {config : Configuration} (h : config.Valid) :
    ∃ resp, (success config).toNgap hexDecode = some resp ∧ resp.Encodes config := by
  obtain ⟨plmns, hplmns, hdecode⟩ := NonEmpty.exists_transform fun item hitem =>
    convertPlmnSupportItem_decodes hhex (h.plmnSupportList item hitem)
  obtain ⟨guamis, hguamis, hdecode'⟩ := convertServedGuamiList_decodes h.servedGuamiList
  refine ⟨_, toNgap_success hplmns hguamis, {
    plmnSupportLength := hdecode.length_eq.symm
    servedGuamiLength := hdecode'.length_eq.symm
    plmnSupportList := mapM_of_forall₂ hdecode
    servedGuamiList := ?_ }⟩
  have := mapM_of_forall₂ (g := id) hdecode'
  rw [List.map_id] at this
  exact this

/-- The handler returns one response only, the one of its configuration. -/
theorem eq_success_of_evaluate {G : Type} {config : Configuration}
    {list : NonEmpty SupportedTaItem} {resp : NgSetupResponse}
    (h : evaluate (G := G) config list = .ok resp) : resp = success config := by
  unfold evaluate at h
  cases htais : supportedTais list with
  | error e => rw [htais] at h; cases h
  | ok tais =>
    rw [htais] at h
    dsimp only at h
    split at h
    · cases h; rfl
    · cases h

/-- The same with the conflict check in front of it. -/
theorem eq_success_of_handleRequest {G : Type} {gnbContexts : G → Option (GnbContext G)}
    {config : Configuration} {request : NgSetupRequest G} {resp : NgSetupResponse}
    (h : handleRequest gnbContexts config request = .ok resp) : resp = success config := by
  unfold handleRequest at h
  split at h
  · cases h
  · exact eq_success_of_evaluate h

/-- **The response is the configuration.** For every request and whatever is registered: no
conversion panics, a response comes out exactly when the handler accepts, and it decodes to the
configuration. -/
theorem response_decodes {G : Type} (hhex : hexDecode.Inverse) {config : Configuration}
    (hvalid : config.Valid) (gnbContexts : G → Option (GnbContext G))
    (request : NgSetupRequest G) :
    ∃ result, handleRequestNgap hexDecode gnbContexts config request = some result ∧
      ((∃ resp, result = .ok resp) ↔ ∃ resp, handleRequest gnbContexts config request = .ok resp) ∧
      ∀ resp, result = .ok resp → resp.Encodes config := by
  unfold handleRequestNgap
  cases hresult : handleRequest gnbContexts config request with
  -- a failure has nothing to convert
  | error err =>
    exact ⟨.error err, rfl, ⟨fun ⟨_, h⟩ => (nomatch h), fun ⟨_, h⟩ => (nomatch h)⟩, nofun⟩
  -- each list that is converted decodes to the one it was made of
  | ok resp =>
    obtain rfl := eq_success_of_handleRequest hresult
    obtain ⟨ngap, hngap, hencodes⟩ := toNgap_decodes hhex hvalid
    refine ⟨.ok ngap, ?_, ⟨fun _ => ⟨_, rfl⟩, fun _ => ⟨_, rfl⟩⟩, fun resp h => ?_⟩
    · dsimp only
      rw [hngap]
      rfl
    · cases h
      exact hencodes

/-- Two PLMNs, one with slices that have SDs of both cases, and the AMF identity (2, 3, 1). -/
def twoPlmns : Configuration where
  name := "amf"
  servedGuamiList := ⟨⟨⟨['2', '0', '8'], ['9', '3']⟩, ⟨2, 3, 1⟩⟩, []⟩
  supportTaiList := [⟨⟨['2', '0', '8'], ['9', '3']⟩, ['0', '0', '0', '0', '0', 'a'], none⟩]
  plmnSupportList :=
    ⟨⟨⟨['2', '0', '8'], ['9', '3']⟩, ⟨⟨1, some ['A', 'b', 'C', '0', '1', '9']⟩, [⟨2, none⟩]⟩⟩,
      [⟨⟨['0', '0', '1'], ['0', '0', '1']⟩, ⟨⟨3, none⟩, []⟩⟩]⟩

/-- The configuration is one that the validation lets through. -/
theorem twoPlmns_valid : twoPlmns.Valid where
  servedGuamiList guami hguami := by
    obtain rfl := List.mem_singleton.mp hguami
    exact ⟨⟨by decide, by decide⟩, by decide, by decide⟩
  plmnSupportList := by
    have hslices : ∀ snssai ∈ [(⟨1, some ['A', 'b', 'C', '0', '1', '9']⟩ : Snssai), ⟨2, none⟩],
        snssai.Valid :=
      List.forall_mem_cons.mpr ⟨fun sd hsd => by cases hsd; decide,
        List.forall_mem_singleton.mpr nofun⟩
    exact List.forall_mem_cons.mpr ⟨⟨⟨by decide, by decide⟩, hslices⟩,
      List.forall_mem_singleton.mpr
        ⟨⟨by decide, by decide⟩, List.forall_mem_singleton.mpr nofun⟩⟩

/-- So its response decodes. -/
theorem twoPlmns_decodes :
    ∃ result, handleRequestNgap fasterHex (fun _ => none) twoPlmns requestTen = some result ∧
      ((∃ resp, result = .ok resp) ↔
        ∃ resp, handleRequest (fun _ => none) twoPlmns requestTen = .ok resp) ∧
      ∀ resp, result = .ok resp → resp.Encodes twoPlmns :=
  response_decodes fasterHex_inverse twoPlmns_valid (fun _ => none) requestTen

end Ngap

end UnifyAir
