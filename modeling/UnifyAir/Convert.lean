import Mathlib.Data.Nat.Digits.Defs

/-!
# UnifyAir — between NGAP octets and SBI text

`app/src/utils`: PLMN identities, tracking area codes and S-NSSAIs arrive as octets and are
compared with the configuration as digit strings, and a 5G-S-TMSI is kept as its digits. In the
other direction the configuration is put into octets and bit strings for an NG Setup response. A
digit string is the list of its characters. A conversion to octets is `none` when it panics.
-/

namespace UnifyAir

/-- `nonempty::NonEmpty`. -/
structure NonEmpty (α : Type) where
  head : α
  tail : List α
  deriving DecidableEq, Repr, Inhabited

namespace NonEmpty

variable {α β : Type}

def toList (l : NonEmpty α) : List α := l.head :: l.tail

def map (f : α → β) (l : NonEmpty α) : NonEmpty β := ⟨f l.head, l.tail.map f⟩

/-- `transform_nonempty` with a function that can panic. -/
def transform (f : α → Option β) (l : NonEmpty α) : Option (NonEmpty β) := do
  let head ← f l.head
  let tail ← l.tail.mapM f
  return ⟨head, tail⟩

end NonEmpty

/-- The NGAP `PlmnIdentity([u8; 3])`. -/
structure PlmnIdentity where
  octet1 : UInt8
  octet2 : UInt8
  octet3 : UInt8
  deriving DecidableEq, Repr

/-- The SBI `PlmnId`. -/
structure PlmnId where
  mcc : List Char
  mnc : List Char
  deriving DecidableEq, Repr, Inhabited

/-- `ConversionError` with the text "Invalid MCC/MNC digits in PLMN Identity: " before the
identity. -/
structure ConversionError where
  plmnId : PlmnIdentity
  deriving DecidableEq, Repr

/-- One digit as `format!("{}")` writes it. -/
def digit (d : UInt8) : Char := Nat.digitChar d.toNat

/-- `convert_plmn_id_to_mcc_mnc`. -/
def convertPlmnIdToMccMnc (plmnId : PlmnIdentity) : Except ConversionError PlmnId :=
  let mccDigit1 := plmnId.octet1 &&& 0x0F
  let mccDigit2 := plmnId.octet1 >>> 4
  let mccDigit3 := plmnId.octet2 &&& 0x0F
  let mncDigit1 := plmnId.octet3 >>> 4
  let mncDigit2 := plmnId.octet3 &&& 0x0F
  let mncDigit3 := plmnId.octet2 >>> 4
  if mncDigit1 > 9 ∨ mncDigit2 > 9 ∨ mccDigit1 > 9 ∨ mccDigit2 > 9 ∨ mccDigit3 > 9 then
    .error ⟨plmnId⟩
  else
    let mcc := [digit mccDigit1, digit mccDigit2, digit mccDigit3]
    -- a third digit of 0xA or more is the filler of a two-digit MNC
    let mnc :=
      if mncDigit3 ≥ 0xA then [digit mncDigit2, digit mncDigit1]
      else [digit mncDigit3, digit mncDigit2, digit mncDigit1]
    .ok ⟨mcc, mnc⟩

/-- `str::as_bytes`: the text in UTF-8. -/
def asBytes (text : List Char) : List UInt8 := text.flatMap String.utf8EncodeChar

/-- `bytes[i] - b'0'`, which needs the index to be in range and the byte not to be below '0'. -/
def subZero (bytes : List UInt8) (i : Nat) : Option UInt8 := do
  let byte ← bytes[i]?
  if byte < 0x30 then none else some (byte - 0x30)

/-- Two digits in one octet: `high << 4 | low`. -/
def packDigits (high low : Option UInt8) : Option UInt8 := do
  return (← high) <<< 4 ||| (← low)

/-- `convert_mcc_mnc_to_plmn_id`. -/
def convertMccMncToPlmnId (mcc mnc : List Char) : Option PlmnIdentity := do
  let mccBytes := asBytes mcc
  let mncBytes := asBytes mnc
  let octet1 ← packDigits (subZero mccBytes 1) (subZero mccBytes 0)
  let octet2 ←
    -- 1111 is the filler of a two-digit MNC
    if mncBytes.length = 2 then (subZero mccBytes 2).map (0xF0 ||| ·)
    else packDigits (subZero mncBytes 0) (subZero mccBytes 2)
  let octet3 ←
    if mncBytes.length = 2 then packDigits (subZero mncBytes 1) (subZero mncBytes 0)
    else packDigits (subZero mncBytes 2) (subZero mncBytes 1)
  return ⟨octet1, octet2, octet3⟩

/-- `faster_hex::hex_string`: two lower-case digits an octet, high half first. -/
def hexString (octets : List UInt8) : List Char :=
  octets.flatMap fun (octet : UInt8) => [digit (octet >>> 4), digit (octet &&& 0x0F)]

/-- The NGAP `Tac([u8; 3])`. -/
structure NgapTac where
  octet1 : UInt8
  octet2 : UInt8
  octet3 : UInt8
  deriving DecidableEq, Repr

/-- `convert_ngap_tac_to_sbi_tac`. -/
def convertNgapTacToSbiTac (tac : NgapTac) : List Char :=
  hexString [tac.octet1, tac.octet2, tac.octet3]

/-- The NGAP `Snssai`. -/
structure NgapSnssai where
  sst : UInt8
  sd : Option (UInt8 × UInt8 × UInt8)
  deriving DecidableEq, Repr

/-- The SBI `Snssai`. -/
structure Snssai where
  sst : UInt8
  sd : Option (List Char)
  deriving DecidableEq, Repr, Inhabited

/-- `convert_ngap_snssai_to_sbi_snssai`. -/
def convertNgapSnssaiToSbiSnssai (ngap : NgapSnssai) : Snssai where
  sst := ngap.sst
  sd := ngap.sd.map fun (b₁, b₂, b₃) => hexString [b₁, b₂, b₃]

/-- `faster_hex::hex_decode` into a buffer of three octets; `none` is an error. -/
abbrev HexDecode := List UInt8 → Option (UInt8 × UInt8 × UInt8)

/-- `convert_sbi_tac_to_ngap_tac`, whose `unwrap` panics on an error of `hex_decode`. -/
def convertSbiTacToNgapTac (hexDecode : HexDecode) (sbiTac : List Char) : Option NgapTac :=
  (hexDecode (asBytes sbiTac)).map fun (b₁, b₂, b₃) => ⟨b₁, b₂, b₃⟩

/-- `convert_sbi_snssai_to_ngap_snssai`, whose `unwrap` panics on an error of `hex_decode`. -/
def convertSbiSnssaiToNgapSnssai (hexDecode : HexDecode) (sbi : Snssai) : Option NgapSnssai :=
  match sbi.sd with
  | some sd => (hexDecode (asBytes sd)).map fun dst => ⟨sbi.sst, some dst⟩
  | none => some ⟨sbi.sst, none⟩

/-- The SBI `AmfId`. -/
structure AmfId where
  regionId : UInt8
  setId : UInt16
  pointerId : UInt8
  deriving DecidableEq, Repr, Inhabited

/-- `store_be` into a `BitVec<u8, Msb0>` of `n` bits: the low `n` bits of the value, the highest
of them first. -/
def storeBe (n value : Nat) : BitVec n := .ofNat n value

/-- The conversion of an `AmfId` to `(AmfRegionId, AmfSetId, AmfPointer)`. -/
def AmfId.toNgap (amfId : AmfId) : BitVec 8 × BitVec 10 × BitVec 6 :=
  (storeBe 8 amfId.regionId.toNat, storeBe 10 amfId.setId.toNat, storeBe 6 amfId.pointerId.toNat)

/-- Octet `i` of the storage of a `BitVec<u8, Msb0>`: bits go in from the high end, and the
unused bits of the last octet are zero. -/
def msb0Octet {n : Nat} (bits : BitVec n) (i : Nat) : UInt8 :=
  .ofBitVec ((bits ++ 0#8).extractLsb' (n - 8 * i) 8)

/-- The NGAP `FiveGSTmsi`. -/
structure NgapFiveGSTmsi where
  amfSetId : BitVec 10
  amfPointer : BitVec 6
  fiveGTmsi : UInt8 × UInt8 × UInt8 × UInt8
  deriving DecidableEq, Repr

/-- `FiveGSTmsi(AsciiString)`. -/
abbrev FiveGSTmsi := List Char

/-- `FiveGSTmsi::from`. -/
def FiveGSTmsi.ofNgap (value : NgapFiveGSTmsi) : FiveGSTmsi :=
  let (tmsi₀, tmsi₁, tmsi₂, tmsi₃) := value.fiveGTmsi
  hexString
    [msb0Octet value.amfSetId 0, msb0Octet value.amfSetId 1 ||| msb0Octet value.amfPointer 0,
      tmsi₀, tmsi₁, tmsi₂, tmsi₃]

example : convertPlmnIdToMccMnc ⟨0x02, 0xF8, 0x39⟩ = .ok ⟨['2', '0', '8'], ['9', '3']⟩ := by decide

example : convertMccMncToPlmnId ['2', '0', '8'] ['9', '3'] = some ⟨0x02, 0xF8, 0x39⟩ := by decide

example : convertNgapTacToSbiTac ⟨0x12, 0x34, 0xff⟩ = ['1', '2', '3', '4', 'f', 'f'] := by decide

end UnifyAir
