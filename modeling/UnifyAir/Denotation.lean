import UnifyAir.Convert
import UnifyAir.Text.Hex

/-!
# UnifyAir — what identities denote

A tracking area code is a number of 24 bits and a PLMN identity is the digits of an MCC and an
MNC, whether they stand in octets or in text. The conversions to text keep what is denoted
(`value_convertTac`, `convertPlmn_eq`); the text of a TAC is the one of its spellings that has no
capitals (`eq_convertTac_iff`).
-/

namespace UnifyAir

/-- The number a TAC denotes. -/
def NgapTac.value (tac : NgapTac) : Nat :=
  65536 * tac.octet1.toNat + 256 * tac.octet2.toNat + tac.octet3.toNat

/-- The digits of the MCC and of the MNC a PLMN identity denotes, if they are decimal. A third
digit of the MNC that is not stands for an MNC of two digits. -/
def PlmnIdentity.digits (plmnId : PlmnIdentity) : Option (List Nat × List Nat) :=
  let mcc := [plmnId.octet1.toNat % 16, plmnId.octet1.toNat / 16, plmnId.octet2.toNat % 16]
  let mnc := [plmnId.octet3.toNat % 16, plmnId.octet3.toNat / 16]
  let mncDigit := plmnId.octet2.toNat / 16
  if ∀ d ∈ mcc ++ mnc, d < 10 then some (mcc, if mncDigit < 10 then mncDigit :: mnc else mnc)
  else none

/-- The digits as text. -/
def PlmnId.ofDigits (mcc mnc : List Nat) : PlmnId :=
  ⟨mcc.map Nat.digitChar, mnc.map Nat.digitChar⟩

/-! ## Octets

The two digits in an octet, as numbers. -/

/-- The lower digit of an octet is its remainder by sixteen. -/
theorem toNat_low (octet : UInt8) : (octet &&& 0x0F).toNat = octet.toNat % 16 := by
  rw [UInt8.toNat_and]
  exact Nat.and_two_pow_sub_one_eq_mod octet.toNat 4

theorem toNat_high (octet : UInt8) : (octet >>> 4).toNat = octet.toNat / 16 := by
  rw [UInt8.toNat_shiftRight]
  exact Nat.shiftRight_eq_div_pow octet.toNat 4

theorem high_lt (octet : UInt8) : octet.toNat / 16 < 16 := by
  have := octet.toNat_lt
  omega

/-- A PLMN identity converts to the text of the digits it denotes, if it denotes any, and to an
error otherwise. The source tests the nibbles one by one; here they are a list of digits. -/
theorem convertPlmn_eq (plmnId : PlmnIdentity) : convertPlmnIdToMccMnc plmnId =
    match plmnId.digits with
    | some (mcc, mnc) => .ok (.ofDigits mcc mnc)
    | none => .error ⟨plmnId⟩ := by
  have hgt : ∀ octet : UInt8, octet > 9 ↔ ¬ octet.toNat < 10 := fun octet => by
    rw [gt_iff_lt, UInt8.lt_iff_toNat_lt, Nat.not_lt]
    exact Iff.rfl
  have hge : ∀ octet : UInt8, octet ≥ 0xA ↔ ¬ octet.toNat < 10 := fun octet => by
    rw [ge_iff_le, UInt8.le_iff_toNat_le, Nat.not_lt]
    exact Iff.rfl
  simp only [convertPlmnIdToMccMnc, PlmnIdentity.digits, hgt, hge, toNat_low, toNat_high, digit,
    List.cons_append, List.nil_append, List.forall_mem_cons]
  split
  · next hbad =>
    rw [if_neg fun ⟨h₁, h₂, h₃, h₄, h₅, _⟩ => by omega]
  · next hgood =>
    simp only [not_or, not_not] at hgood
    -- an MNC of three digits, or of two and a filler
    by_cases hthird : plmnId.octet2.toNat / 16 < 10
    · simp [hthird, hgood, PlmnId.ofDigits]
    · simp [hthird, hgood, PlmnId.ofDigits]

theorem digits_lt {plmnId : PlmnIdentity} {mcc mnc : List Nat}
    (h : plmnId.digits = some (mcc, mnc)) : (∀ d ∈ mcc, d < 10) ∧ ∀ d ∈ mnc, d < 10 := by
  simp only [PlmnIdentity.digits] at h
  split at h
  · next hall =>
    cases h
    obtain ⟨hmcc, hmnc⟩ := List.forall_mem_append.mp hall
    refine ⟨hmcc, ?_⟩
    split
    · next hthird => exact List.forall_mem_cons.mpr ⟨hthird, hmnc⟩
    · exact hmnc
  · cases h

/-! ## Bit strings

The fields of an AMF identity are stored in bit strings of their own length, and lose nothing there
if they fit. -/

theorem storeBe_toNat {n value : Nat} (h : value < 2 ^ n) : (storeBe n value).toNat = value := by
  show value % 2 ^ n = value
  exact Nat.mod_eq_of_lt h

/-- The three bit strings of an AMF identity, read as numbers. -/
theorem AmfId.toNgap_regionId (amfId : AmfId) : amfId.toNgap.1.toNat = amfId.regionId.toNat :=
  storeBe_toNat amfId.regionId.toNat_lt

/-- The AMF set id has ten bits, and so has its bit string. -/
theorem AmfId.toNgap_setId (amfId : AmfId) (h : amfId.setId.toNat < 1024) :
    amfId.toNgap.2.1.toNat = amfId.setId.toNat :=
  storeBe_toNat h

/-- The AMF pointer has six bits, and so has its bit string. -/
theorem AmfId.toNgap_pointerId (amfId : AmfId) (h : amfId.pointerId.toNat < 64) :
    amfId.toNgap.2.2.toNat = amfId.pointerId.toNat :=
  storeBe_toNat h

/-! ## Texts

A TAC is written octet by octet, two digits each, and a text of six digits is read as one number. -/

/-- The two digits of an octet, read behind what has been read before, put the octet behind it. -/
theorem value_hexString_pair (octet : UInt8) (n : Nat) (text : List Char) :
    Hex.valueFrom n (digit (octet >>> 4) :: digit (octet &&& 0x0F) :: text) =
      Hex.valueFrom (256 * n + octet.toNat) text := by
  have hhigh : Hex.digitValue (digit (octet >>> 4)) = some (octet.toNat / 16) := by
    rw [digit, toNat_high, Hex.digitValue_digitChar (high_lt octet)]
  have hlow : Hex.digitValue (digit (octet &&& 0x0F)) = some (octet.toNat % 16) := by
    rw [digit, toNat_low, Hex.digitValue_digitChar (Nat.mod_lt _ (by decide))]
  simp only [Hex.valueFrom, hhigh, hlow, Option.bind_some]
  rw [show 16 * (16 * n + octet.toNat / 16) + octet.toNat % 16 = 256 * n + octet.toNat by omega]

/-- The text of a TAC denotes the number that the TAC denotes. -/
theorem value_convertTac (tac : NgapTac) :
    Hex.value (convertNgapTacToSbiTac tac) = some tac.value := by
  show Hex.valueFrom 0 (_ :: _ :: _ :: _ :: _ :: _ :: []) = _
  rw [value_hexString_pair, value_hexString_pair, value_hexString_pair]
  show some _ = some _
  rw [NgapTac.value]
  congr 1
  omega

theorem noCapitals_hexString (octets : List UInt8) : Hex.NoCapitals (hexString octets) := by
  intro c hc
  obtain ⟨octet, -, hc⟩ := List.mem_flatMap.mp hc
  simp only [List.mem_cons, List.not_mem_nil, or_false] at hc
  rcases hc with rfl | rfl
  · rw [digit, toNat_high]
    exact Hex.digitChar_not_upper (high_lt octet)
  · rw [digit, toNat_low]
    exact Hex.digitChar_not_upper (Nat.mod_lt _ (by decide))

/-- A text of six digits is what a TAC converts to when it denotes the same number without capitals.
So whoever compares texts compares numbers, as long as no capital is written. -/
theorem eq_convertTac_iff {text : List Char} (hlen : text.length = 6) (tac : NgapTac) :
    text = convertNgapTacToSbiTac tac ↔ Hex.value text = some tac.value ∧ Hex.NoCapitals text := by
  constructor
  · rintro rfl
    exact ⟨value_convertTac tac, noCapitals_hexString _⟩
  · rintro ⟨hvalue, hcap⟩
    exact Hex.eq_of_value_eq hlen hcap (noCapitals_hexString _) hvalue (value_convertTac tac)

/-- A text denotes digits below ten only as the text of these digits: decimal digits have no
capitals, so there is one spelling. -/
theorem mapM_digitValue_iff {text : List Char} {ds : List Nat} (h : ∀ d ∈ ds, d < 10) :
    text.mapM Hex.digitValue = some ds ↔ text = ds.map Nat.digitChar := by
  induction text generalizing ds with
  | nil => cases ds <;> simp
  | cons c text ih =>
    rw [List.mapM_cons]
    constructor
    · intro htext
      obtain ⟨d, hd, htext⟩ := Option.bind_eq_some_iff.mp htext
      obtain ⟨rest, hrest, heq⟩ := Option.bind_eq_some_iff.mp htext
      cases heq
      obtain ⟨hlt, hall⟩ := List.forall_mem_cons.mp h
      rw [List.map_cons, ← (ih hall).mp hrest, ← Hex.eq_digitChar hd (Or.inl hlt)]
    · intro htext
      cases ds with
      | nil => cases htext
      | cons d ds =>
        obtain ⟨hlt, hall⟩ := List.forall_mem_cons.mp h
        rw [List.map_cons, List.cons.injEq] at htext
        rw [htext.1, Hex.digitValue_digitChar (by omega), (ih hall).mpr htext.2]
        rfl

end UnifyAir
