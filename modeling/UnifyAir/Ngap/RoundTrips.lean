import UnifyAir.Ngap.Response
import UnifyAir.Wire.Spelling

/-!
# UnifyAir — identities to octets and back

`app/src/utils/convert`. A TAC and the SD of a slice are six hex digits as text, in either case, and
a PLMN of two-digit MNC has a filler as octets. Each pair of conversions undoes itself but for that:
text comes back in small letters, octets with 1111 for the filler.

* **`round_trips`** — TACs, S-NSSAIs and PLMN identities, both ways.
-/

namespace UnifyAir

open Spelling

/-- The pattern of a `Tac`: six hex digits. -/
def IsTac (text : List Char) : Prop := IsSd text

instance (text : List Char) : Decidable (IsTac text) := inferInstanceAs (Decidable (IsSd text))

/-! ## Three octets as text

A TAC and an SD are the same thing on the wire. `hexString` prints three octets in small letters;
the lemmas say that this is injective and that printing and reading agree on the value. -/

theorem mem_hexString {octets : List UInt8} {c : Char} (hc : c ∈ hexString octets) :
    ∃ d, Hex.digitValue c = some d ∧ c = Nat.digitChar d := by
  obtain ⟨octet, -, hc⟩ := List.mem_flatMap.mp hc
  simp only [List.mem_cons, List.not_mem_nil, or_false] at hc
  rcases hc with rfl | rfl
  · rw [digit, toNat_high]
    exact ⟨_, Hex.digitValue_digitChar (high_lt octet), rfl⟩
  · rw [digit, toNat_low]
    exact ⟨_, Hex.digitValue_digitChar (Nat.mod_lt _ (by decide)), rfl⟩

theorem isSd_hexString (b₁ b₂ b₃ : UInt8) : IsSd (hexString [b₁, b₂, b₃]) := by
  refine ⟨rfl, List.all_eq_true.mpr fun c hc => ?_⟩
  obtain ⟨d, hd, -⟩ := mem_hexString hc
  rw [hd]
  rfl

theorem toLower_hexString (octets : List UInt8) :
    (hexString octets).map Char.toLower = hexString octets := by
  have hlower : ∀ c ∈ hexString octets, c.toLower = id c := by
    intro c hc
    obtain ⟨d, hd, hchar⟩ := mem_hexString hc
    rw [toLower_eq_digitChar hd]
    exact hchar.symm
  rw [List.map_congr_left hlower, List.map_id]

/-- Octets are determined by their text, since their value is. -/
theorem hexString_inj {b₁ b₂ b₃ c₁ c₂ c₃ : UInt8}
    (h : hexString [b₁, b₂, b₃] = hexString [c₁, c₂, c₃]) : b₁ = c₁ ∧ b₂ = c₂ ∧ b₃ = c₃ := by
  have hvalue : NgapTac.value ⟨b₁, b₂, b₃⟩ = NgapTac.value ⟨c₁, c₂, c₃⟩ := by
    have := value_convertTac ⟨b₁, b₂, b₃⟩
    rw [convertNgapTacToSbiTac, h] at this
    exact Option.some.inj (this.symm.trans (value_convertTac ⟨c₁, c₂, c₃⟩))
  have hb₂ := b₂.toNat_lt
  have hb₃ := b₃.toNat_lt
  have hc₂ := c₂.toNat_lt
  have hc₃ := c₃.toNat_lt
  simp only [NgapTac.value] at hvalue
  -- the three octets are the digits of one number to the base 256
  refine ⟨UInt8.toNat_inj.mp ?_, UInt8.toNat_inj.mp ?_, UInt8.toNat_inj.mp ?_⟩ <;> omega

/-- Small letters denote what capitals do. By induction on the text, with the value of what was read
before. -/
theorem valueFrom_toLower {text : List Char} (h : ∀ c ∈ text, (Hex.digitValue c).isSome)
    (n : Nat) : Hex.valueFrom n (text.map Char.toLower) = Hex.valueFrom n text := by
  induction text generalizing n with
  | nil => rfl
  | cons c text ih =>
    obtain ⟨hc, hall⟩ := List.forall_mem_cons.mp h
    obtain ⟨d, hd⟩ := Option.isSome_iff_exists.mp hc
    have hlower : Hex.digitValue c.toLower = some d := by
      rw [toLower_eq_digitChar hd, Hex.digitValue_digitChar (Hex.digitValue_lt hd)]
    rw [List.map_cons, Hex.valueFrom, Hex.valueFrom, hlower, hd]
    exact ih hall _

theorem exists_valueFrom {text : List Char} (h : ∀ c ∈ text, (Hex.digitValue c).isSome) (n : Nat) :
    ∃ v, Hex.valueFrom n text = some v := by
  induction text generalizing n with
  | nil => exact ⟨n, rfl⟩
  | cons c text ih =>
    obtain ⟨hc, hall⟩ := List.forall_mem_cons.mp h
    obtain ⟨d, hd⟩ := Option.isSome_iff_exists.mp hc
    rw [Hex.valueFrom, hd]
    exact ih hall _

theorem noCapitals_toLower {text : List Char} (h : IsSd text) :
    Hex.NoCapitals (text.map Char.toLower) := by
  intro c hc
  obtain ⟨c', hc', rfl⟩ := List.mem_map.mp hc
  obtain ⟨d, hd⟩ := Option.isSome_iff_exists.mp (List.all_eq_true.mp h.2 c' hc')
  rw [toLower_eq_digitChar hd]
  exact Hex.digitChar_not_upper (Hex.digitValue_lt hd)

theorem value_toLower {text : List Char} (h : IsSd text) :
    Hex.value (text.map Char.toLower) = Hex.value text :=
  valueFrom_toLower (List.all_eq_true.mp h.2) 0

section

variable {hexDecode : HexDecode} (hhex : hexDecode.Inverse)

include hhex

/-- The digits of three octets are decoded to them. `faster_hex` decodes to something that is
printed as the same digits, and printing is injective. -/
theorem hexDecode_hexString (b₁ b₂ b₃ : UInt8) :
    hexDecode (asBytes (hexString [b₁, b₂, b₃])) = some (b₁, b₂, b₃) := by
  obtain ⟨c₁, c₂, c₃, hdecode, hlower⟩ := hhex _ (isSd_hexString b₁ b₂ b₃)
  rw [toLower_hexString] at hlower
  obtain ⟨rfl, rfl, rfl⟩ := hexString_inj hlower
  exact hdecode

/-! ## Tracking area codes

Text to octets and back gives small letters, octets to text and back gives the octets. -/

/-- A TAC is converted, and converted back it is in small letters. -/
theorem exists_convertTac {text : List Char} (h : IsTac text) :
    ∃ tac, convertSbiTacToNgapTac hexDecode text = some tac ∧
      convertNgapTacToSbiTac tac = text.map Char.toLower := by
  obtain ⟨b₁, b₂, b₃, hdecode, hlower⟩ := hhex text h
  refine ⟨⟨b₁, b₂, b₃⟩, ?_, hlower⟩
  rw [convertSbiTacToNgapTac, hdecode]
  rfl

theorem convertTac_convertTac (tac : NgapTac) :
    convertSbiTacToNgapTac hexDecode (convertNgapTacToSbiTac tac) = some tac := by
  rw [convertSbiTacToNgapTac, convertNgapTacToSbiTac, hexDecode_hexString hhex]
  rfl

theorem tac_between : Between (convertSbiTacToNgapTac hexDecode)
    (fun tac => some (convertNgapTacToSbiTac tac)) IsTac (List.map Char.toLower)
    (fun _ => True) id where
  exists_encode text h := by
    obtain ⟨tac, hconvert, hlower⟩ := exists_convertTac hhex h
    exact ⟨tac, hconvert, trivial, rfl, congrArg some hlower⟩
  exists_decode tac _ :=
    ⟨_, rfl, isSd_hexString _ _ _, toLower_hexString _, convertTac_convertTac hhex tac⟩

theorem value_of_convertTac {text : List Char} (h : IsTac text) {tac : NgapTac}
    (hconvert : convertSbiTacToNgapTac hexDecode text = some tac) :
    Hex.value text = some tac.value := by
  obtain ⟨tac', hconvert', hlower⟩ := exists_convertTac hhex h
  rw [hconvert, Option.some.injEq] at hconvert'
  rw [← value_toLower h, ← hlower, hconvert', value_convertTac]

/-! ## Slices

The same with an SST in front and an SD that may be missing. -/

theorem convertSnssai_convertSnssai (ngap : NgapSnssai) :
    convertSbiSnssaiToNgapSnssai hexDecode (convertNgapSnssaiToSbiSnssai ngap) = some ngap := by
  obtain ⟨sst, sd⟩ := ngap
  cases sd with
  | none => rfl
  | some sd =>
    obtain ⟨b₁, b₂, b₃⟩ := sd
    show (hexDecode (asBytes (hexString [b₁, b₂, b₃]))).map _ = _
    rw [hexDecode_hexString hhex]
    rfl

/-- Both ways at once. A slice without an SD stays one, and with an SD it is that of three octets,
which the text spells in six digits of either case. -/
theorem snssai_between : Between (convertSbiSnssaiToNgapSnssai hexDecode)
    (fun ngap => some (convertNgapSnssaiToSbiSnssai ngap)) Snssai.Valid Snssai.lowerCase
    (fun _ => True) id where
  exists_encode snssai h := by
    obtain ⟨ngap, hconvert, hlower⟩ := convertSnssai_decodes hhex h
    exact ⟨ngap, hconvert, trivial, rfl, congrArg some hlower⟩
  exists_decode ngap _ := by
    refine ⟨_, rfl, fun sd hsd => ?_, ?_, convertSnssai_convertSnssai hhex ngap⟩
    · obtain ⟨⟨b₁, b₂, b₃⟩, -, rfl⟩ := Option.map_eq_some_iff.mp hsd
      exact isSd_hexString b₁ b₂ b₃
    · obtain ⟨sst, sd⟩ := ngap
      -- there may be no differentiator
      cases sd with
      | none => rfl
      | some sd =>
        obtain ⟨b₁, b₂, b₃⟩ := sd
        show Snssai.mk sst (some ((hexString [b₁, b₂, b₃]).map Char.toLower)) = _
        rw [toLower_hexString]
        rfl

end

/-! ## PLMN identities

Here the octets are the side with more than one way of writing: anything may stand in the filler,
and encoding puts 1111 there. -/

theorem plmnId_between : Between (fun plmnId : PlmnId => convertMccMncToPlmnId plmnId.mcc plmnId.mnc)
    (fun octets => (convertPlmnIdToMccMnc octets).toOption) PlmnId.Valid id
    PlmnIdentity.Decimal PlmnIdentity.withFiller where
  exists_encode plmnId h := by
    obtain ⟨octets, hencode, hdecode⟩ := decode_encode h
    obtain ⟨hdecimal, htext⟩ := PlmnIdentity.decode_iff.mp hdecode
    refine ⟨octets, hencode, hdecimal, ?_, by rw [hdecode]; rfl⟩
    have hagain := hdecimal.encode
    rw [htext] at hencode
    exact Option.some.inj (hagain.symm.trans hencode)
  exists_decode octets h := by
    have hdecode := PlmnIdentity.decode_iff.mpr ⟨h, rfl⟩
    exact ⟨_, by rw [hdecode]; rfl, h.valid, rfl, h.encode⟩

/-! ## The three conversions

Gathered into one statement. That others are kept apart follows from the round trip: what two texts
are both converted to is converted back to the normal form of either. -/

/-- What is to hold of the conversions of TACs, S-NSSAIs and PLMN identities: each undoes the
other, but for the case of hex digits and for the filler, and the others are kept apart. -/
structure RoundTrips (hexDecode : HexDecode) : Prop where
  tac : Between (convertSbiTacToNgapTac hexDecode)
    (fun tac => some (convertNgapTacToSbiTac tac)) IsTac (List.map Char.toLower)
    (fun _ => True) id
  tac_value : ∀ text tac, IsTac text → convertSbiTacToNgapTac hexDecode text = some tac →
    Hex.value text = some tac.value
  tac_same_iff : ∀ text text', IsTac text → IsTac text' →
    (convertSbiTacToNgapTac hexDecode text = convertSbiTacToNgapTac hexDecode text' ↔
      Hex.value text = Hex.value text')
  snssai : Between (convertSbiSnssaiToNgapSnssai hexDecode)
    (fun ngap => some (convertNgapSnssaiToSbiSnssai ngap)) Snssai.Valid Snssai.lowerCase
    (fun _ => True) id
  snssai_same_iff : ∀ snssai other : Snssai, snssai.Valid → other.Valid →
    (convertSbiSnssaiToNgapSnssai hexDecode snssai = convertSbiSnssaiToNgapSnssai hexDecode other ↔
      snssai.lowerCase = other.lowerCase)
  plmnId : Between (fun plmnId : PlmnId => convertMccMncToPlmnId plmnId.mcc plmnId.mnc)
    (fun octets => (convertPlmnIdToMccMnc octets).toOption) PlmnId.Valid id
    PlmnIdentity.Decimal PlmnIdentity.withFiller

/-- Texts that denote one TAC have the same small letters. -/
theorem lower_eq_iff {text text' : List Char} (h : IsTac text) (h' : IsTac text') :
    text.map Char.toLower = text'.map Char.toLower ↔ Hex.value text = Hex.value text' := by
  rw [← value_toLower h, ← value_toLower h']
  constructor
  · exact congrArg Hex.value
  · intro hvalue
    obtain ⟨v, hv⟩ := exists_valueFrom (List.all_eq_true.mp h.2) 0
    have hv' : Hex.value (text.map Char.toLower) = some v := (value_toLower h).trans hv
    refine Hex.eq_of_value_eq ?_ (noCapitals_toLower h) (noCapitals_toLower h') hv' ?_
    · rw [List.length_map, List.length_map, h.1, h'.1]
    · rw [← hvalue, hv']

/-- **There and back.** Each field is one of the three pairs above, or what `Between` says of it. -/
theorem round_trips {hexDecode : HexDecode} (hhex : hexDecode.Inverse) : RoundTrips hexDecode where
  tac := tac_between hhex
  tac_value _ _ h hconvert := value_of_convertTac hhex h hconvert
  tac_same_iff _ _ h h' :=
    ((tac_between hhex).encode_eq_iff h h').trans (lower_eq_iff h h')
  snssai := snssai_between hhex
  snssai_same_iff _ _ h h' := (snssai_between hhex).encode_eq_iff h h'
  plmnId := plmnId_between

/-- With the decoder of the response, for which the hypothesis is proved. -/
theorem round_trips_fasterHex : RoundTrips fasterHex := round_trips fasterHex_inverse

example : convertSbiTacToNgapTac fasterHex ['0', '0', '0', '0', 'A', 'f'] = some ⟨0, 0, 0xaf⟩ := by
  decide

end UnifyAir
