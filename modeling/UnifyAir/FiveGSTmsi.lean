import UnifyAir.Denotation

/-!
# UnifyAir — 5G-S-TMSIs as text

`app/src/utils/models/fiveg_s_tmsi.rs` puts the AMF Set ID, ten bits, and the AMF Pointer, six
bits, into two octets. Both come in octets of their own, from the high end on, and the pointer is
put over the second octet of the set without being shifted down: it covers the last two bits of
the set, and its own bits stand two places too high.

* **`text_form_iff`** — two 5G-S-TMSIs have the texts they should, and are told apart, exactly
  when both pointers are zero.
* **`overlapped_bits`** — the 5G-S-TMSI of the test in the source.
-/

namespace UnifyAir

/-- The concatenation `set_id || pointer || tmsi`. -/
def NgapFiveGSTmsi.bits (value : NgapFiveGSTmsi) : BitVec 48 :=
  let (tmsi₀, tmsi₁, tmsi₂, tmsi₃) := value.fiveGTmsi
  value.amfSetId ++ value.amfPointer ++
    (tmsi₀.toBitVec ++ tmsi₁.toBitVec ++ tmsi₂.toBitVec ++ tmsi₃.toBitVec)

/-- The number of a 5G-TMSI. -/
def tmsiValue : UInt8 × UInt8 × UInt8 × UInt8 → Nat
  | (tmsi₀, tmsi₁, tmsi₂, tmsi₃) =>
    16777216 * tmsi₀.toNat + 65536 * tmsi₁.toNat + 256 * tmsi₂.toNat + tmsi₃.toNat

/-! ## Bit strings as numbers

Appending bit strings is a sum once they are numbers, and so is taking an octet out of one. Only the
`|` of two octets that overlap is no sum. -/

/-- A bit string in front is worth so many times more. -/
theorem append_toNat {m n : Nat} (x : BitVec m) (y : BitVec n) :
    (x ++ y).toNat = 2 ^ n * x.toNat + y.toNat := by
  rw [BitVec.toNat_append, ← Nat.shiftLeft_add_eq_or_of_lt y.isLt, Nat.shiftLeft_eq, Nat.mul_comm]

theorem bits_toNat (value : NgapFiveGSTmsi) : value.bits.toNat =
    274877906944 * value.amfSetId.toNat + 4294967296 * value.amfPointer.toNat +
      tmsiValue value.fiveGTmsi := by
  simp only [NgapFiveGSTmsi.bits, append_toNat, tmsiValue, UInt8.toNat_toBitVec]
  omega

/-- An octet of a bit string, counted from its high end; the last one is filled up with zeros. -/
theorem msb0Octet_toNat {n : Nat} (bits : BitVec n) (i : Nat) :
    (msb0Octet bits i).toNat = 256 * bits.toNat / 2 ^ (n - 8 * i) % 256 := by
  show ((bits ++ 0#8).extractLsb' (n - 8 * i) 8).toNat = _
  rw [BitVec.extractLsb'_toNat, append_toNat, Nat.shiftRight_eq_div_pow]
  rfl

/-- The ten bits of a set: eight in the first octet, and two at the high end of the second. -/
theorem amfSetId_octets (amfSetId : BitVec 10) :
    (msb0Octet amfSetId 0).toNat = amfSetId.toNat / 4 ∧
      (msb0Octet amfSetId 1).toNat = 64 * (amfSetId.toNat % 4) := by
  have hlt := amfSetId.isLt
  rw [msb0Octet_toNat, msb0Octet_toNat]
  omega

/-- The six bits of a pointer are at the high end of their octet, where the source leaves them. -/
theorem amfPointer_octet (amfPointer : BitVec 6) :
    (msb0Octet amfPointer 0).toNat = 4 * amfPointer.toNat := by
  have hlt := amfPointer.isLt
  rw [msb0Octet_toNat]
  omega

/-- The second octet of the text: the last two bits of the set under the bits of the pointer. -/
def mergedOctet (value : NgapFiveGSTmsi) : Nat :=
  64 * (value.amfSetId.toNat % 4) ||| 4 * value.amfPointer.toNat

/-- The two fields fit together in that octet only when the pointer has no bits to put. There are
four values for the bits of the set and 64 for the pointer, so all pairs are tried. -/
theorem mergedOctet_eq_iff (value : NgapFiveGSTmsi) :
    mergedOctet value = 64 * (value.amfSetId.toNat % 4) + value.amfPointer.toNat ↔
      value.amfPointer = 0 := by
  have hpointer : value.amfPointer = 0 ↔ value.amfPointer.toNat = 0 :=
    BitVec.toNat_inj.symm
  have hall : ∀ set < 4, ∀ pointer < 64,
      64 * set ||| 4 * pointer = 64 * set + pointer ↔ pointer = 0 := by decide
  rw [hpointer]
  exact hall _ (Nat.mod_lt _ (by decide)) _ value.amfPointer.isLt

theorem merged_toNat (value : NgapFiveGSTmsi) :
    (msb0Octet value.amfSetId 1 ||| msb0Octet value.amfPointer 0).toNat = mergedOctet value := by
  rw [UInt8.toNat_or, (amfSetId_octets _).2, amfPointer_octet, mergedOctet]

/-! ## The text

Twelve digits, of which the first two and the last eight are always right. -/

/-- The number the text denotes, read octet by octet: all of it but the second octet is as it should
be. -/
theorem value_ofNgap (value : NgapFiveGSTmsi) : Hex.value (FiveGSTmsi.ofNgap value) =
    some (1099511627776 * (value.amfSetId.toNat / 4) + 4294967296 * mergedOctet value +
      tmsiValue value.fiveGTmsi) := by
  obtain ⟨amfSetId, amfPointer, tmsi₀, tmsi₁, tmsi₂, tmsi₃⟩ := value
  show Hex.valueFrom 0 (_ :: _ :: _ :: _ :: _ :: _ :: _ :: _ :: _ :: _ :: _ :: _ :: []) = _
  rw [value_hexString_pair, value_hexString_pair, value_hexString_pair, value_hexString_pair,
    value_hexString_pair, value_hexString_pair, (amfSetId_octets amfSetId).1,
    merged_toNat ⟨amfSetId, amfPointer, tmsi₀, tmsi₁, tmsi₂, tmsi₃⟩]
  show some _ = some _
  dsimp only [tmsiValue]
  congr 1
  omega

/-- The number its first four digits denote, which are those of the AMF set and pointer. -/
theorem value_take_four (value : NgapFiveGSTmsi) :
    Hex.value ((FiveGSTmsi.ofNgap value).take 4) =
      some (256 * (value.amfSetId.toNat / 4) + mergedOctet value) := by
  show Hex.valueFrom 0 (_ :: _ :: _ :: _ :: []) = _
  rw [value_hexString_pair, value_hexString_pair, (amfSetId_octets _).1, merged_toNat,
    Nat.mul_zero, Nat.zero_add]
  rfl

/-- A 5G-TMSI has 32 bits, so it does not reach into the fields in front of it. -/
theorem tmsiValue_lt (tmsi : UInt8 × UInt8 × UInt8 × UInt8) : tmsiValue tmsi < 4294967296 := by
  obtain ⟨tmsi₀, tmsi₁, tmsi₂, tmsi₃⟩ := tmsi
  have h₀ := tmsi₀.toNat_lt
  have h₁ := tmsi₁.toNat_lt
  have h₂ := tmsi₂.toNat_lt
  have h₃ := tmsi₃.toNat_lt
  show 16777216 * tmsi₀.toNat + 65536 * tmsi₁.toNat + 256 * tmsi₂.toNat + tmsi₃.toNat < _
  omega

theorem tmsiValue_inj {tmsi other : UInt8 × UInt8 × UInt8 × UInt8}
    (h : tmsiValue tmsi = tmsiValue other) : tmsi = other := by
  obtain ⟨tmsi₀, tmsi₁, tmsi₂, tmsi₃⟩ := tmsi
  obtain ⟨other₀, other₁, other₂, other₃⟩ := other
  have h₁ := tmsi₁.toNat_lt
  have h₂ := tmsi₂.toNat_lt
  have h₃ := tmsi₃.toNat_lt
  have h₁' := other₁.toNat_lt
  have h₂' := other₂.toNat_lt
  have h₃' := other₃.toNat_lt
  simp only [tmsiValue] at h
  rw [Prod.mk.injEq, Prod.mk.injEq, Prod.mk.injEq, ← UInt8.toNat_inj, ← UInt8.toNat_inj,
    ← UInt8.toNat_inj, ← UInt8.toNat_inj]
  omega

/-- The text is the hex of the concatenated fields when the pointer is zero, and not otherwise: the
other fields cannot make up for a second octet that is wrong. -/
theorem value_eq_bits_iff (value : NgapFiveGSTmsi) :
    Hex.value (FiveGSTmsi.ofNgap value) = some value.bits.toNat ↔ value.amfPointer = 0 := by
  rw [value_ofNgap, bits_toNat, Option.some.injEq, ← mergedOctet_eq_iff]
  omega

/-- What is to hold of the texts of two 5G-S-TMSIs. -/
structure TextForm (value other : NgapFiveGSTmsi) : Prop where
  /-- twelve digits without capitals -/
  digits : (FiveGSTmsi.ofNgap value).length = 12 ∧ Hex.NoCapitals (FiveGSTmsi.ofNgap value)
  bits : Hex.value (FiveGSTmsi.ofNgap value) = some value.bits.toNat
  bits_other : Hex.value (FiveGSTmsi.ofNgap other) = some other.bits.toNat
  injective : FiveGSTmsi.ofNgap value = FiveGSTmsi.ofNgap other → value = other
  /-- of an AMF identity of the AMF itself -/
  amfId : ∀ amfId : AmfId, amfId.setId.toNat < 1024 → amfId.pointerId.toNat < 64 →
    amfId.toNgap.2 = (value.amfSetId, value.amfPointer) →
      Hex.value ((FiveGSTmsi.ofNgap value).take 4) =
        some (64 * amfId.setId.toNat + amfId.pointerId.toNat)

/-- **Texts of 5G-S-TMSIs.** They are right exactly with pointers that are zero. One direction is
the text of each alone; for the other, all clauses follow from what the texts denote. -/
theorem text_form_iff (value other : NgapFiveGSTmsi) :
    TextForm value other ↔ value.amfPointer = 0 ∧ other.amfPointer = 0 := by
  constructor
  · exact fun h => ⟨(value_eq_bits_iff value).mp h.bits, (value_eq_bits_iff other).mp h.bits_other⟩
  · -- the two conditions, one for each value
    intro ⟨hpointer, hother⟩
    have hvalue := (value_eq_bits_iff value).mpr hpointer
    have hvalue' := (value_eq_bits_iff other).mpr hother
    exact {
      digits := ⟨rfl, noCapitals_hexString _⟩
      bits := hvalue
      bits_other := hvalue'
      injective := fun h => by
        rw [h, hvalue', Option.some.injEq, bits_toNat, bits_toNat, hpointer, hother] at hvalue
        have hlt := tmsiValue_lt value.fiveGTmsi
        have hlt' := tmsiValue_lt other.fiveGTmsi
        -- both numbers are sums whose last parts are small
        have hset : value.amfSetId = other.amfSetId := BitVec.toNat_inj.mp (by omega)
        have htmsi : value.fiveGTmsi = other.fiveGTmsi := tmsiValue_inj (by omega)
        obtain ⟨amfSetId, amfPointer, tmsi⟩ := value
        obtain ⟨amfSetId', amfPointer', tmsi'⟩ := other
        obtain rfl : amfSetId = amfSetId' := hset
        obtain rfl : tmsi = tmsi' := htmsi
        rw [show amfPointer = 0 from hpointer, show amfPointer' = 0 from hother]
      amfId := fun amfId hset hpointerId hamfId => by
        rw [Prod.mk.injEq] at hamfId
        obtain ⟨hset', hpointer'⟩ := hamfId
        rw [value_take_four, (mergedOctet_eq_iff value).mpr hpointer, ← hset', ← hpointer',
          amfId.toNgap_setId hset, amfId.toNgap_pointerId hpointerId]
        congr 1
        omega }

/-- The 5G-S-TMSI of the test in the source: set 0101101010, pointer 101010. -/
def testTmsi : NgapFiveGSTmsi := ⟨0b0101101010, 0b101010, 0x12, 0x34, 0x56, 0x78⟩

/-- **The overlap.** The test expects 5aaa12345678. Two 5G-S-TMSIs of one set have the same text,
although their pointers differ in a bit that a bit of the set covers. -/
theorem overlapped_bits :
    FiveGSTmsi.ofNgap testTmsi = ['5', 'a', 'a', '8', '1', '2', '3', '4', '5', '6', '7', '8'] ∧
    testTmsi.bits = 0x5aaa12345678 ∧
    ¬ TextForm testTmsi testTmsi ∧
    FiveGSTmsi.ofNgap ⟨3, 0, 0, 0, 0, 0⟩ = FiveGSTmsi.ofNgap ⟨3, 0b100000, 0, 0, 0, 0⟩ := by
  refine ⟨by decide, by decide, fun h => ?_, by decide⟩
  have := (value_eq_bits_iff testTmsi).mp h.bits
  cases this

end UnifyAir
