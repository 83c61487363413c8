import Mathlib.Data.List.Basic
import UnifyAir.Denotation

/-!
# UnifyAir — PLMN identities both ways

A PLMN identity of two-digit MNC has a spare nibble, which is written as 1111 and read as any
nibble that is not a decimal digit. So the octets that decode to one PLMN are the octets it is
encoded to, with any such filler.

* **`decoding`** — what the octets of a peer decode to.
* **`decode_encode`** — a PLMN that is well formed is encoded, and decodes to itself.
-/

namespace UnifyAir

/-- The pattern of an `Mcc`: three decimal digits. -/
def IsMcc (text : List Char) : Prop := text.length = 3 ∧ text.all Char.isDigit = true

/-- The pattern of an `Mnc`: two or three decimal digits. -/
def IsMnc (text : List Char) : Prop :=
  (text.length = 2 ∨ text.length = 3) ∧ text.all Char.isDigit = true

instance (text : List Char) : Decidable (IsMcc text) := inferInstanceAs (Decidable (_ ∧ _))

instance (text : List Char) : Decidable (IsMnc text) := inferInstanceAs (Decidable (_ ∧ _))

/-- What the types of its fields promise of a `PlmnId`. -/
structure PlmnId.Valid (plmnId : PlmnId) : Prop where
  mcc : IsMcc plmnId.mcc
  mnc : IsMnc plmnId.mnc

/-- The high nibble of octet 2 is not a decimal digit. -/
def PlmnIdentity.HasFiller (plmnId : PlmnIdentity) : Prop := 9 < plmnId.octet2.toNat / 16

instance (plmnId : PlmnIdentity) : Decidable plmnId.HasFiller := Nat.decLt ..

/-- The identity with 1111 for a high nibble of octet 2 that is not a decimal digit. -/
def PlmnIdentity.withFiller (plmnId : PlmnIdentity) : PlmnIdentity :=
  if plmnId.HasFiller then { plmnId with octet2 := 0xF0 ||| (plmnId.octet2 &&& 0x0F) } else plmnId

/-- All nibbles but the high one of octet 2 are decimal digits. -/
def PlmnIdentity.Decimal (plmnId : PlmnIdentity) : Prop :=
  plmnId.octet1.toNat % 16 ≤ 9 ∧ plmnId.octet1.toNat / 16 ≤ 9 ∧ plmnId.octet2.toNat % 16 ≤ 9 ∧
    plmnId.octet3.toNat % 16 ≤ 9 ∧ plmnId.octet3.toNat / 16 ≤ 9

/-- The same octets, but for the filler if both have one. -/
def PlmnIdentity.SameUpToFiller (plmnId other : PlmnIdentity) : Prop :=
  plmnId = other ∨ plmnId.HasFiller ∧ other.HasFiller ∧ plmnId.octet1 = other.octet1 ∧
    plmnId.octet2.toNat % 16 = other.octet2.toNat % 16 ∧ plmnId.octet3 = other.octet3

/-! ## Digits as octets

The source packs two digits into an octet by a shift and an `|`. As numbers they are a sum, and the
digits are its quotient and remainder. -/

/-- An octet of two nibbles. -/
def nibbles (high low : Nat) : UInt8 := .ofNat (16 * high + low)

/-- The number of an octet of two nibbles, where both fit. -/
theorem nibbles_toNat {high low : Nat} (hhigh : high < 16) (hlow : low < 16) :
    (nibbles high low).toNat = 16 * high + low :=
  UInt8.toNat_ofNat_of_lt' (show 16 * high + low < 256 by omega)

theorem nibbles_high {high low : Nat} (hhigh : high < 16) (hlow : low < 16) :
    (nibbles high low).toNat / 16 = high := by
  rw [nibbles_toNat hhigh hlow]
  omega

theorem nibbles_low {high low : Nat} (hhigh : high < 16) (hlow : low < 16) :
    (nibbles high low).toNat % 16 = low := by
  rw [nibbles_toNat hhigh hlow]
  omega

theorem nibbles_split (octet : UInt8) : nibbles (octet.toNat / 16) (octet.toNat % 16) = octet := by
  rw [nibbles, Nat.div_add_mod]
  exact UInt8.ofNat_toNat

/-- The shift and the `|` of the source put two nibbles into an octet. They do not overlap, so that
`|` adds them. -/
theorem shiftLeft_or {high low : Nat} (hhigh : high < 16) (hlow : low < 16) :
    UInt8.ofNat high <<< 4 ||| UInt8.ofNat low = nibbles high low := by
  apply UInt8.toNat_inj.mp
  have hh : (UInt8.ofNat high).toNat = high := UInt8.toNat_ofNat_of_lt' (by show high < 256; omega)
  have hl : (UInt8.ofNat low).toNat = low := UInt8.toNat_ofNat_of_lt' (by show low < 256; omega)
  rw [UInt8.toNat_or, UInt8.toNat_shiftLeft, hh, hl, nibbles_toNat hhigh hlow]
  show (high <<< 4) % 256 ||| low = _
  rw [Nat.shiftLeft_eq, Nat.mod_eq_of_lt (by omega), ← Nat.shiftLeft_eq,
    ← Nat.shiftLeft_add_eq_or_of_lt (show low < 2 ^ 4 from hlow), Nat.shiftLeft_eq]
  omega

/-- The filler 1111 is put over a low nibble in the same way. -/
theorem filler_or {low : Nat} (hlow : low < 16) : 0xF0 ||| UInt8.ofNat low = nibbles 15 low :=
  shiftLeft_or (show 15 < 16 by decide) hlow

/-- Octet 2 with the filler in place of its high nibble, whatever that was. -/
theorem withFiller_octet2 (octet : UInt8) :
    0xF0 ||| (octet &&& 0x0F) = nibbles 15 (octet.toNat % 16) := by
  rw [← filler_or (Nat.mod_lt _ (by decide)), ← toNat_low, UInt8.ofNat_toNat]

/-- An ASCII character is one octet, so the octets of such a text are its characters in order. -/
theorem asBytes_ascii {text : List Char} (h : ∀ c ∈ text, c.toNat < 128) :
    asBytes text = text.map fun c => .ofNat c.toNat := by
  induction text with
  | nil => rfl
  | cons c text ih =>
    obtain ⟨hc, htext⟩ := List.forall_mem_cons.mp h
    have hchar : String.utf8EncodeChar c = [.ofNat c.toNat] :=
      if_pos (Nat.le_of_lt_succ hc)
    show String.utf8EncodeChar _ ++ asBytes _ = _
    rw [hchar, ih htext]
    rfl

/-- The octets of decimal digits, as `as_bytes` of the source has them. -/
theorem asBytes_digits {ds : List Nat} (h : ∀ d ∈ ds, d < 10) :
    asBytes (ds.map Nat.digitChar) = ds.map fun d => .ofNat (48 + d) := by
  have hchar : ∀ d ∈ ds, (Nat.digitChar d).toNat = 48 + d := fun d hd =>
    Nat.toNat_digitChar_of_lt_ten (h d hd)
  rw [asBytes_ascii, List.map_map]
  · exact List.map_congr_left fun d hd => congrArg UInt8.ofNat (hchar d hd)
  · intro c hc
    obtain ⟨d, hd, rfl⟩ := List.mem_map.mp hc
    rw [hchar d hd]
    have := h d hd
    omega

/-- `- b'0'` takes a decimal digit back, wherever it stands in the text. -/
theorem subZero_digits {ds : List Nat} (h : ∀ d ∈ ds, d < 10) {i d : Nat} (hd : ds[i]? = some d) :
    subZero (asBytes (ds.map Nat.digitChar)) i = some (.ofNat d) := by
  have hlt : d < 10 := h d (List.mem_of_getElem? hd)
  rw [subZero, asBytes_digits h, List.getElem?_map, hd]
  interval_cases d <;> decide

/-! ## Encoding

An MNC of two digits leaves a nibble free, which the source fills with 1111. So there is one case
for either length. -/

/-- The octet of two digits, wherever they stand. The source takes them from different texts: octet
2 has a digit of the MNC over one of the MCC. -/
theorem packDigits_digits {ds es : List Nat} (hds : ∀ d ∈ ds, d < 10) (hes : ∀ d ∈ es, d < 10)
    {i j high low : Nat} (hhigh : ds[i]? = some high) (hlow : es[j]? = some low) :
    packDigits (subZero (asBytes (ds.map Nat.digitChar)) i)
      (subZero (asBytes (es.map Nat.digitChar)) j) = some (nibbles high low) := by
  have hhigh' : high < 10 := hds high (List.mem_of_getElem? hhigh)
  have hlow' : low < 10 := hes low (List.mem_of_getElem? hlow)
  rw [subZero_digits hds hhigh, subZero_digits hes hlow, ← shiftLeft_or (by omega) (by omega)]
  rfl

/-- The source tells the two lengths of an MNC apart by the number of octets, which is that of its
digits. -/
theorem length_digits {ds : List Nat} (h : ∀ d ∈ ds, d < 10) :
    (asBytes (ds.map Nat.digitChar)).length = ds.length := by
  rw [asBytes_digits h]
  exact List.length_map ..

/-- A PLMN of three-digit MNC in octets, with no nibble left over. -/
theorem encode_three {m₁ m₂ m₃ n₁ n₂ n₃ : Nat} (hmcc : ∀ d ∈ [m₁, m₂, m₃], d < 10)
    (hmnc : ∀ d ∈ [n₁, n₂, n₃], d < 10) :
    convertMccMncToPlmnId ([m₁, m₂, m₃].map Nat.digitChar) ([n₁, n₂, n₃].map Nat.digitChar) =
      some ⟨nibbles m₂ m₁, nibbles n₁ m₃, nibbles n₃ n₂⟩ := by
  have hlen : ¬ (asBytes ([n₁, n₂, n₃].map Nat.digitChar)).length = 2 := by
    rw [length_digits hmnc]
    exact (by decide : ¬ 3 = 2)
  simp only [convertMccMncToPlmnId, if_neg hlen]
  rw [packDigits_digits hmcc hmcc (i := 1) (j := 0) rfl rfl,
    packDigits_digits hmnc hmcc (i := 0) (j := 2) rfl rfl,
    packDigits_digits hmnc hmnc (i := 2) (j := 1) rfl rfl]
  rfl

/-- A PLMN of two-digit MNC in octets, with the filler over the last digit of the MCC. -/
theorem encode_two {m₁ m₂ m₃ n₁ n₂ : Nat} (hmcc : ∀ d ∈ [m₁, m₂, m₃], d < 10)
    (hmnc : ∀ d ∈ [n₁, n₂], d < 10) :
    convertMccMncToPlmnId ([m₁, m₂, m₃].map Nat.digitChar) ([n₁, n₂].map Nat.digitChar) =
      some ⟨nibbles m₂ m₁, nibbles 15 m₃, nibbles n₂ n₁⟩ := by
  have hlen : (asBytes ([n₁, n₂].map Nat.digitChar)).length = 2 := length_digits hmnc
  have hm₃ : m₃ < 10 := hmcc m₃ (List.mem_of_getElem? (i := 2) rfl)
  simp only [convertMccMncToPlmnId, if_pos hlen]
  rw [packDigits_digits hmcc hmcc (i := 1) (j := 0) rfl rfl, subZero_digits hmcc (i := 2) rfl,
    packDigits_digits hmnc hmnc (i := 1) (j := 0) rfl rfl, ← filler_or (by omega)]
  rfl

/-! ## Well-formed PLMNs

The types of MCC and MNC check a pattern when they are made. What is used of it here is that a text
has so many decimal digits. -/

theorem all_isDigit {ds : List Nat} (h : ∀ d ∈ ds, d < 10) :
    (ds.map Nat.digitChar).all Char.isDigit = true := by
  rw [List.all_eq_true]
  intro c hc
  obtain ⟨d, hd, rfl⟩ := List.mem_map.mp hc
  rw [Nat.isDigit_digitChar]
  exact decide_eq_true (h d hd)

/-- A decimal text is the text of its digits. Induction on the text; each character is the digit it
is read as. -/
theorem exists_digits {text : List Char} (h : text.all Char.isDigit = true) :
    ∃ ds : List Nat, ds.length = text.length ∧ (∀ d ∈ ds, d < 10) ∧
      text = ds.map Nat.digitChar := by
  -- digit by digit
  induction text with
  | nil => exact ⟨[], rfl, nofun, rfl⟩
  | cons c text ih =>
    rw [List.all_cons, Bool.and_eq_true] at h
    obtain ⟨ds, hlen, hds, rfl⟩ := ih h.2
    have hc : 48 ≤ c.toNat ∧ c.toNat ≤ 57 := Char.isDigit_iff_toNat.mp h.1
    refine ⟨(c.toNat - 48) :: ds, congrArg (· + 1) hlen,
      List.forall_mem_cons.mpr ⟨by omega, hds⟩, ?_⟩
    rw [List.map_cons, List.cons.injEq]
    refine ⟨?_, rfl⟩
    apply Char.toNat_inj.mp
    rw [Nat.toNat_digitChar_of_lt_ten (by omega)]
    omega

/-- What is put together from digits in the right number is well formed. -/
theorem ofDigits_valid {mcc mnc : List Nat} (hmcc : ∀ d ∈ mcc, d < 10) (hmnc : ∀ d ∈ mnc, d < 10)
    (hlen : mcc.length = 3) (hlen' : mnc.length = 2 ∨ mnc.length = 3) :
    (PlmnId.ofDigits mcc mnc).Valid where
  mcc := ⟨by rw [← hlen]; exact List.length_map .., all_isDigit hmcc⟩
  mnc := ⟨by rw [PlmnId.ofDigits, List.length_map]; exact hlen', all_isDigit hmnc⟩

/-- A well-formed PLMN has three and two or three digits. With this a proof about texts becomes one
about five or six numbers. -/
theorem PlmnId.Valid.exists_digits {plmnId : PlmnId} (h : plmnId.Valid) :
    ∃ m₁ m₂ m₃, ∃ mnc : List Nat, (∀ d ∈ [m₁, m₂, m₃], d < 10) ∧ (∀ d ∈ mnc, d < 10) ∧
      ((∃ n₁ n₂, mnc = [n₁, n₂]) ∨ ∃ n₁ n₂ n₃, mnc = [n₁, n₂, n₃]) ∧
      plmnId = .ofDigits [m₁, m₂, m₃] mnc := by
  obtain ⟨mcc, hlen, hmcc, htext⟩ := UnifyAir.exists_digits h.mcc.2
  obtain ⟨mnc, hlen', hmnc, htext'⟩ := UnifyAir.exists_digits h.mnc.2
  rw [h.mcc.1] at hlen
  obtain ⟨m₁, m₂, m₃, rfl⟩ := List.length_eq_three.mp hlen
  refine ⟨m₁, m₂, m₃, mnc, hmcc, hmnc, ?_, ?_⟩
  · rw [← List.length_eq_two, ← List.length_eq_three, hlen']
    exact h.mnc.1
  · rw [PlmnId.ofDigits, ← htext, ← htext']

/-! ## Decoding

Decoding looks at all nibbles and takes any that is not a decimal digit for the filler, if it stands
where the filler does, and for an error elsewhere. -/

namespace PlmnIdentity

variable {plmnId other : PlmnIdentity}

/-- The three digits of the MCC, in the order of the text. -/
def mccDigits (plmnId : PlmnIdentity) : List Nat :=
  [plmnId.octet1.toNat % 16, plmnId.octet1.toNat / 16, plmnId.octet2.toNat % 16]

/-- The digits of the MNC; with a filler there are two. -/
def mncDigits (plmnId : PlmnIdentity) : List Nat :=
  if plmnId.HasFiller then [plmnId.octet3.toNat % 16, plmnId.octet3.toNat / 16]
  else [plmnId.octet2.toNat / 16, plmnId.octet3.toNat % 16, plmnId.octet3.toNat / 16]

theorem not_hasFiller_iff : ¬ plmnId.HasFiller ↔ plmnId.octet2.toNat / 16 < 10 := by
  show ¬ 9 < _ ↔ _
  omega

/-- An identity denotes digits exactly if it is decimal, and these are its nibbles. With the filler
in the second octet the MNC has two digits, and without it three. -/
theorem digits_eq_some_iff {mcc mnc : List Nat} : plmnId.digits = some (mcc, mnc) ↔
    plmnId.Decimal ∧ mcc = plmnId.mccDigits ∧ mnc = plmnId.mncDigits := by
  have hdecimal : (∀ d ∈ plmnId.mccDigits ++ [plmnId.octet3.toNat % 16, plmnId.octet3.toNat / 16],
      d < 10) ↔ plmnId.Decimal := by
    simp [mccDigits, Decimal, Nat.lt_succ_iff]
  -- the filler stands where a third digit of the MNC would be
  have hmnc : (if plmnId.octet2.toNat / 16 < 10 then
      [plmnId.octet2.toNat / 16, plmnId.octet3.toNat % 16, plmnId.octet3.toNat / 16]
      else [plmnId.octet3.toNat % 16, plmnId.octet3.toNat / 16]) = plmnId.mncDigits := by
    rw [mncDigits]
    split
    · next h => rw [if_neg (not_hasFiller_iff.mpr h)]
    · next h => rw [if_pos (not_not.mp (mt not_hasFiller_iff.mp h))]
  show (if _ then some (plmnId.mccDigits, _) else none) = _ ↔ _
  rw [hmnc]
  split
  · next h =>
    rw [Option.some.injEq, Prod.mk.injEq]
    exact ⟨fun ⟨hmcc, hmnc⟩ => ⟨hdecimal.mp h, hmcc.symm, hmnc.symm⟩,
      fun ⟨_, hmcc, hmnc⟩ => ⟨hmcc.symm, hmnc.symm⟩⟩
  · next h => exact ⟨nofun, fun ⟨hd, _⟩ => (h (hdecimal.mpr hd)).elim⟩

/-- A PLMN identity decodes to the text of its digits if they are decimal. All that follows uses
this and not the code. -/
theorem decode_iff {text : PlmnId} : convertPlmnIdToMccMnc plmnId = .ok text ↔
    plmnId.Decimal ∧ text = .ofDigits plmnId.mccDigits plmnId.mncDigits := by
  rw [convertPlmn_eq]
  -- no digits, so no decimal reading; or digits, which decide both texts
  cases hdigits : plmnId.digits with
  | none =>
    refine ⟨nofun, fun ⟨hdecimal, _⟩ => ?_⟩
    rw [digits_eq_some_iff.mpr ⟨hdecimal, rfl, rfl⟩] at hdigits
    cases hdigits
  | some digits =>
    obtain ⟨mcc, mnc⟩ := digits
    obtain ⟨hdecimal, rfl, rfl⟩ := digits_eq_some_iff.mp hdigits
    show Except.ok _ = _ ↔ _
    rw [Except.ok.injEq]
    exact ⟨fun h => ⟨hdecimal, h.symm⟩, fun h => h.2.symm⟩

theorem Decimal.digits_lt (h : plmnId.Decimal) :
    (∀ d ∈ plmnId.mccDigits, d < 10) ∧ ∀ d ∈ plmnId.mncDigits, d < 10 :=
  UnifyAir.digits_lt (digits_eq_some_iff.mpr ⟨h, rfl, rfl⟩)

/-- The digits of a decimal identity are encoded to it, with 1111 for its filler. So encoding undoes
decoding, but for the bits of the filler. -/
theorem Decimal.encode (h : plmnId.Decimal) :
    convertMccMncToPlmnId (plmnId.mccDigits.map Nat.digitChar)
      (plmnId.mncDigits.map Nat.digitChar) = some plmnId.withFiller := by
  obtain ⟨hmcc, hmnc⟩ := h.digits_lt
  unfold withFiller
  split
  · -- two digits of the MNC
    next hfiller =>
    rw [mncDigits, if_pos hfiller] at hmnc ⊢
    rw [mccDigits, encode_two hmcc hmnc, withFiller_octet2, nibbles_split, nibbles_split]
  · next hfiller =>
    rw [mncDigits, if_neg hfiller] at hmnc ⊢
    rw [mccDigits, encode_three hmcc hmnc, nibbles_split, nibbles_split, nibbles_split]

/-- An identity with a filler keeps all of its octets but for that nibble. -/
theorem withFiller_of_hasFiller (h : plmnId.HasFiller) : plmnId.withFiller =
    ⟨plmnId.octet1, nibbles 15 (plmnId.octet2.toNat % 16), plmnId.octet3⟩ := by
  rw [withFiller, if_pos h, withFiller_octet2]

/-- The normal filler is a filler, and none is put where none was. -/
theorem withFiller_hasFiller (plmnId : PlmnIdentity) :
    plmnId.withFiller.HasFiller ↔ plmnId.HasFiller := by
  by_cases h : plmnId.HasFiller
  · refine iff_of_true ?_ h
    rw [withFiller_of_hasFiller h]
    show 9 < (nibbles 15 _).toNat / 16
    rw [nibbles_high (by decide) (Nat.mod_lt _ (by decide))]
    decide
  · rw [withFiller, if_neg h]

/-- Two identities have one normal form exactly if they are the same but for their fillers. A filler
is any nibble above nine, and the encoder writes it as fifteen. -/
theorem withFiller_eq_iff : plmnId.withFiller = other.withFiller ↔
    plmnId.SameUpToFiller other := by
  constructor
  · intro h
    -- two identities are written alike only if both have a filler, or neither has
    by_cases hfiller : plmnId.HasFiller
    · have hfiller' : other.HasFiller := by
        rw [← withFiller_hasFiller, ← h, withFiller_hasFiller]
        exact hfiller
      rw [withFiller_of_hasFiller hfiller, withFiller_of_hasFiller hfiller', mk.injEq] at h
      obtain ⟨h₁, h₂, h₃⟩ := h
      have hlow := congrArg (fun octet : UInt8 => octet.toNat % 16) h₂
      rw [nibbles_low (by decide) (Nat.mod_lt _ (by decide)),
        nibbles_low (by decide) (Nat.mod_lt _ (by decide))] at hlow
      exact .inr ⟨hfiller, hfiller', h₁, hlow, h₃⟩
    · have hfiller' : ¬ other.HasFiller := by
        rw [← withFiller_hasFiller, ← h, withFiller_hasFiller]
        exact hfiller
      rw [withFiller, if_neg hfiller, withFiller, if_neg hfiller'] at h
      exact .inl h
  · -- with a filler the high half of the second octet does not matter
    rintro (rfl | ⟨hfiller, hfiller', h₁, h₂, h₃⟩)
    · rfl
    · rw [withFiller_of_hasFiller hfiller, withFiller_of_hasFiller hfiller', h₁, h₂, h₃]

/-- Identities that differ in the filler denote the same digits, since it is not one of them. -/
theorem SameUpToFiller.decode_eq {text : PlmnId} (h : plmnId.SameUpToFiller other)
    (hok : convertPlmnIdToMccMnc plmnId = .ok text) : convertPlmnIdToMccMnc other = .ok text := by
  rcases h with rfl | ⟨hfiller, hfiller', h₁, h₂, h₃⟩
  · exact hok
  · rw [decode_iff, Decimal, mccDigits, mncDigits, if_pos hfiller, h₁, h₂, h₃] at hok
    rw [decode_iff, Decimal, mccDigits, mncDigits, if_pos hfiller']
    exact hok

end PlmnIdentity

/-- Octets made of decimal nibbles, and a last one that is a digit or the filler, decode to them.
The converse view of `decode_iff`, where the octets are put together from digits. -/
theorem decode_nibbles {m₁ m₂ m₃ n₁ n₂ n₃ : Nat} (h : ∀ d ∈ [m₁, m₂, m₃, n₂, n₃], d < 10)
    (hn₁ : n₁ < 16) : convertPlmnIdToMccMnc ⟨nibbles m₂ m₁, nibbles n₁ m₃, nibbles n₃ n₂⟩ =
      .ok (.ofDigits [m₁, m₂, m₃] (if n₁ < 10 then [n₁, n₂, n₃] else [n₂, n₃])) := by
  simp only [List.forall_mem_cons] at h
  obtain ⟨hm₁, hm₂, hm₃, hn₂, hn₃, -⟩ := h
  simp (disch := omega) only [PlmnIdentity.decode_iff, PlmnIdentity.Decimal,
    PlmnIdentity.mccDigits, PlmnIdentity.mncDigits, PlmnIdentity.HasFiller, nibbles_high,
    nibbles_low]
  refine ⟨by omega, ?_⟩
  by_cases hfiller : n₁ < 10
  · rw [if_pos hfiller, if_neg (by omega)]
  · rw [if_neg hfiller, if_pos (by omega)]

/-- A well-formed PLMN is encoded, and decodes to itself: its two lengths are the two cases of
`decode_nibbles`. -/
theorem decode_encode {plmnId : PlmnId} (h : plmnId.Valid) :
    ∃ octets, convertMccMncToPlmnId plmnId.mcc plmnId.mnc = some octets ∧
      convertPlmnIdToMccMnc octets = .ok plmnId := by
  obtain ⟨m₁, m₂, m₃, mnc, hmcc, hmnc, hlen, rfl⟩ := h.exists_digits
  rcases hlen with ⟨n₁, n₂, rfl⟩ | ⟨n₁, n₂, n₃, rfl⟩
  · refine ⟨_, encode_two hmcc hmnc, ?_⟩
    exact decode_nibbles (List.forall_mem_append.mpr ⟨hmcc, hmnc⟩) (by decide)
  · refine ⟨_, encode_three hmcc hmnc, ?_⟩
    obtain ⟨hn₁, hrest⟩ := List.forall_mem_cons.mp hmnc
    rw [decode_nibbles (List.forall_mem_append.mpr ⟨hmcc, hrest⟩) (by omega), if_pos hn₁]

/-- Encoding keeps well-formed PLMNs apart, since it can be undone. -/
theorem encode_injective {plmnId other : PlmnId} (h : plmnId.Valid) (hother : other.Valid)
    (heq : convertMccMncToPlmnId plmnId.mcc plmnId.mnc =
      convertMccMncToPlmnId other.mcc other.mnc) : plmnId = other := by
  obtain ⟨octets, henc, hdec⟩ := decode_encode h
  obtain ⟨octets', henc', hdec'⟩ := decode_encode hother
  rw [henc, henc', Option.some.injEq] at heq
  rw [heq, hdec', Except.ok.injEq] at hdec
  exact hdec.symm

/-- What is to hold of an identity that a gNB sends. -/
structure Decodes (plmnId : PlmnIdentity) : Prop where
  succeeds_iff : (∃ text, convertPlmnIdToMccMnc plmnId = .ok text) ↔ plmnId.Decimal
  /-- the result is what the unchecked constructors ask for -/
  valid : ∀ text, convertPlmnIdToMccMnc plmnId = .ok text → text.Valid
  encode : ∀ text, convertPlmnIdToMccMnc plmnId = .ok text →
    convertMccMncToPlmnId text.mcc text.mnc = some plmnId.withFiller
  same_iff : ∀ other, (∃ text, convertPlmnIdToMccMnc plmnId = .ok text ∧
    convertPlmnIdToMccMnc other = .ok text) ↔ plmnId.Decimal ∧ plmnId.SameUpToFiller other
  /-- 0xy is not xy, before or after encoding -/
  leading_zero : ∀ mcc n₁ n₂, convertPlmnIdToMccMnc plmnId = .ok ⟨mcc, ['0', n₁, n₂]⟩ →
    ¬ plmnId.HasFiller ∧
      convertMccMncToPlmnId mcc ['0', n₁, n₂] ≠ convertMccMncToPlmnId mcc [n₁, n₂] ∧
      ∀ other, convertPlmnIdToMccMnc other = .ok ⟨mcc, [n₁, n₂]⟩ → other.HasFiller

/-- What a decimal identity decodes to is well formed, as the constructors without a check assume.
-/
theorem PlmnIdentity.Decimal.valid {plmnId : PlmnIdentity} (h : plmnId.Decimal) :
    (PlmnId.ofDigits plmnId.mccDigits plmnId.mncDigits).Valid := by
  obtain ⟨hmcc, hmnc⟩ := h.digits_lt
  refine ofDigits_valid hmcc hmnc rfl ?_
  rw [mncDigits]
  split
  · exact .inl rfl
  · exact .inr rfl

/-- The filler says how long the MNC is. So an MNC of two digits is never mixed up with one of three
that begins with a zero. -/
theorem hasFiller_iff_length {plmnId : PlmnIdentity} {text : PlmnId}
    (h : convertPlmnIdToMccMnc plmnId = .ok text) : plmnId.HasFiller ↔ text.mnc.length = 2 := by
  obtain ⟨-, rfl⟩ := PlmnIdentity.decode_iff.mp h
  rw [PlmnId.ofDigits, List.length_map, PlmnIdentity.mncDigits]
  split
  · next hfiller => exact iff_of_true hfiller rfl
  · next hfiller => exact iff_of_false hfiller (show ¬ 3 = 2 by decide)

/-- An MNC with a zero in front is an MNC without it, too, and another one. -/
theorem PlmnId.Valid.drop_zero {mcc : List Char} {n₁ n₂ : Char}
    (h : PlmnId.Valid ⟨mcc, ['0', n₁, n₂]⟩) : PlmnId.Valid ⟨mcc, [n₁, n₂]⟩ where
  mcc := h.mcc
  mnc := ⟨.inl rfl, by
    have hall := h.mnc.2
    rw [List.all_cons, Bool.and_eq_true] at hall
    exact hall.2⟩

/-- **Received PLMN identities.** All clauses come from `decode_iff` and from what the digits are
encoded to; the one on identities that decode to one text compares what this text is encoded to. -/
theorem decoding (plmnId : PlmnIdentity) : Decodes plmnId where
  succeeds_iff := by
    constructor
    · -- octets that are decoded are decimal, and decimal ones are decoded
      intro hdecoded
      obtain ⟨_, h⟩ := hdecoded
      exact (PlmnIdentity.decode_iff.mp h).1
    · intro hdecimal
      exact ⟨_, PlmnIdentity.decode_iff.mpr ⟨hdecimal, rfl⟩⟩
  valid text h := by
    obtain ⟨hdecimal, rfl⟩ := PlmnIdentity.decode_iff.mp h
    exact hdecimal.valid
  encode text h := by
    obtain ⟨hdecimal, rfl⟩ := PlmnIdentity.decode_iff.mp h
    exact hdecimal.encode
  same_iff other := by
    constructor
    · intro hsame
      obtain ⟨text, h, hother⟩ := hsame
      obtain ⟨hdecimal, rfl⟩ := PlmnIdentity.decode_iff.mp h
      obtain ⟨hdecimal', htext⟩ := PlmnIdentity.decode_iff.mp hother
      -- both are what their common text is encoded to
      have henc := hdecimal'.encode
      refine ⟨hdecimal, PlmnIdentity.withFiller_eq_iff.mp ?_⟩
      rw [PlmnId.ofDigits, PlmnId.ofDigits, PlmnId.mk.injEq] at htext
      rw [← htext.1, ← htext.2, hdecimal.encode, Option.some.injEq] at henc
      exact henc
    · intro hfiller
      obtain ⟨hdecimal, hsame⟩ := hfiller
      have h := PlmnIdentity.decode_iff.mpr ⟨hdecimal, rfl⟩
      exact ⟨_, h, hsame.decode_eq h⟩
  leading_zero mcc n₁ n₂ h := by
    obtain ⟨hdecimal, htext⟩ := PlmnIdentity.decode_iff.mp h
    -- the 0 is a digit of its own, and without it there is a filler in its place
    have hvalid : PlmnId.Valid ⟨mcc, ['0', n₁, n₂]⟩ := htext ▸ hdecimal.valid
    refine ⟨?_, fun henc => ?_, fun other hother => ?_⟩
    · rw [hasFiller_iff_length h]
      exact (by decide : ¬ 3 = 2)
    · have := encode_injective hvalid hvalid.drop_zero henc
      cases this
    · exact (hasFiller_iff_length hother).mpr rfl

end UnifyAir
