import Mathlib.Data.Option.Basic

/-!
# Spelling — two formats of one kind of value

A value can have several spellings in either format, one of which is the normal one. The conversions
between the formats write normal spellings, and each undoes the other but for that.

* **`Between.encode_eq_iff`** — two texts are encoded alike when their normal spellings agree.
-/

namespace Spelling

/-- `encode` and `decode` are conversions between the valid spellings of two formats. -/
structure Between {α β : Type} (encode : α → Option β) (decode : β → Option α)
    (ValidText : α → Prop) (normalText : α → α) (ValidCode : β → Prop) (normalCode : β → β) :
    Prop where
  exists_encode : ∀ a, ValidText a → ∃ b, encode a = some b ∧ ValidCode b ∧ normalCode b = b ∧
    decode b = some (normalText a)
  exists_decode : ∀ b, ValidCode b → ∃ a, decode b = some a ∧ ValidText a ∧ normalText a = a ∧
    encode a = some (normalCode b)

namespace Between

variable {α β : Type} {encode : α → Option β} {decode : β → Option α} {ValidText : α → Prop}
  {normalText : α → α} {ValidCode : β → Prop} {normalCode : β → β}

/-- A text is encoded as its normal spelling is: decoding what it is encoded to gives that spelling,
and encoding once more gives the code back. -/
theorem encode_normalText (h : Between encode decode ValidText normalText ValidCode normalCode)
    {a : α} (ha : ValidText a) : encode (normalText a) = encode a := by
  obtain ⟨b, hencode, hb, hnormal, hdecode⟩ := h.exists_encode a ha
  obtain ⟨a', hdecode', -, -, hencode'⟩ := h.exists_decode b hb
  rw [hdecode, Option.some.injEq] at hdecode'
  rw [hdecode', hencode', hnormal, hencode]

/-- **Encoded alike.** Two texts have one code exactly if they have one normal spelling: the code
can be decoded, and gives it. -/
theorem encode_eq_iff (h : Between encode decode ValidText normalText ValidCode normalCode)
    {a a' : α} (ha : ValidText a) (ha' : ValidText a') :
    encode a = encode a' ↔ normalText a = normalText a' := by
  constructor
  · intro heq
    obtain ⟨b, hencode, -, -, hdecode⟩ := h.exists_encode a ha
    obtain ⟨b', hencode', -, -, hdecode'⟩ := h.exists_encode a' ha'
    rw [hencode, hencode', Option.some.injEq] at heq
    rw [heq, hdecode', Option.some.injEq] at hdecode
    exact hdecode.symm
  · intro hnormal
    rw [← h.encode_normalText ha, hnormal, h.encode_normalText ha']

end Between

end Spelling
