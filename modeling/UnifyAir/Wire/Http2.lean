import Mathlib.Algebra.Group.Nat.Defs
import UnifyAir.Wire.Framing

/-!
# Http2 — frames on the wire

RFC 9113, sections 4.1, 6.1 and 6.2. A frame has nine octets in front of its payload: how long the
payload is, a type, flags, and the stream, whose highest bit is reserved. The flags say how the
payload of a DATA or a HEADERS frame is to be read.

* **`format`** — frames as the units of a stream of octets.
* **`unpad_eq_self_iff`**, **`fieldBlock_eq_self_iff`** — the payloads that carry nothing but their
  data or their field block fragment.
-/

namespace Http2

open Wire

abbrev Octets := List UInt8

/-- A frame. -/
structure Frame where
  type : UInt8
  flags : UInt8
  stream : UInt8 × UInt8 × UInt8 × UInt8
  payload : Octets
  length_lt : payload.length < 2 ^ 24
  deriving DecidableEq

/-! ## Numbers of several octets

Lengths and stream ids, written with the highest octet first. -/

/-- Three octets, the highest first. -/
def value24 (o₀ o₁ o₂ : UInt8) : Nat := 65536 * o₀.toNat + 256 * o₁.toNat + o₂.toNat

/-- Four octets, the highest first. -/
def value32 (o₀ o₁ o₂ o₃ : UInt8) : Nat := 16777216 * o₀.toNat + value24 o₁ o₂ o₃

theorem value24_lt (o₀ o₁ o₂ : UInt8) : value24 o₀ o₁ o₂ < 2 ^ 24 := by
  have h₀ := o₀.toNat_lt
  have h₁ := o₁.toNat_lt
  have h₂ := o₂.toNat_lt
  unfold value24
  omega

/-- A length in three octets. -/
def lengthOctets (n : Nat) : Octets := [.ofNat (n / 65536), .ofNat (n / 256), .ofNat n]

/-- A length that fits is read back as it was written. -/
theorem value24_lengthOctets {n : Nat} (h : n < 2 ^ 24) :
    value24 (.ofNat (n / 65536)) (.ofNat (n / 256)) (.ofNat n) = n := by
  simp only [value24, UInt8.toNat_ofNat']
  omega

/-- And three octets are written back as they were read, so the two are the same thing. -/
theorem lengthOctets_value24 (o₀ o₁ o₂ : UInt8) :
    lengthOctets (value24 o₀ o₁ o₂) = [o₀, o₁, o₂] := by
  have h₀ := o₀.toNat_lt
  have h₁ := o₁.toNat_lt
  have h₂ := o₂.toNat_lt
  have hoctet : ∀ {n : Nat} {o : UInt8}, n % 256 = o.toNat → UInt8.ofNat n = o := fun hn =>
    UInt8.toNat_inj.mp (UInt8.toNat_ofNat'.trans hn)
  unfold lengthOctets value24
  rw [hoctet (o := o₀) (by omega), hoctet (o := o₁) (by omega), hoctet (o := o₂) (by omega)]

/-! ## Frames in a stream of octets

The nine octets in front say how long a frame is, and whether it is complete. Type, flags and stream
are only looked at by whoever handles it. -/

namespace Frame

/-- The stream of a frame, without the reserved bit. -/
def streamId (f : Frame) : Nat :=
  value32 f.stream.1 f.stream.2.1 f.stream.2.2.1 f.stream.2.2.2 % 2 ^ 31

/-- The octets in front of the payload. -/
def header (f : Frame) : Octets :=
  lengthOctets f.payload.length ++
    [f.type, f.flags, f.stream.1, f.stream.2.1, f.stream.2.2.1, f.stream.2.2.2]

/-- The frame on the wire. -/
def octets (f : Frame) : Octets := f.header ++ f.payload

/-- The first frame of a stream. -/
def cut : Octets → Option (Frame × Octets)
  | l₀ :: l₁ :: l₂ :: type :: flags :: s₀ :: s₁ :: s₂ :: s₃ :: rest =>
    if h : value24 l₀ l₁ l₂ ≤ rest.length then
      some (
        { type, flags
          stream := (s₀, s₁, s₂, s₃)
          payload := rest.take (value24 l₀ l₁ l₂)
          length_lt := by
            rw [List.length_take_of_le h]
            exact value24_lt l₀ l₁ l₂ },
        rest.drop (value24 l₀ l₁ l₂))
    else none
  | _ => none

theorem length_octets (f : Frame) : f.octets.length = 9 + f.payload.length := List.length_append

section

variable (l₀ l₁ l₂ type flags s₀ s₁ s₂ s₃ : UInt8) {rest : Octets}

/-- The payload is complete, so the frame is cut off with as many octets as its length says. -/
theorem cut_of_le (h : value24 l₀ l₁ l₂ ≤ rest.length) :
    ∃ hlt, cut (l₀ :: l₁ :: l₂ :: type :: flags :: s₀ :: s₁ :: s₂ :: s₃ :: rest) =
      some (⟨type, flags, (s₀, s₁, s₂, s₃), rest.take (value24 l₀ l₁ l₂), hlt⟩,
        rest.drop (value24 l₀ l₁ l₂)) :=
  ⟨_, dif_pos h⟩

/-- Some of the payload is missing, so nothing is cut off yet, however long the header has been
there. -/
theorem cut_of_lt (h : rest.length < value24 l₀ l₁ l₂) :
    cut (l₀ :: l₁ :: l₂ :: type :: flags :: s₀ :: s₁ :: s₂ :: s₃ :: rest) = none :=
  dif_neg (Nat.not_le.mpr h)

end

/-- What is cut off is in front of what remains, and is all that has to be there. With this frames
are a format in the sense of `Wire.Format`, for which portions do not matter. -/
theorem cut_eq_some_iff {stream : Octets} {f : Frame} {rest : Octets} :
    cut stream = some (f, rest) ↔ stream = f.octets ++ rest := by
  constructor
  · -- nine octets and the body are cut off, and together they are the frame
    intro h
    unfold cut at h
    split at h
    · next l₀ l₁ l₂ type flags s₀ s₁ s₂ s₃ behind =>
      split at h
      · next hle =>
        cases h
        show _ = (lengthOctets (behind.take (value24 l₀ l₁ l₂)).length ++ _ ++ _) ++ _
        rw [List.length_take_of_le hle, lengthOctets_value24, List.append_assoc,
          List.take_append_drop]
        rfl
      · cases h
    · cases h
  · rintro rfl
    obtain ⟨type, flags, ⟨s₀, s₁, s₂, s₃⟩, payload, hlt⟩ := f
    show cut (_ :: _ :: _ :: _ :: _ :: _ :: _ :: _ :: _ :: (payload ++ rest)) = _
    simp only [cut, value24_lengthOctets hlt, List.length_append, Nat.le_add_right, dif_pos,
      List.take_left, List.drop_left]

/-- Frames as the units of a stream. -/
def format : Format UInt8 Frame where
  cut := cut
  symbols := octets
  symbols_ne_nil _ := List.append_ne_nil_of_left_ne_nil (List.cons_ne_nil _ _) _
  cut_eq_some_iff := cut_eq_some_iff

/-! ## Payloads

Flags say what else is in the payload of a DATA or a HEADERS frame: padding at its end and the pad
length in front, stream dependency and weight in front of a field block. -/

def endStream (f : Frame) : Bool := f.flags &&& 0x1 ≠ 0

def endHeaders (f : Frame) : Bool := f.flags &&& 0x4 ≠ 0

def padded (f : Frame) : Bool := f.flags &&& 0x8 ≠ 0

def priority (f : Frame) : Bool := f.flags &&& 0x20 ≠ 0

/-- The payload without the pad length and the padding, if there is as much padding as that. -/
def unpad (f : Frame) : Option Octets :=
  if f.padded then
    match f.payload with
    | [] => none
    | padLength :: rest =>
      if padLength.toNat ≤ rest.length then some (rest.take (rest.length - padLength.toNat))
      else none
  else some f.payload

/-- The field block fragment of a HEADERS frame: stream dependency and weight are in front of it. -/
def fieldBlock (f : Frame) : Option Octets :=
  f.unpad.bind fun rest =>
    if f.priority then if 5 ≤ rest.length then some (rest.drop 5) else none else some rest

variable {f : Frame} {carried : Octets}

/-- Padding is at the cost of the payload: a padded frame carries less by one octet at least, its
pad length. -/
theorem length_unpad (h : f.unpad = some carried) :
    carried.length + (if f.padded then 1 else 0) ≤ f.payload.length := by
  unfold unpad at h
  split at h
  · -- with padding its length comes first, and may be too large
    next hpadded =>
    split at h
    · cases h
    · next padLength rest hpayload =>
      split at h
      · cases h
        rw [hpadded, hpayload, List.length_take, List.length_cons, if_pos rfl]
        omega
      · cases h
  · next hpadded =>
    cases h
    rw [if_neg hpadded]
    exact Nat.le_refl _

/-- **Data and nothing else.** A payload is the data exactly if the frame is not padded: where it
is, the pad length makes it longer than what it carries. -/
theorem unpad_eq_self_iff (h : f.unpad = some carried) :
    f.payload = carried ↔ f.padded = false := by
  constructor
  · intro heq
    have hlen := length_unpad h
    rw [heq] at hlen
    -- with the flag at least one octet is gone
    cases hpadded : f.padded with
    | false => rfl
    | true =>
      rw [hpadded, if_pos rfl] at hlen
      omega
  · intro hpadded
    rw [unpad, hpadded] at h
    exact Option.some.inj h

/-- **A fragment and nothing else.** The same for HEADERS frames, where a priority takes five octets
in front of the fragment. -/
theorem fieldBlock_eq_self_iff (h : f.fieldBlock = some carried) :
    f.payload = carried ↔ f.padded = false ∧ f.priority = false := by
  obtain ⟨rest, hrest, hcarried⟩ := Option.bind_eq_some_iff.mp h
  have hlen := length_unpad hrest
  -- with a priority five octets are gone
  cases hpriority : f.priority with
  | false =>
    rw [hpriority] at hcarried
    cases hcarried
    rw [unpad_eq_self_iff hrest]
    simp
  | true =>
    rw [hpriority, if_pos rfl] at hcarried
    split at hcarried
    · next hfive =>
      cases hcarried
      refine iff_of_false (fun heq => ?_) nofun
      rw [heq, List.length_drop] at hlen
      omega
    · cases hcarried

end Frame

end Http2
