import Mathlib.Data.List.Basic
import UnifyAir.Text.Hex

/-!
# FormUrlEncoded — `application/x-www-form-urlencoded`

A list of pairs of a name and a value as the query of a URL. Names and values are the octets of
their texts in UTF-8, the query is the list of its characters.

* **`parse_serialize`** — what was serialised is what is parsed.
* **`not_mem_serialize`** — the characters that a serialised query has not.
-/

namespace FormUrlEncoded

abbrev Octets := List UInt8

/-- A name and a value. -/
abbrev Pair := Octets × Octets

/-! ## Serialising

The octets of a text are written one by one: as themselves, as `+` for a space, or as an escape of
three characters. -/

/-- A character that stands for itself: a letter, a digit or one of `*-._`. -/
def isPlain (c : Char) : Bool := c.isAlphanum || c = '*' || c = '-' || c = '.' || c = '_'

def hexDigit (d : Nat) : Char := (Nat.digitChar d).toUpper

def encodeOctet (b : UInt8) : List Char :=
  if isPlain (Char.ofNat b.toNat) then [Char.ofNat b.toNat]
  else if b = 0x20 then ['+']
  else ['%', hexDigit (b.toNat / 16), hexDigit (b.toNat % 16)]

def encode (octets : Octets) : List Char := octets.flatMap encodeOctet

def pairText (pair : Pair) : List Char := encode pair.1 ++ '=' :: encode pair.2

/-- The pairs behind one another, with `&` between them. -/
def serialize (pairs : List Pair) : List Char := ['&'].intercalate (pairs.map pairText)

/-! ## Parsing

Texts are split first and decoded then, so a separator inside a name has to be escaped. -/

/-- Percent-decoding. What is not an escape stands for itself. -/
def percentDecode : List Char → Octets
  | c :: high :: low :: text =>
    match Hex.digitValue high, Hex.digitValue low with
    | some h, some l =>
      if c = '%' then UInt8.ofNat (16 * h + l) :: percentDecode text
      else String.utf8EncodeChar c ++ percentDecode (high :: low :: text)
    | _, _ => String.utf8EncodeChar c ++ percentDecode (high :: low :: text)
  | c :: text => String.utf8EncodeChar c ++ percentDecode text
  | [] => []

def plusToSpace (c : Char) : Char := if c = '+' then ' ' else c

def decode (text : List Char) : Octets := percentDecode (text.map plusToSpace)

/-- One sequence between two `&`: the name before the first `=`, and the value behind it. -/
def parsePair (text : List Char) : Pair :=
  (decode (text.takeWhile (· ≠ '=')), decode ((text.dropWhile (· ≠ '=')).drop 1))

/-- The pairs of a query. Empty sequences are none. -/
def parse (query : List Char) : List Pair :=
  ((query.splitOn '&').filter (· ≠ [])).map parsePair

/-! ## Octets

Each octet is written and read for itself, whatever comes behind it. -/

set_option maxRecDepth 2000 in
/-- The character of an octet that stands for itself: it is neither of the characters that are read
as something else, and in UTF-8 it is that one octet. All 256 are looked up. -/
theorem plain_octet : ∀ n < 256, isPlain (Char.ofNat n) = true →
    Char.ofNat n ≠ '%' ∧ Char.ofNat n ≠ '+' ∧
      String.utf8EncodeChar (Char.ofNat n) = [UInt8.ofNat n] := by
  decide

/-- A digit of an escape is read as its value, and is a plain character. -/
theorem hexDigit_spec : ∀ d < 16, Hex.digitValue (hexDigit d) = some d ∧
    isPlain (hexDigit d) = true ∧ plusToSpace (hexDigit d) = hexDigit d := by
  decide

/-- A character that does not begin an escape stands for itself, however many come behind it. -/
theorem percentDecode_cons {c : Char} (hc : c ≠ '%') (text : List Char) :
    percentDecode (c :: text) = String.utf8EncodeChar c ++ percentDecode text := by
  match text with
  | [] => rfl
  | [_] => rfl
  | high :: low :: text =>
    rw [percentDecode]
    split
    · rw [if_neg hc]
    · rfl

/-- **One octet.** It is read back as it was written, with whatever behind it. The three cases are
the three ways to write it. -/
theorem decode_encodeOctet (b : UInt8) (text : List Char) :
    decode (encodeOctet b ++ text) = b :: decode text := by
  have hb : b.toNat < 256 := b.toNat_lt
  unfold encodeOctet
  split
  · -- three ways to write an octet: as it is, as `+`, and with `%`
    next hplain =>
    obtain ⟨hpercent, hplus, hutf8⟩ := plain_octet b.toNat hb hplain
    show percentDecode (plusToSpace _ :: text.map plusToSpace) = _
    rw [plusToSpace, if_neg hplus, percentDecode_cons hpercent, hutf8, UInt8.ofNat_toNat]
    rfl
  · split
    · next hspace =>
      subst hspace
      show percentDecode (' ' :: text.map plusToSpace) = _
      rw [percentDecode_cons (by decide)]
      rfl
    · obtain ⟨hhigh, -, hhighPlus⟩ := hexDigit_spec (b.toNat / 16) (by omega)
      obtain ⟨hlow, -, hlowPlus⟩ := hexDigit_spec (b.toNat % 16) (by omega)
      show percentDecode ('%' :: plusToSpace _ :: plusToSpace _ :: text.map plusToSpace) = _
      rw [hhighPlus, hlowPlus, percentDecode]
      simp only [hhigh, hlow, if_true]
      rw [show 16 * (b.toNat / 16) + b.toNat % 16 = b.toNat by omega, UInt8.ofNat_toNat]
      rfl

theorem decode_encode (octets : Octets) : decode (encode octets) = octets := by
  induction octets with
  | nil => rfl
  | cons b octets ih =>
    show decode (encodeOctet b ++ encode octets) = _
    rw [decode_encodeOctet, ih]

/-! ## Separators

What separates names, values and pairs is written inside none of them, so that a query is split
where it was put together. -/

/-- The characters of encoded octets: plain ones, and those of spaces and escapes. So the separators
of the query are not among them, and it can be cut at these. -/
theorem plain_of_mem_encode {octets : Octets} {c : Char} (h : c ∈ encode octets) :
    isPlain c = true ∨ c = '+' ∨ c = '%' := by
  obtain ⟨b, -, hc⟩ := List.mem_flatMap.mp h
  have hb : b.toNat < 256 := b.toNat_lt
  unfold encodeOctet at hc
  split at hc
  · -- the same three ways
    next hplain =>
    obtain rfl := List.mem_singleton.mp hc
    exact .inl hplain
  · split at hc
    · exact .inr (.inl (List.mem_singleton.mp hc))
    · simp only [List.mem_cons, List.not_mem_nil, or_false] at hc
      rcases hc with rfl | rfl | rfl
      · exact .inr (.inr rfl)
      · exact .inl (hexDigit_spec _ (by omega)).2.1
      · exact .inl (hexDigit_spec _ (by omega)).2.1

/-- A character that no encoded octets have, whatever octets these are. -/
theorem not_mem_encode {octets : Octets} {c : Char}
    (hc : isPlain c = false ∧ c ≠ '+' ∧ c ≠ '%') : c ∉ encode octets := by
  intro h
  rcases plain_of_mem_encode h with hplain | hplus | hpercent
  · rw [hc.1] at hplain
    cases hplain
  · exact hc.2.1 hplus
  · exact hc.2.2 hpercent

/-- Nor has a pair such a character, unless it is the one between its name and its value. -/
theorem not_mem_pairText {pair : Pair} {c : Char}
    (hc : isPlain c = false ∧ c ≠ '+' ∧ c ≠ '%') (heq : c ≠ '=') : c ∉ pairText pair := by
  intro h
  rcases List.mem_append.mp h with h | h
  · exact not_mem_encode hc h
  · rcases List.mem_cons.mp h with h | h
    · exact heq h
    · exact not_mem_encode hc h

/-- There is one separator between two pairs, and none at the ends. -/
theorem serialize_cons_cons (pair pair' : Pair) (pairs : List Pair) :
    serialize (pair :: pair' :: pairs) = pairText pair ++ '&' :: serialize (pair' :: pairs) := by
  simp [serialize]

/-- **Safe characters.** A serialised query has only plain characters and `+%=&`. So a URL that it
is put into can be taken apart again. -/
theorem not_mem_serialize {pairs : List Pair} {c : Char}
    (hc : isPlain c = false ∧ c ≠ '+' ∧ c ≠ '%') (heq : c ≠ '=') (hamp : c ≠ '&') :
    c ∉ serialize pairs := by
  -- pair by pair; between two of them there is an `&`
  induction pairs with
  | nil => exact List.not_mem_nil
  | cons pair pairs ih =>
    cases pairs with
    | nil =>
      show c ∉ ['&'].intercalate [pairText pair]
      rw [List.intercalate_singleton]
      exact not_mem_pairText hc heq
    | cons pair' pairs =>
      rw [serialize_cons_cons]
      intro h
      rcases List.mem_append.mp h with h | h
      · exact not_mem_pairText hc heq h
      · rcases List.mem_cons.mp h with h | h
        · exact hamp h
        · exact ih h

/-! ## Round trip

Splitting undoes putting together, since no separator is where none was put. -/

/-- A pair is split at the first `=`, which is the one that was written between its name and its
value. -/
theorem parsePair_pairText (pair : Pair) : parsePair (pairText pair) = pair := by
  have hname : ∀ c ∈ encode pair.1, decide (c ≠ '=') = true := fun c hc =>
    decide_eq_true fun heq => not_mem_encode (c := '=') (by decide) (heq ▸ hc)
  unfold parsePair pairText
  rw [List.takeWhile_append_of_pos hname, List.dropWhile_append_of_pos hname]
  rw [List.takeWhile_cons_of_neg (by decide), List.dropWhile_cons_of_neg (by decide)]
  rw [List.append_nil, List.drop_one, List.tail_cons, decode_encode, decode_encode]

/-- No pair is written as nothing, so that none is taken for an empty sequence. -/
theorem pairText_ne_nil (pair : Pair) : pairText pair ≠ [] :=
  List.append_ne_nil_of_right_ne_nil _ (List.cons_ne_nil _ _)

/-- **Round trip.** Parsing gives the pairs that were serialised, in their order. The empty query
has no sequence but an empty one, which counts as none. -/
theorem parse_serialize (pairs : List Pair) : parse (serialize pairs) = pairs := by
  have htexts : ∀ text ∈ pairs.map pairText, '&' ∉ text ∧ text ≠ [] := by
    intro text htext
    obtain ⟨pair, -, rfl⟩ := List.mem_map.mp htext
    exact ⟨not_mem_pairText (by decide) (by decide), pairText_ne_nil pair⟩
  -- no pairs make an empty text, which is no pair
  cases pairs with
  | nil => rfl
  | cons pair pairs =>
    unfold parse serialize
    rw [List.splitOn_intercalate _ (fun text htext => (htexts text htext).1) (List.cons_ne_nil _ _)]
    rw [List.filter_eq_self.mpr fun text htext => decide_eq_true (htexts text htext).2]
    rw [List.map_map]
    exact List.map_id'' parsePair_pairText _

example : parse "a+b=%26&&c=1".toList =
    [([0x61, 0x20, 0x62], [0x26]), ([0x63], [0x31])] := by decide

end FormUrlEncoded
