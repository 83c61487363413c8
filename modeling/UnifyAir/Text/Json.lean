import Mathlib.Data.List.Basic

/-!
# Json — the compact text of a JSON value

RFC 8259, with the shortest escape where it leaves a choice and lower-case digits in `\u00XX`. A
text is the list of its characters. A number is kept as its text.

* **`escape_eq_self`** — the strings that are written as they are.
* **`printable_toText`** — the characters of a text are printable ASCII, and what the value's own
  strings bring in.
* **`toText_head`** — only the text of a string begins with a quotation mark.
-/

namespace Json

/-! ## Numbers

A number is kept as its text, so that nothing has to be said of its value. Which texts are numbers
is decided by an automaton that reads one character after the other. -/

/-- How far a number has been read. -/
inductive NumberState where
  | start
  | minus
  | zero
  | whole
  | point
  | fraction
  | mark
  | sign
  | exponent
  deriving DecidableEq, Repr

namespace NumberState

/-- Reading one character of a number. -/
def next (s : NumberState) (c : Char) : Option NumberState :=
  match s with
  | start => if c = '-' then some minus else digit zero whole
  | minus => digit zero whole
  | zero => if c = '.' then some point else e
  | whole => if c = '.' then some point else if c.isDigit then some whole else e
  | point => digit fraction fraction
  | fraction => if c.isDigit then some fraction else e
  | mark => if c = '-' ∨ c = '+' then some sign else digit exponent exponent
  | sign => digit exponent exponent
  | exponent => digit exponent exponent
where
  /-- A digit has to come, and zero can lead elsewhere than the others. -/
  digit (ifZero otherwise : NumberState) : Option NumberState :=
    if c = '0' then some ifZero else if c.isDigit then some otherwise else none
  e : Option NumberState := if c = 'e' ∨ c = 'E' then some mark else none

/-- A number can end here. -/
def final : NumberState → Bool
  | zero | whole | fraction | exponent => true
  | start | minus | point | mark | sign => false

end NumberState

/-- The text is one of a number. -/
def isNumber (text : List Char) : Bool :=
  (text.foldlM NumberState.next .start).any NumberState.final

/-- A number, by its text. -/
structure Number where
  text : List Char
  wellFormed : isNumber text = true
  deriving DecidableEq

example : isNumber ['-', '0', '.', '5', 'e', '1', '6'] = true := by decide

end Json

/-- A JSON value. The members of an object keep their order. -/
inductive Json where
  | null
  | bool (b : Bool)
  | number (n : Json.Number)
  | string (s : List Char)
  | array (elements : List Json)
  | object (members : List (List Char × Json))

namespace Json

/-! ## Texts

The compact text has no white space, and members of an object keep the order that they have in the
value. -/

/-- A character inside a string. -/
def escapeChar (c : Char) : List Char :=
  if c = '"' then ['\\', '"']
  else if c = '\\' then ['\\', '\\']
  else if c.toNat = 0x08 then ['\\', 'b']
  else if c.toNat = 0x09 then ['\\', 't']
  else if c.toNat = 0x0A then ['\\', 'n']
  else if c.toNat = 0x0C then ['\\', 'f']
  else if c.toNat = 0x0D then ['\\', 'r']
  else if c.toNat < 0x20 then
    ['\\', 'u', '0', '0', Nat.digitChar (c.toNat / 16), Nat.digitChar (c.toNat % 16)]
  else [c]

/-- What stands between the quotation marks. -/
def escape (s : List Char) : List Char := s.flatMap escapeChar

def quoted (s : List Char) : List Char := '"' :: escape s ++ ['"']

mutual

/-- The compact text of a value. -/
def toText : Json → List Char
  | null => ['n', 'u', 'l', 'l']
  | bool true => ['t', 'r', 'u', 'e']
  | bool false => ['f', 'a', 'l', 's', 'e']
  | number n => n.text
  | string s => quoted s
  | array elements => '[' :: elementsText elements ++ [']']
  | object members => '\x7b' :: membersText members ++ ['\x7d']

def elementsText : List Json → List Char
  | [] => []
  | [v] => v.toText
  | v :: elements => v.toText ++ ',' :: elementsText elements

def membersText : List (List Char × Json) → List Char
  | [] => []
  | [(name, v)] => quoted name ++ ':' :: v.toText
  | (name, v) :: members => quoted name ++ ':' :: v.toText ++ ',' :: membersText members

end

mutual

/-- The characters of the strings in a value, the names of members among them. -/
def chars : Json → List Char
  | null | bool _ | number _ => []
  | string s => s
  | array elements => elementsChars elements
  | object members => membersChars members

def elementsChars : List Json → List Char
  | [] => []
  | v :: elements => v.chars ++ elementsChars elements

def membersChars : List (List Char × Json) → List Char
  | [] => []
  | (name, v) :: members => name ++ v.chars ++ membersChars members

end

/-! ## Characters

What a text is made of decides whether it can stand where only printable characters may. -/

/-- The character is written as an escape: a control character, a quotation mark or a backslash. -/
def Escaped (c : Char) : Prop := c.toNat < 0x20 ∨ c = '"' ∨ c = '\\'

instance (c : Char) : Decidable (Escaped c) :=
  inferInstanceAs (Decidable (c.toNat < 0x20 ∨ c = '"' ∨ c = '\\'))

theorem escapeChar_of_not_escaped {c : Char} (h : ¬ Escaped c) : escapeChar c = [c] := by
  unfold Escaped at h
  simp only [not_or] at h
  obtain ⟨hcontrol, hquote, hbackslash⟩ := h
  unfold escapeChar
  simp (disch := omega) only [if_neg, hquote, hbackslash, if_false]

/-- A printable ASCII character. -/
def Printable (c : Char) : Prop := 0x20 ≤ c.toNat ∧ c.toNat < 0x7F

instance (c : Char) : Decidable (Printable c) :=
  inferInstanceAs (Decidable (0x20 ≤ c.toNat ∧ c.toNat < 0x7F))

/-- The characters that are escaped are among the first ones, so that they can be looked up. -/
theorem escapes : ∀ n < 0x60, Escaped (Char.ofNat n) →
    2 ≤ (escapeChar (Char.ofNat n)).length ∧
      (escapeChar (Char.ofNat n)).all (fun d => decide (Printable d)) = true := by
  decide

/-- An escape has two characters at least, and all of them are printable. The first makes it longer
than what it stands for, the second lets it stand in a header. -/
theorem escape_of_escaped {c : Char} (h : Escaped c) :
    2 ≤ (escapeChar c).length ∧ ∀ d ∈ escapeChar c, Printable d := by
  have hlow : c.toNat < 0x60 := by
    rcases h with h | rfl | rfl
    · omega
    · decide
    · decide
  have hc := escapes c.toNat hlow
  rw [Char.ofNat_toNat] at hc
  obtain ⟨hlen, hall⟩ := hc h
  exact ⟨hlen, fun d hd => of_decide_eq_true (List.all_eq_true.mp hall d hd)⟩

/-- Escapes make a string longer, and nothing makes it shorter. -/
theorem length_le_escape (s : List Char) : s.length ≤ (escape s).length := by
  induction s with
  | nil => exact Nat.le_refl _
  | cons c s ih =>
    have hone : 1 ≤ (escapeChar c).length := by
      by_cases h : Escaped c
      · have := (escape_of_escaped h).1
        omega
      · rw [escapeChar_of_not_escaped h]
        exact Nat.le_refl _
    show s.length + 1 ≤ (escapeChar c ++ escape s).length
    rw [List.length_append]
    omega

/-- **Written as it is.** A string is written as it is exactly if nothing in it is escaped: one
escape would make its text longer, and no other character makes up for that. -/
theorem escape_eq_self {s : List Char} : escape s = s ↔ ∀ c ∈ s, ¬ Escaped c := by
  -- character by character
  induction s with
  | nil => simp [escape]
  | cons c s ih =>
    rw [List.forall_mem_cons, ← ih]
    show escapeChar c ++ escape s = c :: s ↔ _
    constructor
    · intro h
      -- an escape in front would make the text longer than the string
      have hc : ¬ Escaped c := fun hescaped => by
        have hlen := congrArg List.length h
        rw [List.length_append, List.length_cons] at hlen
        have := (escape_of_escaped hescaped).1
        have := length_le_escape s
        omega
      rw [escapeChar_of_not_escaped hc] at h
      exact ⟨hc, List.cons.inj h |>.2⟩
    · intro ⟨hc, hs⟩
      rw [escapeChar_of_not_escaped hc, hs]
      rfl

/-- A character of a string's text is printable, or it is one of the string's own that stands behind
the printable ones. -/
theorem mem_escape {s : List Char} {d : Char} (h : d ∈ escape s) :
    Printable d ∨ d ∈ s ∧ 0x7F ≤ d.toNat := by
  obtain ⟨c, hc, hd⟩ := List.mem_flatMap.mp h
  by_cases hescaped : Escaped c
  · exact .inl ((escape_of_escaped hescaped).2 d hd)
  · rw [escapeChar_of_not_escaped hescaped] at hd
    obtain rfl := List.mem_singleton.mp hd
    have hcontrol : ¬ d.toNat < 0x20 := fun hlt => hescaped (.inl hlt)
    by_cases hle : 0x7F ≤ d.toNat
    · exact .inr ⟨hc, hle⟩
    · exact .inl ⟨by omega, by omega⟩

/-- Characters behind the printable ones are not escaped, so they are found again in the text. -/
theorem mem_escape_of_mem {s : List Char} {c : Char} (hc : c ∈ s) (hle : 0x7F ≤ c.toNat) :
    c ∈ escape s := by
  have hescaped : ¬ Escaped c := by
    rintro (hlt | rfl | rfl)
    · omega
    · exact absurd hle (by decide)
    · exact absurd hle (by decide)
  refine List.mem_flatMap.mpr ⟨c, hc, ?_⟩
  rw [escapeChar_of_not_escaped hescaped]
  exact List.mem_cons_self

/-- What a number is made of: digits, signs, a point and an exponent's letter. In particular no
number has a quotation mark. -/
theorem NumberState.printable_of_next {s s' : NumberState} {c : Char} (h : s.next c = some s') :
    Printable c ∧ c ≠ '"' := by
  have hdigit : c.isDigit = true → Printable c ∧ c ≠ '"' := by
    intro hc
    have hrange : 48 ≤ c.toNat ∧ c.toNat ≤ 57 := Char.isDigit_iff_toNat.mp hc
    refine ⟨⟨by omega, by omega⟩, ?_⟩
    rintro rfl
    exact absurd hc (by decide)
  have hc : c = '-' ∨ c = '+' ∨ c = '.' ∨ c = 'e' ∨ c = 'E' ∨ c.isDigit = true := by
    by_contra hnot
    simp only [not_or] at hnot
    obtain ⟨h₁, h₂, h₃, h₄, h₅, h₆⟩ := hnot
    have hzero : c ≠ '0' := fun hzero => h₆ (hzero ▸ rfl)
    cases s <;> simp [next, next.digit, next.e, h₁, h₂, h₃, h₄, h₅, h₆, hzero] at h
  -- the five signs that a number may have, and the digits
  rcases hc with rfl | rfl | rfl | rfl | rfl | hc
  · decide
  · decide
  · decide
  · decide
  · decide
  · exact hdigit hc

/-- The characters of everything that can be read as a part of a number. -/
theorem printable_of_foldlM {text : List Char} {s s' : NumberState}
    (h : text.foldlM NumberState.next s = some s') : ∀ c ∈ text, Printable c ∧ c ≠ '"' := by
  induction text generalizing s with
  | nil => exact nofun
  | cons c text ih =>
    rw [List.foldlM_cons] at h
    obtain ⟨s₁, hc, htext⟩ := Option.bind_eq_some_iff.mp h
    exact List.forall_mem_cons.mpr ⟨NumberState.printable_of_next hc, ih htext⟩

/-- The characters of a number, since its text can be read to the end. -/
theorem Number.printable (n : Number) : ∀ c ∈ n.text, Printable c ∧ c ≠ '"' := by
  obtain ⟨s, hs, -⟩ := (Option.any_eq_true _ _).mp n.wellFormed
  exact printable_of_foldlM hs

/-- **What a text begins with.** Only a string's begins with a quotation mark. So whoever looks at
the first character of a text knows whether a string was serialised. -/
theorem toText_head {v : Json} : v.toText.head? = some '"' ↔ ∃ s, v = .string s := by
  constructor
  · intro h
    cases v with
    | string s => exact ⟨s, rfl⟩
    | number n =>
      have hmem : '"' ∈ n.text := List.mem_of_head? h
      exact ((n.printable _ hmem).2 rfl).elim
    | bool b => cases b <;> exact absurd h (by decide)
    | null => exact absurd h (by decide)
    | array | object => exact absurd (Option.some.inj h) (by decide)
  · rintro ⟨s, rfl⟩
    rfl

/-- The character is printable, or comes from strings with these characters. -/
def FromStrings (chars : List Char) (d : Char) : Prop := Printable d ∨ d ∈ chars ∧ 0x7F ≤ d.toNat

/-- What comes from the strings of a part comes from those of the whole. -/
theorem FromStrings.mono {chars chars' : List Char} {d : Char} (hsub : chars ⊆ chars')
    (h : FromStrings chars d) : FromStrings chars' d :=
  h.imp_right fun ⟨hd, hle⟩ => ⟨hsub hd, hle⟩

theorem mem_quoted {s : List Char} {d : Char} (h : d ∈ quoted s) : FromStrings s d := by
  rcases List.mem_cons.mp h with rfl | h
  · exact .inl (by decide)
  · rcases List.mem_append.mp h with h | h
    · exact mem_escape h
    · obtain rfl := List.mem_singleton.mp h
      exact .inl (by decide)

/-- The text of an element, a comma if another one comes, and the rest. -/
theorem mem_elementsText_cons {v : Json} {elements : List Json} {d : Char} :
    d ∈ elementsText (v :: elements) ↔
      d ∈ v.toText ∨ d = ',' ∧ elements ≠ [] ∨ d ∈ elementsText elements := by
  cases elements with
  | nil => simp [elementsText]
  | cons v' elements => simp [elementsText]

/-- The same for members, each with its name and a colon. -/
theorem mem_membersText_cons {name : List Char} {v : Json} {members : List (List Char × Json)}
    {d : Char} : d ∈ membersText ((name, v) :: members) ↔
      d ∈ quoted name ∨ d = ':' ∨ d ∈ v.toText ∨ d = ',' ∧ members ≠ [] ∨
        d ∈ membersText members := by
  cases members with
  | nil => simp [membersText]
  | cons m members => simp [membersText]

mutual

/-- **The characters of a text.** Each is printable, or stands in one of the value's strings.
Induction on the value, together with the two lemmas on elements and members. -/
theorem mem_toText {d : Char} : ∀ {v : Json}, d ∈ v.toText → FromStrings v.chars d
  | null, h | bool true, h | bool false, h => by
    simp only [toText, List.mem_cons, List.not_mem_nil, or_false] at h
    rcases h with rfl | rfl | rfl | rfl | rfl <;> exact .inl (by decide)
  | number n, h => .inl (n.printable d h).1
  | string s, h => mem_quoted h
  | array elements, h => by
    simp only [toText, List.mem_cons, List.cons_append, List.mem_append, List.not_mem_nil,
      or_false] at h
    rcases h with rfl | h | rfl
    · exact .inl (by decide)
    · exact mem_elementsText h
    · exact .inl (by decide)
  | object members, h => by
    simp only [toText, List.mem_cons, List.cons_append, List.mem_append, List.not_mem_nil,
      or_false] at h
    rcases h with rfl | h | rfl
    · exact .inl (by decide)
    · exact mem_membersText h
    · exact .inl (by decide)

theorem mem_elementsText {d : Char} : ∀ {elements : List Json}, d ∈ elementsText elements →
    FromStrings (elementsChars elements) d
  | [], h => nomatch h
  | v :: elements, h => by
    rcases mem_elementsText_cons.mp h with h | ⟨rfl, -⟩ | h
    · exact (mem_toText h).mono (List.subset_append_left _ _)
    · exact .inl (by decide)
    · exact (mem_elementsText h).mono (List.subset_append_right _ _)

/-- The characters of members, those of their names among them. -/
theorem mem_membersText {d : Char} : ∀ {members : List (List Char × Json)},
    d ∈ membersText members → FromStrings (membersChars members) d
  | [], h => nomatch h
  | (name, v) :: members, h => by
    have hleft : ∀ {chars : List Char}, chars ⊆ name ++ v.chars →
        chars ⊆ membersChars ((name, v) :: members) :=
      fun hsub => List.Subset.trans hsub (List.subset_append_left _ _)
    rcases mem_membersText_cons.mp h with h | rfl | h | ⟨rfl, -⟩ | h
    · exact (mem_quoted h).mono (hleft (List.subset_append_left _ _))
    · exact .inl (by decide)
    · exact (mem_toText h).mono (hleft (List.subset_append_right _ _))
    · exact .inl (by decide)
    · exact (mem_membersText h).mono (List.subset_append_right _ _)

end

mutual

/-- A character behind the printable ones is found again in the text, for it is never escaped.
Induction on the value once more. -/
theorem mem_toText_of_mem_chars {c : Char} (hle : 0x7F ≤ c.toNat) :
    ∀ {v : Json}, c ∈ v.chars → c ∈ v.toText
  | null, h | bool _, h | number _, h => nomatch h
  | string _, h =>
    List.mem_cons_of_mem _ (List.mem_append_left _ (mem_escape_of_mem h hle))
  | array _, h =>
    List.mem_cons_of_mem _ (List.mem_append_left _ (mem_elementsText_of_mem_chars hle h))
  | object _, h =>
    List.mem_cons_of_mem _ (List.mem_append_left _ (mem_membersText_of_mem_chars hle h))

theorem mem_elementsText_of_mem_chars {c : Char} (hle : 0x7F ≤ c.toNat) :
    ∀ {elements : List Json}, c ∈ elementsChars elements → c ∈ elementsText elements
  | [], h => nomatch h
  | v :: elements, h => by
    refine mem_elementsText_cons.mpr ?_
    rcases List.mem_append.mp h with h | h
    · exact .inl (mem_toText_of_mem_chars hle h)
    · exact .inr (.inr (mem_elementsText_of_mem_chars hle h))

theorem mem_membersText_of_mem_chars {c : Char} (hle : 0x7F ≤ c.toNat) :
    ∀ {members : List (List Char × Json)}, c ∈ membersChars members → c ∈ membersText members
  | [], h => nomatch h
  | (name, v) :: members, h => by
    refine mem_membersText_cons.mpr ?_
    simp only [membersChars, List.mem_append] at h
    rcases h with (h | h) | h
    · exact .inl (List.mem_cons_of_mem _ (List.mem_append_left _ (mem_escape_of_mem h hle)))
    · exact .inr (.inr (.inl (mem_toText_of_mem_chars hle h)))
    · exact .inr (.inr (.inr (.inr (mem_membersText_of_mem_chars hle h))))

end

/-- **Printable texts.** A text is printable exactly when all the strings in the value are, but for
what is escaped: an escape is printable itself. -/
theorem printable_toText {v : Json} :
    (∀ d ∈ v.toText, Printable d) ↔ ∀ c ∈ v.chars, c.toNat < 0x7F := by
  constructor
  · intro h c hc
    by_contra hlt
    have hle : 0x7F ≤ c.toNat := by omega
    exact hlt (h c (mem_toText_of_mem_chars hle hc)).2
  · intro h d hd
    rcases mem_toText hd with hprintable | ⟨hmem, hle⟩
    · exact hprintable
    · exact absurd (h d hmem) (by omega)

end Json
