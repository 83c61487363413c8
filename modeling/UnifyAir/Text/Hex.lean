import Mathlib.Tactic.IntervalCases

/-!
# Hex — numbers written in hex digits

A text is the list of its characters. A digit from ten on can be written in either case, so a
number has many spellings of one length; it has one without capitals.

* **`eq_of_value_eq`** — two texts of one length without capitals that denote one number are the
  same text.
-/

namespace Hex

/-- The value of a hex digit, in either case. -/
def digitValue (c : Char) : Option Nat :=
  if '0' ≤ c ∧ c ≤ '9' then some (c.toNat - '0'.toNat)
  else if 'a' ≤ c ∧ c ≤ 'f' then some (c.toNat - 'a'.toNat + 10)
  else if 'A' ≤ c ∧ c ≤ 'F' then some (c.toNat - 'A'.toNat + 10)
  else none

/-- The number a text denotes behind the digits of `n`. -/
def valueFrom (n : Nat) : List Char → Option Nat
  | [] => some n
  | c :: text => (digitValue c).bind fun d => valueFrom (16 * n + d) text

/-- The number a text of hex digits denotes, the highest digit first. -/
def value (text : List Char) : Option Nat := valueFrom 0 text

/-- No digit is written as a capital. -/
def NoCapitals (text : List Char) : Prop := ∀ c ∈ text, c.isUpper = false

instance (text : List Char) : Decidable (NoCapitals text) :=
  List.decidableBAll (fun c : Char => c.isUpper = false) text

/-! ## Digits

There are few digits, so what is to be known of one is looked up for all ASCII characters at once.
-/

/-- Hex digits are ASCII. This brings what is to be shown of a digit down to 128 cases. -/
theorem ascii_of_digitValue {c : Char} {d : Nat} (h : digitValue c = some d) : c.toNat < 128 := by
  have hle : ∀ {lo hi : Char}, lo ≤ c ∧ c ≤ hi → c.toNat ≤ hi.toNat := fun hrange => hrange.2
  unfold digitValue at h
  split at h
  · next hrange => exact Nat.lt_of_le_of_lt (hle hrange) (by decide)
  · split at h
    · next hrange => exact Nat.lt_of_le_of_lt (hle hrange) (by decide)
    · split at h
      · next hrange => exact Nat.lt_of_le_of_lt (hle hrange) (by decide)
      · cases h

/-- All ASCII characters, looked up: a digit is below sixteen, and is the character that
`Nat.digitChar` writes unless it is a capital. -/
theorem digit_ascii : ∀ n < 128, ∀ d ∈ digitValue (Char.ofNat n),
    d < 16 ∧ (d < 10 ∨ (Char.ofNat n).isUpper = false → Char.ofNat n = Nat.digitChar d) := by
  decide

theorem digitValue_lt {c : Char} {d : Nat} (h : digitValue c = some d) : d < 16 := by
  have hascii := digit_ascii c.toNat (ascii_of_digitValue h) d
  rw [Char.ofNat_toNat] at hascii
  exact (hascii h).1

/-- A digit below ten, or one that is not a capital, is written as its value is. So such a digit has
one spelling. -/
theorem eq_digitChar {c : Char} {d : Nat} (h : digitValue c = some d)
    (hc : d < 10 ∨ c.isUpper = false) : c = Nat.digitChar d := by
  have hascii := digit_ascii c.toNat (ascii_of_digitValue h) d
  rw [Char.ofNat_toNat] at hascii
  exact (hascii h).2 hc

/-- What is written for a value is read as that value. -/
theorem digitValue_digitChar {d : Nat} (h : d < 16) : digitValue (Nat.digitChar d) = some d := by
  interval_cases d <;> decide

theorem digitChar_not_upper {d : Nat} (h : d < 16) : (Nat.digitChar d).isUpper = false := by
  interval_cases d <;> decide

/-! ## Numbers

A text is read from its highest digit on. Read from the other end, the last digit is the remainder
by sixteen and the others the quotient, which is how two texts are compared. -/

theorem valueFrom_cons {n v : Nat} {c : Char} {text : List Char} :
    valueFrom n (c :: text) = some v ↔ ∃ d, digitValue c = some d ∧
      valueFrom (16 * n + d) text = some v := by
  simp [valueFrom, Option.bind_eq_some_iff]

/-- A number behind other digits determines both, and the spelling without capitals. Induction on
the texts, which are of one length; `omega` takes the last digit off the number. -/
theorem valueFrom_inj {text text' : List Char} {n n' v : Nat} (hlen : text.length = text'.length)
    (hcap : NoCapitals text) (hcap' : NoCapitals text') (h : valueFrom n text = some v)
    (h' : valueFrom n' text' = some v) : n = n' ∧ text = text' := by
  -- digit by digit from the left; the lengths are equal
  induction text generalizing text' n n' with
  | nil =>
    cases text' with
    | nil =>
      cases h
      cases h'
      exact ⟨rfl, rfl⟩
    | cons => cases hlen
  | cons c text ih =>
    cases text' with
    | nil => cases hlen
    | cons c' text' =>
      obtain ⟨d, hd, hrest⟩ := valueFrom_cons.mp h
      obtain ⟨d', hd', hrest'⟩ := valueFrom_cons.mp h'
      obtain ⟨hn, htext⟩ := ih (Nat.succ.inj hlen) (fun x hx => hcap x (.tail _ hx))
        (fun x hx => hcap' x (.tail _ hx)) hrest hrest'
      have hlt := digitValue_lt hd
      have hlt' := digitValue_lt hd'
      obtain ⟨rfl, rfl⟩ : n = n' ∧ d = d' := by omega
      have hc : c = c' := by
        rw [eq_digitChar hd (Or.inr (hcap c (.head _))),
          eq_digitChar hd' (Or.inr (hcap' c' (.head _)))]
      exact ⟨rfl, by rw [hc, htext]⟩

/-- **One spelling without capitals.** Two texts of one length that denote one number are the same
text. -/
theorem eq_of_value_eq {text text' : List Char} {v : Nat} (hlen : text.length = text'.length)
    (hcap : NoCapitals text) (hcap' : NoCapitals text') (h : value text = some v)
    (h' : value text' = some v) : text = text' :=
  (valueFrom_inj hlen hcap hcap' h h').2

example : value ['0', '0', 'a', 'F'] = some 175 := by decide

end Hex
