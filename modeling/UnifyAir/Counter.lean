import Mathlib.Logic.Function.Iterate

/-!
# UnifyAir — the `define_counter!` atomic counters

`utils/counter/src/lib.rs` defines one counter type per unsigned integer width, all from
one macro: the counter starts at one, `increment` is a single `fetch_add(1)` that returns
the value before the addition, and the addition wraps at the width.
-/

namespace UnifyAir

/-- `$counter_name($atomic_type)` for an integer type of `w` bits. -/
structure Counter (w : Nat) where
  value : BitVec w
  deriving DecidableEq, Repr

/-- `$counter_name::new`. -/
def Counter.new (w : Nat) : Counter w := ⟨1#w⟩

/-- `increment`: the value handed out, and the counter after it. -/
def Counter.increment {w : Nat} (c : Counter w) : BitVec w × Counter w :=
  (c.value, ⟨c.value + 1#w⟩)

abbrev CounterU32 := Counter 32
abbrev CounterU64 := Counter 64
/-- On a 64-bit target. -/
abbrev CounterUsize := Counter 64

end UnifyAir
