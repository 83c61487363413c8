import Mathlib.Data.List.Basic

/-!
# Wire — units cut off the front of a stream

A reader keeps what has arrived in a buffer. When more comes, it cuts the complete units off the
front, handles them one after the other and keeps the rest. `Format` says how one unit is cut off:
what a cut yields does not depend on what is behind the unit.

* **`units_append`** — the units of a stream, and of what arrives after it.
* **`feed_feed`**, **`feed_segments`** — it does not matter in which portions a stream arrives.
* **`feed_hom`** — readers that do the same, one with less in its state.
* **`units_flatMap`** — a stream that is made of units is cut into them.
-/

namespace Wire

/-- Units `F` in a stream of symbols `α`. -/
structure Format (α F : Type) where
  /-- The first unit, if it is complete, and what is behind it. -/
  cut : List α → Option (F × List α)
  /-- The symbols that a unit takes. -/
  symbols : F → List α
  symbols_ne_nil : ∀ f, symbols f ≠ []
  cut_eq_some_iff : ∀ {stream f rest}, cut stream = some (f, rest) ↔ stream = symbols f ++ rest

namespace Format

variable {α F σ : Type} (fmt : Format α F)

/-- A cut takes something off, since a unit has symbols. This is why cutting comes to an end. -/
theorem length_lt_of_cut {stream rest : List α} {f : F} (h : fmt.cut stream = some (f, rest)) :
    rest.length < stream.length := by
  rw [fmt.cut_eq_some_iff.mp h, List.length_append]
  have := List.length_pos_iff.mpr (fmt.symbols_ne_nil f)
  omega

/-- The complete units at the front of a stream, and what is behind them. -/
def units (stream : List α) : List F × List α :=
  match h : fmt.cut stream with
  | none => ([], stream)
  | some (f, rest) =>
    have := fmt.length_lt_of_cut h
    (f :: (units rest).1, (units rest).2)
termination_by stream.length

variable {fmt}

/-- Nothing is cut off a stream with no complete unit in front. -/
theorem units_of_none {stream : List α} (h : fmt.cut stream = none) :
    fmt.units stream = ([], stream) := by
  rw [units]
  split
  · rfl
  · next heq => cases h.symm.trans heq

/-- A unit is cut off, and then those behind it. -/
theorem units_of_some {stream rest : List α} {f : F} (h : fmt.cut stream = some (f, rest)) :
    fmt.units stream = (f :: (fmt.units rest).1, (fmt.units rest).2) := by
  rw [units]
  split
  · next heq => cases h.symm.trans heq
  · next heq =>
    cases h.symm.trans heq
    rfl

/-- A complete unit is cut off whatever comes behind it: what is in front of it decides. Everything
below about portions rests on this. -/
theorem cut_append {stream rest : List α} {f : F} (h : fmt.cut stream = some (f, rest))
    (more : List α) : fmt.cut (stream ++ more) = some (f, rest ++ more) := by
  rw [fmt.cut_eq_some_iff] at h ⊢
  rw [h, List.append_assoc]

/-- No symbol is lost, and none is in two units: put together again, the units and the rest are the
stream. Induction along the cuts. -/
theorem symbols_units (stream : List α) :
    (fmt.units stream).1.flatMap fmt.symbols ++ (fmt.units stream).2 = stream := by
  induction stream using Format.units.induct fmt with
  | case1 stream h => rw [units_of_none h, List.flatMap_nil, List.nil_append]
  | case2 stream f rest h _ ih =>
    rw [units_of_some h, List.flatMap_cons, List.append_assoc, ih, fmt.cut_eq_some_iff.mp h]

/-- What remains has no complete unit, for cutting goes on as long as there is one. -/
theorem cut_units (stream : List α) : fmt.cut (fmt.units stream).2 = none := by
  induction stream using Format.units.induct fmt with
  | case1 stream h =>
    rw [units_of_none h]
    exact h
  | case2 stream f rest h _ ih =>
    rw [units_of_some h]
    exact ih

/-- **More arrives.** The units that were complete stay the first ones, and the rest is cut together
with what has come. So it does not matter where one portion ends and the next begins. -/
theorem units_append (stream more : List α) :
    fmt.units (stream ++ more) =
      ((fmt.units stream).1 ++ (fmt.units ((fmt.units stream).2 ++ more)).1,
        (fmt.units ((fmt.units stream).2 ++ more)).2) := by
  induction stream using Format.units.induct fmt with
  | case1 stream h => rw [units_of_none h, List.nil_append]
  | case2 stream f rest h _ ih =>
    rw [units_of_some h, units_of_some (cut_append h more), ih, List.cons_append]

theorem units_nil : fmt.units [] = ([], []) := by
  apply units_of_none
  cases h : fmt.cut [] with
  | none => rfl
  | some cut => exact absurd (fmt.length_lt_of_cut h) (Nat.not_lt_zero _)

/-- A stream of units, and nothing more, is cut into these units. The converse of `symbols_units`
for streams that were made by a writer. -/
theorem units_flatMap (fs : List F) : fmt.units (fs.flatMap fmt.symbols) = (fs, []) := by
  induction fs with
  | nil => exact units_nil
  | cons f fs ih =>
    rw [List.flatMap_cons, units_of_some (fmt.cut_eq_some_iff.mpr rfl), ih]

/-! ## A reader

A reader has a state of its own, which the units change, and a buffer. It is a fold over the units
of everything that has arrived, so what was shown of cutting carries over. -/

variable (fmt)

/-- A reader with its buffer: more arrives, and the units that are complete now are handled. -/
def feed (handle : σ → F → σ) (reader : σ × List α) (more : List α) : σ × List α :=
  ((fmt.units (reader.2 ++ more)).1.foldl handle reader.1, (fmt.units (reader.2 ++ more)).2)

variable {fmt}

/-- **Two portions are as good as one.** The first portion leaves its rest in the buffer, where the
second finds it. -/
theorem feed_feed (handle : σ → F → σ) (reader : σ × List α) (more more' : List α) :
    fmt.feed handle (fmt.feed handle reader more) more' =
      fmt.feed handle reader (more ++ more') := by
  unfold feed
  rw [← List.append_assoc, units_append (reader.2 ++ more) more', List.foldl_append]

/-- A reader whose state is another one's, seen through `φ`. The buffers are the same, so it is
enough that the two handle a unit alike. -/
theorem feed_hom {τ : Type} (φ : σ → τ) {handle : σ → F → σ} {handle' : τ → F → τ}
    (h : ∀ s f, handle' (φ s) f = φ (handle s f)) (reader : σ × List α) (more : List α) :
    fmt.feed handle' (φ reader.1, reader.2) more =
      (φ (fmt.feed handle reader more).1, (fmt.feed handle reader more).2) := by
  unfold feed
  rw [List.foldl_hom φ h]

/-- **Any portions are as good as one.** Induction on the portions, two at a time. -/
theorem feed_segments (handle : σ → F → σ) (reader : σ × List α) (segment : List α)
    (segments : List (List α)) :
    segments.foldl (fmt.feed handle) (fmt.feed handle reader segment) =
      fmt.feed handle reader (segment ++ segments.flatten) := by
  induction segments generalizing segment with
  | nil => rw [List.flatten_nil, List.append_nil, List.foldl_nil]
  | cons segment' segments ih =>
    rw [List.foldl_cons, feed_feed, ih, List.flatten_cons, List.append_assoc]

end Format

end Wire
