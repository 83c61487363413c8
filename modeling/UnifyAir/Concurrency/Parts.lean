import UnifyAir.Concurrency.System

/-!
# Concurrency — the parts of a system

A part of a system is a view of it that is a system of its own: an action of the whole is an action
of the part, or leaves the view alone. Different parts may share an action, and then take it
together. What holds of every run of a part holds of the view of every run of the whole.

* **`Part.runUnder`** — a run of the whole is a run of each part.
-/

namespace Concurrency

namespace System

variable {σ α τ β : Type}

/-- `part` is what `view` shows of the states of `sys`, and `act` of its actions. -/
structure Part (sys : System σ α) (part : System τ β) where
  view : σ → τ
  act : α → Option β
  init : view sys.init = part.init
  moves : ∀ {s s' : σ} {a : α} {b : β}, sys.step s a = some s' → act a = some b →
    part.step (view s) b = some (view s')
  rests : ∀ {s s' : σ} {a : α}, sys.step s a = some s' → act a = none → view s' = view s

/-- **A run of the whole is a run of each part.** The schedule of the part is what the actions of
the whole are to it. Conditions carry over if those of the whole imply those of the part in what is
seen of the state. -/
theorem Part.runUnder {sys : System σ α} {part : System τ β} (p : Part sys part)
    {C : σ → α → Prop} {D : τ → β → Prop}
    (hcond : ∀ s a b, C s a → p.act a = some b → D (p.view s) b) {as : List α} {s : σ}
    (h : sys.RunUnder C as s) : part.RunUnder D (as.filterMap p.act) (p.view s) := by
  induction h with
  | nil =>
    rw [p.init]
    exact .nil
  | @snoc as s s' a _ cond hstep ih =>
    rw [List.filterMap_append]
    cases ha : p.act a with
    | none =>
      -- the action is none of the part, and leaves its view alone
      rw [List.filterMap_cons_none ha, List.filterMap_nil, List.append_nil, p.rests hstep ha]
      exact ih
    | some b =>
      rw [List.filterMap_cons_some ha, List.filterMap_nil]
      exact .snoc ih (hcond s a b cond ha) (p.moves hstep ha)

/-- The same without conditions, which is how most facts about a part are carried over. -/
theorem Part.run {sys : System σ α} {part : System τ β} (p : Part sys part) {C : σ → α → Prop}
    {as : List α} {s : σ} (h : sys.RunUnder C as s) :
    part.Run (as.filterMap p.act) (p.view s) :=
  p.runUnder (fun _ _ _ _ _ => trivial) h

end System

end Concurrency
