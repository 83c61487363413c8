import UnifyAir.Concurrency.Parts

/-!
# Concurrency — systems side by side

A family of systems that share no state, in any interleaving: an action names the member that
moves. A run of the whole is a run of each member (`RunUnder.component`), so what holds of
every run of one member holds of every member of every run of the whole.
-/

namespace Concurrency.System

variable {ι σ α : Type} [DecidableEq ι]

/-- The members of the family `sys` in any interleaving. -/
def interleave (sys : ι → System σ α) : System (ι → σ) (ι × α) where
  init := fun i => (sys i).init
  step s a := ((sys a.1).step (s a.1) a.2).map (Function.update s a.1)

/-- The actions of member `i` in a schedule. -/
def actionsOf (i : ι) (as : List (ι × α)) : List α :=
  as.filterMap fun a => if a.1 = i then some a.2 else none

variable {sys : ι → System σ α}

/-- A step of the whole is a step of the member that its action names, and changes nothing of the
others. -/
theorem interleave_cases {s s' : ι → σ} {i : ι} {a : α}
    (h : (interleave sys).step s (i, a) = some s') :
    ∃ t, (sys i).step (s i) a = some t ∧ s' = Function.update s i t := by
  obtain ⟨t, ht, heq⟩ := Option.map_eq_some_iff.mp h
  exact ⟨t, ht, heq.symm⟩

/-- Each member is a part of the whole. -/
def member (sys : ι → System σ α) (i : ι) : Part (interleave sys) (sys i) where
  view s := s i
  act a := if a.1 = i then some a.2 else none
  init := rfl
  moves := by
    rintro s s' ⟨j, a⟩ b h ha
    obtain ⟨t, ht, rfl⟩ := interleave_cases h
    split at ha
    · next hij =>
      cases ha
      cases hij
      rw [Function.update_self]
      exact ht
    · cases ha
  rests := by
    rintro s s' ⟨j, a⟩ h ha
    obtain ⟨t, -, rfl⟩ := interleave_cases h
    split at ha
    · cases ha
    · next hij => exact Function.update_of_ne (Ne.symm hij) ..

/-- A run of the whole is a run of each member, along the actions of its own. It is the rule of
parts for one member of the family. -/
theorem RunUnder.component {C : (ι → σ) → ι × α → Prop} {as : List (ι × α)} {s : ι → σ}
    (h : (interleave sys).RunUnder C as s) (i : ι) : (sys i).Run (actionsOf i as) (s i) :=
  (member sys i).run h

end Concurrency.System
