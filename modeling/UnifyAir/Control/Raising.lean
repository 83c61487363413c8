/-!
# Raising — computations that change a state and may raise

A computation in `ExceptT ε (StateM σ)` changes a state, and returns or raises; what it had changed
before it raised stays changed. Much of what is to be proved about a program of this kind looks at
its shape only: two programs of one shape do the same to two states that have something in common,
or a program leaves some view of its state alone. `Coupled` says the first, and `Keeps` the second
as the special case of one program; both are closed under everything that such programs are put
together from, so that only their primitive steps need a proof.

* **`Coupled`** — from related states two computations end alike, in related states.
* **`Keeps`** — a computation keeps an invariant of its state, whether it returns or raises.
* **`Returns`** — a computation raises in no state.
-/

namespace ExceptT

variable {ε σ α β : Type}

/-- How a computation ends, and the state it leaves. -/
def exec (x : ExceptT ε (StateM σ) α) (s : σ) : Except ε α × σ := (ExceptT.run x).run s

/-- A computation and what comes after it: the second is run in the state that the first one leaves,
and not at all if the first one raises. -/
theorem exec_bind (x : ExceptT ε (StateM σ) α) (f : α → ExceptT ε (StateM σ) β) (s : σ) :
    exec (x >>= f) s =
      match exec x s with
      | (.ok a, s) => exec (f a) s
      | (.error err, s) => (.error err, s) := by
  show (match exec x s with | (res, s) => (ExceptT.bindCont f res).run s) = _
  cases exec x s with
  | mk res s => cases res <;> rfl

/-- A handler is run in the state in which it was raised: what had been changed until then stays
changed, which is how `try` in an imperative language differs from a transaction. -/
theorem exec_tryCatch (x : ExceptT ε (StateM σ) α) (handler : ε → ExceptT ε (StateM σ) α) (s : σ) :
    exec (tryCatch x handler) s =
      match exec x s with
      | (.ok a, s) => (.ok a, s)
      | (.error err, s) => exec (handler err) s := by
  unfold exec ExceptT.run StateT.run
  simp only [tryCatch, tryCatchThe, MonadExceptOf.tryCatch, ExceptT.tryCatch, ExceptT.mk, bind,
    StateT.bind]
  cases x s with
  | mk res s => cases res <;> rfl

theorem exec_modify (f : σ → σ) (s : σ) :
    exec (modify f : ExceptT ε (StateM σ) PUnit) s = (.ok (), f s) := rfl

end ExceptT

namespace Raising

variable {ε σ τ α β : Type}

/-! ## Computations that return

A handler that cannot raise makes the whole of its `try` return, whatever is tried. -/

/-- It raises in no state. -/
def Returns (x : ExceptT ε (StateM σ) α) : Prop := ∀ s, ∃ a s', x.exec s = (.ok a, s')

theorem returns_pure (a : α) : Returns (pure a : ExceptT ε (StateM σ) α) := fun s => ⟨a, s, rfl⟩

theorem returns_modify (f : σ → σ) : Returns (modify f : ExceptT ε (StateM σ) PUnit) :=
  fun s => ⟨(), f s, rfl⟩

/-- Two computations that return, one after the other. The second has to return for whatever the
first one gave. -/
theorem Returns.bind {x : ExceptT ε (StateM σ) α} {f : α → ExceptT ε (StateM σ) β}
    (hx : Returns x) (hf : ∀ a, Returns (f a)) : Returns (x >>= f) := by
  intro s
  obtain ⟨a, s', hexec⟩ := hx s
  rw [ExceptT.exec_bind, hexec]
  exact hf a s'

/-- Whatever is tried: if no exception makes the handler raise, then nothing is raised at all. -/
theorem returns_tryCatch (x : ExceptT ε (StateM σ) α) {handler : ε → ExceptT ε (StateM σ) α}
    (hhandler : ∀ err, Returns (handler err)) : Returns (tryCatch x handler) := by
  intro s
  rw [ExceptT.exec_tryCatch]
  split
  · next a s' _ => exact ⟨a, s', rfl⟩
  · next err s' _ => exact hhandler err s'

/-! ## Coupled computations

`R` relates the state of the one computation with the state of the other. What they return, or
raise, is the same; so a computation that goes on from there may depend on it on both sides. -/

/-- From states that `R` relates the two end alike, in states that `R` relates. -/
def Coupled (R : σ → τ → Prop) (x : ExceptT ε (StateM σ) α) (y : ExceptT ε (StateM τ) α) : Prop :=
  ∀ s t, R s t → (x.exec s).1 = (y.exec t).1 ∧ R (x.exec s).2 (y.exec t).2

section

variable {R : σ → τ → Prop}

/-- A value that both return, with the states as they were. -/
theorem coupled_pure (a : α) :
    Coupled R (pure a : ExceptT ε (StateM σ) α) (pure a) := fun _ _ h => ⟨rfl, h⟩

/-- An exception that both raise, with the states as they were. -/
theorem coupled_throw (err : ε) :
    Coupled R (throw err : ExceptT ε (StateM σ) α) (throw err) := fun _ _ h => ⟨rfl, h⟩

/-- Two changes that keep the relation. This is where a proof about a program does its work;
everything else is put together from it. -/
theorem coupled_modify {f : σ → σ} {g : τ → τ} (h : ∀ s t, R s t → R (f s) (g t)) :
    Coupled R (modify f : ExceptT ε (StateM σ) PUnit) (modify g) :=
  fun s t hst => ⟨rfl, h s t hst⟩

/-- One after the other. The two continuations are compared for the same value only, since that is
what the first halves have returned on both sides. -/
theorem Coupled.bind {x : ExceptT ε (StateM σ) α} {y : ExceptT ε (StateM τ) α}
    {f : α → ExceptT ε (StateM σ) β} {g : α → ExceptT ε (StateM τ) β} (hx : Coupled R x y)
    (hf : ∀ a, Coupled R (f a) (g a)) : Coupled R (x >>= f) (y >>= g) := by
  intro s t hst
  obtain ⟨hres, hR⟩ := hx s t hst
  rw [ExceptT.exec_bind, ExceptT.exec_bind]
  generalize x.exec s = xs at hres hR
  generalize y.exec t = yt at hres hR
  obtain ⟨res, s'⟩ := xs
  obtain ⟨res', t'⟩ := yt
  obtain rfl : res = res' := hres
  -- both have returned this, or both have raised it
  cases res with
  | ok a => exact hf a s' t' hR
  | error err => exact ⟨rfl, hR⟩

/-- With a handler. Both sides raise the same exception or none, so that both handlers are run on
it, in states that are still related. -/
theorem Coupled.tryCatch {x : ExceptT ε (StateM σ) α} {y : ExceptT ε (StateM τ) α}
    {f : ε → ExceptT ε (StateM σ) α} {g : ε → ExceptT ε (StateM τ) α} (hx : Coupled R x y)
    (hf : ∀ err, Coupled R (f err) (g err)) :
    Coupled R (MonadExcept.tryCatch x f) (MonadExcept.tryCatch y g) := by
  intro s t hst
  obtain ⟨hres, hR⟩ := hx s t hst
  rw [ExceptT.exec_tryCatch, ExceptT.exec_tryCatch]
  generalize x.exec s = xs at hres hR
  generalize y.exec t = yt at hres hR
  obtain ⟨res, s'⟩ := xs
  obtain ⟨res', t'⟩ := yt
  obtain rfl : res = res' := hres
  cases res with
  | ok a => exact ⟨rfl, hR⟩
  | error err => exact hf err s' t' hR

/-- A loop that does something for each element of a list. Induction on the list, by `bind`. -/
theorem coupled_forM {γ : Type} {f : γ → ExceptT ε (StateM σ) PUnit}
    {g : γ → ExceptT ε (StateM τ) PUnit} (h : ∀ i, Coupled R (f i) (g i)) (l : List γ) :
    Coupled R (l.forM f) (l.forM g) := by
  induction l with
  | nil => exact coupled_pure _
  | cons i l ih => exact (h i).bind fun _ => ih

/-- A loop that collects what it gets for each element. It raises at the first element that does,
with nothing collected on either side. -/
theorem coupled_mapM {γ : Type} {f : γ → ExceptT ε (StateM σ) α}
    {g : γ → ExceptT ε (StateM τ) α} (h : ∀ i, Coupled R (f i) (g i)) (l : List γ) :
    Coupled R (l.mapM f) (l.mapM g) := by
  induction l with
  | nil => exact coupled_pure []
  | cons i l ih =>
    rw [List.mapM_cons, List.mapM_cons]
    exact (h i).bind fun _ => ih.bind fun _ => coupled_pure _

end

/-! ## Invariants

Here one program is looked at alone. Nothing is proved of it twice: an invariant is the relation of
a state with itself. -/

/-- It keeps `I`, whether it returns or raises. -/
def Keeps (I : σ → Prop) (x : ExceptT ε (StateM σ) α) : Prop := ∀ s, I s → I (x.exec s).2

/-- A computation keeps an invariant exactly when it is coupled with itself in the states that have
it. So what is proved of coupled computations serves for invariants too. -/
theorem keeps_iff {I : σ → Prop} {x : ExceptT ε (StateM σ) α} :
    Keeps I x ↔ Coupled (fun s t => s = t ∧ I s) x x := by
  constructor
  · rintro h s t ⟨rfl, hs⟩
    exact ⟨rfl, rfl, h s hs⟩
  · exact fun h s hs => (h s s ⟨rfl, hs⟩).2.2

end Raising
