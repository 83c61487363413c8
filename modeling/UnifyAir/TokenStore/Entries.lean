import UnifyAir.TokenStore.Provenance

/-!
# UnifyAir — what each map call does to the entries of the `TokenStore`

`State.entry` is what a map call sees: the key's `Arc` together with the state behind it.
Two steps change entries, `upsert_async` and `update_async`, and each changes the entry of
its own key only. New heap cells change none, since an entry in the map never dangles.
-/

namespace UnifyAir.TokenStore

open Concurrency

variable {K V E : Type}

/-- The entry of `key` is `Updating`. -/
def State.Updating (s : State K V E) (key : K) : Prop :=
  ∃ arc ts, s.entry key = some (arc, ts) ∧ ts.isUpdating = true

/-- What a map call sees is the key's `Arc` and what is behind it. -/
theorem entry_eq_some {s : State K V E} {key : K} {arc : ArcId} {ts : TokenState V} :
    s.entry key = some (arc, ts) ↔ s.map key = some arc ∧ s.arcs[arc]? = some ts := by
  unfold State.entry
  cases hmap : s.map key with
  | none => simp
  | some arc' =>
    cases hts : s.arcs[arc']? with
    | none => grind
    | some ts' => grind

/-- The heap may grow without any entry changing, since no entry points past its end. -/
theorem entry_of_grown {as : List (Act K V E)} {s : State K V E} (h : Sourced as s)
    (s' : State K V E) (hmap : s'.map = s.map) (harcs : s.arcs <+: s'.arcs) (key : K) :
    s'.entry key = s.entry key := by
  cases hkey : s.map key with
  | none => simp [State.entry, hmap, hkey]
  | some arc =>
    obtain ⟨ts, hts, -⟩ := h.entries key arc hkey
    have hs : s.entry key = some (arc, ts) := entry_eq_some.mpr ⟨hkey, hts⟩
    have hs' : s'.entry key = some (arc, ts) :=
      entry_eq_some.mpr ⟨by rw [hmap]; exact hkey, getElem?_of_grown harcs hts⟩
    rw [hs, hs']

section

variable [DecidableEq K]

/-- The entry that `upsert_async` puts is `Updating`, under the id and the `Notify` of its call. -/
theorem upsert_entry_self (s : State K V E) (t : TaskId) (key : K) (n : NotifyId) (id : BitVec 32) :
    (s.upsert t key n id).entry key = some (s.arcs.length, ⟨id, .updating n⟩) := by
  rw [entry_eq_some]
  exact ⟨Function.update_self .., List.getElem?_concat_length⟩

theorem upsert_entry_of_ne {as : List (Act K V E)} {s : State K V E} (h : Sourced as s) (t : TaskId)
    {key key' : K} (n : NotifyId) (id : BitVec 32) (hne : key' ≠ key) :
    (s.upsert t key n id).entry key' = s.entry key' := by
  have hmap : (s.upsert t key n id).map key' = s.map key' := Function.update_of_ne hne ..
  cases hk : s.map key' with
  | none => simp [State.entry, hmap, hk]
  | some arc =>
    obtain ⟨ts, hts, -⟩ := h.entries key' arc hk
    rw [entry_eq_some.mpr ⟨hk, hts⟩, entry_eq_some]
    exact ⟨hmap.trans hk, getElem?_of_grown (List.prefix_append _ _) hts⟩

theorem write_entry_of_ne (s : State K V E) (t : TaskId) {key key' : K} (n : NotifyId) (arc : ArcId)
    (res : Except (StoreError E) Unit) (hne : key' ≠ key) :
    (s.write t key n arc res).entry key' = s.entry key' := by
  have hmap : (s.write t key n arc res).map key' = s.map key' := by
    simp only [State.write]
    split
    · exact Function.update_of_ne hne ..
    · rfl
  unfold State.entry
  rw [hmap]
  rfl

/-- `update_async` leaves its key with a result, or with nothing: either way the key is free for the
next update. -/
theorem write_not_updating {as : List (Act K V E)} {s : State K V E} (h : Sourced as s) {t : TaskId}
    {key : K} {n : NotifyId} {arc : ArcId} {res : Except (StoreError E) Unit}
    (hc : s.calls t = .setWrite key n arc res) : ¬ (s.write t key n arc res).Updating key := by
  have hown : CallOk as s.arcs t (.setWrite key n arc res) := hc ▸ h.calls t
  obtain ⟨-, id, r, hcell, -, -⟩ := hown
  rintro ⟨arc', ts, hentry, hupd⟩
  obtain ⟨hmap, hts⟩ := entry_eq_some.mp hentry
  simp only [State.write] at hmap hts
  split at hmap
  · simp only [Function.update_self, Option.some.injEq] at hmap
    subst hmap
    rw [hcell] at hts
    cases hts
    cases r <;> simp [TokenState.isUpdating, State.outcome] at hupd
  · next hnone => simp [hmap] at hnone

end

end UnifyAir.TokenStore
