import UnifyAir.Concurrency.Cell
import UnifyAir.Ngap.NgSetup
import UnifyAir.Nrf.Client

/-!
# UnifyAir — the configuration in the app context

`app/src/context/app_context.rs`. The configuration is behind an `ArcSwap`; `commit_config`
clones what it loads, lets the caller's closure modify the clone, and stores it. The load and
the store are atomic, and what stands between them is not: concurrent calls are the tasks of a
`Concurrency.Cell`.

* **`commit_config_loses_no_update_iff_fresh`** — a schedule of calls loses no update, whatever
  the closures do, exactly when no call stores over a store it has not loaded.
* **`update_lost`** — two calls that load the same configuration.
-/

namespace UnifyAir.AppContext

open Concurrency
open Nrf (NfInstanceId)

abbrev TaskId := Nat

/-- `Configuration`, as far as NG Setup and the registration with the NRF use it. -/
structure Configuration extends Ngap.Configuration where
  nfId : NfInstanceId
  deriving DecidableEq, Repr

/-- `AppContextInner`, without the SBI configuration. -/
structure AppContextInner where
  config : Configuration
  deriving DecidableEq, Repr

namespace AppContextInner

/-- `get_config`. -/
def getConfig (ctx : AppContextInner) : Configuration := ctx.config

/-- `get_nf_id`. -/
def getNfId (ctx : AppContextInner) : NfInstanceId := ctx.getConfig.nfId

/-- `commit_config`, when nothing comes in between. -/
def commitConfig (ctx : AppContextInner) (updateFn : Configuration → Configuration) :
    AppContextInner :=
  let newConfig := ctx.getConfig
  { ctx with config := updateFn newConfig }

end AppContextInner

/-- Concurrent calls on one context, where the closure of call `t` is `updateFn t`. The `read` of
a call is `self.get_config().as_ref().clone()`; its `store` is the closure on the clone and
`self.config.store`. -/
def commits (ctx : AppContextInner) (updateFn : TaskId → Configuration → Configuration) :
    System (Cell.State TaskId Configuration) (Cell.Act TaskId) :=
  Cell.system ctx.config updateFn

/-- Every call that has loaded the configuration has stored its own and returned. -/
def AllReturned (s : Cell.State TaskId Configuration) : Prop :=
  ∀ t, s.phase t = .idle ∨ s.phase t = .done

/-- After the schedule, the configuration is what the closures make of the initial one, one after
another in some order, whatever they do. -/
def LosesNoUpdate (ctx : AppContextInner) (as : List (Cell.Act TaskId)) : Prop :=
  ∀ updateFn s, (commits ctx updateFn).Run as s → AllReturned s → Cell.Serial ctx.config updateFn s

/-- Whether a call has returned does not depend on what configurations are. So a schedule after
which all have returned is one for any closures. -/
theorem allReturned_of_sameShape {s s' : Cell.State TaskId Configuration}
    (h : Cell.SameShape s s') (hall : AllReturned s) : AllReturned s' := by
  intro t
  rcases hall t with hidle | hdone
  · exact Or.inl ((Cell.idle_of_shape (h.phase t)).mp hidle)
  · exact Or.inr ((Cell.done_of_shape (h.phase t)).mp hdone)

/-- A TAI of the PLMN 208 93. -/
def taiOne : Ngap.Tai := ⟨⟨['2', '0', '8'], ['9', '3']⟩, ['0', '0', '0', '0', '0', '1'], none⟩

/-- Each closure adds a TAI to the supported ones. -/
def addTai (_ : TaskId) (config : Configuration) : Configuration :=
  { config with supportTaiList := config.supportTaiList ++ [taiOne] }

def taiCount (config : Configuration) : Nat := config.supportTaiList.length

/-- A closure that adds a TAI makes the configuration bigger by one. This is the update that no lost
one can make up for. -/
theorem taiCount_addTai (t : TaskId) (config : Configuration) :
    taiCount (addTai t config) = taiCount config + 1 := by
  simp [addTai, taiCount]

/-- **No update is lost, exactly with fresh stores.** A schedule after which all calls have returned
loses no update, whatever the closures do, if and only if each of its stores is made while nobody
else has stored since the load of the same call. The cell does the work: its criterion is about all
updates, as soon as there is one that can be counted. -/
theorem commit_config_loses_no_update_iff_fresh {ctx : AppContextInner}
    {updateFn : TaskId → Configuration → Configuration} {as : List (Cell.Act TaskId)}
    {s : Cell.State TaskId Configuration} (run : (commits ctx updateFn).Run as s)
    (hall : AllReturned s) :
    LosesNoUpdate ctx as ↔ (commits ctx updateFn).RunUnder Cell.Fresh as s := by
  rw [commits, ← Cell.serial_iff_fresh taiCount_addTai run]
  constructor
  · -- the same schedule with other closures has the same calls behind it
    intro hno updateFn' s' run'
    obtain ⟨t, ht, hsame, -⟩ := Cell.exists_sameShape run ctx.config updateFn'
    obtain rfl := ht.eq run'
    exact hno updateFn' t ht (allReturned_of_sameShape hsame hall)
  · intro hserial updateFn' s' run' _
    exact hserial updateFn' s' run'

/-- A context whose configuration supports no TAI. -/
def emptyContext : AppContextInner := ⟨{ (default : Ngap.Configuration) with nfId := 7 }⟩

/-- Two calls that both load the configuration before either stores. -/
def bothLoad : List (Cell.Act TaskId) := [.read 0, .read 1, .store 0, .store 1]

/-- Two calls have each added a TAI and returned, and only one TAI has been added. -/
theorem update_lost :
    ∃ s, (commits emptyContext addTai).Run bothLoad s ∧ AllReturned s ∧
      s.value.supportTaiList = [taiOne] ∧ ¬ Cell.Serial emptyContext.config addTai s := by
  let s := ((commits emptyContext addTai).exec bothLoad).get (by decide)
  have hrun : (commits emptyContext addTai).Run bothLoad s := System.run_of_exec (by simp [s])
  have hall : AllReturned s
    | 0 | 1 => Or.inr rfl
    | _ + 2 => Or.inl rfl
  refine ⟨s, hrun, hall, rfl, ?_⟩
  refine Cell.Short.not_serial taiCount_addTai ⟨by decide, fun t read ht => ?_⟩
    (Cell.listed_of_run hrun)
  rcases hall t with hidle | hdone
  · cases hidle.symm.trans ht
  · cases hdone.symm.trans ht

/-- The same two calls one after the other. -/
def oneByOne : List (Cell.Act TaskId) := [.read 0, .store 0, .read 1, .store 1]

/-- Here each store is fresh, and the condition can be tested step by step. -/
theorem loses_no_update_oneByOne :
    ∃ s, (commits emptyContext addTai).Run oneByOne s ∧
      s.value.supportTaiList = [taiOne, taiOne] ∧ LosesNoUpdate emptyContext oneByOne := by
  let s := (((commits emptyContext addTai).guarded fun s a =>
    decide (Cell.Fresh s a)).exec oneByOne).get (by decide)
  have hrun : (commits emptyContext addTai).RunUnder Cell.Fresh oneByOne s := .of_decide (by simp [s])
  have hall : AllReturned s
    | 0 | 1 => Or.inr rfl
    | _ + 2 => Or.inl rfl
  exact ⟨s, hrun.run, rfl, (commit_config_loses_no_update_iff_fresh hrun.run hall).mpr hrun⟩

end UnifyAir.AppContext
