import Mathlib.Data.List.Forall2
import RecordStore.Container.Basic

/-!
# Runs of calls on a container

The operations of a container as one type of calls, and what a sequence of calls
leads to: the answers, each with the state after it. Two containers are compared by
their traces. If every call keeps a relation between their states and is answered
alike on both sides, so does every run of calls
(`RecordStore.Container.forall₂_trace`).
-/

namespace RecordStore

/-! ### Computations on a store, run from a state -/

namespace StoreM

variable {σ τ α β : Type}

theorem bind_of_ok {x : StoreM σ α} {f : α → StoreM σ β} {s s' : σ} {a : α}
    (h : x s = (.ok a, s')) : (x >>= f) s = f a s' := by
  change (ExceptT.bind x f) s = _
  simp only [ExceptT.bind, ExceptT.mk, bind, StateT.bind]
  rw [h]
  rfl

theorem bind_of_error {x : StoreM σ α} {f : α → StoreM σ β} {s s' : σ} {e : StoreError}
    (h : x s = (.error e, s')) : (x >>= f) s = (.error e, s') := by
  change (ExceptT.bind x f) s = _
  simp only [ExceptT.bind, ExceptT.mk, bind, StateT.bind]
  rw [h]
  rfl

theorem bind_apply (x : StoreM σ α) (f : α → StoreM σ β) (s : σ) :
    (x >>= f) s = match x s with
      | (.ok a, s') => f a s'
      | (.error e, s') => (.error e, s') := by
  rcases h : x s with ⟨e | a, s'⟩
  · exact bind_of_error h
  · exact bind_of_ok h

/-- What a function makes of the result of a computation, the state being kept. -/
theorem bind_pure_apply (x : StoreM σ α) (g : α → β) (s : σ) :
    (x >>= fun a => pure (g a)) s = ((x s).1.map g, (x s).2) := by
  rw [bind_apply]
  rcases x s with ⟨e | a, s'⟩ <;> rfl

theorem get_apply (s : σ) : (get : StoreM σ σ) s = (.ok s, s) := rfl

theorem ofExcept_apply (r : Except StoreError α) (s : σ) : (ofExcept r : StoreM σ α) s = (r, s) :=
  rfl

/-! ### Computations on two stores -/

/-- **Computations on two stores are related** by a relation between the states if they have
the same result from related states, and lead to related states. -/
def Related (R : σ → τ → Prop) (x : StoreM σ α) (y : StoreM τ α) : Prop :=
  ∀ s t, R s t → (x s).1 = (y t).1 ∧ R (x s).2 (y t).2

variable {R : σ → τ → Prop}

theorem related_pure (a : α) : Related R (pure a) (pure a) := fun _ _ h => ⟨rfl, h⟩

theorem related_ofExcept (r : Except StoreError α) : Related R (ofExcept r) (ofExcept r) :=
  fun _ _ h => ⟨rfl, h⟩

theorem Related.bind {x : StoreM σ α} {y : StoreM τ α} {f : α → StoreM σ β} {g : α → StoreM τ β}
    (h : Related R x y) (hfg : ∀ a, Related R (f a) (g a)) : Related R (x >>= f) (y >>= g) := by
  intro s t hst
  have hxy := h s t hst
  rw [bind_apply, bind_apply]
  revert hxy
  rcases x s with ⟨r, s'⟩
  rcases y t with ⟨r', t'⟩
  rintro ⟨hres, hstate⟩
  obtain rfl : r = r' := hres
  cases r with
  | error e => exact ⟨rfl, hstate⟩
  | ok a => exact hfg a s' t' hstate

/-- Computations are related if they are once their results are wrapped up. -/
theorem Related.of_bind_pure {x : StoreM σ α} {y : StoreM τ α} {g : α → β}
    (hg : Function.Injective g)
    (h : Related R (x >>= fun a => pure (g a)) (y >>= fun a => pure (g a))) : Related R x y := by
  intro s t hst
  have h := h s t hst
  rw [bind_pure_apply, bind_pure_apply] at h
  refine ⟨?_, h.2⟩
  have hres : (x s).1.map g = (y t).1.map g := h.1
  cases hx : (x s).1 with
  | error e =>
    cases hy : (y t).1 with
    | error e' =>
      rw [hx, hy] at hres
      cases hres
      rfl
    | ok b =>
      rw [hx, hy] at hres
      cases hres
  | ok a =>
    cases hy : (y t).1 with
    | error e' =>
      rw [hx, hy] at hres
      cases hres
    | ok b =>
      rw [hx, hy] at hres
      exact congrArg Except.ok (hg (Except.ok.inj hres))

end StoreM

/-! ### Calls and their answers -/

/-- A call on a container. -/
inductive Call
  | init (table : String)
  | select (table : String)
  | insert (table key : String) (payload : Bytes)
  | delete (table key : String)

/-- What a call answers when it does not fail. -/
inductive Answer
  /-- It is done, and there is nothing to tell. -/
  | done
  /-- The entries of the table. -/
  | entries (entries : Table)
  /-- Whether there was an entry. -/
  | existed (existed : Bool)

namespace Container

variable {σ τ : Type}

/-- Makes a call on a container. -/
def perform (c : Container σ) : Call → StoreM σ Answer
  | .init table => do
    c.init table
    return .done
  | .select table => return .entries (← c.select table)
  | .insert table key payload => do
    c.insert table key payload
    return .done
  | .delete table key => return .existed (← c.delete table key)

/-- The outcome of a call: its answer, and the state after it. -/
def outcome (c : Container σ) (call : Call) (s : σ) : Except StoreError Answer × σ :=
  c.perform call s

theorem outcome_init (c : Container σ) (table : String) (s : σ) :
    c.outcome (.init table) s = ((c.init table s).1.map fun _ => .done, (c.init table s).2) :=
  StoreM.bind_pure_apply _ _ s

theorem outcome_select (c : Container σ) (table : String) (s : σ) :
    c.outcome (.select table) s = ((c.select table s).1.map .entries, (c.select table s).2) :=
  StoreM.bind_pure_apply _ _ s

theorem outcome_insert (c : Container σ) (table key : String) (payload : Bytes) (s : σ) :
    c.outcome (.insert table key payload) s =
      ((c.insert table key payload s).1.map fun _ => .done, (c.insert table key payload s).2) :=
  StoreM.bind_pure_apply _ _ s

theorem outcome_delete (c : Container σ) (table key : String) (s : σ) :
    c.outcome (.delete table key) s =
      ((c.delete table key s).1.map .existed, (c.delete table key s).2) :=
  StoreM.bind_pure_apply _ _ s

/-- **A run of calls**, one after the other: the answer to each of them, with the state after
it. -/
def trace (c : Container σ) : List Call → σ → List (Except StoreError Answer × σ)
  | [], _ => []
  | call :: calls, s => c.outcome call s :: c.trace calls (c.outcome call s).2

/-- What holds of the outcome of every call holds all along a run. -/
theorem forall_mem_trace {c : Container σ} {P : Except StoreError Answer × σ → Prop}
    (h : ∀ call s, P (c.outcome call s)) (calls : List Call) (s : σ) :
    ∀ x ∈ c.trace calls s, P x := by
  induction calls generalizing s with
  | nil =>
    intro x hx
    cases hx
  | cons call calls ih =>
    intro x hx
    rcases List.mem_cons.1 hx with rfl | hx
    · exact h call s
    · exact ih _ x hx

/-- Two containers are alike under a relation between their states if each call in question
is answered alike in related states, and leads to related states again. -/
def Alike (c : Container σ) (d : Container τ) (R : σ → τ → Prop) (p : Call → Prop) : Prop :=
  ∀ call, p call → ∀ s t, R s t →
    (c.outcome call s).1 = (d.outcome call t).1 ∧ R (c.outcome call s).2 (d.outcome call t).2

section Alike

variable {c : Container σ} {d : Container τ} {R : σ → τ → Prop} {p : Call → Prop}

theorem Alike.init (h : c.Alike d R p) {table : String} (hp : p (.init table)) :
    StoreM.Related R (c.init table) (d.init table) :=
  StoreM.Related.of_bind_pure (g := fun _ => Answer.done) (fun _ _ _ => rfl) (h _ hp)

theorem Alike.select (h : c.Alike d R p) {table : String} (hp : p (.select table)) :
    StoreM.Related R (c.select table) (d.select table) :=
  StoreM.Related.of_bind_pure (g := Answer.entries) (fun _ _ => Answer.entries.inj) (h _ hp)

theorem Alike.insert (h : c.Alike d R p) {table key : String} {payload : Bytes}
    (hp : p (.insert table key payload)) :
    StoreM.Related R (c.insert table key payload) (d.insert table key payload) :=
  StoreM.Related.of_bind_pure (g := fun _ => Answer.done) (fun _ _ _ => rfl) (h _ hp)

theorem Alike.delete (h : c.Alike d R p) {table key : String} (hp : p (.delete table key)) :
    StoreM.Related R (c.delete table key) (d.delete table key) :=
  StoreM.Related.of_bind_pure (g := Answer.existed) (fun _ _ => Answer.existed.inj) (h _ hp)

end Alike

/-- **Containers that are alike for every call are alike for every run.** -/
theorem forall₂_trace {c : Container σ} {d : Container τ} {R : σ → τ → Prop} {p : Call → Prop}
    (h : c.Alike d R p) {calls : List Call} (hcalls : ∀ call ∈ calls, p call) {s : σ} {t : τ}
    (hst : R s t) :
    List.Forall₂ (fun x y => x.1 = y.1 ∧ R x.2 y.2) (c.trace calls s) (d.trace calls t) := by
  -- one call leads to related states, from which the others start
  induction calls generalizing s t with
  | nil => exact .nil
  | cons call calls ih =>
    have hcall := h call (hcalls call (by simp)) s t hst
    exact .cons hcall (ih (fun x hx => hcalls x (List.mem_cons_of_mem _ hx)) hcall.2)

end Container

end RecordStore
