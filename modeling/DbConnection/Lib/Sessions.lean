import Mathlib.Data.List.Basic

/-!
# Calls that may raise, on a state

A call in `ExceptT ε (StateM σ)` changes a state and may raise; what it did before it raised stays.
The lemmas say what a sequence of calls, a `try` and a loop do, from what their parts do.
-/

namespace Sessions

variable {σ ε α β : Type} {s s' : σ} {a : α} {e : ε}

section Calls

variable {x : ExceptT ε (StateM σ) α} {f : α → ExceptT ε (StateM σ) β}
  {handler : ε → ExceptT ε (StateM σ) α}

/-- After a call that returns, the next one follows. -/
theorem run_bind_ok (h : x.run.run s = (.ok a, s')) : (x >>= f).run.run s = (f a).run.run s' := by
  rw [ExceptT.run_bind, StateT.run_bind, h]
  rfl

/-- After a call that raises, nothing follows. -/
theorem run_bind_error (h : x.run.run s = (.error e, s')) :
    (x >>= f).run.run s = (.error e, s') := by
  rw [ExceptT.run_bind, StateT.run_bind, h]
  rfl

/-- A call that returns is not caught. -/
theorem run_tryCatch_ok (h : x.run.run s = (.ok a, s')) :
    (tryCatch x handler).run.run s = (.ok a, s') := by
  rw [ExceptT.run_tryCatch, StateT.run_bind, h]
  rfl

/-- After a call that raises, the handler follows. -/
theorem run_tryCatch_error (h : x.run.run s = (.error e, s')) :
    (tryCatch x handler).run.run s = (handler e).run.run s' := by
  rw [ExceptT.run_tryCatch, StateT.run_bind, h]
  rfl

/-- What returns or raises without touching the state. -/
theorem run_ofExcept (x : Except ε α) :
    (MonadExcept.ofExcept x : ExceptT ε (StateM σ) α).run.run s = (x, s) := by
  cases x <;> rfl

/-- A sequence of two calls returns when both do, the second one where the first one left off. -/
theorem run_bind_eq_ok_iff {b : β} : (x >>= f).run.run s = (.ok b, s') ↔
    ∃ a between, x.run.run s = (.ok a, between) ∧ (f a).run.run between = (.ok b, s') := by
  rcases hx : x.run.run s with ⟨outcome, between⟩
  cases outcome with
  | ok a =>
    rw [run_bind_ok hx]
    constructor
    · intro h
      exact ⟨a, between, rfl, h⟩
    · rintro ⟨_, _, hrun, h⟩
      cases hrun
      exact h
  | error e =>
    rw [run_bind_error hx]
    refine iff_of_false (fun h => by cases h) ?_
    rintro ⟨_, _, hrun, -⟩
    cases hrun

/-- After what returns or raises without touching the state, a call returns when both do. -/
theorem run_ofExcept_bind_eq_ok_iff {x : Except ε α} {b : β} :
    ((MonadExcept.ofExcept x : ExceptT ε (StateM σ) α) >>= f).run.run s = (.ok b, s') ↔
      ∃ a, x = .ok a ∧ (f a).run.run s = (.ok b, s') := by
  cases x with
  | ok a =>
    rw [run_bind_ok (run_ofExcept _)]
    exact ⟨fun h => ⟨a, rfl, h⟩, fun ⟨_, hok, h⟩ => by cases hok; exact h⟩
  | error e =>
    rw [run_bind_error (run_ofExcept _)]
    exact iff_of_false (fun h => by cases h) fun ⟨_, hok, _⟩ => by cases hok

end Calls

section Raised

/-- Whatever state a call is made in, what it raises has a property. -/
def Raises (Q : ε → Prop) (x : ExceptT ε (StateM σ) α) : Prop :=
  ∀ s e s', x.run.run s = (.error e, s') → Q e

variable {Q : ε → Prop} {x : ExceptT ε (StateM σ) α} {f : α → ExceptT ε (StateM σ) β}

/-- A sequence of two calls raises what one of them raises. -/
theorem Raises.bind (hx : Raises Q x) (hf : ∀ a, Raises Q (f a)) : Raises Q (x >>= f) := by
  intro s e s' h
  rcases hrun : x.run.run s with ⟨outcome, between⟩
  cases outcome with
  | ok a =>
    rw [run_bind_ok hrun] at h
    exact hf a between e s' h
  | error e' =>
    rw [run_bind_error hrun] at h
    cases h
    exact hx s _ _ hrun

/-- What returns raises nothing. -/
theorem raises_pure (a : α) : Raises Q (pure a : ExceptT ε (StateM σ) α) := by
  intro s e s' h
  cases h

/-- What raises without touching the state raises its exception. -/
theorem raises_ofExcept {x : Except ε α} (h : ∀ e, x = .error e → Q e) :
    Raises Q (MonadExcept.ofExcept x : ExceptT ε (StateM σ) α) := by
  intro s e s' hrun
  rw [run_ofExcept] at hrun
  exact h e (Prod.mk.inj hrun).1

/-- Calls of a list raise what one of them raises. -/
theorem Raises.mapM {call : α → ExceptT ε (StateM σ) β} (h : ∀ a, Raises Q (call a))
    (as : List α) : Raises Q (as.mapM call) := by
  induction as with
  | nil => exact raises_pure []
  | cons a as ih =>
    rw [List.mapM_cons]
    exact (h a).bind fun b => ih.bind fun bs => raises_pure (b :: bs)

end Raised

/-- A loop whose calls all return makes the steps of its items, one after the other. -/
theorem run_forM_ok {call : α → ExceptT ε (StateM σ) PUnit} {step : σ → α → σ} {as : List α}
    (h : ∀ before a after, as = before ++ a :: after →
      (call a).run.run (before.foldl step s) = (.ok (), step (before.foldl step s) a)) :
    (as.forM call).run.run s = (.ok (), as.foldl step s) := by
  induction as generalizing s with
  | nil => rfl
  | cons a as ih =>
    have hcons : (a :: as).forM call = (call a >>= fun _ => as.forM call) := rfl
    have hfirst : (call a).run.run s = (.ok (), step s a) := h [] a as rfl
    rw [hcons, run_bind_ok hfirst]
    exact ih fun before b after hb => h (a :: before) b after (hb ▸ rfl)

section Kept

variable {P : σ → Prop}

/-- What two calls keep, their sequence keeps, whether they return or raise. -/
theorem run_bind_keeps {x : ExceptT ε (StateM σ) α} {f : α → ExceptT ε (StateM σ) β}
    (hx : P (x.run.run s).2) (hf : ∀ a s, P s → P ((f a).run.run s).2) :
    P ((x >>= f).run.run s).2 := by
  obtain ⟨outcome, s', hrun⟩ : ∃ outcome s', x.run.run s = (outcome, s') := ⟨_, _, rfl⟩
  rw [hrun] at hx
  cases outcome with
  | ok a =>
    rw [run_bind_ok hrun]
    exact hf a s' hx
  | error e =>
    rw [run_bind_error hrun]
    exact hx

/-- What the calls of a loop keep, the loop keeps. -/
theorem run_forM_keeps {call : α → ExceptT ε (StateM σ) PUnit} {as : List α}
    (hcall : ∀ a ∈ as, ∀ s, P s → P ((call a).run.run s).2) (h : P s) :
    P ((as.forM call).run.run s).2 := by
  induction as generalizing s with
  | nil => exact h
  | cons a as ih =>
    have hcons : (a :: as).forM call = (call a >>= fun _ => as.forM call) := rfl
    rw [hcons]
    refine run_bind_keeps (hcall a List.mem_cons_self s h) fun _ s' hs' => ?_
    exact ih (fun b hb => hcall b (List.mem_cons_of_mem a hb)) hs'

/-- What the calls of a list keep, the calls one after the other keep. -/
theorem run_mapM_keeps {call : α → ExceptT ε (StateM σ) β} {as : List α}
    (hcall : ∀ a ∈ as, ∀ s, P s → P ((call a).run.run s).2) (h : P s) :
    P ((as.mapM call).run.run s).2 := by
  induction as generalizing s with
  | nil => exact h
  | cons a as ih =>
    rw [List.mapM_cons]
    refine run_bind_keeps (hcall a List.mem_cons_self s h) fun b s' hs' => ?_
    refine run_bind_keeps (ih (fun b hb => hcall b (List.mem_cons_of_mem a hb)) hs') ?_
    exact fun bs s'' hs'' => hs''

end Kept

end Sessions
