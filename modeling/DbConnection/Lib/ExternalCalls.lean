import Mathlib.Data.List.Basic

/-!
# Programs that call out and clean up

A program makes calls to its environment, each of which answers with a value or raises. It is a
function of these answers, and a run of it is the list of the calls it made with how the run ended.
Exceptions are handled by `tryExcept` and `tryFinally`, which read as in Python: what the cleanup
raises takes the place of what the body did.

Some calls open a resource and some close one. `Released` says that whatever a list of calls opens
is closed later in it, and `openFrom` computes what is still open. `exec` runs a program on the
resources that are open and has one equation for each construct, by which what a program leaves
open is computed without its list of calls. `Ensures` says which calls a program that returns has
made without an exception, with one rule for each construct.
-/

namespace ExternalCalls

variable {κ ε ν α β ρ : Type}

/-- A call that was made, and whether it raised. -/
structure Event (κ : Type) where
  call : κ
  raised : Bool
  deriving DecidableEq, Repr

/-- Whether an answer is an exception. -/
def raises : Except ε ν → Bool
  | .ok _ => false
  | .error _ => true

@[simp] theorem raises_ok (v : ν) : raises (.ok v : Except ε ν) = false := rfl

@[simp] theorem raises_error (e : ε) : raises (.error e : Except ε ν) = true := rfl

/-- What a program did: the calls it made, in order, and how it ended. -/
structure Run (κ ε α : Type) where
  events : List (Event κ)
  outcome : Except ε α

/-- A program: what it does, given the environment's answer to each call. -/
def Program (κ ε ν α : Type) := (κ → Except ε ν) → Run κ ε α

namespace Program

/-- The first program, and on its value the second. -/
def bind (x : Program κ ε ν α) (f : α → Program κ ε ν β) : Program κ ε ν β := fun env =>
  match (x env).outcome with
  | .ok a => ⟨(x env).events ++ (f a env).events, (f a env).outcome⟩
  | .error e => ⟨(x env).events, .error e⟩

instance : Monad (Program κ ε ν) where
  pure a := fun _ => ⟨[], .ok a⟩
  bind := bind

/-- `raise e`. -/
def throw (e : ε) : Program κ ε ν α := fun _ => ⟨[], .error e⟩

/-- A call. -/
def call (k : κ) : Program κ ε ν ν := fun env => ⟨[⟨k, raises (env k)⟩], env k⟩

/-- A call whose value is not used. -/
def perform (k : κ) : Program κ ε ν Unit := do
  let _ ← call k

/-- What a function without external calls gives or raises. -/
def ofExcept (x : Except ε α) : Program κ ε ν α := fun _ => ⟨[], x⟩

/-- `if not condition: raise e`. -/
def require (condition : Bool) (e : ε) : Program κ ε ν Unit :=
  if condition then pure () else throw e

/-- `if condition: body`. -/
def onlyIf (condition : Bool) (body : Program κ ε ν Unit) : Program κ ε ν Unit :=
  if condition then body else pure ()

@[simp] theorem onlyIf_true (body : Program κ ε ν Unit) : onlyIf true body = body := rfl

@[simp] theorem onlyIf_false (body : Program κ ε ν Unit) : onlyIf false body = pure () := rfl

/-- `try: body except …`: the handler gives, for an exception that it catches, what to do. -/
def tryExcept (body : Program κ ε ν α) (handler : ε → Option (Program κ ε ν α)) :
    Program κ ε ν α := fun env =>
  match (body env).outcome with
  | .ok _ => body env
  | .error e =>
    match handler e with
    | some p => ⟨(body env).events ++ (p env).events, (p env).outcome⟩
    | none => body env

/-- `try: body finally: cleanup`. -/
def tryFinally (body : Program κ ε ν α) (cleanup : Program κ ε ν Unit) : Program κ ε ν α :=
  fun env =>
    match (cleanup env).outcome with
    | .ok _ => ⟨(body env).events ++ (cleanup env).events, (body env).outcome⟩
    | .error e => ⟨(body env).events ++ (cleanup env).events, .error e⟩

/-- `with contextlib.suppress(…): body`. -/
def suppress (catches : ε → Bool) (body : Program κ ε ν Unit) : Program κ ε ν Unit :=
  tryExcept body fun e => if catches e then some (pure ()) else none

/-- How a program ends, as its value. -/
def attempt (body : Program κ ε ν α) : Program κ ε ν (Except ε α) := fun env =>
  ⟨(body env).events, .ok (body env).outcome⟩

/-- What follows acquiring a client, by how that ended. -/
def afterAcquire (use : Program κ ε ν α) (handler : ε → Option (Program κ ε ν α))
    (release : Program κ ε ν Unit) : Except ε (Option α) → Program κ ε ν α
  | .error e => (handler e).getD (throw e)
  | .ok (some a) => pure a
  | .ok none => tryFinally (tryExcept use handler) release

/-- `client = None; try: acquire; use except …: finally: if client is not None: release`, where
`acquire` ends with the client assigned (`none`) or returns at once. -/
def tryWith (acquire : Program κ ε ν (Option α)) (use : Program κ ε ν α)
    (handler : ε → Option (Program κ ε ν α)) (release : Program κ ε ν Unit) :
    Program κ ε ν α :=
  attempt acquire >>= afterAcquire use handler release

end Program

/-! ## Resources -/

/-- The resources that a call opens and closes, by how it ended. -/
structure Handles (κ ρ : Type) where
  opens : Event κ → List ρ
  closes : Event κ → List ρ

/-- Whatever the calls open, a later one closes. -/
def Released (handles : Handles κ ρ) (events : List (Event κ)) : Prop :=
  ∀ before event after, events = before ++ event :: after → ∀ r ∈ handles.opens event,
    ∃ later ∈ after, r ∈ handles.closes later

/-- Goes on after a program that returned. -/
def onOk (r : List ρ × Except ε α) (f : List ρ → α → List ρ × Except ε β) :
    List ρ × Except ε β :=
  match r.2 with
  | .ok a => f r.1 a
  | .error e => (r.1, .error e)

/-- Goes on after a program that raised. -/
def onError (r : List ρ × Except ε α) (f : List ρ → ε → List ρ × Except ε α) :
    List ρ × Except ε α :=
  match r.2 with
  | .ok _ => r
  | .error e => f r.1 e

@[simp] theorem onOk_ok (s : List ρ) (a : α) (f : List ρ → α → List ρ × Except ε β) :
    onOk (s, .ok a) f = f s a := rfl

@[simp] theorem onOk_error (s : List ρ) (e : ε) (f : List ρ → α → List ρ × Except ε β) :
    onOk (s, .error e) f = (s, .error e) := rfl

@[simp] theorem onError_ok (s : List ρ) (a : α) (f : List ρ → ε → List ρ × Except ε α) :
    onError (s, .ok a) f = (s, .ok a) := rfl

@[simp] theorem onError_error (s : List ρ) (e : ε) (f : List ρ → ε → List ρ × Except ε α) :
    onError (s, .error e) f = f s e := rfl

section

variable [DecidableEq ρ] (handles : Handles κ ρ)

/-- What is open after a call. -/
def Handles.step (held : List ρ) (event : Event κ) : List ρ :=
  held.filter (fun r => !(handles.closes event).contains r) ++ handles.opens event

/-- What is open after some calls. -/
def openFrom (held : List ρ) (events : List (Event κ)) : List ρ :=
  events.foldl handles.step held

@[simp] theorem openFrom_nil (held : List ρ) : openFrom handles held [] = held := rfl

@[simp] theorem openFrom_append (held : List ρ) (first second : List (Event κ)) :
    openFrom handles held (first ++ second) = openFrom handles (openFrom handles held first) second :=
  List.foldl_append

/-- A resource is open after some calls when it was open before and none closes it, or one of them
opens it and none after that closes it. -/
theorem mem_openFrom {held : List ρ} {events : List (Event κ)} {r : ρ} :
    r ∈ openFrom handles held events ↔
      (r ∈ held ∧ ∀ event ∈ events, r ∉ handles.closes event) ∨
      ∃ before event after, events = before ++ event :: after ∧ r ∈ handles.opens event ∧
        ∀ later ∈ after, r ∉ handles.closes later := by
  induction events generalizing held with
  | nil => simp
  | cons event events ih =>
    have hstep : r ∈ handles.step held event ↔
        (r ∈ held ∧ r ∉ handles.closes event) ∨ r ∈ handles.opens event := by
      simp [Handles.step]
    show r ∈ openFrom handles (handles.step held event) events ↔ _
    rw [ih, hstep]
    constructor
    · rintro (⟨h | h, hlater⟩ | ⟨before, e, after, rfl, h⟩)
      · exact .inl ⟨h.1, List.forall_mem_cons.mpr ⟨h.2, hlater⟩⟩
      · exact .inr ⟨[], event, events, rfl, h, hlater⟩
      · exact .inr ⟨event :: before, e, after, rfl, h⟩
    · rintro (⟨h, hlater⟩ | ⟨before, e, after, heq, h⟩)
      · obtain ⟨he, hes⟩ := List.forall_mem_cons.mp hlater
        exact .inl ⟨.inl ⟨h, he⟩, hes⟩
      · cases before with
        | nil =>
          obtain ⟨rfl, rfl⟩ := List.cons.inj heq
          exact .inl ⟨.inr h.1, h.2⟩
        | cons b before =>
          obtain ⟨rfl, rfl⟩ := List.cons.inj heq
          exact .inr ⟨before, e, after, rfl, h⟩

/-- The calls release what they open exactly when nothing is open after them. -/
theorem released_iff {events : List (Event κ)} :
    Released handles events ↔ openFrom handles [] events = [] := by
  rw [List.eq_nil_iff_forall_not_mem]
  constructor
  · intro h r hr
    rcases (mem_openFrom handles).mp hr with ⟨hnil, -⟩ | ⟨before, e, after, heq, ho, hc⟩
    · exact absurd hnil List.not_mem_nil
    · obtain ⟨later, hl, hr⟩ := h before e after heq r ho
      exact hc later hl hr
  · intro h before e after heq r ho
    by_contra hnone
    refine h r ((mem_openFrom handles).mpr (.inr ⟨before, e, after, heq, ho, ?_⟩))
    intro later hl hr
    exact hnone ⟨later, hl, hr⟩

/-! ## Running a program on what is open -/

variable (env : κ → Except ε ν)

/-- What is open after a program, and how it ended. -/
def exec (p : Program κ ε ν α) (held : List ρ) : List ρ × Except ε α :=
  (openFrom handles held (p env).events, (p env).outcome)

@[simp] theorem exec_pure (a : α) (held : List ρ) :
    exec handles env (pure a) held = (held, .ok a) := rfl

@[simp] theorem exec_throw (e : ε) (held : List ρ) :
    exec handles env (Program.throw e : Program κ ε ν α) held = (held, .error e) := rfl

@[simp] theorem exec_call (k : κ) (held : List ρ) :
    exec handles env (Program.call k) held =
      (handles.step held ⟨k, raises (env k)⟩, env k) := rfl

@[simp] theorem exec_ofExcept (x : Except ε α) (held : List ρ) :
    exec handles env (Program.ofExcept x) held = (held, x) := rfl

@[simp] theorem exec_attempt (body : Program κ ε ν α) (held : List ρ) :
    exec handles env (Program.attempt body) held =
      ((exec handles env body held).1, .ok (exec handles env body held).2) := rfl

@[simp] theorem exec_bind (x : Program κ ε ν α) (f : α → Program κ ε ν β) (held : List ρ) :
    exec handles env (x >>= f) held =
      onOk (exec handles env x held) fun s a => exec handles env (f a) s := by
  show exec handles env (Program.bind x f) held = _
  unfold exec Program.bind onOk
  cases (x env).outcome with
  | ok a => simp
  | error e => rfl

@[simp] theorem exec_perform (k : κ) (held : List ρ) :
    exec handles env (Program.perform k) held =
      onOk (handles.step held ⟨k, raises (env k)⟩, env k) fun s _ => (s, .ok ()) :=
  exec_bind handles env _ _ held

@[simp] theorem exec_require (condition : Bool) (e : ε) (held : List ρ) :
    exec handles env (Program.require condition e) held =
      (held, if condition then .ok () else .error e) := by
  cases condition <;> rfl

@[simp] theorem exec_tryExcept (body : Program κ ε ν α)
    (handler : ε → Option (Program κ ε ν α)) (held : List ρ) :
    exec handles env (Program.tryExcept body handler) held =
      onError (exec handles env body held) fun s e =>
        (handler e).elim (s, .error e) fun p => exec handles env p s := by
  unfold exec Program.tryExcept onError
  cases hbody : (body env).outcome with
  | ok a => simp [hbody]
  | error e => cases hhandler : handler e <;> simp [hbody, hhandler]

@[simp] theorem exec_tryFinally (body : Program κ ε ν α) (cleanup : Program κ ε ν Unit)
    (held : List ρ) :
    exec handles env (Program.tryFinally body cleanup) held =
      onOk (exec handles env cleanup (exec handles env body held).1) fun s _ =>
        (s, (exec handles env body held).2) := by
  unfold exec Program.tryFinally onOk
  cases (cleanup env).outcome <;> simp

/-- Handlers that only return leave open what the body does. -/
theorem exec_tryExcept_fst {body : Program κ ε ν α} {handler : ε → Option (Program κ ε ν α)}
    (hpure : ∀ e p, handler e = some p → ∃ a, p = pure a) (held : List ρ) :
    (exec handles env (Program.tryExcept body handler) held).1 = (exec handles env body held).1 := by
  rw [exec_tryExcept]
  obtain ⟨s, outcome⟩ := exec handles env body held
  cases outcome with
  | ok a => rfl
  | error e =>
    cases hhandler : handler e with
    | none => simp [hhandler]
    | some p =>
      obtain ⟨a, rfl⟩ := hpure e p hhandler
      simp [hhandler]

/-- After a cleanup is open what it leaves open of what the body does. -/
theorem exec_tryFinally_fst (body : Program κ ε ν α) (cleanup : Program κ ε ν Unit)
    (held : List ρ) :
    (exec handles env (Program.tryFinally body cleanup) held).1 =
      (exec handles env cleanup (exec handles env body held).1).1 := by
  rw [exec_tryFinally]
  obtain ⟨s, outcome⟩ := exec handles env cleanup (exec handles env body held).1
  cases outcome <;> rfl

/-- A client that was not acquired, because of an exception, is not released. -/
theorem exec_tryWith_error {acquire : Program κ ε ν (Option α)} {use : Program κ ε ν α}
    {handler : ε → Option (Program κ ε ν α)} {release : Program κ ε ν Unit} {held s : List ρ} {e : ε}
    (hpure : ∀ e p, handler e = some p → ∃ a, p = pure a)
    (h : exec handles env acquire held = (s, .error e)) :
    (exec handles env (Program.tryWith acquire use handler release) held).1 = s := by
  unfold Program.tryWith
  rw [exec_bind, exec_attempt, h, onOk_ok, Program.afterAcquire]
  cases hhandler : handler e with
  | none => simp
  | some p =>
    obtain ⟨a, rfl⟩ := hpure e p hhandler
    simp

/-- Returning at once. -/
theorem exec_tryWith_some {acquire : Program κ ε ν (Option α)} {use : Program κ ε ν α}
    {handler : ε → Option (Program κ ε ν α)} {release : Program κ ε ν Unit} {held s : List ρ} {a : α}
    (h : exec handles env acquire held = (s, .ok (some a))) :
    exec handles env (Program.tryWith acquire use handler release) held = (s, .ok a) := by
  unfold Program.tryWith
  rw [exec_bind, exec_attempt, h, onOk_ok, Program.afterAcquire, exec_pure]

/-- If no client was acquired, because of an exception or a result, none is used or released. -/
theorem exec_tryWith_fst_of_ne {acquire : Program κ ε ν (Option α)} {use : Program κ ε ν α}
    {handler : ε → Option (Program κ ε ν α)} {release : Program κ ε ν Unit} {held s : List ρ}
    {outcome : Except ε (Option α)} (hpure : ∀ e p, handler e = some p → ∃ a, p = pure a)
    (hne : outcome ≠ .ok none) (h : exec handles env acquire held = (s, outcome)) :
    (exec handles env (Program.tryWith acquire use handler release) held).1 = s := by
  cases outcome with
  | error e => exact exec_tryWith_error handles env hpure h
  | ok found =>
    cases found with
    | none => exact absurd rfl hne
    | some result => rw [exec_tryWith_some handles env h]

/-- A client that was acquired is used and released. -/
theorem exec_tryWith_none {acquire : Program κ ε ν (Option α)} {use : Program κ ε ν α}
    {handler : ε → Option (Program κ ε ν α)} {release : Program κ ε ν Unit} {held s : List ρ}
    (h : exec handles env acquire held = (s, .ok none)) :
    exec handles env (Program.tryWith acquire use handler release) held =
      exec handles env (Program.tryFinally (Program.tryExcept use handler) release) s := by
  unfold Program.tryWith
  rw [exec_bind, exec_attempt, h, onOk_ok, Program.afterAcquire]

/-- A program releases what it opens exactly when it leaves nothing open. -/
theorem released_events_iff {p : Program κ ε ν α} :
    Released handles (p env).events ↔ (exec handles env p []).1 = [] := released_iff handles

end

/-! ## What a program that returns has done -/

section

variable {env : κ → Except ε ν} {made first second : List κ} {q : α → Prop}

/-- A program that returns a value with the given property has made the given calls, and none of
them has raised. -/
def Ensures (env : κ → Except ε ν) (p : Program κ ε ν α) (q : α → Prop) (made : List κ) : Prop :=
  ∀ events a, p env = ⟨events, .ok a⟩ → q a → ∀ k ∈ made, ⟨k, false⟩ ∈ events

/-- Nothing is asked of a program. -/
theorem Ensures.nil (p : Program κ ε ν α) (q : α → Prop) : Ensures env p q [] := by
  intro events a _ _ k hk
  cases hk

/-- Fewer calls are asked for. -/
theorem Ensures.mono {p : Program κ ε ν α} (h : Ensures env p q made) (hsub : first ⊆ made) :
    Ensures env p q first :=
  fun events a hrun ha k hk => h events a hrun ha k (hsub hk)

/-- A value without the property. -/
theorem Ensures.pure {a : α} (ha : ¬ q a) : Ensures env (Pure.pure a) q made := by
  intro events b hrun hb
  obtain ⟨-, heq⟩ := Run.mk.inj hrun
  exact absurd (Except.ok.inj heq ▸ hb) ha

/-- An exception is no value. -/
theorem Ensures.throw (e : ε) : Ensures env (Program.throw e) q made := by
  intro events b hrun
  cases (Run.mk.inj hrun).2

/-- A call. -/
theorem Ensures.call (k : κ) (q : ν → Prop) : Ensures env (Program.call k) q [k] := by
  intro events v hrun _ k' hk
  obtain ⟨rfl, hv⟩ := Run.mk.inj hrun
  rw [List.mem_singleton.mp hk, hv, raises_ok]
  exact List.mem_singleton_self _

/-- A sequence has made the calls of both its parts, where what follows the values that its first
part made no calls for has made them all. -/
theorem Ensures.bindOn {x : Program κ ε ν β} {f : β → Program κ ε ν α} {r : β → Prop}
    (hx : Ensures env x r first) (hf : ∀ b, r b → Ensures env (f b) q second)
    (hnot : ∀ b, ¬ r b → Ensures env (f b) q (first ++ second)) :
    Ensures env (x >>= f) q (first ++ second) := by
  intro events a hrun ha k hk
  have hrun : Program.bind x f env = ⟨events, .ok a⟩ := hrun
  unfold Program.bind at hrun
  cases hfirst : x env with
  | mk early outcome =>
    rw [hfirst] at hrun
    cases outcome with
    | error e => cases (Run.mk.inj hrun).2
    | ok b =>
      obtain ⟨rfl, hlast⟩ := Run.mk.inj hrun
      by_cases hb : r b
      · rcases List.mem_append.mp hk with hk | hk
        · exact List.mem_append_left _ (hx early b hfirst hb k hk)
        · exact List.mem_append_right _ (hf b hb _ a (by rw [← hlast]) ha k hk)
      · exact List.mem_append_right _ (hnot b hb _ a (by rw [← hlast]) ha k hk)

/-- A sequence has made the calls of both its parts. -/
theorem Ensures.bind {x : Program κ ε ν β} {f : β → Program κ ε ν α}
    (hx : Ensures env x (fun _ => True) first) (hf : ∀ b, Ensures env (f b) q second) :
    Ensures env (x >>= f) q (first ++ second) :=
  hx.bindOn (fun b _ => hf b) fun _ hb => absurd trivial hb

/-- What follows a function without external calls follows the value that it gave. -/
theorem Ensures.ofExcept_bind {x : Except ε β} {f : β → Program κ ε ν α}
    (h : ∀ b, x = .ok b → Ensures env (f b) q made) :
    Ensures env (Program.ofExcept x >>= f) q made := by
  cases x with
  | error e =>
    intro events a hrun
    cases (Run.mk.inj hrun).2
  | ok b => exact h b rfl

/-- A call whose value is not used. -/
theorem Ensures.perform (k : κ) (q : Unit → Prop) : Ensures env (Program.perform k) q [k] :=
  (Ensures.call k _).bind fun _ => Ensures.nil _ _

/-- A step that is taken under a condition. -/
theorem Ensures.onlyIf {condition : Bool} {body : Program κ ε ν Unit} {q : Unit → Prop}
    (h : Ensures env body q made) :
    Ensures env (Program.onlyIf condition body) q (if condition then made else []) := by
  cases condition with
  | true => exact h
  | false => exact Ensures.nil _ _

/-- A cleanup comes after what its body has made. -/
theorem Ensures.tryFinally {body : Program κ ε ν α} {cleanup : Program κ ε ν Unit}
    (h : Ensures env body q made) : Ensures env (Program.tryFinally body cleanup) q made := by
  intro events a hrun ha k hk
  unfold Program.tryFinally at hrun
  cases hc : (cleanup env).outcome with
  | error e =>
    rw [hc] at hrun
    cases (Run.mk.inj hrun).2
  | ok u =>
    rw [hc] at hrun
    obtain ⟨rfl, hbody⟩ := Run.mk.inj hrun
    exact List.mem_append_left _ (h _ a (by rw [← hbody]) ha k hk)

/-- A `try` whose handlers return no value with the property. -/
theorem Ensures.tryExcept {body : Program κ ε ν α} {handler : ε → Option (Program κ ε ν α)}
    (h : Ensures env body q made) (hhandler : ∀ e p, handler e = some p → Ensures env p q made) :
    Ensures env (Program.tryExcept body handler) q made := by
  intro events a hrun ha k hk
  unfold Program.tryExcept at hrun
  cases hbody : (body env).outcome with
  | ok b =>
    simp only [hbody] at hrun
    exact h events a hrun ha k hk
  | error e =>
    cases hp : handler e with
    | none =>
      simp only [hbody, hp] at hrun
      exact h events a hrun ha k hk
    | some p =>
      simp only [hbody, hp] at hrun
      obtain ⟨rfl, hlast⟩ := Run.mk.inj hrun
      exact List.mem_append_right _ (hhandler e p hp _ a (by rw [← hlast]) ha k hk)

/-- A `try` with a client: either the client was acquired and used, or what was returned at once
has the property already. -/
theorem Ensures.tryWith {acquire : Program κ ε ν (Option α)} {use : Program κ ε ν α}
    {handler : ε → Option (Program κ ε ν α)} {release : Program κ ε ν Unit}
    (hacquire : Ensures env acquire (· = none) first)
    (hearly : Ensures env acquire (fun found => ∃ a, found = some a ∧ q a) (first ++ second))
    (huse : Ensures env use q second)
    (hhandler : ∀ e p, handler e = some p → ∀ made, Ensures env p q made) :
    Ensures env (Program.tryWith acquire use handler release) q (first ++ second) := by
  intro events a hrun ha k hk
  have hrun : (⟨(acquire env).events ++
      (Program.afterAcquire use handler release (acquire env).outcome env).events,
      (Program.afterAcquire use handler release (acquire env).outcome env).outcome⟩ : Run κ ε α) =
      ⟨events, .ok a⟩ := hrun
  obtain ⟨rfl, hlast⟩ := Run.mk.inj hrun
  cases hended : acquire env with
  | mk early outcome =>
    simp only [hended] at hlast ⊢
    cases outcome with
    | error e =>
      cases hp : handler e with
      | none =>
        have hafter : Program.afterAcquire use handler release (.error e) = Program.throw e := by
          rw [Program.afterAcquire, hp, Option.getD_none]
        rw [hafter] at hlast
        cases hlast
      | some p =>
        have hafter : Program.afterAcquire use handler release (.error e) = p := by
          rw [Program.afterAcquire, hp, Option.getD_some]
        rw [hafter] at hlast ⊢
        exact List.mem_append_right _ (hhandler e p hp _ _ a (by rw [← hlast]) ha k hk)
    | ok found =>
      cases found with
      | some b =>
        have hb : q b := Except.ok.inj hlast ▸ ha
        exact List.mem_append_left _ (hearly early (some b) hended ⟨b, rfl, hb⟩ k hk)
      | none =>
        rcases List.mem_append.mp hk with hk | hk
        · exact List.mem_append_left _ (hacquire early none hended rfl k hk)
        · have hbody : Ensures env (Program.tryFinally (Program.tryExcept use handler) release) q
              second := (huse.tryExcept fun e p hp => hhandler e p hp _).tryFinally
          exact List.mem_append_right _ (hbody _ a (by rw [← hlast]; rfl) ha k hk)

end

end ExternalCalls
