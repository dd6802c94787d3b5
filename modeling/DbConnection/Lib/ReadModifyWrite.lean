import DbConnection.Lib.Interleaving

/-!
# Read-modify-write transactions

`Rmw` is a transaction that reads one row, decides from what it read how to change it, checks
that the row is there, updates it by its key alone, reads it back and commits. Under read
committed the row may change between the read and the update, so its runs need not be
serializable. They are when every update finds a row for which the transaction would have decided
the same change (`Fresh`): then the committed table and the results are those of running the
transactions one after another in the order of their commits (`serialInv_of_reaches`).
-/

namespace ReadCommitted

variable {ι K R E α : Type} [Keyed R K] [DecidableEq K]

/-- The predicate of a SELECT by primary key. -/
def byKey (k : K) (r : R) : Bool := decide (key r = k)

/-- A transaction that reads the row `row`, changes it and reads it back. -/
structure Rmw (R E : Type) {K : Type} [Keyed R K] (α : Type) where
  row : K
  /-- The change for the row that was read, or the error that ends the transaction. -/
  decide : Option R → Except E (ColumnUpdate R E)
  /-- The error where the row is gone before the update. -/
  gone : E
  /-- The error where the row is gone after the update. -/
  lost : E
  /-- The result, from the row read back. -/
  out : R → α

namespace Rmw

/-- Reads the row back and commits. -/
def readBack (m : Rmw R E α) : Prog R E α :=
  .select (byKey m.row) fun rows =>
    match rows.head? with
    | none => .throw m.lost
    | some r => .commit (.pure (m.out r))

/-- Updates the row, and goes on with `readBack`. -/
def write (m : Rmw R E α) (u : ColumnUpdate R E) : Prog R E α := .update m.row u m.readBack

/-- Checks that the row is there, and goes on with `write`. -/
def check (m : Rmw R E α) (u : ColumnUpdate R E) : Prog R E α :=
  .select (byKey m.row) fun rows =>
    match rows.head? with
    | none => .throw m.gone
    | some _ => m.write u

/-- The whole transaction. -/
def prog (m : Rmw R E α) : Prog R E α :=
  .select (byKey m.row) fun rows =>
    match m.decide rows.head? with
    | .error e => .throw e
    | .ok u => m.check u

/-- Run alone, the transaction decides on the row, and writes and returns the changed row. -/
theorem run_prog (m : Rmw R E α) (committed : List R) :
    m.prog.run committed =
      match m.decide (find m.row committed) with
      | .error e => (.error e, committed)
      | .ok u =>
        match find m.row committed with
        | none => (.error m.gone, committed)
        | some c =>
          match u.apply c with
          | .error e => (.error e, committed)
          | .ok c' => (.ok (m.out c'), put committed c') := by
  have hrow : ∀ rows : List R, (rows.filter (byKey m.row)).head? = find m.row rows :=
    fun rows => head?_filter_key rows m.row
  unfold Prog.run prog
  simp only [Prog.exec, overlay_nil, hrow]
  cases hd : m.decide (find m.row committed) with
  | error e => rfl
  | ok u =>
    simp only [check, Prog.exec, overlay_nil, hrow]
    cases hc : find m.row committed with
    | none => rfl
    | some c =>
      simp only [write, Prog.exec, overlay_nil, hc]
      cases ha : u.apply c with
      | error e => rfl
      | ok c' =>
        -- The row read back is the one just written.
        have hk : key c' = m.row := by
          rw [u.key_apply _ _ ha]
          exact (find_eq_some hc).2
        have hself : find m.row (overlay committed (put [] c')) = some c' := by
          rw [← hk]
          exact find_put_self committed c'
        simp only [readBack, Prog.exec, hrow, hself]
        rfl

/-- Run alone over a table whose row it changes, the transaction writes the changed row. -/
theorem run_prog_of_apply (m : Rmw R E α) {committed : List R} {c c' : R} {u : ColumnUpdate R E}
    (hc : find m.row committed = some c) (hd : m.decide (some c) = .ok u)
    (ha : u.apply c = .ok c') :
    m.prog.run committed = (.ok (m.out c'), put committed c') := by
  rw [run_prog, hc, hd]
  dsimp only
  rw [ha]

end Rmw

/-- Runs transactions alone, one after another. -/
def serialRun : List (Prog R E α) → List R → List (Except E α) × List R
  | [], committed => ([], committed)
  | p :: ps, committed =>
    let (result, committed') := p.run committed
    let (results, committed'') := serialRun ps committed'
    (result :: results, committed'')

/-- The last of the transactions runs over what the others left. -/
theorem serialRun_append_singleton (ps : List (Prog R E α)) (p : Prog R E α)
    (committed : List R) :
    serialRun (ps ++ [p]) committed =
      ((serialRun ps committed).1 ++ [(p.run (serialRun ps committed).2).1],
        (p.run (serialRun ps committed).2).2) := by
  induction ps generalizing committed with
  | nil => rfl
  | cons q ps ih => simp [serialRun, ih]

/-- The points a read-modify-write transaction can be at, over the committed rows: its program,
the versions it holds and what it read. From its update on it holds the version it would have
written running alone over the row committed now. -/
inductive Rmw.Phase (m : Rmw R E α) (committed : List R) (t : Tx R E α) : Prop where
  | start (hp : t.prog = m.prog) (hn : t.pend = []) (hr : t.reads = [])
  | read {u rows} (hp : t.prog = m.check u) (hn : t.pend = []) (hr : t.reads = [rows])
      (hd : m.decide rows.head? = .ok u)
  | checked {u rows rows'} (hp : t.prog = m.write u) (hn : t.pend = [])
      (hr : t.reads = [rows, rows']) (hd : m.decide rows.head? = .ok u)
  | written {c u c'} (hp : t.prog = m.readBack) (hn : t.pend = [c'])
      (hc : find m.row committed = some c) (hd : m.decide (some c) = .ok u)
      (ha : u.apply c = .ok c')
  | readAgain {c u c'} (hp : t.prog = .commit (.pure (m.out c'))) (hn : t.pend = [c'])
      (hc : find m.row committed = some c) (hd : m.decide (some c) = .ok u)
      (ha : u.apply c = .ok c')
  | done {a} (hp : t.prog = .pure a) (hn : t.pend = [])
  | failed {e} (hp : t.prog = .throw e)

/-- The update that transaction `i` is about to run meets a row, and one for which the transaction
decides the same change. -/
def Fresh (m : ι → Rmw R E α) (σ : Sys ι R E α) (i : ι) : Prop :=
  ∀ u, (σ.tx i).prog = (m i).write u →
    ∃ c u', find (m i).row σ.committed = some c ∧ (m i).decide (some c) = .ok u' ∧
      u'.apply c = u.apply c

/-- In a state of fresh updates over `init`: where each transaction is, which ones committed, and
that running those alone in the order of their commits gives their results and the table. -/
structure SerialInv (m : ι → Rmw R E α) (init : List R) (σ : Sys ι R E α) : Prop where
  wf : WellFormed σ
  /-- Each transaction is at one of its points. -/
  phase : ∀ i, (m i).Phase σ.committed (σ.tx i)
  /-- The transactions that returned are those that committed. -/
  logged : ∀ i, i ∈ σ.log ↔ ∃ a, (σ.tx i).prog = .pure a
  /-- A transaction commits once. -/
  nodup : σ.log.Nodup
  /-- The serial run of the committed transactions. -/
  serial : ∃ results,
    serialRun (σ.log.map fun i => (m i).prog) init = (results, σ.committed) ∧
      σ.log.map (fun i => (σ.tx i).prog.outcome) = results.map some

section Run

variable {m : ι → Rmw R E α} {init : List R}

/-- The invariant at the start. -/
theorem serialInv_start (h : (init.map key).Nodup) :
    SerialInv m init (Sys.start init fun i => (m i).prog) where
  wf := wellFormed_start h _
  phase i := .start rfl rfl rfl
  logged i := by simp [Sys.start, Tx.start, Rmw.prog]
  nodup := List.nodup_nil
  serial := ⟨[], rfl, rfl⟩

/-- A transaction's point only depends on the committed row it holds a version of. -/
theorem Rmw.Phase.of_find_eq {m : Rmw R E α} {committed committed' : List R} {t : Tx R E α}
    (h : m.Phase committed t)
    (hf : m.row ∈ t.pend.map key → find m.row committed' = find m.row committed) :
    m.Phase committed' t := by
  cases h with
  | start hp hn hr => exact .start hp hn hr
  | read hp hn hr hd => exact .read hp hn hr hd
  | checked hp hn hr hd => exact .checked hp hn hr hd
  | @written c u c' hp hn hc hd ha =>
    have hk : key c' = m.row := (u.key_apply _ _ ha).trans (find_eq_some hc).2
    exact .written hp hn ((hf (by simp [hn, hk])).trans hc) hd ha
  | @readAgain c u c' hp hn hc hd ha =>
    have hk : key c' = m.row := (u.key_apply _ _ ha).trans (find_eq_some hc).2
    exact .readAgain hp hn ((hf (by simp [hn, hk])).trans hc) hd ha
  | done hp hn => exact .done hp hn
  | failed hp => exact .failed hp

variable [DecidableEq ι]

/-- A step that does not commit, to a point whose transaction has not returned, keeps the
invariant. -/
theorem SerialInv.set {σ : Sys ι R E α} {i : ι} (h : SerialInv m init σ) {t : Tx R E α}
    (hw : WellFormed (σ.set i t)) (ht : (m i).Phase σ.committed t)
    (hr : ∀ a, (σ.tx i).prog ≠ .pure a) (hr' : ∀ a, t.prog ≠ .pure a) :
    SerialInv m init (σ.set i t) := by
  have hi : i ∉ σ.log := fun hi => by
    obtain ⟨a, ha⟩ := (h.logged i).mp hi
    exact hr a ha
  refine ⟨hw, fun j => ?_, fun j => ?_, h.nodup, ?_⟩
  · by_cases hj : j = i
    · subst hj
      simpa [Sys.set] using ht
    · simpa [Sys.set, hj] using h.phase j
  · by_cases hj : j = i
    · subst hj
      simp [Sys.set, hi, hr']
    · simpa [Sys.set, hj] using h.logged j
  · obtain ⟨results, hs, ho⟩ := h.serial
    refine ⟨results, hs, ?_⟩
    rw [← ho]
    refine List.map_congr_left fun j hj => ?_
    have hji : j ≠ i := fun e => hi (e ▸ hj)
    simp [Sys.set, hji]

/-- The commit of a transaction that holds the version it would have written alone adds it to the
serial run. -/
theorem SerialInv.commit {σ : Sys ι R E α} {i : ι} (h : SerialInv m init σ) {c c' : R}
    {u : ColumnUpdate R E} (hp : (σ.tx i).prog = .commit (.pure ((m i).out c')))
    (hn : (σ.tx i).pend = [c']) (hc : find (m i).row σ.committed = some c)
    (hd : (m i).decide (some c) = .ok u) (ha : u.apply c = .ok c') :
    SerialInv m init
      ⟨overlay σ.committed (σ.tx i).pend,
        Function.update σ.tx i ⟨.pure ((m i).out c'), [], (σ.tx i).reads⟩, σ.log ++ [i]⟩ := by
  -- It has not committed before, so it is new in the log.
  have hi : i ∉ σ.log := fun hi => by
    obtain ⟨a, ha⟩ := (h.logged i).mp hi
    simp [hp] at ha
  refine ⟨wellFormed_step h.wf (.commit hp), fun j => ?_, fun j => ?_, ?_, ?_⟩
  · by_cases hj : j = i
    · subst hj
      exact .done (a := (m j).out c') (by simp) (by simp)
    · simp only [Function.update_of_ne hj]
      exact (h.phase j).of_find_eq fun hk => h.wf.find_overlay_other hj hk
  · by_cases hj : j = i
    · subst hj
      simp
    · simp [hj, h.logged j]
  · rw [List.nodup_append]
    exact ⟨h.nodup, by simp, fun a ha b hb hab => hi (by simp_all)⟩
  · obtain ⟨results, hs, ho⟩ := h.serial
    refine ⟨results ++ [.ok ((m i).out c')], ?_, ?_⟩
    -- Run alone over the table that is committed now, it writes what it holds.
    · have hover : overlay σ.committed [c'] = put σ.committed c' := rfl
      rw [List.map_append, List.map_singleton, serialRun_append_singleton, hs,
        (m i).run_prog_of_apply hc hd ha, hn, hover]
    · rw [List.map_append, List.map_append, ← ho]
      congr 1
      · refine List.map_congr_left fun j hj => ?_
        have hji : j ≠ i := fun e => hi (e ▸ hj)
        simp [hji]
      · simp [Prog.outcome]

/-- A fresh step keeps the invariant: one case per point of the stepping transaction. -/
theorem serialInv_step {σ σ' : Sys ι R E α} {i : ι} (h : SerialInv m init σ)
    (hg : Fresh m σ i) (hs : Step σ i σ') : SerialInv m init σ' := by
  have hw := wellFormed_step h.wf hs
  have hrow : ∀ rows : List R, (rows.filter (byKey (m i).row)).head? = find (m i).row rows :=
    fun rows => head?_filter_key rows (m i).row
  cases h.phase i with
  -- The SELECT that decides.
  | start hp hn hr =>
    have e := hs.of_select hp
    subst e
    refine h.set hw ?_ (by simp [hp, Rmw.prog]) ?_
    · cases hd : (m i).decide ((overlay σ.committed (σ.tx i).pend).filter
          (byKey (m i).row)).head? with
      | error e => exact .failed (e := e) rfl
      | ok u => exact .read rfl hn (by simp only [hr, List.nil_append]) hd
    · intro a
      dsimp only
      split
      · simp
      · simp [Rmw.check]
  -- The SELECT that asks whether the row is there.
  | @read u rows hp hn hr hd =>
    have e := hs.of_select hp
    subst e
    refine h.set hw ?_ (by simp [hp, Rmw.check]) ?_
    · cases hh : ((overlay σ.committed (σ.tx i).pend).filter (byKey (m i).row)).head? with
      | none => exact .failed (e := (m i).gone) rfl
      | some c => exact .checked rfl hn (by simp only [hr]; rfl) hd
    · intro a
      dsimp only
      split
      · simp
      · simp [Rmw.write]
  -- The UPDATE, which meets a row for which it would have been decided too.
  | @checked u rows rows' hp hn hr hd =>
    obtain ⟨c, u', hc, hd', ha'⟩ := hg u hp
    obtain ⟨hl, ⟨c₀, c', hf, ha, rfl⟩ | ⟨e, rfl⟩ | ⟨hf, rfl⟩⟩ := hs.of_update hp
    · obtain rfl : c₀ = c := by
        rw [hn, overlay_nil, hc] at hf
        exact (Option.some.inj hf).symm
      refine h.set hw ?_ (by simp [hp, Rmw.write]) (by simp [Rmw.readBack])
      exact .written rfl (by simp only [hn]; rfl) hc hd' (ha'.trans ha)
    · exact h.set hw (.failed rfl) (by simp [hp, Rmw.write]) (by simp)
    · rw [hn, overlay_nil, hc] at hf
      cases hf
  -- The SELECT that reads the transaction's own version back.
  | @written c u c' hp hn hc hd ha =>
    have e := hs.of_select hp
    subst e
    refine h.set hw ?_ (by simp [hp, Rmw.readBack]) ?_
    · have hk : key c' = (m i).row := (u.key_apply _ _ ha).trans (find_eq_some hc).2
      have hb : find (m i).row (overlay σ.committed (σ.tx i).pend) = some c' := by
        rw [hn, ← hk]
        exact find_put_self _ _
      exact .readAgain (by simp only [hrow, hb]) hn hc hd ha
    · intro a
      dsimp only
      split <;> simp
  | @readAgain c u c' hp hn hc hd ha =>
    have e := hs.of_commit hp
    subst e
    exact h.commit hp hn hc hd ha
  | @done a hp hn =>
    obtain ⟨hn', -⟩ := hs.of_outcome (r := .ok a) (by rw [hp]; rfl)
    exact absurd hn hn'
  | @failed e hp =>
    obtain ⟨-, rfl⟩ := hs.of_outcome (r := .error e) (by rw [hp]; rfl)
    exact h.set hw (.failed hp) (by simp [hp]) (by simp [hp])

/-- Along every run whose steps are guarded so that the updates are fresh, running the committed
transactions alone in the order of their commits gives their results and the committed table. -/
theorem serialInv_of_reaches (h : (init.map key).Nodup) {guard : Sys ι R E α → ι → Prop}
    (hfresh : ∀ σ i, SerialInv m init σ → guard σ i → Fresh m σ i) {σ : Sys ι R E α}
    (hr : Reaches guard (Sys.start init fun i => (m i).prog) σ) : SerialInv m init σ := by
  refine hr.invariant (fun τ i τ' hi hg hs => ?_) (serialInv_start h)
  exact serialInv_step hi (hfresh τ i hi hg) hs

end Run

/-- Two transactions that both returned ran as one after the other, in one of the two orders. -/
theorem SerialInv.pair {m : Bool → Rmw R E α} {init : List R} {σ : Sys Bool R E α}
    (h : SerialInv m init σ) {a : Bool → α} (ha : ∀ i, (σ.tx i).prog = .pure (a i)) :
    ∃ i, serialRun [(m i).prog, (m !i).prog] init =
      ([.ok (a i), .ok (a !i)], σ.committed) := by
  have hmem : ∀ i, i ∈ σ.log := fun i => (h.logged i).mpr ⟨a i, ha i⟩
  -- Both transactions are in the log, once each.
  have hlog : ∃ i, σ.log = [i, !i] := by
    have hnd := h.nodup
    rcases hl : σ.log with _ | ⟨x, _ | ⟨y, _ | ⟨z, l⟩⟩⟩
    · exact absurd (hmem true) (by simp [hl])
    · exact absurd (hmem (!x)) (by simp [hl])
    · refine ⟨x, ?_⟩
      rw [hl] at hnd
      revert hnd
      cases x <;> cases y <;> simp
    · rw [hl] at hnd
      revert hnd
      cases x <;> cases y <;> cases z <;> simp
  obtain ⟨i, hi⟩ := hlog
  -- The serial run of the log is the run of the two.
  obtain ⟨results, hs, ho⟩ := h.serial
  refine ⟨i, ?_⟩
  rw [hi] at hs ho
  simp only [List.map_cons, List.map_nil, ha, Prog.outcome] at hs ho
  have hres : results = [.ok (a i), .ok (a !i)] := by
    apply List.map_injective_iff.mpr (Option.some_injective _)
    simpa using ho.symm
  rw [hs, hres]

end ReadCommitted
