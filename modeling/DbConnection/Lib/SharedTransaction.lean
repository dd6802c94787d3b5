import DbConnection.Lib.FaultInjection
import DbConnection.Lib.ReadModifyWrite

/-!
# Programs inside a transaction that has begun

A program may run in a transaction that has already written rows, beside others and before the
commit. What it does there depends on no more than what the transaction sees: it does to that what
it does to a committed table in a transaction of its own (`Prog.runIn_eq`).
-/

namespace ReadCommitted

variable {K R E α : Type} [Keyed R K] [DecidableEq K]

/-- Of two versions of a row written one after the other the second stays. -/
theorem put_put_self (rows : List R) {r r' : R} (h : key r = key r') :
    put (put rows r) r' = put rows r' := by
  induction rows with
  | nil => simp [put, h]
  | cons x xs ih =>
    by_cases hx : key x = key r
    · have hx' : key x = key r' := hx.trans h
      simp [put, h, hx']
    · have hx' : ¬ key x = key r' := fun e => hx (e.trans h.symm)
      simp [put, hx, hx', ih]

/-- Versions of different rows may be written in either order, where the second row is there. -/
theorem put_put_comm {rows : List R} {r r' : R} (hne : key r ≠ key r')
    (hmem : key r' ∈ rows.map key) : put (put rows r) r' = put (put rows r') r := by
  induction rows with
  | nil => simp at hmem
  | cons x xs ih =>
    by_cases hx : key x = key r'
    · have hr' : ¬ key r' = key r := fun e => hne e.symm
      simp [put, hx, hr']
    · have hmem' : key r' ∈ xs.map key := by
        rcases List.mem_cons.mp hmem with h | h
        · exact absurd h.symm hx
        · exact h
      by_cases hxr : key x = key r
      · simp [put, hxr, hne]
      · simp [put, hx, hxr, ih hmem']

/-- A version of a row that the transaction has not written may be written below its own. -/
theorem put_overlay {pend : List R} {committed : List R} {r : R} (hp : key r ∉ pend.map key)
    (hmem : key r ∈ committed.map key) :
    put (overlay committed pend) r = overlay (put committed r) pend := by
  induction pend generalizing committed with
  | nil => rfl
  | cons x pend ih =>
    simp only [List.map_cons, List.mem_cons, not_or] at hp
    have hmem' : key r ∈ (put committed x).map key := mem_keys_put.mpr (.inr hmem)
    calc put (overlay committed (x :: pend)) r = put (overlay (put committed x) pend) r := rfl
      _ = overlay (put (put committed x) r) pend := ih hp.2 hmem'
      _ = overlay (put (put committed r) x) pend := by
          rw [put_put_comm (fun e => hp.1 e.symm) hmem]
      _ = overlay (put committed r) (x :: pend) := rfl

/-- What a transaction sees after it writes a version of a row. -/
theorem overlay_put {pend : List R} (h : (pend.map key).Nodup) (committed : List R) (r : R) :
    overlay committed (put pend r) = put (overlay committed pend) r := by
  induction pend generalizing committed with
  | nil => rfl
  | cons x pend ih =>
    simp only [List.map_cons, List.nodup_cons] at h
    by_cases hx : key x = key r
    · have hr : key r ∉ pend.map key := hx ▸ h.1
      have hmem : key r ∈ (put committed x).map key := mem_keys_put.mpr (.inl hx.symm)
      -- The new version stands in the place of the one it replaces.
      calc overlay committed (put (x :: pend) r) = overlay (put committed r) pend := by
            simp [put, hx, overlay]
        _ = overlay (put (put committed x) r) pend := by rw [put_put_self committed hx]
        _ = put (overlay (put committed x) pend) r := (put_overlay hr hmem).symm
        _ = put (overlay committed (x :: pend)) r := rfl
    · calc overlay committed (put (x :: pend) r) = overlay (put committed x) (put pend r) := by
            simp [put, hx, overlay]
        _ = put (overlay (put committed x) pend) r := ih h.2 _
        _ = put (overlay committed (x :: pend)) r := rfl

namespace Prog

/-- Runs a program in a transaction that has written `pend`. Gives its result and what the
transaction sees after it. -/
def runIn (p : Prog R E α) (committed pend : List R) : Except E α × List R :=
  let (result, committed', pend') := p.exec committed pend
  (result, overlay committed' pend')

/-- A program that does not commit does the same in two transactions that see the same. -/
theorem runIn_congr {p : Prog R E α} (h : p.Ends false) {c₁ c₂ p₁ p₂ : List R}
    (hn₁ : (p₁.map key).Nodup) (hn₂ : (p₂.map key).Nodup)
    (hsees : overlay c₁ p₁ = overlay c₂ p₂) : p.runIn c₁ p₁ = p.runIn c₂ p₂ := by
  induction p generalizing p₁ p₂ with
  | pure a => simp [runIn, exec, hsees]
  | throw e => simp [runIn, exec, hsees]
  | select q next ih =>
    have hnext := ih ((overlay c₂ p₂).filter q) (h _) hn₁ hn₂ hsees
    simpa only [runIn, exec, hsees] using hnext
  | insert row dup next ih =>
    cases hf : find (key row) (overlay c₂ p₂) with
    | some found => simp only [runIn, exec, hsees, hf]
    | none =>
      have hput : overlay c₁ (put p₁ row) = overlay c₂ (put p₂ row) := by
        rw [overlay_put hn₁, overlay_put hn₂, hsees]
      have hnext := ih h (nodup_put hn₁ row) (nodup_put hn₂ row) hput
      simpa only [runIn, exec, hsees, hf] using hnext
  | update k set next ih =>
    cases hf : find k (overlay c₂ p₂) with
    | none =>
      have hnext := ih h hn₁ hn₂ hsees
      simpa only [runIn, exec, hsees, hf] using hnext
    | some row =>
      cases ha : set.apply row with
      | error e => simp only [runIn, exec, hsees, hf, ha]
      | ok row' =>
        have hput : overlay c₁ (put p₁ row') = overlay c₂ (put p₂ row') := by
          rw [overlay_put hn₁, overlay_put hn₂, hsees]
        have hnext := ih h (nodup_put hn₁ row') (nodup_put hn₂ row') hput
        simpa only [runIn, exec, hsees, hf, ha] using hnext
  | commit next ih => cases h.1

/-- A program that does not commit does to what its transaction sees what it does to a table. -/
theorem runIn_eq {p : Prog R E α} (h : p.Ends false) (committed : List R) {pend : List R}
    (hn : (pend.map key).Nodup) :
    p.runIn committed pend = p.runIn (overlay committed pend) [] :=
  runIn_congr h hn List.nodup_nil rfl

/-- The program only reads. -/
def Reads : Prog R E α → Prop
  | .pure _ => True
  | .throw _ => True
  | .select _ next => ∀ rows, (next rows).Reads
  | _ => False

/-- A program that only reads leaves the rows as they are. -/
theorem Reads.exec_snd {p : Prog R E α} (h : p.Reads) (committed pend : List R) :
    (p.exec committed pend).2 = (committed, pend) := by
  induction p with
  | pure a => rfl
  | throw e => rfl
  | select q next ih => exact ih _ (h _)
  | insert row dup next ih => exact h.elim
  | update k set next ih => exact h.elim
  | commit next ih => exact h.elim

/-- In a transaction that has written nothing it does what it does alone. -/
theorem Reads.runIn_eq_run {p : Prog R E α} (h : p.Reads) (committed : List R) :
    p.runIn committed [] = p.run committed := by
  have hrows := h.exec_snd committed []
  unfold runIn run
  rcases he : p.exec committed [] with ⟨result, committed', pend'⟩
  rw [he] at hrows
  cases hrows
  rfl

end Prog

namespace Rmw

/-- Checks that the row is there, updates it and reads it back, without the commit. -/
def checkIn (m : Rmw R E α) (u : ColumnUpdate R E) : Prog R E α :=
  .select (byKey m.row) fun rows =>
    match rows.head? with
    | none => .throw m.gone
    | some _ => .update m.row u (.select (byKey m.row) fun rows =>
      match rows.head? with
      | none => .throw m.lost
      | some r => .pure (m.out r))

/-- A read-modify-write transaction without its commit. -/
def body (m : Rmw R E α) : Prog R E α :=
  .select (byKey m.row) fun rows =>
    match m.decide rows.head? with
    | .error e => .throw e
    | .ok u => m.checkIn u

/-- In a transaction that has written nothing it does what the whole transaction does alone. -/
theorem runIn_body (m : Rmw R E α) (committed : List R) :
    m.body.runIn committed [] = m.prog.run committed := by
  have hrow : ∀ rows : List R, (rows.filter (byKey m.row)).head? = find m.row rows :=
    fun rows => head?_filter_key rows m.row
  rw [run_prog]
  unfold Prog.runIn body
  simp only [Prog.exec, overlay_nil, hrow]
  cases hd : m.decide (find m.row committed) with
  | error e => rfl
  | ok u =>
    simp only [checkIn, Prog.exec, overlay_nil, hrow]
    cases hc : find m.row committed with
    | none => rfl
    | some c =>
      simp only [Prog.exec, overlay_nil, hc]
      cases ha : u.apply c with
      | error e => rfl
      | ok c' =>
        have hk : key c' = m.row := by
          rw [u.key_apply _ _ ha]
          exact (find_eq_some hc).2
        have hself : find m.row (overlay committed (put [] c')) = some c' := by
          rw [← hk]
          exact find_put_self committed c'
        simp only [Prog.exec, hrow, hself]
        rfl

end Rmw
end ReadCommitted
