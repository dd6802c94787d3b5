import Mathlib.Algebra.BigOperators.Group.Finset.Piecewise
import Mathlib.Data.Fintype.Card
import DbConnection.Lib.ReadModifyWrite

/-!
# A limit checked by counting

Some transactions count the rows that satisfy `p`, give up when there are `limit` of them, and
insert one more otherwise (`Prog.Counts`). The others never turn a row that does not satisfy `p`
into one that does (`Prog.Keeps`). Under read committed two counters can count the same rows and
both insert. What still holds of every run is that the committed rows, and the counters that have
counted and not ended, stay within the limit together, as long as each counter that passes the
check leaves room for the counters already on their way (`RoomToCount`).
-/

namespace ReadCommitted

open Finset

variable {ι K R E α : Type} [Keyed R K]

/-- A transaction that adds no row satisfying `p`, and ends where it commits. -/
def Prog.Keeps (p : R → Bool) : Prog R E α → Prop
  | .pure _ => True
  | .throw _ => True
  | .select _ next => ∀ rows, (next rows).Keeps p
  | .insert _ _ _ => False
  | .update _ set next =>
    (∀ r r', set.apply r = .ok r' → p r' = true → p r = true) ∧ next.Keeps p
  | .commit next => next.outcome.isSome

/-- A transaction about to insert a row, and to keep the rows from then on. -/
def Prog.Inserts (p : R → Bool) : Prog R E α → Prop
  | .insert _ _ next => next.Keeps p
  | _ => False

/-- A transaction that has ended, or that counts the rows satisfying `p` and ends or, where there
are less than `limit` of them, inserts one. -/
def Prog.Counts (p : R → Bool) (limit : Int) : Prog R E α → Prop
  | .select q next => q = p ∧ ∀ rows : List R,
      (next rows).outcome.isSome ∨ (rows.length < limit ∧ (next rows).Inserts p)
  | prog => prog.outcome.isSome

/-- The transaction has read and has not ended. -/
def Tx.inFlight (t : Tx R E α) : Bool := !t.reads.isEmpty && t.prog.outcome.isNone

theorem Prog.Keeps.of_outcome {p : R → Bool} {prog : Prog R E α} (h : prog.outcome.isSome) :
    prog.Keeps p := by
  cases prog <;> simp_all [Prog.outcome, Prog.Keeps]

section Map

variable {β : Type} {p : R → Bool} {limit : Int}

/-- A result computed at the end does not change whether a program has ended. -/
theorem Prog.outcome_bind_pure (prog : Prog R E α) (f : α → β) :
    (prog.bind fun a => .pure (f a)).outcome.isSome = prog.outcome.isSome := by
  cases prog <;> rfl

/-- A result computed at the end does not change what a transaction keeps. -/
theorem Prog.Keeps.map {prog : Prog R E α} (h : prog.Keeps p) (f : α → β) :
    (prog.bind fun a => .pure (f a)).Keeps p := by
  induction prog with
  | pure a => trivial
  | throw e => trivial
  | select q next ih => exact fun rows => ih rows (h rows)
  | insert row dup next ih => exact h
  | update k set next ih => exact ⟨h.1, ih h.2⟩
  | commit next ih => exact (next.outcome_bind_pure f).trans h

/-- A result computed at the end does not change what a counter counts. -/
theorem Prog.Counts.map {prog : Prog R E α} (h : prog.Counts p limit) (f : α → β) :
    (prog.bind fun a => .pure (f a)).Counts p limit := by
  cases prog with
  | select q next =>
    refine ⟨h.1, fun rows => ?_⟩
    rcases h.2 rows with hrows | ⟨hlt, hrows⟩
    · rw [Prog.outcome_bind_pure]
      exact .inl hrows
    · refine .inr ⟨hlt, ?_⟩
      cases hn : next rows with
      | insert row dup next' =>
        rw [hn] at hrows
        simp only [hn]
        exact Prog.Keeps.map hrows f
      | _ => simp [hn, Prog.Inserts] at hrows
  | _ => exact h

end Map

/-- A read-modify-write transaction whose changes satisfy `p` only where the row did keeps the
rows. -/
theorem Rmw.keeps_prog [DecidableEq K] {p : R → Bool} (m : Rmw R E α)
    (h : ∀ row u r r', m.decide row = .ok u → u.apply r = .ok r' → p r' = true → p r = true) :
    m.prog.Keeps p := by
  intro rows
  dsimp only
  cases hd : m.decide rows.head? with
  | error e => trivial
  | ok u =>
    intro rows'
    dsimp only
    cases rows'.head? with
    | none => trivial
    | some row =>
      refine ⟨fun r r' => h _ u r r' hd, fun rows'' => ?_⟩
      dsimp only
      cases rows''.head? with
      | none => trivial
      | some r => rfl

section Gained

variable [DecidableEq K]

/-- The keys whose pending version satisfies `p` and whose committed row does not. -/
def gained (p : R → Bool) (committed pend : List R) : Finset K :=
  matching p pend \ matching p committed

/-- Publishing versions adds at most the gained keys to the matching ones. -/
theorem card_matching_overlay_le {p : R → Bool} {committed pend : List R}
    (hc : (committed.map key).Nodup) (hp : (pend.map key).Nodup) :
    (matching p (overlay committed pend)).card ≤
      (matching p committed).card + (gained p committed pend).card := by
  have hsub : matching p (overlay committed pend) ⊆
      matching p committed ∪ gained p committed pend := by
    intro k hk
    obtain ⟨r, hr, hpr⟩ := (mem_matching (nodup_overlay hc pend)).mp hk
    rw [find_overlay hp] at hr
    rw [Finset.mem_union, gained, Finset.mem_sdiff]
    by_cases hm : k ∈ matching p committed
    · exact .inl hm
    · refine .inr ⟨(mem_matching hp).mpr ?_, hm⟩
      cases hf : find k pend with
      | some r' =>
        simp only [hf, Option.some_or, Option.some.injEq] at hr
        exact ⟨r', rfl, hr ▸ hpr⟩
      | none =>
        simp only [hf, Option.none_or] at hr
        exact absurd ((mem_matching hc).mpr ⟨r, hr, hpr⟩) hm
  exact (Finset.card_le_card hsub).trans (Finset.card_union_le _ _)

/-- A version that satisfies `p` only where the row seen before did gains no key. -/
theorem gained_put_subset {p : R → Bool} {committed pend : List R} {old new : R} {k : K}
    (hc : (committed.map key).Nodup) (hp : (pend.map key).Nodup)
    (hf : find k (overlay committed pend) = some old) (hk : key new = k)
    (hpn : p new = true → p old = true) :
    gained p committed (put pend new) ⊆ gained p committed pend := by
  intro k' hk'
  rw [gained, Finset.mem_sdiff, mem_matching (nodup_put hp new)] at hk'
  obtain ⟨⟨r, hr, hpr⟩, hm⟩ := hk'
  rw [gained, Finset.mem_sdiff]
  refine ⟨(mem_matching hp).mpr ?_, hm⟩
  by_cases hkk : key new = k'
  · subst hkk
    rw [find_put_self] at hr
    obtain rfl := Option.some.inj hr
    rw [← hk, find_overlay hp] at hf
    cases hpd : find (key new) pend with
    | some r' =>
      simp only [hpd, Option.some_or, Option.some.injEq] at hf
      exact ⟨r', rfl, hf ▸ hpn hpr⟩
    | none =>
      simp only [hpd, Option.none_or] at hf
      exact absurd ((mem_matching hc).mpr ⟨old, hf, hpn hpr⟩) hm
  · rw [find_put_of_ne _ _ hkk] at hr
    exact ⟨r, hr, hpr⟩

/-- A single new version gains at most its own key. -/
theorem card_gained_singleton_le (p : R → Bool) (committed : List R) (r : R) :
    (gained p committed [r]).card ≤ 1 := by
  have hsub : gained p committed [r] ⊆ {key r} := by
    intro k hk
    rw [gained, Finset.mem_sdiff, matching, List.mem_toFinset, List.mem_map] at hk
    obtain ⟨⟨r', hr', rfl⟩, -⟩ := hk
    have : r' = r := by simpa using List.mem_of_mem_filter hr'
    simp [this]
  exact Finset.card_le_card hsub

@[simp] theorem gained_nil (p : R → Bool) (committed : List R) :
    gained p committed [] = ∅ := by
  simp [gained, matching]

/-- What a transaction gains does not depend on the rows it has no version of. -/
theorem gained_congr {p : R → Bool} {committed committed' pend : List R}
    (hc : (committed.map key).Nodup) (hc' : (committed'.map key).Nodup)
    (hf : ∀ k ∈ pend.map key, find k committed' = find k committed) :
    gained p committed' pend = gained p committed pend := by
  ext k
  simp only [gained, Finset.mem_sdiff]
  refine and_congr_right fun hk => not_congr ?_
  rw [mem_matching hc, mem_matching hc', hf k]
  simp only [matching, List.mem_toFinset, List.mem_map] at hk
  obtain ⟨r, hr, rfl⟩ := hk
  exact List.mem_map_of_mem (List.mem_of_mem_filter hr)

end Gained

section System

variable [Fintype ι] {p : R → Bool} {limit : Int} {counting : ι → Bool}

/-- How many of the counting transactions are in flight. -/
def flights (counting : ι → Bool) (tx : ι → Tx R E α) : Nat :=
  (univ.filter fun i => (counting i && (tx i).inFlight) = true).card

/-- If transaction `i` is about to count, and finds room, then there is room for the counters in
flight as well. -/
def RoomToCount (p : R → Bool) (limit : Int) (counting : ι → Bool) (σ : Sys ι R E α) (i : ι) :
    Prop :=
  counting i = true → (σ.tx i).reads = [] → (σ.tx i).prog.outcome = none →
    (σ.committed.filter p).length < limit →
      (σ.committed.filter p).length + flights counting σ.tx < limit

/-- Moving one transaction changes the number in flight by that transaction. -/
theorem flights_update [DecidableEq ι] (counting : ι → Bool) (tx : ι → Tx R E α) (i : ι)
    (t : Tx R E α) :
    flights counting (Function.update tx i t) + (counting i && (tx i).inFlight).toNat =
      flights counting tx + (counting i && t.inFlight).toNat := by
  -- The transaction's own summand is the only one that changes.
  have key : ∀ f : ι → Bool, (univ.filter fun j => f j = true).card =
      (f i).toNat + ∑ j ∈ univ.erase i, (f j).toNat := by
    intro f
    rw [Finset.card_filter, ← Finset.add_sum_erase _ _ (Finset.mem_univ i)]
    have hto : ∀ b : Bool, (if b = true then 1 else 0) = b.toNat := by decide
    simp only [hto]
  unfold flights
  rw [key, key]
  have hrest : ∑ j ∈ univ.erase i, (counting j && (Function.update tx i t j).inFlight).toNat =
      ∑ j ∈ univ.erase i, (counting j && (tx j).inFlight).toNat :=
    Finset.sum_congr rfl fun j hj => by rw [Function.update_of_ne (Finset.ne_of_mem_erase hj)]
  rw [hrest, Function.update_self]
  omega

variable [DecidableEq K]

/-- The points a transaction can be at. From its insert on, a counter gains at most one row, and
the other transactions gain none. -/
inductive CountStage (p : R → Bool) (limit : Int) (committed : List R) (counting : Bool)
    (t : Tx R E α) : Prop where
  | start (hc : counting = true) (hr : t.reads = []) (hn : t.pend = [])
      (hp : t.prog.Counts p limit)
  | counted (hc : counting = true) (hr : t.reads ≠ []) (hn : t.pend = [])
      (hp : t.prog.Inserts p)
  | keeps (hp : t.prog.Keeps p)
      (hr : counting = true → t.prog.outcome = none → t.reads ≠ [])
      (hg : t.prog.outcome = none →
        (gained p committed t.pend).card ≤ (counting && t.inFlight).toNat)

/-- In a state of a run that leaves room: where each transaction is, and that the matching rows
and the counters in flight stay within the limit together. -/
structure LimitInv (p : R → Bool) (limit : Int) (counting : ι → Bool) (σ : Sys ι R E α) :
    Prop where
  wf : WellFormed σ
  /-- Each transaction is at one of its points. -/
  stage : ∀ i, CountStage p limit σ.committed (counting i) (σ.tx i)
  /-- The rows and the counters in flight are within the limit. -/
  room : (σ.committed.filter p).length + flights counting σ.tx ≤ limit

variable [DecidableEq ι]

/-- A step that does not commit keeps the invariant, if the transaction's new point is one of its
points and the counters in flight still have room. -/
theorem LimitInv.set {σ : Sys ι R E α} {i : ι} (h : LimitInv p limit counting σ) {t : Tx R E α}
    (hw : WellFormed (σ.set i t)) (ht : CountStage p limit σ.committed (counting i) t)
    (hroom : (σ.committed.filter p).length +
      flights counting (Function.update σ.tx i t) ≤ limit) :
    LimitInv p limit counting (σ.set i t) := by
  refine ⟨hw, fun j => ?_, hroom⟩
  by_cases hj : j = i
  · subst hj
    simpa [Sys.set] using ht
  · simpa [Sys.set, hj] using h.stage j

/-- A step that brings no counter into flight leaves room. -/
theorem LimitInv.room_update {σ : Sys ι R E α} {i : ι} (h : LimitInv p limit counting σ)
    {t : Tx R E α}
    (ht : (counting i && t.inFlight).toNat ≤ (counting i && (σ.tx i).inFlight).toNat) :
    (σ.committed.filter p).length + flights counting (Function.update σ.tx i t) ≤ limit := by
  have hf := flights_update counting σ.tx i t
  have hr := h.room
  omega

/-- A transaction's point only depends on the committed rows it has versions of. -/
theorem CountStage.congr {committed committed' : List R} {counting : Bool} {t : Tx R E α}
    (h : CountStage p limit committed counting t) (hc : (committed.map key).Nodup)
    (hc' : (committed'.map key).Nodup)
    (hf : ∀ k ∈ t.pend.map key, find k committed' = find k committed) :
    CountStage p limit committed' counting t := by
  cases h with
  | start h1 h2 h3 h4 => exact .start h1 h2 h3 h4
  | counted h1 h2 h3 h4 => exact .counted h1 h2 h3 h4
  | keeps h1 h2 h3 => exact .keeps h1 h2 fun ho => (gained_congr hc hc' hf).symm ▸ h3 ho

/-- A commit keeps the invariant: what it adds to the rows, its transaction takes out of
flight. -/
theorem LimitInv.commit {σ : Sys ι R E α} {i : ι} (h : LimitInv p limit counting σ)
    {next : Prog R E α} (hp : (σ.tx i).prog = .commit next) (hn : next.outcome.isSome)
    (hg : (gained p σ.committed (σ.tx i).pend).card ≤ (counting i && (σ.tx i).inFlight).toNat) :
    LimitInv p limit counting
      ⟨overlay σ.committed (σ.tx i).pend,
        Function.update σ.tx i ⟨next, [], (σ.tx i).reads⟩, σ.log ++ [i]⟩ := by
  have hnd := nodup_overlay h.wf.committed (σ.tx i).pend
  obtain ⟨r, hr⟩ := Option.isSome_iff_exists.mp hn
  refine ⟨wellFormed_step h.wf (.commit hp), fun j => ?_, ?_⟩
  · dsimp only
    by_cases hj : j = i
    · subst hj
      rw [Function.update_self]
      exact .keeps (.of_outcome hn) (by simp [hr]) (by simp [hr])
    · rw [Function.update_of_ne hj]
      exact (h.stage j).congr h.wf.committed hnd fun k hk => h.wf.find_overlay_other hj hk
  · dsimp only
    -- The rows grow by at most what the transaction gained, and it is no longer in flight.
    have hcard := card_matching_overlay_le (p := p) h.wf.committed (h.wf.pend i)
    rw [card_matching h.wf.committed, card_matching hnd] at hcard
    have hf := flights_update counting σ.tx i ⟨next, [], (σ.tx i).reads⟩
    have ht : (counting i && (⟨next, [], (σ.tx i).reads⟩ : Tx R E α).inFlight).toNat = 0 := by
      simp [Tx.inFlight, hr]
    have hroom := h.room
    omega

/-- A counter that is about to count ends, or finds room and is in flight afterwards. -/
theorem LimitInv.step_start {σ σ' : Sys ι R E α} {i : ι} (h : LimitInv p limit counting σ)
    (hg : RoomToCount p limit counting σ i) (hs : Step σ i σ') (hc : counting i = true)
    (hr : (σ.tx i).reads = []) (hn : (σ.tx i).pend = []) (hp : (σ.tx i).prog.Counts p limit) :
    LimitInv p limit counting σ' := by
  have hw := wellFormed_step h.wf hs
  cases hprog : (σ.tx i).prog with
  | select q next =>
    rw [hprog] at hp
    obtain ⟨rfl, hnext⟩ := hp
    have e := hs.of_select hprog
    subst e
    have hrows := hnext ((overlay σ.committed (σ.tx i).pend).filter q)
    rw [hn, overlay_nil] at hrows
    rcases hrows with hrows | ⟨hlt, hrows⟩
    · -- The counter ends, as it does where there is no room.
      obtain ⟨r, hr'⟩ := Option.isSome_iff_exists.mp hrows
      refine h.set hw ?_ (h.room_update ?_)
      · simp only [hn, overlay_nil]
        exact .keeps (.of_outcome hrows) (by simp [hr']) (by simp [hr'])
      · simp [Tx.inFlight, hn, hr']
    -- It goes on, and is one more in flight, for which there is room.
    · refine h.set hw ?_ ?_
      · simp only [hn, overlay_nil]
        exact .counted hc (by simp) rfl hrows
      · have hroom := hg hc hr (by simp [hprog, Prog.outcome]) hlt
        have hf := flights_update counting σ.tx i
          ⟨next ((overlay σ.committed (σ.tx i).pend).filter q), (σ.tx i).pend,
            (σ.tx i).reads ++ [(overlay σ.committed (σ.tx i).pend).filter q]⟩
        have hle : ∀ b : Bool, b.toNat ≤ 1 := by decide
        have := hle (counting i && (⟨next ((overlay σ.committed (σ.tx i).pend).filter q),
          (σ.tx i).pend, (σ.tx i).reads ++
            [(overlay σ.committed (σ.tx i).pend).filter q]⟩ : Tx R E α).inFlight)
        omega
  | pure a =>
    obtain ⟨hn', -⟩ := hs.of_outcome (r := .ok a) (by rw [hprog]; rfl)
    exact absurd hn hn'
  | throw e =>
    obtain ⟨hn', -⟩ := hs.of_outcome (r := .error e) (by rw [hprog]; rfl)
    exact absurd hn hn'
  | insert row dup next => simp [hprog, Prog.Counts, Prog.outcome] at hp
  | update k set next => simp [hprog, Prog.Counts, Prog.outcome] at hp
  | commit next => simp [hprog, Prog.Counts, Prog.outcome] at hp

/-- A counter that found room gains at most the row it inserts. -/
theorem LimitInv.step_counted {σ σ' : Sys ι R E α} {i : ι} (h : LimitInv p limit counting σ)
    (hs : Step σ i σ') (hc : counting i = true) (hr : (σ.tx i).reads ≠ [])
    (hn : (σ.tx i).pend = []) (hp : (σ.tx i).prog.Inserts p) : LimitInv p limit counting σ' := by
  have hw := wellFormed_step h.wf hs
  cases hprog : (σ.tx i).prog with
  | insert row dup next =>
    rw [hprog] at hp
    have he : (σ.tx i).reads.isEmpty = false := by simpa using hr
    -- The counter is in flight already, and this row is what it is in flight for.
    have hfly : (counting i && (σ.tx i).inFlight).toNat = 1 := by
      simp [hc, Tx.inFlight, hr, hprog, Prog.outcome]
    obtain ⟨-, ⟨-, rfl⟩ | rfl⟩ := hs.of_insert hprog
    · refine h.set hw (.keeps hp (fun _ _ => hr) fun ho => ?_) (h.room_update ?_)
      · simp only [hn, hc, put, Tx.inFlight, he, ho]
        exact card_gained_singleton_le p _ _
      · rw [hfly]
        exact Bool.toNat_le _
    · refine h.set hw (.keeps trivial (by simp [Prog.outcome]) (by simp [Prog.outcome]))
        (h.room_update (by simp [Tx.inFlight, Prog.outcome]))
  | _ => simp [hprog, Prog.Inserts] at hp

/-- A transaction that inserts no more gains no more rows. -/
theorem LimitInv.step_keeps {σ σ' : Sys ι R E α} {i : ι} (h : LimitInv p limit counting σ)
    (hs : Step σ i σ') (hp : (σ.tx i).prog.Keeps p)
    (hr : counting i = true → (σ.tx i).prog.outcome = none → (σ.tx i).reads ≠ [])
    (hgain : (σ.tx i).prog.outcome = none →
      (gained p σ.committed (σ.tx i).pend).card ≤ (counting i && (σ.tx i).inFlight).toNat) :
    LimitInv p limit counting σ' := by
  have hw := wellFormed_step h.wf hs
  -- A counter at this point is in flight until it ends.
  have hfly : (σ.tx i).prog.outcome = none → ∀ b : Bool,
      (counting i && b).toNat ≤ (counting i && (σ.tx i).inFlight).toNat := by
    intro ho b
    cases hc : counting i with
    | false => simp
    | true =>
      have he : (σ.tx i).reads.isEmpty = false := by simpa using hr hc ho
      simp [Tx.inFlight, he, ho, Bool.toNat_le]
  cases hprog : (σ.tx i).prog with
  | pure a =>
    obtain ⟨-, rfl⟩ := hs.of_outcome (r := .ok a) (by rw [hprog]; rfl)
    exact h.set hw (.keeps hp (by simp [hprog, Prog.outcome]) (by simp [hprog, Prog.outcome]))
      (h.room_update (by simp [Tx.inFlight, hprog, Prog.outcome]))
  | throw e =>
    obtain ⟨-, rfl⟩ := hs.of_outcome (r := .error e) (by rw [hprog]; rfl)
    exact h.set hw (.keeps hp (by simp [hprog, Prog.outcome]) (by simp [hprog, Prog.outcome]))
      (h.room_update (by simp [Tx.inFlight, hprog, Prog.outcome]))
  | insert row dup next => simp [hprog, Prog.Keeps] at hp
  | commit next =>
    rw [hprog] at hp
    have e := hs.of_commit hprog
    subst e
    exact h.commit hprog hp (hgain (by rw [hprog]; rfl))
  | select q next =>
    have ho : (σ.tx i).prog.outcome = none := by rw [hprog]; rfl
    rw [hprog] at hp
    have e := hs.of_select hprog
    subst e
    refine h.set hw (.keeps (hp _) (by simp) fun ho' => (hgain ho).trans ?_)
      (h.room_update (hfly ho _))
    dsimp only at ho'
    have hread : ∀ reads : List (List R), ∀ x, (reads ++ [x]).isEmpty = false := by simp
    cases counting i <;> simp [Tx.inFlight, ho', hread, Bool.toNat_le]
  | update k set next =>
    have ho : (σ.tx i).prog.outcome = none := by rw [hprog]; rfl
    rw [hprog] at hp
    obtain ⟨hset, hnext⟩ := hp
    -- The transaction stays in flight until its program ends.
    have hstay : ∀ pend, next.outcome = none →
        (counting i && (σ.tx i).inFlight).toNat =
          (counting i && (⟨next, pend, (σ.tx i).reads⟩ : Tx R E α).inFlight).toNat := by
      intro pend ho'
      simp [Tx.inFlight, ho, ho']
    obtain ⟨-, ⟨old, new, hf, ha, rfl⟩ | ⟨e, rfl⟩ | ⟨hf, rfl⟩⟩ := hs.of_update hprog
    · have hk : key new = k := (set.key_apply _ _ ha).trans (find_eq_some hf).2
      refine h.set hw (.keeps hnext (fun hc _ => hr hc ho) fun ho' => ?_)
        (h.room_update (hfly ho _))
      rw [← hstay _ ho']
      exact (Finset.card_le_card (gained_put_subset h.wf.committed (h.wf.pend i) hf hk
        (hset old new ha))).trans (hgain ho)
    · exact h.set hw (.keeps trivial (by simp [Prog.outcome]) (by simp [Prog.outcome]))
        (h.room_update (hfly ho _))
    · refine h.set hw (.keeps hnext (fun hc _ => hr hc ho) fun ho' => ?_)
        (h.room_update (hfly ho _))
      rw [← hstay _ ho']
      exact hgain ho

/-- A step that leaves room keeps the invariant: one case per point of the stepping
transaction. -/
theorem limitInv_step {σ σ' : Sys ι R E α} {i : ι} (h : LimitInv p limit counting σ)
    (hg : RoomToCount p limit counting σ i) (hs : Step σ i σ') :
    LimitInv p limit counting σ' := by
  cases h.stage i with
  | start hc hr hn hp => exact h.step_start hg hs hc hr hn hp
  | counted hc hr hn hp => exact h.step_counted hs hc hr hn hp
  | keeps hp hr hgain => exact h.step_keeps hs hp hr hgain

omit [DecidableEq ι] in
/-- The transactions at the start: the counters are about to count, and the others keep the
rows. -/
theorem limitInv_start {committed : List R} (hkeys : (committed.map key).Nodup)
    (hlimit : (committed.filter p).length ≤ limit) {progs : ι → Prog R E α}
    (hcounts : ∀ i, counting i = true → (progs i).Counts p limit)
    (hkeeps : ∀ i, counting i = false → (progs i).Keeps p) :
    LimitInv p limit counting (Sys.start committed progs) where
  wf := wellFormed_start hkeys progs
  stage i := by
    cases hc : counting i with
    | true => exact .start rfl rfl rfl (hcounts i hc)
    | false => exact .keeps (hkeeps i hc) (by simp) (by simp [Sys.start, Tx.start])
  room := by
    have : flights counting (Sys.start committed progs).tx = 0 := by
      simp [flights, Sys.start, Tx.start, Tx.inFlight]
    rw [this]
    simpa [Sys.start] using hlimit

/-- Along every run that leaves room, the committed rows stay within the limit. -/
theorem length_le_of_reaches (counting : ι → Bool) {committed : List R}
    (hkeys : (committed.map key).Nodup)
    (hlimit : (committed.filter p).length ≤ limit) {progs : ι → Prog R E α}
    (hcounts : ∀ i, counting i = true → (progs i).Counts p limit)
    (hkeeps : ∀ i, counting i = false → (progs i).Keeps p) {σ : Sys ι R E α}
    (hr : Reaches (RoomToCount p limit counting) (Sys.start committed progs) σ) :
    (σ.committed.filter p).length ≤ limit := by
  have h := hr.invariant (fun _ _ _ hi hg hs => limitInv_step hi hg hs)
    (limitInv_start hkeys hlimit hcounts hkeeps)
  have := h.room
  omega

end System
end ReadCommitted
