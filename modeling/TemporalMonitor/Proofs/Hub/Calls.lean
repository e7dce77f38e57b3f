import TemporalMonitor.Hub.Basic
import TemporalMonitor.Proofs.Ordered

/-!
Calls on the monitors of a hub.

A call takes a monitor out of its table and puts it back, so the tables of a hub keep their shape. If
no call fails, each monitor that is called ends up as it would by itself, whatever the order.
-/

namespace TemporalMonitor

instance : IsStrictTotalOrder Uuid (· < ·) where
  trichotomous first second notLess notGreater := by
    have same : first.bits = second.bits := BitVec.le_antisymm
      (BitVec.not_lt.mp notGreater) (BitVec.not_lt.mp notLess)
    cases first
    cases second
    exact congrArg Uuid.mk same
  irrefl id := BitVec.lt_irrefl id.bits
  trans _ _ _ := BitVec.lt_trans

/-- A monitor never changes its machine. -/
theorem Monitor.run_machine {α : Type} (monitor : Monitor) (operation : String)
    (step : Instance → Step α) : (monitor.run operation step).monitor.machine = monitor.machine := by
  unfold run
  split
  · rfl
  · rfl

theorem Monitor.state_of_usable {monitor : Monitor} (usable : monitor.isPoisoned = false) :
    monitor.state = .ok monitor.inst.state := by
  rw [state, look, usable, if_neg (by decide)]

namespace Hub

variable {α : Type} {hub : Hub}

/-- The same machines under the same identifiers, and the same routes. -/
structure Keeps (hub other : Hub) : Prop where
  ids : other.ids = hub.ids
  machines : ∀ id, (other.monitors.lookup id).map Monitor.machine =
    (hub.monitors.lookup id).map Monitor.machine
  routes : other.routes = hub.routes

theorem Keeps.refl (hub : Hub) : Keeps hub hub := ⟨rfl, fun _ => rfl, rfl⟩

theorem Keeps.trans {first second third : Hub} (early : Keeps first second)
    (late : Keeps second third) : Keeps first third where
  ids := late.ids.trans early.ids
  machines := fun id => (late.machines id).trans (early.machines id)
  routes := late.routes.trans early.routes

theorem Keeps.ascending {other : Hub} (keeps : Keeps hub other)
    (ascending : Ordered.Ascending hub.monitors) : Ordered.Ascending other.monitors := by
  have same : other.monitors.map Prod.fst = hub.monitors.map Prod.fst := keeps.ids
  rw [Ordered.Ascending, same]
  exact ascending

section Preserved

variable {holds : Hub → Prop}

/-- What each call preserves is preserved by calls in turn, whether or not one of them fails. -/
theorem callEach_preserves {operation : Monitor → TemporalMonitor.Outcome α}
    (step : ∀ {hub : Hub} (id : Uuid), holds hub → holds (hub.call id operation).hub)
    (start : holds hub) (ids : List Uuid) : holds (callEach operation hub ids).hub := by
  induction ids generalizing hub with
  | nil => exact start
  | cons id rest ih =>
      have first := step id start
      rw [callEach]
      dsimp only
      split
      · exact first
      · exact ih first

theorem callAll_preserves {operation : Monitor → TemporalMonitor.Outcome Unit}
    (step : ∀ {hub : Hub} (id : Uuid), holds hub → holds (hub.call id operation).hub)
    (start : holds hub) (fault? : State → Option ExecutionError) :
    holds (hub.callAll fault? operation).hub := by
  unfold callAll
  split
  · exact start
  · exact callEach_preserves step start hub.ids

end Preserved

variable {operation : Monitor → TemporalMonitor.Outcome α}
  (keepsMachine : ∀ monitor, (operation monitor).monitor.machine = monitor.machine)

include keepsMachine

/-- A call on one monitor puts it back where it was. -/
theorem call_keeps (ascending : Ordered.Ascending hub.monitors) (id : Uuid) :
    Keeps hub (hub.call id operation).hub := by
  unfold call monitor
  cases found : hub.monitors.lookup id with
  | none => exact .refl hub
  | some monitor =>
      have known : id ∈ hub.monitors.map Prod.fst := by
        rw [← Ordered.lookup_isSome_iff, found]
        rfl
      refine ⟨ascending.keys_insert_of_mem known _, fun other => ?_, rfl⟩
      dsimp only [commit]
      rw [Ordered.lookup_insert]
      split
      · next same => rw [same, found, Option.map_some, Option.map_some, keepsMachine]
      · rfl

theorem callEach_keeps (ascending : Ordered.Ascending hub.monitors) (ids : List Uuid) :
    Keeps hub (callEach operation hub ids).hub := by
  refine callEach_preserves (fun id kept => ?_) (.refl hub) ids
  exact kept.trans (call_keeps keepsMachine (kept.ascending ascending) id)

omit keepsMachine

/-- A call on all monitors that is refused if one of them has a fault. -/
theorem callAll_keeps {operation : Monitor → TemporalMonitor.Outcome Unit}
    (keepsMachine : ∀ monitor, (operation monitor).monitor.machine = monitor.machine)
    (ascending : Ordered.Ascending hub.monitors) (fault? : State → Option ExecutionError) :
    Keeps hub (hub.callAll fault? operation).hub := by
  refine callAll_preserves (fun id kept => ?_) (.refl hub) fault?
  exact kept.trans (call_keeps keepsMachine (kept.ascending ascending) id)

/-- If each monitor answers, then the answers are collected, and each of them is put back as it is
after the call. -/
theorem callEach_ok {ids : List Uuid} (distinct : ids.Nodup) {value : Uuid → α}
    (answers : ∀ id ∈ ids, ∃ monitor, hub.monitors.lookup id = some monitor ∧
      (operation monitor).result = .ok (value id)) :
    (callEach operation hub ids).result = .ok (ids.map value) ∧
      ∀ id, (callEach operation hub ids).hub.monitors.lookup id =
        if id ∈ ids then (hub.monitors.lookup id).map fun monitor => (operation monitor).monitor
        else hub.monitors.lookup id := by
  induction ids generalizing hub with
  | nil => exact ⟨rfl, fun id => by rw [if_neg List.not_mem_nil, callEach]⟩
  | cons first rest ih =>
      obtain ⟨fresh, others⟩ := List.nodup_cons.mp distinct
      obtain ⟨monitor, found, answer⟩ := answers first List.mem_cons_self
      have called : hub.call first operation =
          ⟨.ok (value first), hub.commit first (operation monitor)⟩ := by
        unfold call Hub.monitor
        rw [found]
        dsimp only
        rw [answer]
      have put (id : Uuid) : (hub.commit first (operation monitor)).monitors.lookup id =
          if id = first then some (operation monitor).monitor else hub.monitors.lookup id :=
        Ordered.lookup_insert ..
      -- The calls that follow are on other monitors, which are as they were.
      have remaining : ∀ id ∈ rest, ∃ monitor',
          (hub.commit first (operation monitor)).monitors.lookup id = some monitor' ∧
            (operation monitor').result = .ok (value id) := by
        intro id member
        have different : id ≠ first := fun same => fresh (same ▸ member)
        rw [put, if_neg different]
        exact answers id (List.mem_cons_of_mem _ member)
      obtain ⟨collected, after⟩ := ih others remaining
      rw [callEach, called]
      dsimp only
      rw [collected]
      refine ⟨rfl, fun id => ?_⟩
      rw [after, put]
      by_cases same : id = first
      · subst same
        rw [if_neg fresh, if_pos rfl, if_pos List.mem_cons_self, found]
        rfl
      · rw [if_neg same]
        simp only [List.mem_cons, same, false_or]

/-- If two tables have faults in the same places, then there are no complaints about them, or the
first ones are about the same place. -/
theorem complaints_together {fault? : State → Option ExecutionError}
    {related : Monitor → Monitor → Prop} {first second : List (Uuid × Monitor)}
    (usable : ∀ {one other}, related one other →
      one.isPoisoned = false ∧ other.isPoisoned = false)
    (together : ∀ {one other}, related one other →
      (fault? one.inst.state = none ↔ fault? other.inst.state = none))
    (alike : List.Forall₂ (fun one other => one.1 = other.1 ∧ related one.2 other.2) first second) :
    (complaint? fault? first = none ∧ complaint? fault? second = none ∧
        (∀ entry ∈ first, fault? entry.2.inst.state = none) ∧
        ∀ entry ∈ second, fault? entry.2.inst.state = none) ∨
      ∃ id one other oneFault otherFault, (id, one) ∈ first ∧ (id, other) ∈ second ∧
        fault? one.inst.state = some oneFault ∧ fault? other.inst.state = some otherFault ∧
        complaint? fault? first = some (.error (.execution oneFault)) ∧
        complaint? fault? second = some (.error (.execution otherFault)) := by
  induction alike with
  | nil => exact .inl ⟨rfl, rfl, by simp, by simp⟩
  | @cons one other rest others pair _ ih =>
      obtain ⟨id, one⟩ := one
      obtain ⟨same, other⟩ := other
      obtain ⟨equal, pair⟩ := pair
      obtain rfl : id = same := equal
      obtain ⟨oneUsable, otherUsable⟩ := usable pair
      simp only [complaint?, Monitor.state_of_usable oneUsable, Monitor.state_of_usable otherUsable]
      cases oneFault : fault? one.inst.state with
      | none =>
          have otherFault := (together pair).mp oneFault
          rw [otherFault]
          rcases ih with ⟨quiet, silent, sane, sound⟩ |
            ⟨id, bad, worse, one', other', badMem, worseMem, found, matched, first, second⟩
          · refine .inl ⟨quiet, silent, fun entry member => ?_, fun entry member => ?_⟩
            · rcases List.mem_cons.mp member with rfl | later
              · exact oneFault
              · exact sane entry later
            · rcases List.mem_cons.mp member with rfl | later
              · exact otherFault
              · exact sound entry later
          · exact .inr ⟨id, bad, worse, one', other', List.mem_cons_of_mem _ badMem,
              List.mem_cons_of_mem _ worseMem, found, matched, first, second⟩
      | some fault =>
          cases otherFault : fault? other.inst.state with
          | none =>
              rw [(together pair).mpr otherFault] at oneFault
              cases oneFault
          | some otherwise =>
              exact .inr ⟨id, one, other, fault, otherwise, List.mem_cons_self, List.mem_cons_self,
                oneFault, otherFault, rfl, rfl⟩

end Hub

end TemporalMonitor
