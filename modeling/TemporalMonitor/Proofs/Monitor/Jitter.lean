import Mathlib.Data.List.Perm.Basic
import TemporalMonitor.Proofs.Machine.Table
import TemporalMonitor.Proofs.Monitor.Sequel
import TemporalMonitor.Proofs.Trace.Leniency
import TemporalMonitor.Proofs.Trace.Response

/-!
The order in which triggers are delivered does not matter.

Where behaviors read the triggers, every trigger is pooled under the time that it carries. Records with
different times are put in the same places whatever comes first, and nothing else that is seen changes
with a trigger, except that a response is owed from the first one on.
-/

namespace TemporalMonitor

/-- Of two records, the one that is earlier may as well come first. -/
theorem Record.filed_of_lt {first second : Record} (earlier : first.timestamp < second.timestamp)
    (records : List Record) :
    first.filed (second.filed records) = second.filed (first.filed records) := by
  have notLater : ¬ second.timestamp < first.timestamp := Std.not_lt.mpr (Std.le_of_lt earlier)
  induction records with
  | nil => simp only [filed, if_pos earlier, if_neg notLater]
  | cons head rest ih =>
      by_cases secondBefore : second.timestamp < head.timestamp
      · have firstBefore : first.timestamp < head.timestamp := Std.lt_trans earlier secondBefore
        simp only [filed, if_pos secondBefore, if_pos firstBefore, if_pos earlier, if_neg notLater]
      · by_cases firstBefore : first.timestamp < head.timestamp
        · simp only [filed, if_neg secondBefore, if_pos firstBefore, if_neg notLater]
        · simp only [filed, if_neg secondBefore, if_neg firstBefore, ih]

/-- Records with different times are put in the same places in either order. -/
theorem Record.filed_comm {first second : Record}
    (differ : first.timestamp ≠ second.timestamp) (records : List Record) :
    first.filed (second.filed records) = second.filed (first.filed records) := by
  rcases Std.lt_trichotomy first.timestamp second.timestamp with earlier | same | later
  · exact filed_of_lt earlier records
  · exact absurd same differ
  · exact (filed_of_lt later records).symm

namespace Pool

variable {pool : Pool} {records others : List Record}

theorem capacity_stored_all (pool : Pool) (records : List Record) :
    (records.foldl Pool.stored pool).capacity = pool.capacity := by
  induction records generalizing pool with
  | nil => rfl
  | cons record rest ih => exact ih (pool.stored record)

theorem nextArrival_stored_all (pool : Pool) (records : List Record) :
    (records.foldl Pool.stored pool).nextArrival =
      pool.nextArrival + UInt64.ofNat records.length := by
  induction records generalizing pool with
  | nil => simp
  | cons record rest ih =>
      rw [List.foldl_cons, ih, List.length_cons]
      change pool.nextArrival + 1 + _ = _
      rw [Nat.add_comm, UInt64.ofNat_add, UInt64.add_assoc]
      rfl

/-- Records that are stored one after the other are filed one after the other. -/
theorem Ordered.records_stored_all (ordered : pool.Ordered)
    (few : pool.nextArrival.toNat + records.length < UInt64.size) :
    (records.foldl Pool.stored pool).records =
      records.foldl (fun filed record => record.filed filed) pool.records := by
  induction records generalizing pool with
  | nil => rfl
  | cons record rest ih =>
      rw [List.length_cons] at few
      have room : pool.nextArrival.toNat + 1 < UInt64.size := by omega
      have next : (pool.stored record).nextArrival.toNat = pool.nextArrival.toNat + 1 := by
        change (pool.nextArrival + 1).toNat = _
        rw [UInt64.toNat_add]
        exact Nat.mod_eq_of_lt room
      rw [List.foldl_cons, List.foldl_cons, ← ordered.records_stored record]
      exact ih (ordered.stored record room) (by omega)

/-- Pools show the same after the same records with different times, in any order. -/
theorem Ordered.alike_of_perm (ordered : pool.Ordered) (same : records.Perm others)
    (distinct : (records.map Record.timestamp).Nodup)
    (few : pool.nextArrival.toNat + records.length < UInt64.size) :
    Alike 0 (records.foldl Pool.stored pool) (others.foldl Pool.stored pool) where
  capacity := by rw [capacity_stored_all, capacity_stored_all]
  records := by
    rw [ordered.records_stored_all few, ordered.records_stored_all (same.length_eq ▸ few)]
    refine same.foldl_eq' (fun first member second other filed => ?_) _
    by_cases differ : first.timestamp = second.timestamp
    · rw [List.inj_on_of_nodup_map distinct member other differ]
    · exact (Record.filed_comm differ filed).symm
  numbers := by
    rw [nextArrival_stored_all, nextArrival_stored_all, same.length_eq, UInt64.add_zero]

end Pool

/-- Whether the message of the call is an occurrence of the event. The branches on its topic are tried
in turn, up to the first one that passes. -/
def Event.attempt (event : Event) (bindings : Bindings) : Call → Except Crash Bool
  | .timer _ => .ok false
  | .message topic message _ =>
      Predicate.testAny message bindings
        ((event.branches.filter fun branch => branch.topic == topic).map Branch.predicate)

/-- The call is a trigger and does not close the episode. -/
structure Property.Raises (property : Property) (bindings : Bindings) (call : Call) : Prop where
  triggers : ∃ trigger, property.pattern.trigger? = some trigger ∧
    trigger.attempt bindings call = .ok true
  unclosed : ∀ terminator, property.scope.terminator? = some terminator →
    terminator.attempt bindings call = .ok false

/-- A trigger makes a response pending. -/
def State.triggered : State → State
  | .idle => .pending
  | state => state

theorem State.triggered_triggered (state : State) : state.triggered.triggered = state.triggered := by
  cases state <;> rfl

namespace Instance

variable {inst : Instance} {event : Event} {role : Role} {reaction : Reaction} {message : Message}
  {branches : List Branch}

section Select

variable (guard : reaction.guard = .message)

include guard

theorem guardHolds_rule (branch : Branch) :
    inst.guardHolds message (event.rule role reaction branch) =
      branch.predicate.test message inst.bindings := by
  simp only [guardHolds, Event.rule, guard]

/-- The rules of an event that does not occur are passed over. -/
theorem select_failed (rest : List Rule)
    (failed : Predicate.testAny message inst.bindings (branches.map Branch.predicate) = .ok false) :
    inst.select message (branches.map (event.rule role reaction) ++ rest) =
      inst.select message rest := by
  induction branches with
  | nil => rfl
  | cons branch others ih =>
      rw [List.map_cons, Predicate.testAny] at failed
      rw [List.map_cons, List.cons_append, select, guardHolds_rule guard]
      cases tested : branch.predicate.test message inst.bindings with
      | error crash =>
          rw [tested] at failed
          cases failed
      | ok passes =>
          rw [tested] at failed
          cases passes with
          | true => cases failed
          | false => exact ih failed

/-- If an event occurs, the rule of its first branch that passes is selected. -/
theorem select_passed (rest : List Rule)
    (passed : Predicate.testAny message inst.bindings (branches.map Branch.predicate) = .ok true) :
    ∃ branch, inst.select message (branches.map (event.rule role reaction) ++ rest) =
      .ok (some (event.rule role reaction branch)) := by
  induction branches with
  | nil => cases passed
  | cons branch others ih =>
      rw [List.map_cons, Predicate.testAny] at passed
      rw [List.map_cons, List.cons_append, select, guardHolds_rule guard]
      cases tested : branch.predicate.test message inst.bindings with
      | error crash =>
          rw [tested] at passed
          cases passed
      | ok passes =>
          rw [tested] at passed
          cases passes with
          | true => exact ⟨branch, rfl⟩
          | false => exact ih passed

end Select

/-- The records have been pooled one after the other, and what else has changed is not seen. -/
structure Lodged (inst next : Instance) (records : List Record) : Prop where
  state : next.state = if records.isEmpty then inst.state else inst.state.triggered
  verdict : next.verdict = inst.verdict
  witness : next.witness = inst.witness
  episode : next.episodeStart? = inst.episodeStart?
  pool : next.pool = records.foldl Pool.stored inst.pool

/-- What has been pooled in two parts has been pooled one after the other. -/
theorem Lodged.trans {next last : Instance} {records more : List Record}
    (lodged : inst.Lodged next records) (later : next.Lodged last more) :
    inst.Lodged last (records ++ more) where
  state := by
    rw [later.state, lodged.state]
    cases records with
    | nil => rfl
    | cons record rest =>
        cases more with
        | nil => rfl
        | cons => exact inst.state.triggered_triggered
  verdict := later.verdict.trans lodged.verdict
  witness := later.witness.trans lodged.witness
  episode := later.episode.trans lodged.episode
  pool := by rw [later.pool, lodged.pool, List.foldl_append]

/-- Of two runs that have pooled the same records in different orders nothing is seen. -/
theorem Lodged.alike {next other : Instance} {records others : List Record}
    (lodged : inst.Lodged next records) (otherLodged : inst.Lodged other others)
    (same : records.Perm others) (ordered : inst.pool.Ordered)
    (distinct : (records.map Record.timestamp).Nodup)
    (few : inst.pool.nextArrival.toNat + records.length < UInt64.size) : next.Alike 0 other where
  state := by rw [lodged.state, otherLodged.state, same.isEmpty_eq]
  verdict := lodged.verdict.trans otherLodged.verdict.symm
  witness := lodged.witness.trans otherLodged.witness.symm
  episode := lodged.episode.trans otherLodged.episode.symm
  pool := by
    rw [lodged.pool, otherLodged.pool]
    exact ordered.alike_of_perm same distinct few

/-- A rule that pools its message tells nobody. -/
theorem apply_push {rule : Rule} {next : Next} (pushes : rule.reaction = .pooling .message .push next)
    (room : inst.pool.isFull = false)
    (leads : ∀ pool, { inst with pool := pool }.nextState next = inst.state.triggered)
    (topic : String) (message : Message) (time : Timestamp) :
    (inst.apply rule topic message time).result = .ok () ∧
      (inst.apply rule topic message time).notices = [] ∧
      inst.Lodged (inst.apply rule topic message time).inst
        [⟨topic, time, message, rule.alias?⟩] := by
  have applied : inst.apply rule topic message time =
      { inst with pool := inst.pool.stored ⟨topic, time, message, rule.alias?⟩ }.settle rule topic
        time [] := by
    simp only [apply, pushes, Reaction.pooling, additions, discharge, store, Pool.push_eq room,
      Step.andThen, Step.done, List.nil_append]
  rw [applied]
  refine ⟨rfl, ?_, ?_⟩
  · rw [settle_notices, pushes]
    rfl
  · simp only [settle, Step.done, transition_inst, pushes, Reaction.pooling, justify, rescope,
      List.append_nil, leads]
    exact ⟨rfl, rfl, rfl, rfl, rfl⟩

end Instance

/-- The rules of a terminator that does not occur are passed over. -/
theorem Property.select_unclosed {property : Property} {inst : Instance} {topic : String}
    {message : Message} {time : Timestamp}
    (unclosed : ∀ terminator, property.scope.terminator? = some terminator →
      terminator.attempt inst.bindings (.message topic message time) = .ok false)
    (state : State) (rest : List Rule) :
    inst.select message (property.closingRules state topic ++ rest) = inst.select message rest := by
  rw [closingRules]
  cases given : property.scope.terminator? with
  | none => rfl
  | some terminator =>
      exact Instance.select_failed (closing_guard _ _ _) rest (unclosed terminator given)

/-- Responses are idle or pending while the scope is open, and other patterns are engaged. -/
def PatternKind.uses (kind : PatternKind) : State → Bool
  | .engaged => kind != .response
  | .idle | .pending => kind == .response
  | _ => true

theorem PatternKind.uses_entry (kind : PatternKind) : kind.uses kind.entry = true := by
  cases kind <;> rfl

theorem PatternKind.uses_ofVerdict (kind : PatternKind) (verdict : Bool) :
    kind.uses (.ofVerdict verdict) = true := by
  cases verdict <;> rfl

theorem Duty.uses {property : Property} {role : Role} {state target : State} {reaction : Reaction}
    (duty : Duty property role state reaction) (aims : target ∈ reaction.next.targets) :
    property.pattern.kind.uses target = true := by
  cases duty with
  | opens =>
      obtain rfl := List.mem_singleton.mp aims
      exact PatternKind.uses_entry _
  | leaves =>
      obtain rfl := List.mem_singleton.mp aims
      rfl
  | closes =>
      obtain rfl := List.mem_singleton.mp aims
      exact PatternKind.uses_ofVerdict _ _
  | closesOwed =>
      obtain rfl := List.mem_singleton.mp aims
      rfl
  | decides =>
      obtain rfl := List.mem_singleton.mp aims
      exact PatternKind.uses_ofVerdict _ _
  | secures =>
      obtain rfl := List.mem_singleton.mp aims
      rfl
  | stores => exact absurd aims List.not_mem_nil
  | allows => exact absurd aims List.not_mem_nil
  | owes response =>
      obtain rfl := List.mem_singleton.mp aims
      rw [response]
      rfl
  | owesMore => exact absurd aims List.not_mem_nil
  | answers response =>
      rw [response]
      rcases List.mem_pair.mp aims with rfl | rfl <;> rfl

namespace Property

variable {property : Property} {core : Core}
  (made : property.pattern.core property.scope.kind.isReentrant = .ok core)

include made

theorem uses_of_reaches {state : State} (reached : (property.assemble core).Reaches state) :
    property.pattern.kind.uses state = true := by
  induction reached with
  | refl =>
      change property.pattern.kind.uses
        (if property.scope.kind.hasActivator then .inactive else core.entry) = true
      split
      · rfl
      · rw [(core_states made).1]
        exact PatternKind.uses_entry _
  | tail _ step ih =>
      obtain ⟨verdict?, leads⟩ := step
      cases leads with
      | stays => exact ih
      | moves listed aims => exact (rulesAt_performs made listed).duty.uses aims
      | lapses timed effect =>
          obtain ⟨_, effects⟩ := core_deadlines made _ (Machine.mem_deadlines timed)
          rw [effect] at effects
          rcases effects with evicts | safe | ⟨action, verdict, settled⟩
          · cases evicts
          · obtain ⟨_, _, rfl⟩ := DeadlineEffect.transition.inj safe
            rfl
          · obtain ⟨_, _, rfl⟩ := DeadlineEffect.transition.inj settled
            exact PatternKind.uses_ofVerdict _ _

/-- Behaviors read the triggers of a requirement or of a response only. -/
theorem correlated_cases (correlated : core.isCorrelated = true) :
    (∃ behavior trigger bound, property.pattern = .requirement behavior trigger bound ∧
        behavior.readsAliasOf trigger = true ∧ core = .pooledRequirement behavior trigger bound) ∨
      ∃ trigger behavior bound, property.pattern = .response trigger behavior bound ∧
        behavior.readsAliasOf trigger = true ∧ core = .response trigger behavior bound := by
  cases hasCore made with
  | absence => cases correlated
  | existence => cases correlated
  | simpleRequirement => cases correlated
  | pooledRequirement pattern _ => exact .inl ⟨_, _, _, pattern, correlated, rfl⟩
  | response pattern => exact .inr ⟨_, _, _, pattern, correlated, rfl⟩

section Correlated

variable (correlated : core.isCorrelated = true)

include correlated

/-- Where behaviors read the triggers, no trigger is ever refused. -/
theorem capacity_correlated : core.capacity = .unbounded := by
  rcases correlated_cases made correlated with
    ⟨behavior, trigger, bound, _, reads, rfl⟩ | ⟨trigger, behavior, bound, _, reads, rfl⟩
  · simp only [Core.pooledRequirement, Core.requirementCapacity, reads, if_true]
  · simp only [Core.response, reads, if_true]

theorem trigger_correlated : ∃ trigger, property.pattern.trigger? = some trigger := by
  rcases correlated_cases made correlated with
    ⟨behavior, trigger, bound, pattern, _⟩ | ⟨trigger, behavior, bound, pattern, _⟩
  · exact ⟨trigger, by rw [pattern]; rfl⟩
  · exact ⟨trigger, by rw [pattern]; rfl⟩

theorem isOpen_correlated {state : State} (reached : (property.assemble core).Reaches state)
    (here : state = .engaged ∨ state = .idle ∨ state = .pending) : state ∈ core.openStates := by
  have used := uses_of_reaches made reached
  rcases correlated_cases made correlated with
    ⟨behavior, trigger, bound, pattern, _, rfl⟩ | ⟨trigger, behavior, bound, pattern, _, rfl⟩
  · rw [pattern] at used
    rcases here with rfl | rfl | rfl
    · exact List.mem_cons_self
    · cases used
    · cases used
  · rw [pattern] at used
    rcases here with rfl | rfl | rfl
    · cases used
    · exact List.mem_cons_self
    · exact List.mem_cons_of_mem _ List.mem_cons_self

/-- In every open state the rules of the trigger come right after those of the terminator. -/
theorem rulesAt_trigger {trigger : Event} (given : property.pattern.trigger? = some trigger)
    {state : State} (isOpen : state ∈ core.openStates) (topic : String) :
    ∃ next rest,
      (property.assemble core).rulesAt topic state =
        property.closingRules state topic ++
          (trigger.rules .trigger (.pooling .message .push next) topic ++ rest) ∧
      ∀ inst : Instance, inst.state = state → inst.nextState next = state.triggered := by
  rw [rulesAt_open (Pattern.core_regular made) isOpen]
  rcases correlated_cases made correlated with
    ⟨behavior, source, bound, pattern, reads, rfl⟩ | ⟨source, behavior, bound, pattern, reads, rfl⟩
  · rw [pattern] at given
    obtain rfl := Option.some.inj given
    obtain rfl := List.mem_singleton.mp isOpen
    rw [Requirement.rules_pooled, reads]
    exact ⟨.stay, _, rfl, fun inst here => here⟩
  · rw [pattern] at given
    obtain rfl := Option.some.inj given
    rcases List.mem_pair.mp isOpen with rfl | rfl
    · rw [Response.rules_idle]
      exact ⟨.goto .pending, _, rfl, fun inst here => rfl⟩
    · rw [Response.rules_pending, reads]
      exact ⟨.stay, _, rfl, fun inst here => here⟩

theorem triggered_correlated {state : State} (isOpen : state ∈ core.openStates) :
    state.triggered ∈ core.openStates := by
  rcases correlated_cases made correlated with
    ⟨behavior, trigger, bound, _, _, rfl⟩ | ⟨trigger, behavior, bound, _, _, rfl⟩
  · obtain rfl := List.mem_singleton.mp isOpen
    exact isOpen
  · rcases List.mem_pair.mp isOpen with rfl | rfl
    · exact List.mem_cons_of_mem _ List.mem_cons_self
    · exact isOpen

section Trigger

variable {trigger : Event} (given : property.pattern.trigger? = some trigger) (inst : Instance)
  (isOpen : inst.state ∈ core.openStates) (room : inst.pool.isFull = false) {topic : String}
  {message : Message} {time : Timestamp}
  (raises : property.Raises inst.bindings (.message topic message time))

include given isOpen room raises

/-- The rule of the trigger applies: that of the terminator does not, and no other comes before it. -/
theorem offer_trigger :
    let step := (property.assemble core).offer inst topic message time
    step.result = .ok true ∧ step.notices = [] ∧
      inst.Lodged step.inst [⟨topic, time, message, trigger.alias?⟩] := by
  have unsettled := ((Pattern.core_regular made).live _ isOpen).2.2
  obtain ⟨next, rest, rules, leads⟩ := rulesAt_trigger made correlated given isOpen topic
  obtain ⟨source, named, occurs⟩ := raises.triggers
  obtain rfl := Option.some.inj (named.symm.trans given)
  obtain ⟨branch, selected⟩ : ∃ branch,
      inst.select message ((property.assemble core).rulesAt topic inst.state) =
        .ok (some (source.rule .trigger (.pooling .message .push next) branch)) := by
    rw [rules, select_unclosed raises.unclosed]
    exact Instance.select_passed rfl rest occurs
  have pushes : (source.rule .trigger (.pooling .message .push next) branch).reaction =
      .pooling .message .push next := rfl
  obtain ⟨applied, quiet, lodged⟩ :=
    Instance.apply_push pushes room (fun pool => leads _ rfl) topic message time
  dsimp only
  rw [Machine.offer, if_neg (by rw [unsettled]; decide), selected]
  dsimp only
  rw [Step.andThen_result _ applied, Step.andThen_inst _ applied, Step.notices_andThen _ applied,
    quiet]
  exact ⟨rfl, rfl, lodged⟩

/-- A message that is a trigger is pooled and nothing else. -/
theorem onMessage_trigger (unbounded : property.pattern.bound = .unbounded) :
    let step := (property.assemble core).onMessage inst topic message time
    step.result = .ok true ∧ step.notices = [] ∧
      inst.Lodged step.inst [⟨topic, time, message, trigger.alias?⟩] := by
  have running := ((Pattern.core_regular made).live _ isOpen).1
  have waits : (property.assemble core).bound = .unbounded := unbounded
  obtain ⟨latest?, observed⟩ := Machine.observe_inst inst time
  -- The time that passes is only noted.
  have waited : ((property.assemble core).onTimer inst time).result = .ok () ∧
      ((property.assemble core).onTimer inst time).notices = [] ∧
      ((property.assemble core).onTimer inst time).inst = { inst with latestSeen? := latest? } := by
    rw [(Machine.onTimer_eq running time).1, (Machine.onTimer_eq running time).2,
      Machine.onTimer_notices running, Machine.checkDeadline_of_unbounded waits, observed]
    exact ⟨rfl, rfl, rfl⟩
  obtain ⟨passed, silent, remembered⟩ := waited
  obtain ⟨result, quiet, lodged⟩ :=
    offer_trigger made correlated given { inst with latestSeen? := latest? } isOpen room raises
  dsimp only
  rw [Machine.onMessage_of_on running, Step.andThen_result _ passed, Step.andThen_inst _ passed,
    Step.notices_andThen _ passed, silent, remembered, result, quiet]
  exact ⟨rfl, rfl, lodged.state, lodged.verdict, lodged.witness, lodged.episode, lodged.pool⟩

end Trigger

end Correlated

end Property

namespace Monitor

theorem Kept.after {property : Property} {core : Core} {monitor : Monitor}
    (made : property.pattern.core property.scope.kind.isReentrant = .ok core)
    (kept : monitor.Kept (property.assemble core)) (operations : List Operation) :
    (monitor.after operations).Kept (property.assemble core) := by
  induction operations generalizing monitor with
  | nil => exact kept
  | cons operation rest ih => exact ih (kept.perform made operation)

theorem Stocked.unlimited {property : Property} {core : Core} {monitor : Monitor} {count : Nat}
    (made : property.pattern.core property.scope.kind.isReentrant = .ok core)
    (correlated : core.isCorrelated = true) (kept : monitor.Kept (property.assemble core))
    (stocked : monitor.Stocked count) (usable : monitor.isPoisoned = false) :
    monitor.inst.pool.capacity.limit? = none := by
  rw [(stocked usable).capacity_eq, kept.machine_eq]
  exact congrArg Capacity.limit? (Property.capacity_correlated made correlated)

section Triggers

variable {property : Property} {core : Core} {trigger : Event} {monitor : Monitor}
  (made : property.pattern.core property.scope.kind.isReentrant = .ok core)
  (correlated : core.isCorrelated = true) (unbounded : property.pattern.bound = .unbounded)
  (given : property.pattern.trigger? = some trigger)

include made correlated unbounded given

/-- A trigger is consumed, and nobody is told of it. -/
theorem perform_trigger (same : monitor.machine = property.assemble core)
    (usable : monitor.isPoisoned = false) (isOpen : monitor.inst.state ∈ core.openStates)
    (room : monitor.inst.pool.isFull = false) {call : Call}
    (raises : property.Raises monitor.inst.bindings call) :
    ∃ record next, call.record? trigger.alias? = some record ∧
      monitor.perform (.call call) = { monitor with inst := next } ∧
      monitor.inst.Lodged next [record] ∧ (monitor.report call).result = .ok (some true) := by
  cases call with
  | timer time =>
      obtain ⟨_, _, occurs⟩ := raises.triggers
      cases occurs
  | message topic message time =>
      obtain ⟨result, quiet, lodged⟩ :=
        Property.onMessage_trigger made correlated given monitor.inst isOpen room raises unbounded
      obtain ⟨answer, _, after⟩ := run_notices usable "on_message" fun inst =>
        (property.assemble core).onMessage inst topic message time
      rw [quiet, result] at answer after
      rw [← same] at answer after lodged
      refine ⟨_, _, rfl, ?_, lodged, ?_⟩
      · rw [perform, onMessage, after]
        change { monitor with inst := _, isPoisoned := false } = _
        rw [← usable]
      · rw [report, onMessage]
        dsimp only
        rw [answer]
        rfl

/-- Triggers are consumed one after the other. -/
theorem after_triggers (same : monitor.machine = property.assemble core)
    (usable : monitor.isPoisoned = false) (isOpen : monitor.inst.state ∈ core.openStates)
    (room : monitor.inst.pool.capacity.limit? = none) {calls : List Call}
    (raises : ∀ call ∈ calls, property.Raises monitor.inst.bindings call) :
    ∃ next, monitor.after (calls.map .call) = { monitor with inst := next } ∧
      monitor.inst.Lodged next (calls.filterMap (Call.record? trigger.alias?)) ∧
      monitor.pushes (calls.map .call) = calls.length ∧
      ∀ report ∈ monitor.reports calls, report.result = .ok (some true) := by
  induction calls generalizing monitor with
  | nil => exact ⟨monitor.inst, rfl, ⟨rfl, rfl, rfl, rfl, rfl⟩, rfl, by simp [reports]⟩
  | cons call rest ih =>
      obtain ⟨record, middle, recorded, performed, lodged, result⟩ :=
        perform_trigger made correlated unbounded given same usable isOpen
          (Pool.isFull_of_unbounded room) (raises call List.mem_cons_self)
      have stillOpen : middle.state ∈ core.openStates := by
        rw [lodged.state]
        exact Property.triggered_correlated made correlated isOpen
      have stillRoom : middle.pool.capacity.limit? = none := by
        rw [lodged.pool]
        exact room
      have bound : middle.bindings = monitor.inst.bindings := by
        rw [Instance.bindings, Instance.bindings, lodged.witness]
      obtain ⟨next, after, others, counted, results⟩ :=
        @ih { monitor with inst := middle } same usable stillOpen stillRoom
          fun other member => bound ▸ raises other (List.mem_cons_of_mem _ member)
      have one : monitor.pushed (.call call) = 1 := by
        rw [pushed, performed]
        dsimp only
        rw [lodged.pool]
        exact if_neg (show monitor.inst.pool.nextArrival + 1 ≠ monitor.inst.pool.nextArrival by simp)
      refine ⟨next, ?_, ?_, ?_, ?_⟩
      · rw [← after, ← performed]
        rfl
      · rw [List.filterMap_cons_some recorded]
        exact lodged.trans others
      · rw [List.map_cons, pushes, one, performed, counted, List.length_cons, Nat.add_comm]
      · intro report member
        rcases List.mem_cons.mp member with rfl | later
        · exact result
        · rw [performed] at later
          exact results report later

end Triggers

theorem shown_of_usable {monitor : Monitor} (usable : monitor.isPoisoned = false) :
    ∃ snapshot, monitor.shown = .ok snapshot := by
  rw [shown, snapshot, look, usable]
  exact ⟨_, rfl⟩

/-- Records with the times of their calls have different ones if the calls do. -/
theorem nodup_records {calls : List Call} (alias? : Option String)
    (distinct : (calls.map Call.time).Nodup) :
    ((calls.filterMap (Call.record? alias?)).map Record.timestamp).Nodup := by
  rw [List.Nodup, List.pairwise_map] at distinct ⊢
  rw [List.pairwise_filterMap]
  refine distinct.imp fun differ record recorded other otherRecorded => ?_
  rw [Call.time_of_record recorded, Call.time_of_record otherRecorded]
  exact differ

/-- The order in which triggers with different times are delivered makes no difference, as long as
fewer records are stored than there are numbers for them. -/
theorem trigger_order_irrelevant {property : Property} {machine : Machine}
    (compiled : property.compile = .ok machine) (correlated : machine.isCorrelated = true)
    (unbounded : machine.bound = .unbounded) (callbacks : Callbacks) {operations : List Operation}
    {state : State} (running : ((fresh machine callbacks).after operations).state = .ok state)
    (here : state = .engaged ∨ state = .idle ∨ state = .pending) {first second : List Call}
    (same : first.Perm second) (distinct : (first.map Call.time).Nodup)
    (raises : ∀ call ∈ first,
      property.Raises ((fresh machine callbacks).after operations).inst.bindings call)
    {later : List Operation}
    (few : (fresh machine callbacks).pushes (operations ++ (first.map .call ++ later)) <
      UInt64.size) :
    let reached := (fresh machine callbacks).after operations
    (∀ report ∈ reached.reports first ++ reached.reports second, report.result = .ok (some true)) ∧
      (∃ snapshot, (reached.after (first.map .call)).shown = .ok snapshot ∧
        (reached.after (second.map .call)).shown = .ok snapshot) ∧
      (reached.after (first.map .call)).reportsOf later =
        (reached.after (second.map .call)).reportsOf later := by
  obtain ⟨valid, core, made, rfl⟩ := property.compile_cases compiled
  obtain ⟨posts, posted⟩ := Property.core_posted made
  obtain ⟨trigger, given⟩ := Property.trigger_correlated made correlated
  rw [pushes_append, pushes_append] at few
  have kept := kept_after made callbacks operations
  have unused : (fresh (property.assemble core) callbacks).Stocked 0 := fun _ => .empty _ _
  have stocked : ((fresh (property.assemble core) callbacks).after operations).Stocked
      (0 + (fresh (property.assemble core) callbacks).pushes operations) :=
    unused.after made (kept_after made callbacks []) (by omega)
  rw [Nat.zero_add] at stocked
  dsimp only
  -- Of the operations so far, only the invariants and the number of records are used from here on.
  generalize (fresh (property.assemble core) callbacks).pushes operations = count at few stocked
  generalize (fresh (property.assemble core) callbacks).after operations = reached at *
  obtain ⟨usable, rfl⟩ := state_eq_ok running
  have notOff : reached.inst.state ≠ .off := by
    rcases here with engaged | idle | pending
    · rw [engaged]; decide
    · rw [idle]; decide
    · rw [pending]; decide
  have isOpen : reached.inst.state ∈ core.openStates :=
    Property.isOpen_correlated made correlated (Property.reaches_of_mem made
      (Property.validate_ok_iff.mp valid) posted (kept.inOrder.listed notOff)) here
  have room := stocked.unlimited made correlated kept usable
  obtain ⟨next, after, lodged, counted, results⟩ :=
    after_triggers made correlated unbounded given kept.machine_eq usable isOpen room raises
  obtain ⟨other, otherAfter, otherLodged, otherCounted, otherResults⟩ :=
    after_triggers made correlated unbounded given kept.machine_eq usable isOpen room
      fun call member => raises call (same.mem_iff.mpr member)
  rw [← same.length_eq, ← counted] at otherCounted
  have alike : (reached.after (first.map .call)).Alike 0 (reached.after (second.map .call)) := by
    have pooled := List.length_filterMap_le (Call.record? trigger.alias?) first
    have numbers := (stocked usable).numbers
    rw [after, otherAfter]
    exact ⟨rfl, rfl, rfl, lodged.alike otherLodged (same.filterMap _) (stocked usable).ordered
      (nodup_records _ distinct) (by omega)⟩
  refine ⟨fun report member => ?_, ?_, ?_⟩
  · exact (List.mem_append.mp member).elim (results report) (otherResults report)
  · have stillUsable : (reached.after (first.map .call)).isPoisoned = false := by
      rw [after]
      exact usable
    obtain ⟨snapshot, shown⟩ := shown_of_usable stillUsable
    exact ⟨snapshot, shown, alike.shown_eq ▸ shown⟩
  · have stockedFirst : (reached.after (first.map .call)).Stocked _ :=
      stocked.after made kept (by omega)
    have stockedSecond : (reached.after (second.map .call)).Stocked _ :=
      stocked.after made kept (by omega)
    rw [otherCounted] at stockedSecond
    exact alike.reportsOf_eq made (kept.after made _) (kept.after made _) stockedFirst stockedSecond
      (by omega)

/-- Three requests come in two orders, one of them with the time of a request that is already pooled.
The reply to the oldest one and the stop are seen alike. -/
theorem trigger_order_irrelevant_answered :
    ∃ machine operations first second later,
      (Property.answered.withBound .unbounded).compile = .ok machine ∧
      operations = [.launch (.ofNanos 0), .call (.message "start" ⟨[]⟩ (.ofNanos 1)),
        .call (.message "request" ⟨[("id", .int 7)]⟩ (.ofNanos 4))] ∧
      first = [.message "request" ⟨[("id", .int 8)]⟩ (.ofNanos 9),
        .message "request" ⟨[("id", .int 9)]⟩ (.ofNanos 4),
        .message "request" ⟨[("id", .int 10)]⟩ (.ofNanos 2)] ∧
      second = [.message "request" ⟨[("id", .int 10)]⟩ (.ofNanos 2),
        .message "request" ⟨[("id", .int 8)]⟩ (.ofNanos 9),
        .message "request" ⟨[("id", .int 9)]⟩ (.ofNanos 4)] ∧
      later = [.call (.message "reply" ⟨[("id", .int 10)]⟩ (.ofNanos 10)),
        .call (.message "stop" ⟨[]⟩ (.ofNanos 11)), .shutdown (.ofNanos 12)] ∧
      ((fresh machine {}).after operations).state = .ok .pending ∧
      (fresh machine {}).pushes (operations ++ (first.map .call ++ later)) = 4 ∧
      (∀ report ∈ ((fresh machine {}).after operations).reports first ++
        ((fresh machine {}).after operations).reports second, report.result = .ok (some true)) ∧
      (∃ snapshot,
        (((fresh machine {}).after operations).after (first.map .call)).shown = .ok snapshot ∧
        (((fresh machine {}).after operations).after (second.map .call)).shown = .ok snapshot) ∧
      (((fresh machine {}).after operations).after (first.map .call)).reportsOf later =
        (((fresh machine {}).after operations).after (second.map .call)).reportsOf later := by
  refine ⟨_, _, _, _, _, rfl, rfl, rfl, rfl, rfl, rfl, rfl, ?_⟩
  refine trigger_order_irrelevant
    (show (Property.answered.withBound .unbounded).compile = _ from rfl) rfl rfl {} rfl
    (.inr (.inr rfl)) (.trans (.cons _ (.swap _ _ _)) (.swap _ _ _)) (by decide) ?_
    (by show 4 < UInt64.size; decide)
  intro call member
  simp only [List.mem_cons, List.not_mem_nil, or_false] at member
  rcases member with rfl | rfl | rfl
  all_goals
    refine ⟨⟨_, rfl, rfl⟩, fun terminator given => ?_⟩
    obtain rfl := Option.some.inj given
    rfl

end Monitor

end TemporalMonitor
