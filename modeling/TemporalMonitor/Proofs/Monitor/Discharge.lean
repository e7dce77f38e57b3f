import TemporalMonitor.Proofs.Monitor.Arrival
import TemporalMonitor.Proofs.Monitor.Shelf
import TemporalMonitor.Proofs.Trace.Response

/-!
What a message makes of the triggers that wait for a response.

At most one rule applies to a message. A message that is one more trigger is pooled, if behaviors
read the triggers, and then answers none of them, whether it is a behavior or not. Any other message
takes out the triggers that it answers by one branch of the behavior: the first one that answers any
of them.
-/

namespace TemporalMonitor

namespace Event

variable {event : Event} {topic : String}

/-- A topic that is listed once has one branch. -/
theorem branch_unique {first second : Branch} (once : event.topics.count topic ≤ 1)
    (firstListed : first ∈ event.branches) (firstOn : first.topic = topic)
    (secondListed : second ∈ event.branches) (secondOn : second.topic = topic) :
    first = second := by
  have few : (event.branches.filter fun branch => branch.topic == topic).length ≤ 1 := by
    rw [← List.countP_eq_length_filter]
    rw [topics, List.count, List.countP_map] at once
    exact once
  have firstKept : first ∈ event.branches.filter fun branch => branch.topic == topic :=
    List.mem_filter.mpr ⟨firstListed, beq_iff_eq.mpr firstOn⟩
  have secondKept : second ∈ event.branches.filter fun branch => branch.topic == topic :=
    List.mem_filter.mpr ⟨secondListed, beq_iff_eq.mpr secondOn⟩
  cases kept : event.branches.filter fun branch => branch.topic == topic with
  | nil =>
      rw [kept] at firstKept
      cases firstKept
  | cons only rest =>
      rw [kept] at few firstKept secondKept
      obtain rfl : rest = [] := by simpa using few
      rw [List.mem_singleton.mp firstKept, List.mem_singleton.mp secondKept]

end Event

theorem Pool.without_none (pool : Pool) : pool.without (fun _ => false) = pool := by
  simp [without]

namespace Instance

variable (inst : Instance) (behavior : Event) (topic : String) (message : Message)

/-- The branch by which a message answers: the first one on its topic that passes with a pooled
record. -/
def answering? : Option Branch :=
  behavior.passing? topic fun predicate =>
    inst.pool.records.any fun pooled => predicate.holds message (inst.bindings.withRecord pooled)

/-- The message answers the record by that branch. -/
def answers (record : Record) : Bool :=
  (inst.answering? behavior topic message).any fun branch =>
    branch.predicate.holds message (inst.bindings.withRecord record)

variable {inst behavior topic message}

/-- With one branch on the topic, all records are answered with which the behavior occurs. -/
theorem answers_of_occurs (once : behavior.topics.count topic ≤ 1) {record : Record}
    {time : Timestamp} (pooled : record ∈ inst.pool.records)
    (occurs : behavior.occurs (inst.bindings.withRecord record) (.message topic message time) =
      true) : inst.answers behavior topic message record = true := by
  obtain ⟨branch, listed, onTopic, holds⟩ := Event.passes_iff.mp occurs
  have found : (inst.answering? behavior topic message).isSome = true := by
    rw [answering?, Event.isSome_passing, Event.passes_iff]
    exact ⟨branch, listed, onTopic, List.any_eq_true.mpr ⟨record, pooled, holds⟩⟩
  obtain ⟨first, answering⟩ := Option.isSome_iff_exists.mp found
  obtain ⟨member, here, _⟩ := Event.passing_eq_some answering
  obtain rfl := Event.branch_unique once member here listed onTopic
  rw [answers, answering]
  exact holds

/-- A rule that works on the pool only has nothing to report. -/
theorem apply_pooling {event : Event} {role : Role} {guard : Guard} {action : PoolAction}
    {next : Next} {branch : Branch} {time : Timestamp}
    (calm : (inst.apply (event.rule role (.pooling guard action next) branch) topic message
      time).Calm) :
    (inst.apply (event.rule role (.pooling guard action next) branch) topic message time).inst =
      inst.reacted (.pooling guard action next) ⟨topic, time, message, event.alias?⟩ fun pooled =>
        branch.predicate.holds message (inst.bindings.withRecord pooled) :=
  apply_justified rfl calm

end Instance

/-- A call comes in time while a response is owed, and does not close the episode. -/
structure Property.Outstanding (property : Property) (inst : Instance) (call : Call) : Prop where
  pending : inst.state = .pending
  inTime : property.isDue inst call.time = false
  unclosed : property.scope.closes inst.bindings call = false

namespace Response

variable {property : Property} {trigger behavior : Event} {bound : Bound} {inst : Instance}
  {topic : String} {message : Message} {time : Timestamp}

/-- Behaviors read the triggers, and the call is one more of them. -/
def renews (trigger behavior : Event) (bindings : Bindings) (call : Call) : Bool :=
  behavior.readsAliasOf trigger && trigger.occurs bindings call

/-- The pool after a message: with one more trigger, or without those that are answered. -/
def poolAfter (trigger behavior : Event) (inst : Instance) (topic : String) (message : Message)
    (time : Timestamp) : Pool :=
  if renews trigger behavior inst.bindings (.message topic message time) then
    inst.pool.stored ⟨topic, time, message, trigger.alias?⟩
  else inst.pool.without (inst.answers behavior topic message)

/-- The rule that applies while a response is owed: a trigger comes first, if behaviors read it. -/
theorem find_pending (trigger behavior : Event) (bound : Bound) (pending : inst.state = .pending)
    (unclosed : property.scope.closes inst.bindings (.message topic message time) = false) :
    let found := ((property.assemble (Core.response trigger behavior bound)).rulesAt topic
      inst.state).find? (inst.admits message)
    if renews trigger behavior inst.bindings (.message topic message time) then
      ∃ branch, found = some (trigger.rule .trigger (.pooling .message .push .stay) branch)
    else
      found = (inst.answering? behavior topic message).map
        (behavior.rule .behavior (.pooling .consumePooled .keep (.drain .idle .pending))) := by
  have isOpen : State.pending ∈ (Core.response trigger behavior bound).openStates :=
    mem_openStates trigger behavior bound false
  have answered : (behavior.rules .behavior (.pooling .consumePooled .keep (.drain .idle .pending))
      topic).find? (inst.admits message) = (inst.answering? behavior topic message).map
        (behavior.rule .behavior (.pooling .consumePooled .keep (.drain .idle .pending))) :=
    Event.find_rules_passing fun branch => rfl
  have triggered : (trigger.rules .trigger (.pooling .message .push .stay) topic).find?
      (inst.admits message) = (trigger.passing? topic (Predicate.holds message inst.bindings)).map
        (trigger.rule .trigger (.pooling .message .push .stay)) :=
    Event.find_rules_passing fun branch => rfl
  have passedOver : (property.closingRules .pending topic).find? (inst.admits message) = none := by
    rw [← Option.not_isSome_iff_eq_none,
      Property.isSome_find_closing inst .pending topic message time, unclosed]
    decide
  rw [pending, Property.rulesAt_open (Core.response_regular trigger behavior bound) isOpen,
    rules_pending, List.append_nil, List.find?_append, passedOver, Option.none_or,
    List.find?_append, answered, renews]
  cases behavior.readsAliasOf trigger with
  | false => rfl
  | true =>
      rw [if_pos rfl, triggered, Bool.true_and, Event.occurs, ← Event.isSome_passing]
      cases trigger.passing? topic (Predicate.holds message inst.bindings) with
      | none => rfl
      | some branch => exact ⟨branch, rfl⟩

/-- What is pooled after a message has been offered while a response is owed. -/
theorem pool_offered (pending : inst.state = .pending)
    (unclosed : property.scope.closes inst.bindings (.message topic message time) = false)
    (calm : ((property.assemble (Core.response trigger behavior bound)).offer inst topic message
      time).Calm) :
    ((property.assemble (Core.response trigger behavior bound)).offer inst topic message
        time).inst.pool = poolAfter trigger behavior inst topic message time := by
  have rules := find_pending trigger behavior bound pending unclosed
  obtain ⟨ignored, chosen⟩ := Machine.offer_selected (by rw [pending]; rfl) calm
  dsimp only at rules
  split at rules
  · next renewed =>
      obtain ⟨branch, found⟩ := rules
      obtain ⟨applied, same⟩ := chosen _ found
      rw [poolAfter, if_pos renewed, same, Instance.apply_pooling applied]
      rfl
  · next other =>
      rw [poolAfter, if_neg other]
      unfold Instance.answers
      cases answering : inst.answering? behavior topic message with
      | none =>
          rw [answering, Option.map_none] at rules
          rw [ignored rules]
          exact inst.pool.without_none.symm
      | some branch =>
          rw [answering, Option.map_some] at rules
          obtain ⟨applied, same⟩ := chosen _ rules
          rw [same, Instance.apply_pooling applied]
          rfl

/-- Before its time is over, a response that is owed is not touched by the passing of time. -/
theorem lapse_in_time (pattern : property.pattern = .response trigger behavior bound)
    {now : Timestamp} (inTime : property.isDue inst now = false) :
    property.lapse inst now = inst := by
  rw [Property.lapse, inTime, if_neg (by decide), Property.refreshed, pattern]

/-- What is pooled after a message while a response is owed. -/
theorem pool_next (pattern : property.pattern = .response trigger behavior bound)
    (owed : property.Outstanding inst (.message topic message time))
    (survives : (property.assemble (Core.response trigger behavior bound)).Survives inst
      (.message topic message time)) :
    ((property.assemble (Core.response trigger behavior bound)).next inst
        (.message topic message time)).pool =
      poolAfter trigger behavior inst topic message time := by
  have made : property.pattern.core property.scope.kind.isReentrant =
      .ok (Core.response trigger behavior bound) := by
    rw [pattern]
    rfl
  have running : inst.state ≠ .off := by rw [owed.pending]; decide
  obtain ⟨result, passed⟩ := Property.onTimer_lapse made running time
  obtain ⟨latest?, observed⟩ := Machine.observe_inst inst time
  have waited : property.lapse { inst with latestSeen? := latest? } time =
      { inst with latestSeen? := latest? } :=
    lapse_in_time pattern owed.inTime
  rw [observed, waited] at passed
  have calm : ((property.assemble (Core.response trigger behavior bound)).onMessage inst topic
      message time).Calm := survives
  rw [Machine.onMessage_of_on running] at calm
  have offered := calm.andThen.2 () result
  rw [passed] at offered
  rw [Machine.next, (Machine.onMessage_eq running result topic message).2, passed]
  exact pool_offered owed.pending owed.unclosed offered

/-- What a usable monitor has pooled after a message while a response is owed. -/
theorem pool_performed {monitor : Monitor}
    (pattern : property.pattern = .response trigger behavior bound)
    (same : monitor.machine = property.assemble (Core.response trigger behavior bound))
    (owed : property.Outstanding monitor.inst (.message topic message time))
    (usable : (monitor.perform (.call (.message topic message time))).isPoisoned = false) :
    (monitor.perform (.call (.message topic message time))).inst.pool =
      poolAfter trigger behavior monitor.inst topic message time := by
  obtain ⟨_, survives, performed⟩ := Monitor.perform_usable usable
  rw [performed, same]
  rw [same] at survives
  exact pool_next pattern owed (survives _ rfl)

end Response

/-- A message that comes in time while a response is owed, and does not close the episode, is one more
trigger, goes behind those that are not later and takes nothing out of the pool, or else it takes out
exactly the triggers that it answers by its first branch that answers any. These are all with which the
behavior occurs, if only one branch is on the topic. -/
theorem Monitor.behavior_discharges {property : Property} {machine : Machine}
    {trigger behavior : Event} {bound : Bound} {before after : Monitor} (callbacks : Callbacks)
    (operations : List Operation) (topic : String) (message : Message) (time : Timestamp)
    (compiled : property.compile = .ok machine)
    (pattern : property.pattern = .response trigger behavior bound)
    (reached : before = (fresh machine callbacks).after operations)
    (called : after = before.perform (.call (.message topic message time)))
    (usable : after.isPoisoned = false)
    (owed : property.Outstanding before.inst (.message topic message time)) :
    if Response.renews trigger behavior before.inst.bindings (.message topic message time) then
      operations.length < UInt64.size →
        after.inst.pool.records =
          before.inst.pool.records.filter (fun other => decide (other.timestamp ≤ time)) ++
            ⟨topic, time, message, trigger.alias?⟩ ::
            before.inst.pool.records.filter fun other => decide (time < other.timestamp)
    else
      after.inst.pool.records = before.inst.pool.records.filter (fun record =>
        !before.inst.answers behavior topic message record) ∧
      (behavior.topics.count topic ≤ 1 → ∀ record ∈ before.inst.pool.records,
        behavior.occurs (before.inst.bindings.withRecord record) (.message topic message time) =
          true → record ∉ after.inst.pool.records) := by
  obtain ⟨_, core, made, rfl⟩ := property.compile_cases compiled
  have response : core = Core.response trigger behavior bound := by
    rw [pattern] at made
    exact (Except.ok.inj made).symm
  have intact : before.isPoisoned = false := by
    rw [called] at usable
    exact (perform_usable usable).1
  rw [reached] at intact
  obtain ⟨same, remembered⟩ := reached_after intact
  rw [← reached] at same remembered
  have left := Response.pool_performed pattern (same.trans (congrArg _ response)) owed
    (called ▸ usable)
  rw [← called, Response.poolAfter] at left
  split
  · next renewed =>
      intro few
      have ordered := (Collected.of_reached made remembered few).ordered
      rw [left, if_pos renewed, ordered.records_stored,
        Record.filed_of_ascending ordered.records_ascending]
  · next other =>
      have kept : after.inst.pool.records = before.inst.pool.records.filter fun record =>
          !before.inst.answers behavior topic message record := by
        rw [left, if_neg other, Pool.records_without]
      refine ⟨kept, fun once record pooled occurs stays => ?_⟩
      rw [kept] at stays
      have unanswered := (List.mem_filter.mp stays).2
      rw [Instance.answers_of_occurs once pooled occurs] at unanswered
      cases unanswered

/-- The reply to one request takes out that request and leaves the other. -/
theorem Monitor.behavior_discharges_answered :
    ∃ machine before after, Property.answered.compile = .ok machine ∧
      before = (fresh machine {}).after [.launch (.ofNanos 0),
        .call (.message "start" ⟨[]⟩ (.ofNanos 1)),
        .call (.message "request" ⟨[("id", .int 7)]⟩ (.ofNanos 2)),
        .call (.message "request" ⟨[("id", .int 8)]⟩ (.ofNanos 2))] ∧
      after = before.perform (.call (.message "reply" ⟨[("id", .int 8)]⟩ (.ofNanos 3))) ∧
      after.isPoisoned = false ∧
      Property.answered.Outstanding before.inst (.message "reply" ⟨[("id", .int 8)]⟩ (.ofNanos 3)) ∧
      ⟨"request", (.ofNanos 2), ⟨[("id", .int 8)]⟩, some "request"⟩ ∈ before.inst.pool.records ∧
      ⟨"request", (.ofNanos 2), ⟨[("id", .int 8)]⟩, some "request"⟩ ∉ after.inst.pool.records ∧
      ⟨"request", (.ofNanos 2), ⟨[("id", .int 7)]⟩, some "request"⟩ ∈ after.inst.pool.records := by
  have discharged := behavior_discharges {} [.launch (.ofNanos 0),
      .call (.message "start" ⟨[]⟩ (.ofNanos 1)),
      .call (.message "request" ⟨[("id", .int 7)]⟩ (.ofNanos 2)),
      .call (.message "request" ⟨[("id", .int 8)]⟩ (.ofNanos 2))]
    "reply" ⟨[("id", .int 8)]⟩ (.ofNanos 3) (rfl : Property.answered.compile = .ok _) rfl rfl rfl rfl
    ⟨rfl, rfl, rfl⟩
  rw [if_neg (by decide)] at discharged
  refine ⟨_, _, _, rfl, rfl, rfl, rfl, ⟨rfl, rfl, rfl⟩, .tail _ (.head _),
    discharged.2 (by decide) _ (.tail _ (.head _)) rfl, ?_⟩
  rw [discharged.1]
  exact List.mem_filter.mpr ⟨.head _, rfl⟩

/-- Every ping is followed by a pong with its number or for its batch, or by a ping that echoes it. -/
def Property.echoed : Property where
  scope := .global
  pattern := .response { alias? := some "ping", branches := [{ topic := "ping" }] }
    { branches := [
        { topic := "pong", predicate := .compare "id" .eq (.field "ping" "id") },
        { topic := "pong", predicate := .compare "batch" .eq (.field "ping" "batch") },
        { topic := "ping", predicate := .compare "echo" .eq (.field "ping" "id") }] }
    .unbounded

/-- A pong for the batch of two pings takes out only the one that has its number, and a ping that
echoes another takes out none. -/
theorem Monitor.answered_trigger_stays :
    ∃ machine before, Property.echoed.compile = .ok machine ∧
      before = (fresh machine {}).after [.launch (.ofNanos 0),
        .call (.message "ping" ⟨[("batch", .int 9), ("id", .int 1)]⟩ (.ofNanos 1)),
        .call (.message "ping" ⟨[("batch", .int 9), ("id", .int 2)]⟩ (.ofNanos 2))] ∧
      ∀ call ∈ [Call.message "pong" ⟨[("batch", .int 9), ("id", .int 1)]⟩ (.ofNanos 3),
          Call.message "ping" ⟨[("echo", .int 2)]⟩ (.ofNanos 3)],
        (before.perform (.call call)).isPoisoned = false ∧
          Property.echoed.Outstanding before.inst call ∧
          ∃ record ∈ before.inst.pool.records,
            Property.echoed.pattern.behavior.occurs (before.inst.bindings.withRecord record) call =
              true ∧
            record ∈ (before.perform (.call call)).inst.pool.records := by
  refine ⟨_, _, rfl, rfl, ?_⟩
  intro call member
  rcases List.mem_pair.mp member with rfl | rfl
  · exact ⟨rfl, ⟨rfl, rfl, rfl⟩, _, .tail _ (.head _), rfl, .head _⟩
  · exact ⟨rfl, ⟨rfl, rfl, rfl⟩, _, .tail _ (.head _), rfl, .tail _ (.head _)⟩

end TemporalMonitor
