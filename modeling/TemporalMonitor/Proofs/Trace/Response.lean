import TemporalMonitor.Proofs.Trace.Simulation
import TemporalMonitor.Proofs.Trace.Trigger

/-!
What the verdict on a response says about a run.

A trigger calls for a behavior in the same episode before its time has elapsed. Triggers that are not
answered yet stand. If behaviors read the trigger, then all of these are pooled. Otherwise only the
first one is, and later ones are ignored: as long as timestamps do not decrease, the first one is also
the first to be overdue, and whatever answers it answers the others as well.
-/

namespace TemporalMonitor

namespace Episode

variable {scope : Scope} {trigger behavior : Event} {bound : Bound} {episode : Episode} {call : Call}

/-- The call does not answer the trigger with this record. -/
def unanswered (behavior : Event) (bindings : Bindings) (record : Record) (call : Call) : Bool :=
  !behavior.occurs (bindings.withRecord record) call

/-- The triggers that are not answered by these calls. -/
abbrev Owed (scope : Scope) (trigger behavior : Event) (bindings : Bindings) :
    List Call → Record → Prop :=
  Standing scope trigger bindings (unanswered behavior bindings)

/-- A trigger still stands unanswered at a call by which its time has elapsed, or which closes the
episode. -/
def Overdue (scope : Scope) (trigger behavior : Event) (bound : Bound) (episode : Episode) : Prop :=
  ∃ before call after, episode.calls = before ++ call :: after ∧
    ∃ record, Owed scope trigger behavior episode.bindings before record ∧
      (bound.hasElapsed record.timestamp call.time = true ∨
        scope.closes episode.bindings call = true)

/-- At a call by which the time of the oldest trigger that stands has elapsed, or which closes the
episode, a trigger stands unanswered. -/
def OldestOverdue (scope : Scope) (trigger behavior : Event) (bound : Bound) (episode : Episode) :
    Prop :=
  ∃ before call after, episode.calls = before ++ call :: after ∧
    ∃ record, Oldest (Owed scope trigger behavior episode.bindings before) record ∧
      (bound.hasElapsed record.timestamp call.time = true ∨
        scope.closes episode.bindings call = true)

/-- One more call leaves a trigger overdue if the time of the oldest one has elapsed, or at the end. -/
theorem oldestOverdue_extend :
    (episode.extend call).OldestOverdue scope trigger behavior bound ↔
      episode.OldestOverdue scope trigger behavior bound ∨
        ∃ record,
          Oldest (Owed scope trigger behavior episode.bindings episode.calls) record ∧
          (bound.hasElapsed record.timestamp call.time = true ∨
            scope.closes episode.bindings call = true) :=
  exists_split_append

/-- If times elapse in order, then the oldest trigger is the first to be overdue. -/
theorem oldestOverdue_iff (inOrder : bound.ElapsesInOrder (episode.calls.map Call.time)) :
    episode.OldestOverdue scope trigger behavior bound ↔
      episode.Overdue scope trigger behavior bound := by
  constructor
  · rintro ⟨before, call, after, split, record, foremost, late⟩
    exact ⟨before, call, after, split, record, foremost.1, late⟩
  · rintro ⟨before, call, after, split, record, owed, late⟩
    obtain ⟨oldest, foremost⟩ := exists_oldest (fun _ stands => stands.time_mem) owed
    refine ⟨before, call, after, split, oldest, foremost, late.imp_left fun elapsed => ?_⟩
    have upToHere := inOrder.mono (time_of_split split)
    have known {other : Record} (owed : Owed scope trigger behavior episode.bindings before other) :
        other.timestamp ∈ (before ++ [call]).map Call.time := by
      rw [List.map_append]
      exact List.mem_append_left _ owed.time_mem
    exact upToHere call.time (by simp) oldest.timestamp (known foremost.1) record.timestamp
      (known owed) (foremost.2 record owed) elapsed

end Episode

namespace Response

variable {property : Property} {trigger behavior : Event} {bound : Bound} {episode : Episode}
  {inst : Instance} {call : Call}

/-- A response in which no message is both a trigger and a behavior, and each message can be a
behavior in one way only. -/
structure Setting (property : Property) (trigger behavior : Event) (bound : Bound) : Prop where
  pattern : property.pattern = .response trigger behavior bound
  faithful : ∀ branch ∈ behavior.branches, branch.predicate.Faithful
  apart : ∀ topic ∈ trigger.topics, topic ∉ behavior.topics
  distinct : behavior.topics.Nodup

/-- The triggers of an episode that are not answered. -/
abbrev Stands (property : Property) (trigger behavior : Event) (episode : Episode) :
    Record → Prop :=
  Standing property.scope trigger episode.bindings
    (Episode.unanswered behavior episode.bindings) episode.calls

/-- One record does for another: itself, or for all later ones if behaviors do not read them. -/
abbrev covers (trigger behavior : Event) : Record → Record → Prop :=
  Covers (behavior.readsAliasOf trigger) (· ≤ ·)

/-- An episode in which nothing is overdue shows in the pool. -/
structure Relates (property : Property) (trigger behavior : Event) (bound : Bound)
    (episode : Episode) (inst : Instance) : Prop where
  tracks : Tracks property (.response trigger behavior bound) episode inst
  bindings : inst.bindings = episode.bindings
  prompt : ¬ episode.OldestOverdue property.scope trigger behavior bound
  ordered : inst.pool.Ordered
  covered : Covered (covers trigger behavior) (Stands property trigger behavior episode)
    inst.pool.records
  state : inst.state = if inst.pool.isEmpty then .idle else .pending

/-- Nothing is overdue at the next call either, which is not earlier than those before it. -/
structure Awaits (property : Property) (trigger behavior : Event) (bound : Bound)
    (episode : Episode) (call : Call) (inst : Instance) : Prop
    extends Relates property trigger behavior bound episode inst where
  inTime : ∀ record, Oldest (Stands property trigger behavior episode) record →
    bound.hasElapsed record.timestamp call.time = false
  numbers : inst.pool.nextArrival.toNat + 1 < UInt64.size
  earlier : ∀ previous ∈ episode.calls, previous.time ≤ call.time

namespace Setting

variable (setting : Setting property trigger behavior bound)

include setting

/-- What answers a record answers those that it does for, and the other way round. -/
theorem unanswered_of_covers {pooled record : Record}
    (covering : covers trigger behavior pooled record)
    (pooledNamed : pooled.alias? = trigger.alias?) (recordNamed : record.alias? = trigger.alias?)
    (bindings : Bindings) (call : Call) :
    Episode.unanswered behavior bindings pooled call =
      Episode.unanswered behavior bindings record call :=
  congrArg not (Event.occurs_withRecord_congr setting.faithful covering.eq_of_correlated pooledNamed
    recordNamed bindings call)

/-- A trigger answers nothing. -/
theorem behavior_of_trigger {bindings : Bindings} (occurs : trigger.occurs bindings call = true)
    (others : Bindings) : behavior.occurs others call = false := by
  cases call with
  | timer time => rfl
  | message topic content time =>
      rw [Bool.eq_false_iff]
      intro behaves
      obtain ⟨first, listed, here, _⟩ := Event.passes_iff.mp occurs
      obtain ⟨second, member, there, _⟩ := Event.passes_iff.mp behaves
      refine setting.apart topic ?_ ?_
      · exact List.mem_map.mpr ⟨first, listed, here⟩
      · exact List.mem_map.mpr ⟨second, member, there⟩

/-- After a trigger the same ones stand, and the new one. -/
theorem stands_of_triggers {record : Record}
    (triggers : call.Triggers property.scope trigger episode.bindings record) (other : Record) :
    Stands property trigger behavior episode other ∨ other = record ↔
      Stands property trigger behavior (episode.extend call) other := by
  have still : Episode.unanswered behavior episode.bindings other call = true := by
    rw [Episode.unanswered, setting.behavior_of_trigger triggers.1]
    rfl
  rw [Stands, Stands, Episode.extend_calls, Episode.extend_bindings,
    standing_append_of_triggers triggers, and_iff_left still]

end Setting

/-- A response is owed or not in the two states in which the scope is open. -/
theorem mem_openStates (trigger behavior : Event) (bound : Bound) (vacant : Bool) :
    (if vacant then State.idle else .pending) ∈
      (Core.response trigger behavior bound).openStates := by
  cases vacant with
  | true => exact List.mem_cons_self
  | false => exact List.mem_cons_of_mem _ List.mem_cons_self

namespace Relates

variable (related : Relates property trigger behavior bound episode inst)

include related

theorem state_idle (vacant : inst.pool.records = []) : inst.state = .idle := by
  rw [related.state, if_pos (Pool.isEmpty_iff.mpr vacant)]

theorem state_pending (owed : inst.pool.records ≠ []) : inst.state = .pending := by
  rw [related.state, if_neg fun vacant => owed (Pool.isEmpty_iff.mp vacant)]

/-- The oldest pooled record is at least as old as all that stand. -/
theorem oldest_le {oldest record : Record} (first : inst.pool.oldest? = some oldest)
    (stands : Stands property trigger behavior episode record) :
    oldest.timestamp ≤ record.timestamp := by
  obtain ⟨pooled, member, covering⟩ := related.covered.cover record stands
  exact Std.le_trans (related.ordered.oldest_le first member)
    (covering.ordered fun _ => Std.le_refl _)

/-- The oldest pooled record is the oldest one that stands. -/
theorem oldest_stands {oldest : Record} (first : inst.pool.oldest? = some oldest) :
    Oldest (Stands property trigger behavior episode) oldest :=
  ⟨related.covered.stand oldest (List.mem_of_mem_head? first), fun _ => related.oldest_le first⟩

/-- When the time of the oldest pooled record has elapsed, the property is violated, and before that
nothing is overdue. -/
theorem passes {calls : List Call} {settles : Episode → Prop}
    (setting : Setting property trigger behavior bound)
    (upcoming : Upcoming calls episode inst call) (short : calls.length < UInt64.size)
    (ascending : calls.Pairwise fun first second => first.time ≤ second.time) :
    Progress property (Episode.OldestOverdue property.scope trigger behavior bound) settles
      (Awaits property trigger behavior bound episode call) (episode.extend call)
      ((property.assemble (.response trigger behavior bound)).checkDeadline inst call.time).inst := by
  have limit : (property.assemble (.response trigger behavior bound)).bound = bound := by
    change property.pattern.bound = bound
    rw [setting.pattern]
    rfl
  have awaits (inTime : ∀ record, Oldest (Stands property trigger behavior episode) record →
      bound.hasElapsed record.timestamp call.time = false) :
      Awaits property trigger behavior bound episode call inst :=
    ⟨related, inTime, upcoming.numbers short, upcoming.time_le ascending⟩
  by_cases vacant : inst.pool.records = []
  · have untimed : (property.assemble (.response trigger behavior bound)).deadline? inst.state =
        none := by
      rw [related.state_idle vacant]
      exact Core.lookup_deadlineIf_other bound (by decide) _
    rw [Machine.checkDeadline_of_none untimed]
    refine .undecided (awaits fun record foremost => ?_)
    exact absurd vacant (related.covered.exists_iff.mp ⟨record, foremost.1⟩)
  · obtain ⟨oldest, first⟩ := Instance.exists_oldest vacant
    have anchored : Machine.reference? inst .oldestPooled = some oldest.timestamp := by
      rw [Machine.reference?, first]
      rfl
    rw [Machine.checkDeadline_deadlineIf rfl limit (related.state_pending vacant) anchored]
    cases elapsed : bound.hasElapsed oldest.timestamp call.time with
    | true =>
        rw [if_pos rfl, (Machine.overrun_recordPending _ _ first).2]
        exact .violated rfl rfl (Episode.oldestOverdue_extend.mpr
          (.inr ⟨oldest, related.oldest_stands first, .inl elapsed⟩))
    | false =>
        refine .undecided (awaits fun record foremost => ?_)
        have same : record.timestamp = oldest.timestamp :=
          Std.le_antisymm (foremost.2 oldest (related.oldest_stands first).1)
            (related.oldest_le first foremost.1)
        rw [same, elapsed]

end Relates

namespace Awaits

variable (awaits : Awaits property trigger behavior bound episode call inst)

include awaits

theorem prompt_extend (goesOn : property.scope.closes episode.bindings call = false) :
    ¬ (episode.extend call).OldestOverdue property.scope trigger behavior bound := by
  rw [Episode.oldestOverdue_extend]
  rintro (overdue | ⟨record, foremost, elapsed | closes⟩)
  · exact awaits.prompt overdue
  · rw [awaits.inTime record foremost] at elapsed
    cases elapsed
  · rw [goesOn] at closes
    cases closes

/-- A call that is no trigger leaves the records that it does not answer. -/
theorem covered_left (setting : Setting property trigger behavior bound) {records : List Record}
    (other : trigger.occurs episode.bindings call = false)
    (left : ∀ record, record ∈ records ↔ record ∈ inst.pool.records ∧
      Episode.unanswered behavior episode.bindings record call = true) :
    Covered (covers trigger behavior) (Stands property trigger behavior (episode.extend call))
      records := by
  refine (awaits.covered.filter left fun pooled record held stands covering kept => ?_).congr
    fun record => ?_
  · rw [setting.unanswered_of_covers covering held.alias_eq stands.alias_eq]
    exact kept
  · rw [Stands, Stands, Episode.extend_calls, Episode.extend_bindings,
      standing_append_of_other other]

/-- A call that is no trigger and answers nothing changes nothing. -/
theorem extend (setting : Setting property trigger behavior bound)
    (goesOn : property.scope.closes episode.bindings call = false)
    (other : trigger.occurs episode.bindings call = false)
    (unmatched : ∀ record ∈ inst.pool.records,
      behavior.occurs (episode.bindings.withRecord record) call = false) :
    Relates property trigger behavior bound (episode.extend call) inst where
  tracks := awaits.tracks.extend goesOn
  bindings := awaits.bindings
  prompt := awaits.prompt_extend goesOn
  ordered := awaits.ordered
  covered := by
    refine awaits.covered_left setting other fun record => (and_iff_left_of_imp fun member => ?_).symm
    rw [Episode.unanswered, unmatched record member]
    rfl
  state := awaits.state

/-- A behavior takes out the records that it answers. -/
theorem answered (setting : Setting property trigger behavior bound)
    (goesOn : property.scope.closes episode.bindings call = false)
    (other : trigger.occurs episode.bindings call = false) (record : Record) :
    Relates property trigger behavior bound (episode.extend call)
      (inst.reacted (.pooling .consumePooled .keep (.drain .idle .pending)) record fun pooled =>
        behavior.occurs (episode.bindings.withRecord pooled) call) where
  tracks := by
    refine (awaits.tracks.pooling _ _ record _ ?_).extend goesOn
    exact mem_openStates trigger behavior bound _
  bindings := (inst.bindings_pooling _ _ _ record _).trans awaits.bindings
  prompt := awaits.prompt_extend goesOn
  ordered := by
    have ordered := awaits.ordered.without fun pooled =>
      behavior.occurs (episode.bindings.withRecord pooled) call
    exact ordered
  covered := by
    refine awaits.covered_left setting other fun pooled => ?_
    rw [Episode.unanswered, Bool.not_eq_true']
    exact Pool.mem_records_without
  state := rfl

/-- A trigger is pooled. -/
theorem store (setting : Setting property trigger behavior bound) {record : Record}
    (triggers : call.Triggers property.scope trigger episode.bindings record) {next : Next}
    {discharged : Record → Bool}
    (moved : (inst.reacted (.pooling .message .push next) record discharged).state = .pending) :
    Relates property trigger behavior bound (episode.extend call)
      (inst.reacted (.pooling .message .push next) record discharged) where
  tracks := by
    refine (awaits.tracks.pooling _ _ record _ ?_).extend triggers.2.1
    rw [moved]
    exact mem_openStates trigger behavior bound false
  bindings := (inst.bindings_pooling _ _ _ record discharged).trans awaits.bindings
  prompt := awaits.prompt_extend triggers.2.1
  ordered := awaits.ordered.stored record awaits.numbers
  covered := by
    refine (awaits.covered.add (fun other => ?_) (covers_self (fun _ => Std.le_refl _) record)).congr
      (setting.stands_of_triggers triggers)
    exact awaits.ordered.mem_records_stored
  state := by
    rw [moved, if_neg fun vacant => ?_]
    exact Pool.records_stored_ne_nil (Pool.isEmpty_iff.mp vacant)

/-- A trigger that behaviors do not read can be ignored if an earlier one stands. -/
theorem ignore (setting : Setting property trigger behavior bound) {record : Record}
    (unread : behavior.readsAliasOf trigger = false) (owed : inst.pool.records ≠ [])
    (triggers : call.Triggers property.scope trigger episode.bindings record) :
    Relates property trigger behavior bound (episode.extend call) inst where
  tracks := awaits.tracks.extend triggers.2.1
  bindings := awaits.bindings
  prompt := awaits.prompt_extend triggers.2.1
  ordered := awaits.ordered
  covered := by
    refine (awaits.covered.ignore ?_).congr (setting.stands_of_triggers triggers)
    -- Here timestamps must not decrease: the pooled record does only for those that are not older.
    obtain ⟨pooled, member⟩ := List.exists_mem_of_ne_nil _ owed
    obtain ⟨source, among, triggered⟩ := (awaits.covered.stand pooled member).mem
    have notLater := awaits.earlier source among
    rw [← triggered.time_eq, ← triggers.time_eq] at notLater
    refine ⟨pooled, member, ?_⟩
    rw [covers, Covers, unread, if_neg (by decide)]
    exact notLater
  state := awaits.state

end Awaits

section Reacts

variable (trigger behavior : Event) (bound : Bound) (topic : String)

theorem rules_idle :
    rulesFor (Core.response trigger behavior bound).placements topic .idle =
      trigger.rules .trigger (.pooling .message .push (.goto .pending)) topic ++ [] := by
  cases correlated : behavior.readsAliasOf trigger <;>
    simp [Core.response, rulesFor_place, correlated]

theorem rules_pending :
    rulesFor (Core.response trigger behavior bound).placements topic .pending =
      (if behavior.readsAliasOf trigger then
        trigger.rules .trigger (.pooling .message .push .stay) topic else []) ++
      (behavior.rules .behavior (.pooling .consumePooled .keep (.drain .idle .pending)) topic ++
        []) := by
  cases correlated : behavior.readsAliasOf trigger <;>
    simp [Core.response, rulesFor_place, correlated]

end Reacts

/-- What the machine makes of a message while a response is owed. -/
theorem offered_pending (distinct : behavior.topics.Nodup)
    (bindings : inst.bindings = episode.bindings) (topic : String) (message : Message)
    (time : Timestamp) :
    inst.offered topic message time
        (rulesFor (Core.response trigger behavior bound).placements topic .pending) =
      if behavior.readsAliasOf trigger &&
          trigger.occurs episode.bindings (.message topic message time) then
        inst.reacted (.pooling .message .push .stay) ⟨topic, time, message, trigger.alias?⟩
          fun _ => false
      else if inst.pool.records.any fun pooled =>
          behavior.occurs (episode.bindings.withRecord pooled) (.message topic message time) then
        inst.reacted (.pooling .consumePooled .keep (.drain .idle .pending))
          ⟨topic, time, message, behavior.alias?⟩ fun pooled =>
            behavior.occurs (episode.bindings.withRecord pooled) (.message topic message time)
      else inst := by
  have consumed := inst.offered_consumePooled topic message time behavior .behavior
    (.pooling .consumePooled .keep (.drain .idle .pending)) [] rfl distinct
  rw [bindings] at consumed
  rw [rules_pending]
  cases behavior.readsAliasOf trigger with
  | true =>
      rw [if_pos rfl, inst.offered_message topic message time trigger .trigger _ _ rfl, bindings,
        consumed]
      rfl
  | false => exact consumed

/-- A message that closes nothing is a trigger, or a behavior that answers some, or neither. -/
theorem Awaits.reacts {topic : String} {message : Message} {time : Timestamp}
    {settles : Episode → Prop} (setting : Setting property trigger behavior bound)
    (awaits : Awaits property trigger behavior bound episode (.message topic message time) inst)
    (goesOn : property.scope.closes episode.bindings (.message topic message time) = false) :
    Progress property (Episode.OldestOverdue property.scope trigger behavior bound) settles
      (Relates property trigger behavior bound (episode.extend (.message topic message time)))
      (episode.extend (.message topic message time))
      (inst.offered topic message time
        (rulesFor (Core.response trigger behavior bound).placements topic inst.state)) := by
  refine .undecided ?_
  by_cases vacant : inst.pool.records = []
  · rw [awaits.state_idle vacant, rules_idle,
      inst.offered_message topic message time trigger .trigger _ _ rfl, awaits.bindings]
    cases occurs : trigger.occurs episode.bindings (.message topic message time) with
    | true => exact awaits.store setting ⟨occurs, goesOn, rfl⟩ rfl
    | false =>
        refine awaits.extend setting goesOn occurs fun record member => ?_
        rw [vacant] at member
        exact absurd member List.not_mem_nil
  · have here := awaits.state_pending vacant
    rw [here, offered_pending setting.distinct awaits.bindings]
    cases occurs : trigger.occurs episode.bindings (.message topic message time) with
    | true =>
        have triggers : Call.Triggers property.scope trigger episode.bindings
            (.message topic message time) ⟨topic, time, message, trigger.alias?⟩ :=
          ⟨occurs, goesOn, rfl⟩
        have unmatched : (inst.pool.records.any fun pooled =>
            behavior.occurs (episode.bindings.withRecord pooled) (.message topic message time)) =
            false :=
          List.any_eq_false.mpr fun pooled _ => by
            rw [setting.behavior_of_trigger occurs]
            decide
        cases unread : behavior.readsAliasOf trigger with
        | true => exact awaits.store setting triggers here
        | false =>
            rw [unmatched]
            exact awaits.ignore setting unread vacant triggers
    | false =>
        rw [Bool.and_false, if_neg (by decide)]
        split
        · exact awaits.answered setting goesOn occurs _
        · next unmatched =>
            rw [Bool.not_eq_true, List.any_eq_false] at unmatched
            exact awaits.extend setting goesOn occurs fun record member =>
              Bool.eq_false_iff.mpr (unmatched record member)

/-- The end of an episode finds a response owed, or else settles the property. -/
theorem Awaits.closes (setting : Setting property trigger behavior bound)
    (awaits : Awaits property trigger behavior bound episode call inst)
    (closes : property.scope.closes episode.bindings call = true) :
    Concludes (Episode.OldestOverdue property.scope trigger behavior bound)
      (fun episode => property.scope.kind.isReentrant = false ∧ episode.Closed property.scope)
      (closing property.scope.kind.isReentrant property.pattern.kind inst.state).verdict?
      (episode.extend call) := by
  have kind : property.pattern.kind = .response := by
    rw [setting.pattern]
    rfl
  rw [kind]
  by_cases vacant : inst.pool.records = []
  · have prompt : ¬ (episode.extend call).OldestOverdue property.scope trigger behavior bound := by
      rw [Episode.oldestOverdue_extend]
      rintro (overdue | ⟨record, foremost, _⟩)
      · exact awaits.prompt overdue
      · exact awaits.covered.exists_iff.mp ⟨record, foremost.1⟩ vacant
    rw [awaits.state_idle vacant]
    cases reentrant : property.scope.kind.isReentrant with
    | true => exact ⟨prompt, fun settled => Bool.noConfusion settled.1⟩
    | false => exact ⟨⟨rfl, Episode.closed_extend.mpr (.inr closes)⟩, prompt⟩
  · obtain ⟨oldest, first⟩ := Instance.exists_oldest vacant
    rw [awaits.state_pending vacant]
    -- What is pooled at the end of the episode is overdue, however short the time.
    exact Episode.oldestOverdue_extend.mpr
      (.inr ⟨oldest, awaits.toRelates.oldest_stands first, .inr closes⟩)

/-- The machine follows the episodes of every run that is not too long and in which timestamps do not
decrease. -/
def simulation (setting : Setting property trigger behavior bound) {calls : List Call}
    (short : calls.length < UInt64.size)
    (ascending : calls.Pairwise fun first second => first.time ≤ second.time) :
    Simulation property (.response trigger behavior bound) calls
      (Episode.OldestOverdue property.scope trigger behavior bound)
      (fun episode => property.scope.kind.isReentrant = false ∧
        episode.Closed property.scope) where
  relates := Relates property trigger behavior bound
  awaits := Awaits property trigger behavior bound
  tracks := Relates.tracks
  awaits_tracks := fun awaits => awaits.tracks
  undecided := by
    intro episode inst related
    exact ⟨related.prompt, fun settled => related.tracks.ongoing.not_closed settled.2⟩
  enters := by
    intro episode inst entered
    have vacant : inst.pool.records = [] := by rw [Pool.records, entered.vacant]; rfl
    exact {
      tracks := entered.tracks (Core.response_regular trigger behavior bound)
      bindings := entered.bindings
      prompt := not_exists_split entered.calls
      ordered := Pool.Ordered.of_vacant entered.vacant
      covered := by
        rw [vacant, Stands, entered.calls]
        exact Covered.empty fun _ => not_standing_nil
      state := by
        rw [entered.state, if_pos (Pool.isEmpty_iff.mpr vacant)]
        rfl }
  observes := fun latest? related => { related with
    tracks := related.tracks.observed latest?
    bindings := related.bindings }
  passes := fun related upcoming => related.passes setting upcoming short ascending
  waits := fun awaits => awaits.extend setting (Scope.closes_timer _ _) rfl fun _ _ => rfl
  reacts := fun awaits goesOn => awaits.reacts setting goesOn
  closes := fun awaits closes => awaits.closes setting closes
  grows := fun call overdue => Episode.oldestOverdue_extend.mpr (.inl overdue)
  stays := by
    intro episode call settled _ ongoing
    exact absurd settled.2 ongoing.not_closed

end Response

/-- A response is violated exactly by a call that closes the episode while a trigger is not answered,
or at which the time of the oldest such trigger has elapsed. If times elapse in order, then it may be
any such trigger. Without a violation the response is satisfied, in a scope that opens only once, when
the episode is closed. -/
theorem Monitor.response_verdict {property : Property} {machine : Machine} {callbacks : Callbacks}
    {trigger behavior : Event} {bound : Bound} (compiled : property.compile = .ok machine)
    (pattern : property.pattern = .response trigger behavior bound)
    (faithful : property.Tests Predicate.Faithful)
    (apart : ∀ topic ∈ trigger.topics, topic ∉ behavior.topics)
    (distinct : behavior.topics.Nodup) (quiet : callbacks.Quiet) (start : Timestamp)
    (calls : List Call) (short : calls.length < UInt64.size)
    (ascending : calls.Pairwise fun first second => first.time ≤ second.time) :
    (∃ verdict, (Monitor.traced machine callbacks start calls).verdict = .ok verdict ∧
        verdict.Tells
          (∃ episode ∈ property.scope.episodes start calls,
            episode.OldestOverdue property.scope trigger behavior bound)
          (property.scope.kind ≠ .between ∧ ∃ episode ∈ property.scope.episodes start calls,
            episode.Closed property.scope)) ∧
      (bound.ElapsesInOrder (calls.map Call.time) →
        ∀ episode ∈ property.scope.episodes start calls,
          (episode.OldestOverdue property.scope trigger behavior bound ↔
            episode.Overdue property.scope trigger behavior bound)) := by
  obtain ⟨valid, core, made, rfl⟩ := property.compile_cases compiled
  have regular := Pattern.core_regular made
  have tests := faithful.behavior
  rw [pattern] at made tests
  obtain rfl := Except.ok.inj made
  have setting : Response.Setting property trigger behavior bound := ⟨pattern, tests, apart, distinct⟩
  have simulated : Simulated property calls
      (Episode.OldestOverdue property.scope trigger behavior bound)
      (Episode.Closed property.scope) (property.assemble (.response trigger behavior bound)) :=
    .intro (Response.simulation setting short ascending) compiled regular faithful
      (Property.validate_scoped valid)
  refine ⟨simulated.verdict_tells quiet start, fun inOrder episode member => ?_⟩
  exact Episode.oldestOverdue_iff (inOrder.mono (Property.times_of_episode member))

/-- A reply to one request does not answer the other, which is still owed at the stop. -/
theorem Monitor.response_verdict_answered :
    ∃ machine, Property.answered.compile = .ok machine ∧
      (Monitor.traced machine {} (.ofNanos 0)
        [.message "start" ⟨[]⟩ (.ofNanos 1), .message "request" ⟨[("id", .int 7)]⟩ (.ofNanos 2),
          .message "request" ⟨[("id", .int 8)]⟩ (.ofNanos 2),
          .message "reply" ⟨[("id", .int 8)]⟩ (.ofNanos 3),
          .message "stop" ⟨[]⟩ (.ofNanos 4)]).verdict = .ok .violated := by
  have faithful : Property.answered.Tests Predicate.Faithful := .of_atomic (by decide)
  refine ⟨_, rfl, ?_⟩
  obtain ⟨⟨verdict, shown, violated, _⟩, exact⟩ := Monitor.response_verdict rfl rfl
    faithful (by decide) (by decide) Callbacks.quiet_none (.ofNanos 0)
    [.message "start" ⟨[]⟩ (.ofNanos 1), .message "request" ⟨[("id", .int 7)]⟩ (.ofNanos 2),
      .message "request" ⟨[("id", .int 8)]⟩ (.ofNanos 2),
      .message "reply" ⟨[("id", .int 8)]⟩ (.ofNanos 3),
      .message "stop" ⟨[]⟩ (.ofNanos 4)] (by decide) (by decide)
  rw [shown, violated.mpr]
  refine ⟨_, List.mem_cons_self,
    (exact (Bound.elapsesInOrder_of_ordinary (by decide)) _ List.mem_cons_self).mpr ?_⟩
  refine ⟨[_, _, _], _, [], rfl, ?_⟩
  refine ⟨_, ⟨[_, _], ⟨[], _, rfl, rfl, rfl, rfl⟩, fun between member => ?_⟩, .inr rfl⟩
  simp only [List.mem_cons, List.not_mem_nil, or_false] at member
  rcases member with rfl | rfl
  · rfl
  · rfl

/-- Of two requests, the first one falls into the leap second before midnight. At 5.4 seconds after
midnight it is only 4.9 seconds old, and so the second one, which is 5.2 seconds old, is overlooked. -/
theorem Monitor.response_spared_in_leapSecond :
    let start := Timestamp.ofParts 1483228790 0
    let calls := [.message "start" ⟨[]⟩ (.ofParts 1483228795 0),
      .message "request" ⟨[("id", .int 7)]⟩ (.ofParts 1483228799 1500000000),
      .message "request" ⟨[("id", .int 8)]⟩ (.ofParts 1483228800 200000000),
      .timer (.ofParts 1483228805 400000000)]
    calls.Pairwise (fun first second => first.time ≤ second.time) ∧
      (∃ trigger behavior bound, Property.answered.pattern = .response trigger behavior bound ∧
        ∃ episode ∈ Property.answered.scope.episodes start calls,
          episode.Overdue Property.answered.scope trigger behavior bound) ∧
      ∃ machine, Property.answered.compile = .ok machine ∧
        (Monitor.traced machine {} start calls).verdict = .ok .unknown := by
  refine ⟨by decide, ⟨_, _, _, rfl, _, List.mem_cons_self, [_, _], _, [], rfl, ?_⟩, _, rfl, rfl⟩
  refine ⟨_, ⟨[], ⟨[_], _, rfl, rfl, rfl, rfl⟩, fun between member => ?_⟩, .inl rfl⟩
  exact absurd member List.not_mem_nil

end TemporalMonitor
