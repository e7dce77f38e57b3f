import TemporalMonitor.Proofs.Trace.Holding
import TemporalMonitor.Proofs.Trace.Simulation

/-!
What the verdict on a requirement says about a run.

A behavior needs an earlier trigger of the same episode that allows it. There are two machines for
this. If behaviors do not read the trigger and there is no bound, then the first trigger of an episode
decides. Otherwise triggers are pooled: all of them if behaviors read the trigger, and else only the
newest one. As long as times elapse in order, the pooled triggers allow what all those do whose time
has not elapsed.
-/

namespace TemporalMonitor

namespace Episode

variable {scope : Scope} {behavior trigger : Event} {bound : Bound} {episode : Episode} {call : Call}

/-- The first trigger of an episode settles the requirement. -/
def Granted (scope : Scope) (behavior trigger : Event) (bound : Bound) (episode : Episode) : Prop :=
  behavior.readsAliasOf trigger = false ∧ bound = .unbounded ∧
    ∃ record rest, Triggered scope trigger episode.bindings episode.calls record rest

/-- Nothing is refused with one more call that is a trigger, or cannot be a behavior, or is allowed. -/
theorem not_refused_extend {allowed : Bindings → List Call → Call → Prop}
    (met : ¬ episode.Refused scope behavior trigger allowed)
    (harmless : scope.closes episode.bindings call = false →
      trigger.occurs episode.bindings call = false →
      behavior.mayOccur episode.bindings call = true →
      allowed episode.bindings episode.calls call) :
    ¬ (episode.extend call).Refused scope behavior trigger allowed := by
  rw [refused_extend]
  rintro (refused | ⟨isOpen, other, may, refused⟩)
  · exact met refused
  · exact refused (harmless isOpen other may)

theorem not_refused_of_trigger {allowed : Bindings → List Call → Call → Prop}
    (met : ¬ episode.Refused scope behavior trigger allowed)
    (occurs : trigger.occurs episode.bindings call = true) :
    ¬ (episode.extend call).Refused scope behavior trigger allowed := by
  refine not_refused_extend met fun _ other _ => ?_
  rw [occurs] at other
  cases other

theorem Granted.extend (granted : episode.Granted scope behavior trigger bound) :
    (episode.extend call).Granted scope behavior trigger bound := by
  obtain ⟨unread, unbounded, record, rest, triggered⟩ := granted
  exact ⟨unread, unbounded, record, rest ++ [call], triggered.extend call⟩

end Episode

namespace Requirement

variable {property : Property} {behavior trigger : Event} {bound : Bound} {episode : Episode}
  {inst : Instance} {call : Call}

/-- The requirement is settled by the end of the only episode, or by a trigger that allows all. -/
def Settles (property : Property) (behavior trigger : Event) (bound : Bound) (episode : Episode) :
    Prop :=
  property.scope.kind.isReentrant = false ∧
    (episode.Closed property.scope ∨ episode.Granted property.scope behavior trigger bound)

/-- A requirement whose tests read what they declare, and nothing that is not bound. -/
structure Setting (property : Property) (behavior trigger : Event) (bound : Bound) : Prop where
  pattern : property.pattern = .requirement behavior trigger bound
  faithful : property.Tests Predicate.Faithful
  reading : property.Scoped

namespace Setting

variable (setting : Setting property behavior trigger bound)

include setting

theorem behavior_faithful : ∀ branch ∈ behavior.branches, branch.predicate.Faithful := by
  have faithful := setting.faithful.behavior
  rw [setting.pattern] at faithful
  exact faithful

/-- If behaviors do not read the trigger, then all that they read is bound in an episode. -/
theorem mayOccur_eq (unread : behavior.readsAliasOf trigger = false)
    (ongoing : Ongoing property episode) (call : Call) :
    behavior.mayOccur episode.bindings call = behavior.occurs episode.bindings call := by
  have reads := setting.reading.behavior
  rw [Property.behaviorNames, setting.pattern] at reads
  exact Event.mayOccur_of_bound (fun branch member => (setting.behavior_faithful branch member).total)
    (reads.of_unread unread) ongoing.bound call

/-- A trigger that settles the requirement allows every later behavior. -/
theorem allowed_of_granted (granted : episode.Granted property.scope behavior trigger bound)
    (ongoing : Ongoing property episode)
    (may : behavior.mayOccur episode.bindings call = true) :
    Episode.Allowed property.scope behavior trigger bound episode.bindings episode.calls call := by
  obtain ⟨unread, rfl, record, rest, triggered⟩ := granted
  refine ⟨record, rest, triggered, fun _ _ => rfl, ?_⟩
  obtain ⟨before, source, _, triggers⟩ := triggered
  rw [Event.occurs_withRecord setting.behavior_faithful unread triggers.alias_eq,
    ← setting.mayOccur_eq unread ongoing]
  exact may

/-- A terminator settles the requirement, and a scope that can open again waits. -/
theorem concludes {allowed : Bindings → List Call → Call → Prop}
    (met : ¬ episode.Refused property.scope behavior trigger allowed)
    (closes : property.scope.closes episode.bindings call = true) (state : State) :
    Concludes (Episode.Refused property.scope behavior trigger allowed)
      (Settles property behavior trigger bound)
      (closing property.scope.kind.isReentrant property.pattern.kind state).verdict?
      (episode.extend call) := by
  have stillMet : ¬ (episode.extend call).Refused property.scope behavior trigger allowed := by
    refine Episode.not_refused_extend met fun isOpen _ _ => ?_
    rw [closes] at isOpen
    cases isOpen
  have kind : property.pattern.kind = .requirement := by
    rw [setting.pattern]
    rfl
  rw [kind]
  cases reentrant : property.scope.kind.isReentrant with
  | true =>
      refine ⟨stillMet, fun settled => ?_⟩
      have single := settled.1
      rw [reentrant] at single
      cases single
  | false => exact ⟨⟨reentrant, .inl (Episode.closed_extend.mpr (.inr closes))⟩, stillMet⟩

end Setting

/-- An episode that is settled without an end goes on without a violation, if the trigger that settles
it allows all that comes. -/
theorem Settles.stays {allowed : Bindings → List Call → Call → Prop}
    (settled : Settles property behavior trigger bound episode)
    (met : ¬ episode.Refused property.scope behavior trigger allowed)
    (ongoing : Ongoing property episode)
    (grants : episode.Granted property.scope behavior trigger bound →
      behavior.mayOccur episode.bindings call = true →
      allowed episode.bindings episode.calls call) :
    Settles property behavior trigger bound (episode.extend call) ∧
      ¬ (episode.extend call).Refused property.scope behavior trigger allowed := by
  obtain ⟨single, closed | granted⟩ := settled
  · exact absurd closed ongoing.not_closed
  · refine ⟨⟨single, .inr granted.extend⟩, Episode.not_refused_extend met fun _ _ may => ?_⟩
    exact grants granted may

section Simple

/-- The core of a requirement that the first trigger decides. -/
abbrev simpleCore (property : Property) (behavior trigger : Event) : Core :=
  .simpleRequirement property.scope.kind.isReentrant behavior trigger

/-- No trigger has come yet, or one has come and the episode is safe. -/
inductive Phase (property : Property) (trigger : Event) (episode : Episode) (inst : Instance) :
    Prop where
  | engaged (here : inst.state = .engaged) (bindings : inst.bindings = episode.bindings)
      (untriggered : ∀ record rest,
        ¬ Triggered property.scope trigger episode.bindings episode.calls record rest)
  | safe (here : inst.state = .safe)
      (triggered : ∃ record rest,
        Triggered property.scope trigger episode.bindings episode.calls record rest)

/-- An episode in which the requirement is met shows in the state. -/
structure Simple (property : Property) (behavior trigger : Event) (episode : Episode)
    (inst : Instance) : Prop where
  tracks : Tracks property (simpleCore property behavior trigger) episode inst
  met : ¬ episode.Unmet property.scope behavior trigger .unbounded
  phase : Phase property trigger episode inst

theorem safe_isOpen (reentrant : property.scope.kind.isReentrant = true) :
    State.safe ∈ (simpleCore property behavior trigger).openStates := by
  change State.safe ∈ if property.scope.kind.isReentrant then [State.engaged, .safe] else [.engaged]
  rw [reentrant]
  decide

theorem reentrant_of_safe (isOpen : State.safe ∈ (simpleCore property behavior trigger).openStates) :
    property.scope.kind.isReentrant = true := by
  change State.safe ∈ if property.scope.kind.isReentrant then [State.engaged, .safe] else [.engaged]
    at isOpen
  cases reentrant : property.scope.kind.isReentrant with
  | true => rfl
  | false =>
      rw [reentrant] at isOpen
      exact absurd isOpen (by decide)

/-- A call belongs to the episode if before the first trigger it is neither trigger nor behavior. -/
theorem Simple.extend (setting : Setting property behavior trigger .unbounded)
    (unread : behavior.readsAliasOf trigger = false)
    (related : Simple property behavior trigger episode inst)
    (goesOn : property.scope.closes episode.bindings call = false)
    (harmless : inst.state = .engaged → trigger.occurs episode.bindings call = false ∧
      behavior.mayOccur episode.bindings call = false) :
    Simple property behavior trigger (episode.extend call) inst where
  tracks := related.tracks.extend goesOn
  met := by
    refine Episode.not_refused_extend related.met fun _ _ may => ?_
    cases related.phase with
    | engaged here _ _ =>
        rw [(harmless here).2] at may
        cases may
    | safe _ triggered =>
        exact setting.allowed_of_granted ⟨unread, rfl, triggered⟩ related.tracks.ongoing may
  phase := by
    cases related.phase with
    | engaged here bindings untriggered =>
        refine .engaged here bindings fun record rest triggered => ?_
        rcases triggered_append.mp triggered with ⟨_, triggers⟩ | ⟨earlier, _, before⟩
        · have occurs : trigger.occurs episode.bindings call = true := triggers.1
          rw [(harmless here).1] at occurs
          cases occurs
        · exact untriggered record earlier before
    | safe here triggered =>
        obtain ⟨record, rest, triggered⟩ := triggered
        exact .safe here ⟨record, rest ++ [call], triggered.extend call⟩

/-- The first trigger makes the episode safe. -/
theorem Simple.secured (setting : Setting property behavior trigger .unbounded)
    (related : Simple property behavior trigger episode inst) {record : Record}
    (bindings : inst.bindings = episode.bindings)
    (triggers : call.Triggers property.scope trigger episode.bindings record)
    (reentrant : property.scope.kind.isReentrant = true) :
    Simple property behavior trigger (episode.extend call)
      (inst.reacted (.goto .record .safe) record fun _ => false) where
  tracks := by
    have given : property.pattern.trigger? = some trigger := by
      rw [setting.pattern]
      rfl
    refine related.tracks.recorded bindings triggers.2.1 (safe_isOpen reentrant) fun name member => ?_
    rw [triggers.alias_eq]
    exact setting.reading.trigger_alias_ne given member
  met := Episode.not_refused_of_trigger related.met triggers.1
  phase := .safe rfl ⟨record, [], triggers.triggered episode.calls⟩

theorem rules_safe (property : Property) (behavior trigger : Event) (topic : String) :
    rulesFor (simpleCore property behavior trigger).placements topic .safe = [] := by
  refine rulesFor_eq_nil topic .safe fun placement member => ?_
  rcases List.mem_append.mp member with member | member
  · rw [(Event.mem_place member).1]
    decide
  · rw [(Event.mem_place member).1]
    decide

theorem rules_engaged (property : Property) (behavior trigger : Event) (topic : String) :
    rulesFor (simpleCore property behavior trigger).placements topic .engaged =
      trigger.rules .trigger
        (if property.scope.kind.isReentrant then .goto .record .safe else .conclude .record true)
        topic ++
      (behavior.rules .behavior (.conclude .record false) topic ++ []) := by
  rw [List.append_nil]
  simp only [simpleCore, Core.simpleRequirement, rulesFor_append, rulesFor_place_self]

/-- A message that closes nothing is a first trigger, or a behavior too early, or does no harm. -/
theorem Simple.reacts {topic : String} {message : Message} {time : Timestamp}
    (setting : Setting property behavior trigger .unbounded)
    (unread : behavior.readsAliasOf trigger = false)
    (related : Simple property behavior trigger episode inst)
    (goesOn : property.scope.closes episode.bindings (.message topic message time) = false) :
    Progress property (Episode.Unmet property.scope behavior trigger .unbounded)
      (Settles property behavior trigger .unbounded)
      (Simple property behavior trigger (episode.extend (.message topic message time)))
      (episode.extend (.message topic message time))
      (inst.offered topic message time
        (rulesFor (simpleCore property behavior trigger).placements topic inst.state)) := by
  cases related.phase with
  | safe here triggered =>
      rw [here, rules_safe, Instance.offered_nil]
      refine .undecided (related.extend setting unread goesOn fun engaged => ?_)
      rw [here] at engaged
      cases engaged
  | engaged here bindings untriggered =>
      have plain : (if property.scope.kind.isReentrant then Reaction.goto .record .safe
          else .conclude .record true).guard = .message := by
        split <;> rfl
      rw [here, rules_engaged,
        inst.offered_message topic message time trigger .trigger _ _ plain, bindings]
      cases occurs : trigger.occurs episode.bindings (.message topic message time) with
      | true =>
          have triggers : Call.Triggers property.scope trigger episode.bindings
              (.message topic message time) ⟨topic, time, message, trigger.alias?⟩ :=
            ⟨occurs, goesOn, rfl⟩
          rw [if_pos rfl]
          cases reentrant : property.scope.kind.isReentrant with
          | true => exact .undecided (related.secured setting bindings triggers reentrant)
          | false =>
              exact .satisfied reentrant rfl rfl
                ⟨reentrant, .inr ⟨unread, rfl, _, [], triggers.triggered episode.calls⟩⟩
                (Episode.not_refused_of_trigger related.met occurs)
      | false =>
          have may := setting.mayOccur_eq unread related.tracks.ongoing
            (.message topic message time)
          rw [if_neg (by decide),
            inst.offered_message topic message time behavior .behavior _ _ rfl, bindings, ← may]
          cases possible : behavior.mayOccur episode.bindings (.message topic message time) with
          | true =>
              refine .violated rfl rfl (Episode.refused_extend.mpr (.inr
                ⟨goesOn, occurs, possible, ?_⟩))
              rintro ⟨record, rest, triggered, _⟩
              exact untriggered record rest triggered
          | false =>
              exact .undecided (related.extend setting unread goesOn fun _ => ⟨occurs, possible⟩)

/-- The machine without a pool follows the episodes of every run. -/
def simpleSimulation (setting : Setting property behavior trigger .unbounded)
    (unread : behavior.readsAliasOf trigger = false) (calls : List Call) :
    Simulation property (simpleCore property behavior trigger) calls
      (Episode.Unmet property.scope behavior trigger .unbounded)
      (Settles property behavior trigger .unbounded) where
  relates := Simple property behavior trigger
  awaits episode _ := Simple property behavior trigger episode
  tracks := Simple.tracks
  awaits_tracks := Simple.tracks
  undecided := by
    intro episode inst related
    refine ⟨related.met, ?_⟩
    rintro ⟨single, closed | ⟨_, _, record, rest, triggered⟩⟩
    · exact related.tracks.ongoing.not_closed closed
    · cases related.phase with
      | engaged _ _ untriggered => exact untriggered record rest triggered
      | safe here _ =>
          have reentrant := reentrant_of_safe (here ▸ related.tracks.isOpen)
          rw [single] at reentrant
          cases reentrant
  enters := by
    intro episode inst entered
    exact {
      tracks := entered.tracks (Core.simpleRequirement_regular _ behavior trigger)
      met := not_exists_split entered.calls
      phase := .engaged entered.state entered.bindings (by
        rintro record rest ⟨before, source, split, _⟩
        rw [entered.calls] at split
        simp at split) }
  observes := by
    intro episode inst latest? related
    refine ⟨related.tracks.observed latest?, related.met, ?_⟩
    cases related.phase with
    | engaged here bindings untriggered => exact .engaged here bindings untriggered
    | safe here triggered => exact .safe here triggered
  passes := by
    intro episode inst call related _
    have limit : (property.assemble (simpleCore property behavior trigger)).bound = .unbounded := by
      change property.pattern.bound = .unbounded
      rw [setting.pattern]
      rfl
    rw [Machine.checkDeadline_of_unbounded limit]
    exact .undecided related
  waits := fun related =>
    related.extend setting unread (Scope.closes_timer _ _) fun _ => ⟨rfl, rfl⟩
  reacts := fun related goesOn => related.reacts setting unread goesOn
  closes := fun related closes => setting.concludes related.met closes _
  grows := fun call unmet => Episode.refused_extend.mpr (.inl unmet)
  stays := fun _ settled met ongoing => settled.stays met ongoing fun granted may =>
    setting.allowed_of_granted granted ongoing may

end Simple

section Pooled

/-- The triggers of an episode that are held after its calls. -/
abbrev Held (property : Property) (behavior trigger : Event) (bound : Bound) (episode : Episode) :
    List Record :=
  held property.scope trigger episode.bindings (behavior.readsAliasOf trigger) bound episode.calls

/-- An episode in which the requirement is met, and after which these triggers are held, shows in the
pool. -/
structure Pooled (property : Property) (behavior trigger : Event) (bound : Bound)
    (records : List Record) (episode : Episode) (inst : Instance) : Prop where
  tracks : Tracks property (.pooledRequirement behavior trigger bound) episode inst
  bindings : inst.bindings = episode.bindings
  met : ¬ episode.Unbacked property.scope behavior trigger bound
  ordered : inst.pool.Ordered
  shown : inst.pool.records = records

theorem Pooled.state_eq {records : List Record}
    (related : Pooled property behavior trigger bound records episode inst) :
    inst.state = .engaged :=
  List.mem_singleton.mp related.tracks.isOpen

/-- When time passes, records whose time has elapsed are dropped. -/
theorem Pooled.passes (setting : Setting property behavior trigger bound)
    (related : Pooled property behavior trigger bound (Held property behavior trigger bound episode)
      episode inst) (now : Timestamp) :
    Pooled property behavior trigger bound
      (bound.remaining now (Held property behavior trigger bound episode)) episode
      ((property.assemble (.pooledRequirement behavior trigger bound)).checkDeadline inst
        now).inst := by
  have limit : (property.assemble (.pooledRequirement behavior trigger bound)).bound = bound := by
    change property.pattern.bound = bound
    rw [setting.pattern]
    rfl
  cases bound with
  | unbounded =>
      rw [Machine.checkDeadline_of_unbounded limit, Bound.remaining_unbounded]
      exact related
  | within span =>
      have timed : (property.assemble (.pooledRequirement behavior trigger
          (.within span))).deadline? inst.state = some ⟨.oldestPooled, .evict⟩ := by
        have bounded : (Bound.within span).isBounded = true := rfl
        rw [related.state_eq]
        exact Core.lookup_deadlineIf bounded .engaged _
      rw [(Machine.checkDeadline_of_evict timed limit).2]
      refine ⟨?_, related.bindings, related.met, ?_, ?_⟩
      · exact ⟨related.tracks.isOpen, related.tracks.verdict, related.tracks.start,
          related.tracks.agree, related.tracks.ongoing⟩
      · exact related.ordered.sublist (List.dropWhile_sublist _)
      · rw [← related.shown]
        exact Pool.records_evict _ _ _

/-- A call that is no trigger leaves the pool as it is. -/
theorem Pooled.extend (call : Call)
    (related : Pooled property behavior trigger bound
      (bound.remaining call.time (Held property behavior trigger bound episode)) episode inst)
    (goesOn : property.scope.closes episode.bindings call = false)
    (other : trigger.occurs episode.bindings call = false)
    (harmless : behavior.mayOccur episode.bindings call = false ∨
      Episode.Backed property.scope behavior trigger bound episode.bindings episode.calls call) :
    Pooled property behavior trigger bound
      (Held property behavior trigger bound (episode.extend call)) (episode.extend call) inst where
  tracks := related.tracks.extend goesOn
  bindings := related.bindings
  met := by
    refine Episode.not_refused_extend related.met fun _ _ may => ?_
    rcases harmless with impossible | backed
    · rw [impossible] at may
      cases may
    · exact backed
  ordered := related.ordered
  shown := by
    rw [Held, Episode.extend_calls, Episode.extend_bindings, held_append, hold_of_other other]
    exact related.shown

/-- A trigger is pooled if all are held, or if none that is held is newer. -/
theorem records_updated {pool : Pool} (ordered : pool.Ordered) (isCorrelated : Bool)
    (record : Record) :
    (pool.updated (if isCorrelated then .push else .replace) record).records =
      record.joined isCorrelated pool.records := by
  cases isCorrelated with
  | true => exact ordered.records_stored record
  | false =>
      have newer : pool.holdsNewerThan record =
          pool.records.any fun other => decide (record.timestamp < other.timestamp) := by
        rw [Bool.eq_iff_iff, ordered.holdsNewerThan_iff, List.any_eq_true]
        simp only [decide_eq_true_eq]
      rw [Record.joined, if_neg (by decide), if_neg (by decide), ← newer]
      unfold Pool.updated
      dsimp only
      split
      · rfl
      · rfl

/-- A trigger is held as well, or else a newer one is. -/
theorem Pooled.store (call : Call)
    (related : Pooled property behavior trigger bound
      (bound.remaining call.time (Held property behavior trigger bound episode)) episode inst)
    (numbers : inst.pool.nextArrival.toNat + 1 < UInt64.size) {record : Record}
    (triggers : call.Triggers property.scope trigger episode.bindings record)
    (discharged : Record → Bool) :
    Pooled property behavior trigger bound
      (Held property behavior trigger bound (episode.extend call)) (episode.extend call)
      (inst.reacted (.pooling .message
        (if behavior.readsAliasOf trigger then .push else .replace) .stay) record discharged) where
  tracks := by
    refine (related.tracks.pooling _ _ record discharged ?_).extend triggers.2.1
    exact related.tracks.isOpen
  bindings := (inst.bindings_pooling _ _ _ record discharged).trans related.bindings
  met := Episode.not_refused_of_trigger related.met triggers.1
  ordered := related.ordered.updated _ record numbers
  shown := by
    rw [Held, Episode.extend_calls, Episode.extend_bindings, held_append,
      hold_of_triggers triggers, ← related.shown]
    exact records_updated related.ordered _ record

/-- What the machine with a pool makes of a message that closes nothing. -/
theorem rules_pooled (behavior trigger : Event) (bound : Bound) (topic : String) :
    rulesFor (Core.pooledRequirement behavior trigger bound).placements topic .engaged =
      trigger.rules .trigger
        (.pooling .message (if behavior.readsAliasOf trigger then .push else .replace) .stay) topic ++
      (behavior.rules .behavior (.pooling .anyPooled .keep .stay) topic ++
        (behavior.rules .behavior
          (if behavior.readsAliasOf trigger then
            { Reaction.conclude .record false with guard := .undecided }
            else .conclude .record false) topic ++ [])) := by
  simp only [Core.pooledRequirement, rulesFor_append, rulesFor_place_self, List.append_assoc,
    List.append_nil]

/-- A behavior that may occur and that no pooled record allows violates the requirement. -/
theorem Setting.offered_unmatched (setting : Setting property behavior trigger bound)
    (ongoing : Ongoing property episode) (bindings : inst.bindings = episode.bindings)
    (topic : String) (message : Message) (time : Timestamp) :
    ∃ record guard,
      inst.offered topic message time
        (behavior.rules .behavior
          (if behavior.readsAliasOf trigger then
            { Reaction.conclude .record false with guard := .undecided }
            else .conclude .record false) topic ++ []) =
        if behavior.mayOccur episode.bindings (.message topic message time) then
          inst.reacted { Reaction.conclude .record false with guard := guard } record fun _ => false
        else inst := by
  cases correlated : behavior.readsAliasOf trigger with
  | true =>
      rw [if_pos rfl, inst.offered_undecided topic message time behavior .behavior _ _ rfl, bindings]
      exact ⟨_, _, rfl⟩
  | false =>
      rw [if_neg (by decide), inst.offered_message topic message time behavior .behavior _ _ rfl,
        bindings, ← setting.mayOccur_eq correlated ongoing]
      exact ⟨_, .message, rfl⟩

/-- A message that closes nothing is a trigger, or a behavior that is allowed or not. -/
theorem Pooled.reacts {topic : String} {message : Message} {time : Timestamp}
    {settles : Episode → Prop} (setting : Setting property behavior trigger bound)
    (related : Pooled property behavior trigger bound
      (bound.remaining time (Held property behavior trigger bound episode)) episode inst)
    (numbers : inst.pool.nextArrival.toNat + 1 < UInt64.size)
    (goesOn : property.scope.closes episode.bindings (.message topic message time) = false) :
    Progress property (Episode.Unbacked property.scope behavior trigger bound) settles
      (fun next => Pooled property behavior trigger bound
        (Held property behavior trigger bound (episode.extend (.message topic message time)))
        (episode.extend (.message topic message time)) next)
      (episode.extend (.message topic message time))
      (inst.offered topic message time
        (rulesFor (Core.pooledRequirement behavior trigger bound).placements topic inst.state)) := by
  rw [related.state_eq, rules_pooled,
    inst.offered_message topic message time trigger .trigger _ _ rfl, related.bindings]
  cases occurs : trigger.occurs episode.bindings (.message topic message time) with
  | true =>
      exact .undecided (related.store (.message topic message time) numbers ⟨occurs, goesOn, rfl⟩ _)
  | false =>
      rw [if_neg (by decide), inst.offered_anyPooled topic message time behavior .behavior _ _ rfl,
        related.bindings, related.shown]
      cases allowed : (bound.remaining time (Held property behavior trigger bound episode)).any
          fun pooled => behavior.occurs (episode.bindings.withRecord pooled)
            (.message topic message time) with
      | true =>
          obtain ⟨pooled, member, behaves⟩ := List.any_eq_true.mp allowed
          have kept := related.extend (.message topic message time) goesOn occurs
            (.inr ⟨pooled, member, behaves⟩)
          exact .undecided {
            tracks := kept.tracks.pooling _ _ _ _ kept.tracks.isOpen
            bindings := (inst.bindings_pooling _ _ _ _ _).trans kept.bindings
            met := kept.met
            ordered := kept.ordered
            shown := kept.shown }
      | false =>
          obtain ⟨record, guard, unmatched⟩ := setting.offered_unmatched related.tracks.ongoing
            related.bindings topic message time
          rw [if_neg (by decide), unmatched]
          cases possible : behavior.mayOccur episode.bindings (.message topic message time) with
          | false => exact .undecided (related.extend (.message topic message time) goesOn occurs
              (.inl possible))
          | true =>
              refine .violated rfl rfl (Episode.refused_extend.mpr (.inr
                ⟨goesOn, occurs, possible, ?_⟩))
              rintro ⟨pooled, member, behaves⟩
              exact List.any_eq_false.mp allowed pooled member behaves

/-- The machine with a pool follows the episodes of every run that is not too long. -/
def pooledSimulation (setting : Setting property behavior trigger bound)
    (pooled : behavior.readsAliasOf trigger = false → bound ≠ .unbounded) {calls : List Call}
    (short : calls.length < UInt64.size) :
    Simulation property (.pooledRequirement behavior trigger bound) calls
      (Episode.Unbacked property.scope behavior trigger bound)
      (Settles property behavior trigger bound) where
  relates episode inst := Pooled property behavior trigger bound
    (Held property behavior trigger bound episode) episode inst
  awaits episode call inst := Pooled property behavior trigger bound
    (bound.remaining call.time (Held property behavior trigger bound episode)) episode inst ∧
    inst.pool.nextArrival.toNat + 1 < UInt64.size
  tracks := Pooled.tracks
  awaits_tracks := fun related => related.1.tracks
  undecided := by
    intro episode inst related
    refine ⟨related.met, ?_⟩
    rintro ⟨_, closed | ⟨unread, unbounded, _⟩⟩
    · exact related.tracks.ongoing.not_closed closed
    · exact pooled unread unbounded
  enters := by
    intro episode inst entered
    exact {
      tracks := entered.tracks (Core.pooledRequirement_regular behavior trigger bound)
      bindings := entered.bindings
      met := not_exists_split entered.calls
      ordered := Pool.Ordered.of_vacant entered.vacant
      shown := by
        rw [Held, entered.calls, Pool.records, entered.vacant]
        rfl }
  observes := fun latest? related => { related with
    tracks := related.tracks.observed latest?
    bindings := related.bindings }
  passes := by
    intro episode inst call related upcoming
    refine .undecided ⟨related.passes setting call.time, ?_⟩
    rw [Machine.nextArrival_checkDeadline]
    exact upcoming.numbers short
  waits := by
    intro episode inst time related
    exact related.1.extend (.timer time) (Scope.closes_timer _ _) rfl (.inl rfl)
  reacts := fun related goesOn => related.1.reacts setting related.2 goesOn
  closes := fun related closes => setting.concludes related.1.met closes _
  grows := fun call unbacked => Episode.refused_extend.mpr (.inl unbacked)
  stays := fun _ settled met ongoing => settled.stays met ongoing fun granted _ =>
    absurd granted.2.1 (pooled granted.1)

end Pooled

/-- The machine of a requirement follows every run that is not too long. -/
theorem simulated {machine : Machine} (compiled : property.compile = .ok machine)
    (pattern : property.pattern = .requirement behavior trigger bound)
    (faithful : property.Tests Predicate.Faithful) {calls : List Call}
    (short : calls.length < UInt64.size) :
    Simulated property calls (Episode.Unbacked property.scope behavior trigger bound)
      (fun episode => episode.Closed property.scope ∨
        episode.Granted property.scope behavior trigger bound) machine := by
  obtain ⟨valid, core, made, rfl⟩ := property.compile_cases compiled
  have regular := Pattern.core_regular made
  have reading := Property.validate_scoped valid
  have setting : Setting property behavior trigger bound := ⟨pattern, faithful, reading⟩
  rw [pattern] at made
  obtain rfl := Except.ok.inj made
  by_cases vacant : Core.requirementCapacity (behavior.readsAliasOf trigger) bound = .zero
  · rw [Core.requirement, if_pos vacant] at compiled regular ⊢
    obtain ⟨unread, rfl⟩ := Core.requirementCapacity_eq_zero.mp vacant
    -- Without a bound no time elapses, so the two laws are the same.
    have same : Episode.Unbacked property.scope behavior trigger .unbounded =
        Episode.Unmet property.scope behavior trigger .unbounded :=
      funext fun episode => propext
        (Episode.unbacked_iff setting.behavior_faithful (Bound.elapsesInOrder_unbounded _))
    rw [same]
    exact .intro (simpleSimulation setting unread calls) compiled regular faithful reading
  · rw [Core.requirement, if_neg vacant] at compiled regular ⊢
    have pooled : behavior.readsAliasOf trigger = false → bound ≠ .unbounded :=
      fun unread unbounded => vacant (Core.requirementCapacity_eq_zero.mpr ⟨unread, unbounded⟩)
    exact .intro (pooledSimulation setting pooled short) compiled regular faithful reading

end Requirement

/-- A requirement is violated exactly by what may be a behavior, is no trigger, and is allowed by none
that is held. If times elapse in order, then these allow as much as all triggers whose time has not
elapsed at any call since. Without a violation the requirement is satisfied, in a scope that opens only
once, as soon as the episode is closed or a trigger allows all that comes. -/
theorem Monitor.requirement_verdict {property : Property} {machine : Machine}
    {callbacks : Callbacks} {behavior trigger : Event} {bound : Bound}
    (compiled : property.compile = .ok machine)
    (pattern : property.pattern = .requirement behavior trigger bound)
    (faithful : property.Tests Predicate.Faithful) (quiet : callbacks.Quiet) (start : Timestamp)
    (calls : List Call) (short : calls.length < UInt64.size) :
    (∃ verdict, (Monitor.traced machine callbacks start calls).verdict = .ok verdict ∧
        verdict.Tells
          (∃ episode ∈ property.scope.episodes start calls,
            episode.Unbacked property.scope behavior trigger bound)
          (property.scope.kind ≠ .between ∧ ∃ episode ∈ property.scope.episodes start calls,
            episode.Closed property.scope ∨
              episode.Granted property.scope behavior trigger bound)) ∧
      (bound.ElapsesInOrder (calls.map Call.time) →
        ∀ episode ∈ property.scope.episodes start calls,
          (episode.Unbacked property.scope behavior trigger bound ↔
            episode.Unmet property.scope behavior trigger bound)) := by
  have simulated := Requirement.simulated compiled pattern faithful short
  have tests := faithful.behavior
  rw [pattern] at tests
  refine ⟨simulated.verdict_tells quiet start, fun inOrder episode member => ?_⟩
  exact Episode.unbacked_iff tests (inOrder.mono (Property.times_of_episode member))

/-- Until the stop, an access needs a login of the same user in the last 9.7 seconds. -/
def Property.vouched : Property where
  scope := .upTo { branches := [{ topic := "stop" }] }
  pattern := .requirement
    { branches := [{
        topic := "access"
        predicate := .compare "user" .eq (.field "login" "user") }] }
    { alias? := some "login", branches := [{ topic := "login" }] }
    (.within ⟨9700000000⟩)

/-- A login whose time has elapsed once allows nothing any more, even if time runs backwards. -/
theorem Monitor.requirement_verdict_vouched :
    ∃ machine, Property.vouched.compile = .ok machine ∧
      (Monitor.traced machine {} (.ofNanos 0)
        [.message "login" ⟨[("user", .int 7)]⟩ (.ofNanos 1), .timer (.ofNanos 9700000001),
          .message "access" ⟨[("user", .int 7)]⟩ (.ofNanos 5)]).verdict = .ok .violated := by
  have faithful : Property.vouched.Tests Predicate.Faithful := .of_atomic (by decide)
  refine ⟨_, rfl, ?_⟩
  obtain ⟨⟨verdict, shown, violated, _⟩, exact⟩ := Monitor.requirement_verdict rfl rfl faithful
    Callbacks.quiet_none (.ofNanos 0)
    [.message "login" ⟨[("user", .int 7)]⟩ (.ofNanos 1), .timer (.ofNanos 9700000001),
      .message "access" ⟨[("user", .int 7)]⟩ (.ofNanos 5)] (by decide)
  rw [shown, violated.mpr]
  refine ⟨_, List.mem_cons_self,
    (exact (Bound.elapsesInOrder_of_ordinary (by decide)) _ List.mem_cons_self).mpr ?_⟩
  refine ⟨[_, _], _, [], rfl, rfl, rfl, rfl, ?_⟩
  rintro ⟨record, rest, ⟨before, source, split, triggers⟩, kept, _⟩
  rcases before with _ | ⟨_, _ | ⟨_, _⟩⟩
  · obtain ⟨rfl, rfl⟩ := List.cons.inj split
    have late := kept (.timer (.ofNanos 9700000001)) (by simp)
    rw [triggers.time_eq] at late
    cases late
  · obtain ⟨rfl, _⟩ := List.cons.inj (List.cons.inj split).2
    exact nomatch triggers.1
  · simp at split

/-- Of two logins, the first one falls into the leap second before midnight. Ten seconds after midnight
it is only 9.5 seconds old, and so the second one, which is 9.8 seconds old, still allows an access. -/
theorem Monitor.requirement_spared_in_leapSecond :
    let start := Timestamp.ofParts 1483228790 0
    let calls := [.message "login" ⟨[("user", .int 1)]⟩ (.ofParts 1483228799 1500000000),
      .message "login" ⟨[("user", .int 2)]⟩ (.ofParts 1483228800 200000000),
      .message "access" ⟨[("user", .int 2)]⟩ (.ofParts 1483228810 0)]
    (∃ behavior trigger bound, Property.vouched.pattern = .requirement behavior trigger bound ∧
        ∃ episode ∈ Property.vouched.scope.episodes start calls,
          episode.Unmet Property.vouched.scope behavior trigger bound) ∧
      ∃ machine, Property.vouched.compile = .ok machine ∧
        (Monitor.traced machine {} start calls).verdict = .ok .unknown := by
  refine ⟨⟨_, _, _, rfl, _, List.mem_cons_self, [_, _], _, [], rfl, rfl, rfl, rfl, ?_⟩, _, rfl, rfl⟩
  rintro ⟨record, rest, ⟨before, source, split, _, _, recorded⟩, kept, behaves⟩
  rcases before with _ | ⟨_, _ | ⟨_, _⟩⟩
  · obtain ⟨rfl, rfl⟩ := List.cons.inj split
    obtain rfl := Option.some.inj recorded
    cases behaves
  · obtain ⟨rfl, rfl⟩ := List.cons.inj (List.cons.inj split).2
    obtain rfl := Option.some.inj recorded
    cases kept _ List.mem_cons_self
  · simp at split

end TemporalMonitor
