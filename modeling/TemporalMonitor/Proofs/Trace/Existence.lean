import TemporalMonitor.Proofs.Trace.Simulation

/-!
What the verdict on an existence says about a run.

The behavior must occur in an episode before the time of the episode has elapsed, and before the
episode is closed. Once it has occurred the clock stops: a scope that opens only once is settled, and
one that can open again is safe until the terminator comes.
-/

namespace TemporalMonitor

namespace Episode

variable {scope : Scope} {behavior : Event} {bound : Bound} {episode : Episode} {call : Call}

/-- At some call the time of the episode has elapsed, or the episode is closed, and no earlier call is
a behavior. -/
def Missed (scope : Scope) (behavior : Event) (bound : Bound) (episode : Episode) : Prop :=
  ∃ before call after, episode.calls = before ++ call :: after ∧
    (bound.hasElapsed episode.start call.time = true ∨
      scope.closes episode.bindings call = true) ∧
    ∀ earlier ∈ before, behavior.occurs episode.bindings earlier = false

/-- The behavior occurs in the episode. -/
def Found (behavior : Event) (episode : Episode) : Prop :=
  ∃ call ∈ episode.calls, behavior.occurs episode.bindings call = true

/-- One more call misses the behavior if it comes too late, or ends the episode, without one. -/
theorem missed_extend :
    (episode.extend call).Missed scope behavior bound ↔
      episode.Missed scope behavior bound ∨
        (bound.hasElapsed episode.start call.time = true ∨
          scope.closes episode.bindings call = true) ∧
        ∀ earlier ∈ episode.calls, behavior.occurs episode.bindings earlier = false :=
  exists_split_append

theorem Found.extend (found : episode.Found behavior) (call : Call) :
    (episode.extend call).Found behavior := by
  obtain ⟨seen, member, occurs⟩ := found
  exact ⟨seen, List.mem_append_left _ member, occurs⟩

/-- Once the behavior has occurred, nothing that comes later misses it. -/
theorem Found.not_missed_extend (found : episode.Found behavior)
    (kept : ¬ episode.Missed scope behavior bound) :
    ¬ (episode.extend call).Missed scope behavior bound := by
  rw [missed_extend]
  rintro (missed | ⟨_, unseen⟩)
  · exact kept missed
  · obtain ⟨seen, member, occurs⟩ := found
    rw [unseen seen member] at occurs
    cases occurs

/-- A call in time that does not close the episode misses nothing. -/
theorem not_missed_extend (kept : ¬ episode.Missed scope behavior bound)
    (inTime : bound.hasElapsed episode.start call.time = false)
    (goesOn : scope.closes episode.bindings call = false) :
    ¬ (episode.extend call).Missed scope behavior bound := by
  rw [missed_extend, inTime, goesOn]
  rintro (missed | ⟨late | closes, _⟩)
  · exact kept missed
  · cases late
  · cases closes

end Episode

namespace Existence

variable {property : Property} {behavior : Event} {bound : Bound} {episode : Episode}
  {inst : Instance} {call : Call}

/-- The core of an existence in the scope of the property. -/
abbrev core (property : Property) (behavior : Event) (bound : Bound) : Core :=
  .existence property.scope.kind.isReentrant behavior bound

/-- The behavior is still missing, or it has occurred and the episode is safe. -/
inductive Phase (behavior : Event) (episode : Episode) (inst : Instance) : Prop where
  | engaged (here : inst.state = .engaged) (bindings : inst.bindings = episode.bindings)
      (unseen : ∀ call ∈ episode.calls, behavior.occurs episode.bindings call = false)
  | safe (here : inst.state = .safe) (found : episode.Found behavior)

/-- An episode in which the behavior is not missed shows in the state. -/
structure Relates (property : Property) (behavior : Event) (bound : Bound) (episode : Episode)
    (inst : Instance) : Prop where
  tracks : Tracks property (core property behavior bound) episode inst
  kept : ¬ episode.Missed property.scope behavior bound
  phase : Phase behavior episode inst

/-- As long as the behavior is missing, the next call comes in time. -/
structure Awaits (property : Property) (behavior : Event) (bound : Bound) (episode : Episode)
    (call : Call) (inst : Instance) : Prop
    extends Relates property behavior bound episode inst where
  inTime : inst.state = .engaged → bound.hasElapsed episode.start call.time = false

theorem safe_isOpen_iff (property : Property) (behavior : Event) (bound : Bound) :
    State.safe ∈ (core property behavior bound).openStates ↔
      property.scope.kind.isReentrant = true := by
  change State.safe ∈ (if property.scope.kind.isReentrant then [State.engaged, .safe]
    else [.engaged]) ↔ _
  cases property.scope.kind.isReentrant <;> decide

/-- Time lets an episode go on, or the behavior has been missing for too long. -/
theorem Relates.passes {settles : Episode → Prop}
    (pattern : property.pattern = .existence behavior bound)
    (related : Relates property behavior bound episode inst) :
    Progress property (Episode.Missed property.scope behavior bound) settles
      (Awaits property behavior bound episode call) (episode.extend call)
      ((property.assemble (core property behavior bound)).checkDeadline inst call.time).inst := by
  have limit : (property.assemble (core property behavior bound)).bound = bound := by
    change property.pattern.bound = bound
    rw [pattern]
    rfl
  cases related.phase with
  | safe here found =>
      have untimed : (property.assemble (core property behavior bound)).deadline? inst.state =
          none := by
        rw [here]
        exact Core.lookup_deadlineIf_other bound (by decide) _
      rw [Machine.checkDeadline_of_none untimed]
      exact .undecided ⟨related, fun engaged => State.noConfusion (here.symm.trans engaged)⟩
  | engaged here bindings unseen =>
      have anchored : Machine.reference? inst .episodeStart = some episode.start :=
        related.tracks.start
      rw [Machine.checkDeadline_deadlineIf rfl limit here anchored]
      cases elapsed : bound.hasElapsed episode.start call.time with
      | false => exact .undecided ⟨related, fun _ => elapsed⟩
      | true =>
          rw [if_pos rfl, (Machine.overrun_keep inst _ _ call.time).2]
          exact .violated rfl rfl (Episode.missed_extend.mpr (.inr ⟨.inl elapsed, unseen⟩))

namespace Awaits

/-- A call that is no first behavior, and closes nothing, belongs to the episode. -/
theorem extend (awaits : Awaits property behavior bound episode call inst)
    (goesOn : property.scope.closes episode.bindings call = false)
    (other : inst.state = .engaged → behavior.occurs episode.bindings call = false) :
    Relates property behavior bound (episode.extend call) inst where
  tracks := awaits.tracks.extend goesOn
  kept := by
    cases awaits.phase with
    | engaged here _ _ => exact Episode.not_missed_extend awaits.kept (awaits.inTime here) goesOn
    | safe _ found => exact found.not_missed_extend awaits.kept
  phase := by
    cases awaits.phase with
    | engaged here bindings unseen =>
        refine .engaged here bindings fun earlier member => ?_
        rcases List.mem_append.mp member with old | new
        · exact unseen earlier old
        · obtain rfl := List.mem_singleton.mp new
          exact other here
    | safe here found => exact .safe here (found.extend call)

/-- A message that closes nothing is the first behavior, or changes nothing. -/
theorem reacts {topic : String} {message : Message} {time : Timestamp}
    (pattern : property.pattern = .existence behavior bound) (reading : property.Scoped)
    (awaits : Awaits property behavior bound episode (.message topic message time) inst)
    (goesOn : property.scope.closes episode.bindings (.message topic message time) = false) :
    Progress property (Episode.Missed property.scope behavior bound)
      (fun episode => property.scope.kind.isReentrant = false ∧ episode.Found behavior)
      (Relates property behavior bound (episode.extend (.message topic message time)))
      (episode.extend (.message topic message time))
      (inst.offered topic message time
        (rulesFor (core property behavior bound).placements topic inst.state)) := by
  cases awaits.phase with
  | safe here found =>
      have quiet : rulesFor (core property behavior bound).placements topic inst.state = [] := by
        rw [here]
        exact rulesFor_place topic .safe behavior .behavior .engaged _
      rw [quiet]
      refine .undecided (awaits.extend goesOn fun engaged => ?_)
      rw [here] at engaged
      cases engaged
  | engaged here bindings unseen =>
      have rules : rulesFor (core property behavior bound).placements topic inst.state =
          behavior.rules .behavior
            (if property.scope.kind.isReentrant then .goto .record .safe
              else .conclude .record true) topic ++ [] := by
        rw [here, List.append_nil]
        exact rulesFor_place_self topic .engaged behavior .behavior _
      have plain : (if property.scope.kind.isReentrant then Reaction.goto .record .safe
          else .conclude .record true).guard = .message := by
        split <;> rfl
      rw [rules, inst.offered_message topic message time behavior .behavior _ [] plain, bindings]
      cases occurs : behavior.occurs episode.bindings (.message topic message time) with
      | false => exact .undecided (awaits.extend goesOn fun _ => occurs)
      | true =>
          have found : (episode.extend (.message topic message time)).Found behavior :=
            ⟨_, List.mem_append_right _ List.mem_cons_self, occurs⟩
          have kept := Episode.not_missed_extend awaits.kept (awaits.inTime here) goesOn
          rw [if_pos rfl]
          -- Where further episodes may come, this one only has to be left.
          cases reentrant : property.scope.kind.isReentrant with
          | false => exact .satisfied reentrant rfl rfl ⟨rfl, found⟩ kept
          | true =>
              have isOpen := (safe_isOpen_iff property behavior bound).mpr reentrant
              refine .undecided ⟨awaits.tracks.recorded bindings goesOn isOpen ?_, kept,
                .safe rfl found⟩
              intro name member
              have different := reading.behavior_alias_ne member
              rw [pattern] at different
              exact different

/-- A terminator finds the behavior missing, or lets a safe episode end. -/
theorem closes (pattern : property.pattern = .existence behavior bound)
    (awaits : Awaits property behavior bound episode call inst)
    (closes : property.scope.closes episode.bindings call = true) :
    Concludes (Episode.Missed property.scope behavior bound)
      (fun episode => property.scope.kind.isReentrant = false ∧ episode.Found behavior)
      (closing property.scope.kind.isReentrant property.pattern.kind inst.state).verdict?
      (episode.extend call) := by
  have kind : property.pattern.kind = .existence := by
    rw [pattern]
    rfl
  rw [kind]
  cases awaits.phase with
  | engaged here _ unseen =>
      rw [here]
      exact Episode.missed_extend.mpr (.inr ⟨.inr closes, unseen⟩)
  | safe here found =>
      have isOpen := awaits.tracks.isOpen
      rw [here] at isOpen
      have reentrant := (safe_isOpen_iff property behavior bound).mp isOpen
      rw [here, reentrant]
      exact ⟨found.not_missed_extend awaits.kept, fun settled => Bool.noConfusion settled.1⟩

end Awaits

/-- The machine of an existence follows the episodes of every run. -/
def simulation (pattern : property.pattern = .existence behavior bound) (reading : property.Scoped)
    (calls : List Call) :
    Simulation property (core property behavior bound) calls
      (Episode.Missed property.scope behavior bound)
      (fun episode => property.scope.kind.isReentrant = false ∧ episode.Found behavior) where
  relates := Relates property behavior bound
  awaits := Awaits property behavior bound
  tracks := Relates.tracks
  awaits_tracks := fun awaits => awaits.tracks
  undecided := by
    intro episode inst related
    refine ⟨related.kept, ?_⟩
    rintro ⟨single, call, member, occurs⟩
    cases related.phase with
    | engaged _ _ unseen =>
        rw [unseen call member] at occurs
        cases occurs
    | safe here _ =>
        have isOpen := related.tracks.isOpen
        rw [here, safe_isOpen_iff, single] at isOpen
        cases isOpen
  enters := by
    intro episode inst entered
    exact {
      tracks := entered.tracks (Core.existence_regular _ behavior bound)
      kept := not_exists_split entered.calls
      phase := .engaged entered.state entered.bindings (by
        rw [entered.calls]
        exact fun _ member => absurd member List.not_mem_nil) }
  observes := by
    intro episode inst latest? related
    refine ⟨related.tracks.observed latest?, related.kept, ?_⟩
    cases related.phase with
    | engaged here bindings unseen => exact .engaged here bindings unseen
    | safe here found => exact .safe here found
  passes := fun related _ => related.passes pattern
  waits := fun awaits => awaits.extend (Scope.closes_timer _ _) fun _ => rfl
  reacts := fun awaits goesOn => awaits.reacts pattern reading goesOn
  closes := fun awaits closes => awaits.closes pattern closes
  grows := fun call missed => Episode.missed_extend.mpr (.inl missed)
  stays := by
    intro episode call settled kept _
    exact ⟨⟨settled.1, settled.2.extend call⟩, settled.2.not_missed_extend kept⟩

/-- The machine of an existence follows every run. -/
theorem simulated {machine : Machine} (compiled : property.compile = .ok machine)
    (pattern : property.pattern = .existence behavior bound)
    (faithful : property.Tests Predicate.Faithful) (calls : List Call) :
    Simulated property calls (Episode.Missed property.scope behavior bound)
      (Episode.Found behavior) machine := by
  obtain ⟨valid, core, made, rfl⟩ := property.compile_cases compiled
  have regular := Pattern.core_regular made
  have reading := Property.validate_scoped valid
  rw [pattern] at made
  obtain rfl := Except.ok.inj made
  exact .intro (simulation pattern reading calls) compiled regular faithful reading

end Existence

/-- An existence is violated exactly by an episode whose time elapses, or which is closed, before the
behavior occurs. Without a violation it is satisfied, in a scope that opens only once, as soon as the
behavior has occurred. -/
theorem Monitor.existence_verdict {property : Property} {machine : Machine} {callbacks : Callbacks}
    {behavior : Event} {bound : Bound} (compiled : property.compile = .ok machine)
    (pattern : property.pattern = .existence behavior bound)
    (faithful : property.Tests Predicate.Faithful) (quiet : callbacks.Quiet) (start : Timestamp)
    (calls : List Call) :
    ∃ verdict, (Monitor.traced machine callbacks start calls).verdict = .ok verdict ∧
      verdict.Tells
        (∃ episode ∈ property.scope.episodes start calls,
          episode.Missed property.scope behavior bound)
        (property.scope.kind ≠ .between ∧ ∃ episode ∈ property.scope.episodes start calls,
          episode.Found behavior) :=
  (Existence.simulated compiled pattern faithful calls).verdict_tells quiet start

/-- From each start to the next stop, the sensor that was started reports within ten nanoseconds. -/
def Property.reported : Property where
  scope := .between { alias? := some "start", branches := [{ topic := "start" }] }
    { branches := [{ topic := "stop" }] }
  pattern := .existence
    { alias? := some "report"
      branches := [{
        topic := "report"
        predicate := .compare "sensor" .eq (.field "start" "sensor") }] }
    (.within ⟨10⟩)

/-- A good episode does not make up for the next one, in which another sensor reports. -/
theorem Monitor.existence_verdict_reported :
    ∃ machine, Property.reported.compile = .ok machine ∧
      (Monitor.traced machine {} (.ofNanos 0)
        [.message "start" ⟨[("sensor", .int 1)]⟩ (.ofNanos 1),
          .message "report" ⟨[("sensor", .int 1)]⟩ (.ofNanos 5), .timer (.ofNanos 50),
          .message "stop" ⟨[]⟩ (.ofNanos 51), .message "start" ⟨[("sensor", .int 2)]⟩ (.ofNanos 60),
          .message "report" ⟨[("sensor", .int 1)]⟩ (.ofNanos 61),
          .message "stop" ⟨[]⟩ (.ofNanos 62)]).verdict = .ok .violated := by
  have faithful : Property.reported.Tests Predicate.Faithful := .of_atomic (by decide)
  refine ⟨_, rfl, ?_⟩
  obtain ⟨verdict, shown, violated, _⟩ := Monitor.existence_verdict rfl rfl faithful
    Callbacks.quiet_none (.ofNanos 0)
    [.message "start" ⟨[("sensor", .int 1)]⟩ (.ofNanos 1),
      .message "report" ⟨[("sensor", .int 1)]⟩ (.ofNanos 5), .timer (.ofNanos 50),
      .message "stop" ⟨[]⟩ (.ofNanos 51), .message "start" ⟨[("sensor", .int 2)]⟩ (.ofNanos 60),
      .message "report" ⟨[("sensor", .int 1)]⟩ (.ofNanos 61), .message "stop" ⟨[]⟩ (.ofNanos 62)]
  rw [shown, violated.mpr]
  refine ⟨_, List.mem_cons_of_mem _ List.mem_cons_self, [_], _, [], rfl, .inr rfl, ?_⟩
  intro earlier member
  obtain rfl := List.mem_singleton.mp member
  decide

end TemporalMonitor
