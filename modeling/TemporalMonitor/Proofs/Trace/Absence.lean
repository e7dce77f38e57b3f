import TemporalMonitor.Proofs.Trace.Simulation

/-!
What the verdict on an absence says about a run.

The behavior must not occur in an episode as long as the time of the episode has not elapsed. Once it
has elapsed the episode is safe, and a scope that opens only once is then settled.
-/

namespace TemporalMonitor

namespace Episode

variable {scope : Scope} {behavior : Event} {bound : Bound} {episode : Episode} {call : Call}

/-- The behavior occurs in the episode, and until then its time has not elapsed. -/
def Broken (scope : Scope) (behavior : Event) (bound : Bound) (episode : Episode) : Prop :=
  ∃ before call after, episode.calls = before ++ call :: after ∧
    behavior.occurs episode.bindings call = true ∧
    scope.closes episode.bindings call = false ∧
    ∀ earlier ∈ before ++ [call], bound.hasElapsed episode.start earlier.time = false

/-- The time of the episode has elapsed, or the episode is closed. -/
def Over (scope : Scope) (bound : Bound) (episode : Episode) : Prop :=
  ∃ call ∈ episode.calls, bound.hasElapsed episode.start call.time = true ∨
    scope.closes episode.bindings call = true

/-- One more call breaks an episode if it is a behavior in time. -/
theorem broken_extend :
    (episode.extend call).Broken scope behavior bound ↔
      episode.Broken scope behavior bound ∨
        behavior.occurs episode.bindings call = true ∧
          scope.closes episode.bindings call = false ∧
          ∀ earlier ∈ episode.calls ++ [call],
            bound.hasElapsed episode.start earlier.time = false :=
  exists_split_append

theorem over_extend :
    (episode.extend call).Over scope bound ↔
      episode.Over scope bound ∨ bound.hasElapsed episode.start call.time = true ∨
        scope.closes episode.bindings call = true := by
  simp only [Over, extend_calls, extend_start, extend_bindings, List.mem_append,
    List.mem_singleton]
  constructor
  · rintro ⟨found, member | rfl, ended⟩
    · exact .inl ⟨found, member, ended⟩
    · exact .inr ended
  · rintro (⟨found, member, ended⟩ | ended)
    · exact ⟨found, .inl member, ended⟩
    · exact ⟨call, .inr rfl, ended⟩

end Episode

namespace Absence

variable {property : Property} {behavior : Event} {bound : Bound} {episode : Episode}
  {inst : Instance} {call : Call}

/-- The core of an absence in the scope of the property. -/
abbrev core (property : Property) (behavior : Event) (bound : Bound) : Core :=
  .absence property.scope.kind.isReentrant behavior bound

/-- The time of the episode runs, or it has elapsed among these calls and the episode is safe. -/
inductive Phase (property : Property) (bound : Bound) (episode : Episode) (calls : List Call)
    (state : State) : Prop where
  | engaged (here : state = .engaged)
      (inTime : ∀ call ∈ calls, bound.hasElapsed episode.start call.time = false)
  | safe (here : state = .safe) (reentrant : property.scope.kind.isReentrant = true)
      (elapsed : ∃ call ∈ calls, bound.hasElapsed episode.start call.time = true)

/-- An unbroken episode shows in the state. -/
structure Relates (property : Property) (behavior : Event) (bound : Bound) (calls : List Call)
    (episode : Episode) (inst : Instance) : Prop where
  tracks : Tracks property (core property behavior bound) episode inst
  bindings : inst.bindings = episode.bindings
  unbroken : ¬ episode.Broken property.scope behavior bound
  phase : Phase property bound episode calls inst.state

/-- When the time of an episode is over, a scope that can open again is safe until then. -/
theorem deadlines_core (property : Property) (behavior : Event) (bound : Bound) :
    (property.assemble (core property behavior bound)).deadlines =
      Core.deadlineIf bound .engaged ⟨.episodeStart, .transition .keep
        (if property.scope.kind.isReentrant then none else some true)
        (if property.scope.kind.isReentrant then .safe else .accepted)⟩ := by
  change (Core.absence property.scope.kind.isReentrant behavior bound).deadlines = _
  cases property.scope.kind.isReentrant <;> rfl

theorem safe_isOpen (reentrant : property.scope.kind.isReentrant = true)
    (bounded : bound.isBounded = true) :
    State.safe ∈ (core property behavior bound).openStates := by
  change State.safe ∈ if property.scope.kind.isReentrant && bound.isBounded then
    [State.engaged, .safe] else [.engaged]
  rw [reentrant, bounded]
  decide

/-- Time lets an episode go on, or settles it. -/
theorem Relates.passes (pattern : property.pattern = .absence behavior bound)
    (related : Relates property behavior bound episode.calls episode inst) :
    Progress property (Episode.Broken property.scope behavior bound)
      (fun episode => property.scope.kind.isReentrant = false ∧
        episode.Over property.scope bound)
      (Relates property behavior bound (episode.calls ++ [call]) episode) (episode.extend call)
      ((property.assemble (core property behavior bound)).checkDeadline inst call.time).inst := by
  have limit : (property.assemble (core property behavior bound)).bound = bound := by
    change property.pattern.bound = bound
    rw [pattern]
    rfl
  cases related.phase with
  | safe here reentrant elapsed =>
      have untimed : (property.assemble (core property behavior bound)).deadline? inst.state =
          none := by
        rw [here]
        exact Core.lookup_deadlineIf_other bound (by decide) _
      rw [Machine.checkDeadline_of_none untimed]
      obtain ⟨early, member, elapsed⟩ := elapsed
      exact .undecided { related with
        phase := .safe here reentrant ⟨early, List.mem_append_left _ member, elapsed⟩ }
  | engaged here inTime =>
      rw [Machine.checkDeadline_deadlineIf (deadlines_core property behavior bound) limit here
        related.tracks.start]
      cases elapsed : bound.hasElapsed episode.start call.time with
      | false =>
          refine .undecided { related with phase := .engaged here fun early member => ?_ }
          rcases List.mem_append.mp member with old | new
          · exact inTime early old
          · obtain rfl := List.mem_singleton.mp new
            exact elapsed
      | true =>
          rw [if_pos rfl, (Machine.overrun_keep inst _ _ call.time).2]
          -- The next episode starts the clock anew, so only a single one can settle the verdict.
          cases reentrant : property.scope.kind.isReentrant with
          | true =>
              have bounded : bound.isBounded = true := by
                cases bound <;> first | rfl | cases elapsed
              have lapsed := related.tracks.lapsed (safe_isOpen reentrant bounded) call.time
              exact .undecided { related with
                tracks := lapsed
                bindings := by
                  change Bindings.ofRecords (inst.witness ++ []) = _
                  rw [List.append_nil]
                  exact related.bindings
                phase := .safe rfl reentrant ⟨call, by simp, elapsed⟩ }
          | false =>
              refine .satisfied reentrant rfl rfl
                ⟨rfl, Episode.over_extend.mpr (.inr (.inl elapsed))⟩ ?_
              rw [Episode.broken_extend]
              rintro (broken | ⟨_, _, inTime⟩)
              · exact related.unbroken broken
              · rw [inTime call (by simp)] at elapsed
                cases elapsed

/-- A call that is no behavior in time, and closes nothing, belongs to the episode. -/
theorem Relates.extend
    (related : Relates property behavior bound (episode.calls ++ [call]) episode inst)
    (isOpen : property.scope.closes episode.bindings call = false)
    (harmless : inst.state = .engaged → behavior.occurs episode.bindings call = false) :
    Relates property behavior bound (episode.extend call).calls (episode.extend call) inst where
  tracks := related.tracks.extend isOpen
  bindings := related.bindings
  unbroken := by
    rw [Episode.broken_extend]
    rintro (broken | ⟨occurs, _, inTime⟩)
    · exact related.unbroken broken
    · cases related.phase with
      | engaged here _ =>
          rw [harmless here] at occurs
          cases occurs
      | safe _ _ elapsed =>
          obtain ⟨early, member, elapsed⟩ := elapsed
          rw [inTime early member] at elapsed
          cases elapsed
  phase := by
    cases related.phase with
    | engaged here inTime => exact .engaged here inTime
    | safe here reentrant elapsed => exact .safe here reentrant elapsed

/-- A message that closes nothing violates the property if it is a behavior in time. -/
theorem Relates.reacts {topic : String} {message : Message} {time : Timestamp}
    {settles : Episode → Prop}
    (related : Relates property behavior bound
      (episode.calls ++ [.message topic message time]) episode inst)
    (isOpen : property.scope.closes episode.bindings (.message topic message time) = false) :
    Progress property (Episode.Broken property.scope behavior bound) settles
      (Relates property behavior bound (episode.extend (.message topic message time)).calls
        (episode.extend (.message topic message time)))
      (episode.extend (.message topic message time))
      (inst.offered topic message time
        (rulesFor (core property behavior bound).placements topic inst.state)) := by
  cases related.phase with
  | safe here reentrant elapsed =>
      have quiet : rulesFor (core property behavior bound).placements topic inst.state = [] := by
        rw [here]
        exact rulesFor_place topic .safe behavior .behavior .engaged _
      rw [quiet]
      refine .undecided (related.extend isOpen fun engaged => ?_)
      rw [here] at engaged
      cases engaged
  | engaged here inTime =>
      have rules : rulesFor (core property behavior bound).placements topic inst.state =
          behavior.rules .behavior (.conclude .record false) topic ++ [] := by
        rw [here, List.append_nil]
        exact rulesFor_place_self topic .engaged behavior .behavior _
      rw [rules, inst.offered_message topic message time behavior .behavior _ [] rfl,
        related.bindings]
      cases occurs : behavior.occurs episode.bindings (.message topic message time) with
      | true => exact .violated rfl rfl (Episode.broken_extend.mpr (.inr ⟨occurs, isOpen, inTime⟩))
      | false => exact .undecided (related.extend isOpen fun _ => occurs)

/-- A terminator settles the episode, and a scope that can open again waits. -/
theorem Relates.closes (pattern : property.pattern = .absence behavior bound)
    (related : Relates property behavior bound (episode.calls ++ [call]) episode inst)
    (closes : property.scope.closes episode.bindings call = true) :
    Concludes (Episode.Broken property.scope behavior bound)
      (fun episode => property.scope.kind.isReentrant = false ∧ episode.Over property.scope bound)
      (closing property.scope.kind.isReentrant property.pattern.kind inst.state).verdict?
      (episode.extend call) := by
  have unbroken : ¬ (episode.extend call).Broken property.scope behavior bound := by
    rw [Episode.broken_extend]
    rintro (broken | ⟨_, isOpen, _⟩)
    · exact related.unbroken broken
    · rw [closes] at isOpen
      cases isOpen
  have kind : property.pattern.kind = .absence := by
    rw [pattern]
    rfl
  rw [kind]
  cases reentrant : property.scope.kind.isReentrant with
  | true => exact ⟨unbroken, fun settled => nomatch settled.1⟩
  | false => exact ⟨⟨rfl, Episode.over_extend.mpr (.inr (.inr closes))⟩, unbroken⟩

/-- The machine of an absence follows the episodes of every run. -/
def simulation (pattern : property.pattern = .absence behavior bound) (calls : List Call) :
    Simulation property (core property behavior bound) calls
      (Episode.Broken property.scope behavior bound)
      (fun episode => property.scope.kind.isReentrant = false ∧
        episode.Over property.scope bound) where
  relates episode inst := Relates property behavior bound episode.calls episode inst
  awaits episode call inst := Relates property behavior bound (episode.calls ++ [call]) episode inst
  tracks := Relates.tracks
  awaits_tracks := Relates.tracks
  undecided := by
    intro episode inst related
    refine ⟨related.unbroken, fun ⟨single, call, member, ended⟩ => ?_⟩
    rcases ended with elapsed | closes
    · cases related.phase with
      | engaged _ inTime =>
          rw [inTime call member] at elapsed
          cases elapsed
      | safe _ reentrant _ =>
          rw [single] at reentrant
          cases reentrant
    · rw [related.tracks.ongoing.unclosed call member] at closes
      cases closes
  enters := by
    intro episode inst entered
    exact {
      tracks := entered.tracks (Core.absence_regular _ behavior bound)
      bindings := entered.bindings
      unbroken := not_exists_split entered.calls
      phase := .engaged entered.state (by
        rw [entered.calls]
        exact fun _ member => absurd member List.not_mem_nil) }
  observes := fun latest? related => { related with
    tracks := related.tracks.observed latest?
    bindings := related.bindings }
  passes := fun related _ => related.passes pattern
  waits := fun related => related.extend (Scope.closes_timer _ _) fun _ => rfl
  reacts := fun related isOpen => related.reacts isOpen
  closes := fun related closes => related.closes pattern closes
  grows := fun call broken => Episode.broken_extend.mpr (.inl broken)
  stays := by
    intro episode call ⟨single, ended⟩ unbroken ongoing
    refine ⟨⟨single, Episode.over_extend.mpr (.inl ended)⟩, ?_⟩
    rw [Episode.broken_extend]
    rintro (broken | ⟨_, _, inTime⟩)
    · exact unbroken broken
    · obtain ⟨early, member, elapsed | closes⟩ := ended
      · rw [inTime early (List.mem_append_left _ member)] at elapsed
        cases elapsed
      · rw [ongoing.unclosed early member] at closes
        cases closes

/-- The machine of an absence follows every run. -/
theorem simulated {machine : Machine} (compiled : property.compile = .ok machine)
    (pattern : property.pattern = .absence behavior bound)
    (faithful : property.Tests Predicate.Faithful) (calls : List Call) :
    Simulated property calls (Episode.Broken property.scope behavior bound)
      (Episode.Over property.scope bound) machine := by
  obtain ⟨valid, core, made, rfl⟩ := property.compile_cases compiled
  have regular := Pattern.core_regular made
  rw [pattern] at made
  obtain rfl := Except.ok.inj made
  exact .intro (simulation pattern calls) compiled regular faithful (Property.validate_scoped valid)

end Absence

/-- An absence is violated exactly by a behavior while the time of an episode has not elapsed. Without
a violation it is satisfied, in a scope that opens only once, as soon as the time has elapsed or the
episode is closed. -/
theorem Monitor.absence_verdict {property : Property} {machine : Machine} {callbacks : Callbacks}
    {behavior : Event} {bound : Bound} (compiled : property.compile = .ok machine)
    (pattern : property.pattern = .absence behavior bound)
    (faithful : property.Tests Predicate.Faithful) (quiet : callbacks.Quiet) (start : Timestamp)
    (calls : List Call) :
    ∃ verdict, (Monitor.traced machine callbacks start calls).verdict = .ok verdict ∧
      verdict.Tells
        (∃ episode ∈ property.scope.episodes start calls,
          episode.Broken property.scope behavior bound)
        (property.scope.kind ≠ .between ∧ ∃ episode ∈ property.scope.episodes start calls,
          episode.Over property.scope bound) :=
  (Absence.simulated compiled pattern faithful calls).verdict_tells quiet start

/-- From each start to the next stop, no alarm is raised for ten nanoseconds. -/
def Property.calm : Property where
  scope := .between { branches := [{ topic := "start" }] } { branches := [{ topic := "stop" }] }
  pattern := .absence { branches := [{ topic := "alarm" }] } (.within ⟨10⟩)

/-- A late alarm does no harm, but an early one in the next episode violates the property. -/
theorem Monitor.absence_verdict_calm :
    ∃ machine, Property.calm.compile = .ok machine ∧
      (Monitor.traced machine {} (.ofNanos 0)
        [.message "start" ⟨[]⟩ (.ofNanos 1), .message "alarm" ⟨[]⟩ (.ofNanos 20),
          .message "stop" ⟨[]⟩ (.ofNanos 21), .message "start" ⟨[]⟩ (.ofNanos 30),
          .timer (.ofNanos 29), .message "alarm" ⟨[]⟩ (.ofNanos 35)]).verdict = .ok .violated := by
  have faithful : Property.calm.Tests Predicate.Faithful := .of_atomic (by decide)
  refine ⟨_, rfl, ?_⟩
  obtain ⟨verdict, shown, violated, _⟩ := Monitor.absence_verdict rfl rfl faithful
    Callbacks.quiet_none (.ofNanos 0)
    [.message "start" ⟨[]⟩ (.ofNanos 1), .message "alarm" ⟨[]⟩ (.ofNanos 20),
      .message "stop" ⟨[]⟩ (.ofNanos 21), .message "start" ⟨[]⟩ (.ofNanos 30),
      .timer (.ofNanos 29), .message "alarm" ⟨[]⟩ (.ofNanos 35)]
  rw [shown, violated.mpr]
  exact ⟨_, List.mem_cons_of_mem _ List.mem_cons_self, [.timer (.ofNanos 29)], _, [], rfl, rfl, rfl,
    by decide⟩

end TemporalMonitor
