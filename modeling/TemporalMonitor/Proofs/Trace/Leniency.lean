import TemporalMonitor.Proofs.Monitor.Chronicle
import TemporalMonitor.Proofs.Monitor.Lapse
import TemporalMonitor.Proofs.Trace.Absence
import TemporalMonitor.Proofs.Trace.Existence
import TemporalMonitor.Proofs.Trace.Requirement

/-!
What a longer bound changes.

An absence gets stricter with a longer bound, because more behaviors come in time. The other patterns
get more lenient. Absences, existences and requirements are compared by their episodes, since the
machines for two bounds may have little in common. Of the triggers of a requirement that are read, more
are held with a longer bound. If only one is held, then it need not be the same one for both bounds, and
times have to elapse in order. A response is compared step by step: until the time of a trigger is over
for the shorter bound, both monitors remember the same.
-/

namespace TemporalMonitor

namespace Bound

/-- Spans are compared by their length, and nothing is longer than no bound at all. -/
def lasts : Bound → Bound → Prop
  | _, unbounded => True
  | within short, within long => short ≤ long
  | unbounded, within _ => False

instance : LE Bound := ⟨lasts⟩

theorem le_unbounded (bound : Bound) : bound ≤ unbounded := by
  cases bound <;> trivial

/-- A longer bound elapses later. -/
theorem hasElapsed_of_shorter {short long : Bound} (order : short ≤ long) {reference now : Timestamp}
    (elapsed : long.hasElapsed reference now = true) : short.hasElapsed reference now = true := by
  cases long with
  | unbounded => cases elapsed
  | within span =>
      cases short with
      | unbounded => exact order.elim
      | within shorter =>
          rw [hasElapsed_within] at elapsed ⊢
          exact Int.le_trans order elapsed

/-- What is in time for a bound is in time for a longer one. -/
theorem inTime_of_longer {short long : Bound} (order : short ≤ long)
    {reference now : Timestamp} (inTime : short.hasElapsed reference now = false) :
    long.hasElapsed reference now = false := by
  rw [Bool.eq_false_iff] at inTime ⊢
  exact fun elapsed => inTime (hasElapsed_of_shorter order elapsed)

/-- More is left of more records with a longer bound. -/
theorem remaining_mono {short long : Bound} (order : short ≤ long) (now : Timestamp)
    {fewer records : List Record} (part : fewer.Sublist records) :
    (short.remaining now fewer).Sublist (long.remaining now records) := by
  induction part with
  | slnil => exact List.Sublist.slnil
  | @cons fewer rest first part ih =>
      cases elapsed : long.hasElapsed first.timestamp now with
      | true =>
          rw [remaining_cons_of_elapsed elapsed]
          exact ih
      | false =>
          rw [remaining_cons_of_inTime elapsed]
          exact ((short.remaining_sublist now fewer).trans part).cons first
  | @cons_cons fewer rest first part ih =>
      cases elapsed : long.hasElapsed first.timestamp now with
      | true =>
          rw [remaining_cons_of_elapsed elapsed,
            remaining_cons_of_elapsed (hasElapsed_of_shorter order elapsed)]
          exact ih
      | false =>
          rw [remaining_cons_of_inTime elapsed]
          exact (short.remaining_sublist now (first :: fewer)).trans (part.cons_cons first)

end Bound

/-- Where triggers are read, all that is held with a bound is held with a longer one. -/
theorem held_mono {scope : Scope} {trigger : Event} {bindings : Bindings} {short long : Bound}
    (order : short ≤ long) (calls : List Call) :
    (held scope trigger bindings true short calls).Sublist
      (held scope trigger bindings true long calls) := by
  induction calls using List.reverseRecOn with
  | nil => exact List.Sublist.slnil
  | append_singleton calls call ih =>
      have left := Bound.remaining_mono order call.time ih
      rw [held_append, held_append]
      by_cases triggers : ∃ record, call.Triggers scope trigger bindings record
      · obtain ⟨record, triggers⟩ := triggers
        rw [hold_of_triggers triggers, hold_of_triggers triggers]
        exact Record.filed_sublist left ((held_ascending calls).sublist (long.remaining_sublist _ _))
      · rw [hold_of_untriggered triggers, hold_of_untriggered triggers]
        exact left

/-- The same pattern with another bound. -/
def Pattern.withBound (bound : Bound) : Pattern → Pattern
  | absence behavior _ => absence behavior bound
  | existence behavior _ => existence behavior bound
  | requirement behavior trigger _ => requirement behavior trigger bound
  | response trigger behavior _ => response trigger behavior bound
  | prevention trigger behavior _ => prevention trigger behavior bound

/-- The same property with another bound. -/
def Property.withBound (property : Property) (bound : Bound) : Property :=
  { property with pattern := property.pattern.withBound bound }

/-- The events of a property do not depend on its bound. -/
theorem Property.withBound_events (property : Property) (bound : Bound) :
    (property.withBound bound).events = property.events := by
  obtain ⟨summary, scope, pattern⟩ := property
  cases pattern <;> rfl

theorem Property.Tests.withBound {property : Property} {condition : Predicate → Prop}
    (tests : property.Tests condition) (bound : Bound) :
    (property.withBound bound).Tests condition := by
  rw [Tests, withBound_events]
  exact tests

namespace Episode

variable {scope : Scope} {behavior trigger : Event} {short long : Bound} {episode : Episode}

/-- A behavior that comes in time does so for a longer bound. -/
theorem Broken.mono (order : short ≤ long) (broken : episode.Broken scope behavior short) :
    episode.Broken scope behavior long := by
  obtain ⟨before, call, after, split, occurs, isOpen, inTime⟩ := broken
  refine ⟨before, call, after, split, occurs, isOpen, fun earlier member => ?_⟩
  exact Bound.inTime_of_longer order (inTime earlier member)

/-- A behavior that is missed is missed with a shorter bound. -/
theorem Missed.anti (order : short ≤ long) (missed : episode.Missed scope behavior long) :
    episode.Missed scope behavior short := by
  obtain ⟨before, call, after, split, ended, unseen⟩ := missed
  exact ⟨before, call, after, split, ended.imp_left (Bound.hasElapsed_of_shorter order), unseen⟩

/-- A trigger whose time has not elapsed allows a behavior with a longer bound as well. -/
theorem Allowed.mono (order : short ≤ long) {bindings : Bindings} {earlier : List Call} {call : Call}
    (allowed : Allowed scope behavior trigger short bindings earlier call) :
    Allowed scope behavior trigger long bindings earlier call := by
  obtain ⟨record, rest, triggered, inTime, occurs⟩ := allowed
  refine ⟨record, rest, triggered, fun later member => ?_, occurs⟩
  exact Bound.inTime_of_longer order (inTime later member)

/-- A trigger that is read and held allows a behavior with a longer bound as well. -/
theorem Backed.mono (order : short ≤ long) (correlated : behavior.readsAliasOf trigger = true)
    {bindings : Bindings} {earlier : List Call} {call : Call}
    (backed : Backed scope behavior trigger short bindings earlier call) :
    Backed scope behavior trigger long bindings earlier call := by
  rw [Backed, correlated] at backed ⊢
  obtain ⟨record, member, occurs⟩ := backed
  exact ⟨record, (Bound.remaining_mono order call.time (held_mono order earlier)).subset member,
    occurs⟩

/-- A requirement that is not met is not met with a shorter bound. Where triggers are not read, a newer
one may have taken the place of one that is in time with the shorter bound, but then times do not
elapse in order with the longer one. -/
theorem Unbacked.anti (order : short ≤ long)
    (faithful : ∀ branch ∈ behavior.branches, branch.predicate.Faithful)
    (inOrder : behavior.readsAliasOf trigger = false →
      long.ElapsesInOrder (episode.calls.map Call.time))
    (unbacked : episode.Unbacked scope behavior trigger long) :
    episode.Unbacked scope behavior trigger short := by
  cases correlated : behavior.readsAliasOf trigger with
  | true => exact unbacked.imp fun _ _ _ _ _ => Backed.mono order correlated
  | false =>
      have unmet := unmet_of_unbacked faithful inOrder unbacked
      refine unbacked_of_unmet (fun read => ?_) (unmet.imp fun _ _ _ _ _ => Allowed.mono order)
      rw [correlated] at read
      cases read

end Episode

namespace Response

variable {summary : Summary} {scope : Scope} {trigger behavior : Event} {short long : Bound}
  {strict lenient inst : Instance}

/-- A response with this bound. -/
abbrev within (summary : Summary) (scope : Scope) (trigger behavior : Event) (bound : Bound) :
    Property :=
  ⟨summary, scope, .response trigger behavior bound⟩

/-- The machine of a response with this bound. -/
abbrev machine (summary : Summary) (scope : Scope) (trigger behavior : Event) (bound : Bound) :
    Machine :=
  (within summary scope trigger behavior bound).assemble (.response trigger behavior bound)

/-- The stricter of two monitors has rejected the run, or both remember the same. -/
inductive Ahead (strict lenient : Instance) : Prop where
  | rejected (state : strict.state = .rejected) (verdict : strict.verdict = .violated)
  | same (alike : strict = lenient)

theorem onTimer_machine {bound : Bound} (running : inst.state ≠ .off) {now : Timestamp} :
    ((machine summary scope trigger behavior bound).onTimer inst now).inst =
      (within summary scope trigger behavior bound).lapse (inst.observe now).1 now := by
  have made : (within summary scope trigger behavior bound).pattern.core scope.kind.isReentrant =
      .ok (.response trigger behavior bound) := rfl
  exact (Property.onTimer_lapse made running now).2

/-- The time of a trigger is over for the shorter bound first. -/
theorem Ahead.lapse (order : short ≤ long) (inst : Instance) (now : Timestamp) :
    Ahead ((within summary scope trigger behavior short).lapse inst now)
      ((within summary scope trigger behavior long).lapse inst now) := by
  unfold Property.lapse
  cases due : (within summary scope trigger behavior short).isDue inst now with
  | true => exact .rejected rfl rfl
  | false =>
      have notDue : (within summary scope trigger behavior long).isDue inst now = false := by
        rw [Bool.eq_false_iff] at due ⊢
        intro late
        obtain ⟨since, counted, elapsed⟩ := (Option.any_eq_true _ _).mp late
        exact due ((Option.any_eq_true _ _).mpr
          ⟨since, counted, Bound.hasElapsed_of_shorter order elapsed⟩)
      rw [notDue]
      exact .same rfl

/-- A call keeps the stricter monitor ahead. -/
theorem Ahead.next (order : short ≤ long)
    (strictSound : (machine summary scope trigger behavior short).Sound)
    (lenientSound : (machine summary scope trigger behavior long).Sound)
    (strictSuits : (machine summary scope trigger behavior short).Suits strict.state strict.pool)
    (lenientSuits : (machine summary scope trigger behavior long).Suits lenient.state lenient.pool)
    (ahead : Ahead strict lenient) (call : Call) :
    Ahead ((machine summary scope trigger behavior short).next strict call)
      ((machine summary scope trigger behavior long).next lenient call) := by
  cases ahead with
  | rejected state verdict =>
      obtain ⟨sameState, sameVerdict⟩ := Property.next_of_terminal
        (Core.response_regular trigger behavior short) strictSound strictSuits
        (by rw [state]; rfl) call
      exact .rejected (sameState.trans state) (sameVerdict.trans verdict)
  | same alike =>
      subst alike
      by_cases isOff : strict.state = .off
      · rw [Machine.next_of_off isOff, Machine.next_of_off isOff]
        exact .same rfl
      · have passed (now : Timestamp) :
            Ahead ((machine summary scope trigger behavior short).onTimer strict now).inst
              ((machine summary scope trigger behavior long).onTimer strict now).inst := by
          rw [onTimer_machine isOff, onTimer_machine isOff]
          exact .lapse order _ now
        cases call with
        | timer time => exact passed time
        | message topic content time =>
            simp only [Machine.next]
            rw [(strictSound.onMessage_inst strictSuits isOff topic content time).2,
              (lenientSound.onMessage_inst lenientSuits isOff topic content time).2]
            cases passed time with
            | rejected state verdict =>
                have settled : ((machine summary scope trigger behavior short).onTimer strict
                    time).inst.state.isTerminal = true := by
                  rw [state]
                  rfl
                dsimp only
                rw [if_pos settled]
                exact .rejected state verdict
            | same alike =>
                -- The rules do not depend on the bound.
                rw [alike]
                dsimp only
                rw [Machine.rulesAt_eq, Machine.rulesAt_eq]
                exact .same rfl

/-- The stricter monitor is ahead during the whole run. -/
theorem Ahead.run (order : short ≤ long)
    (strictSound : (machine summary scope trigger behavior short).Sound)
    (lenientSound : (machine summary scope trigger behavior long).Sound) (start : Timestamp)
    (calls : List Call) :
    let strict := (machine summary scope trigger behavior short).run
      ((machine summary scope trigger behavior short).launched start) calls
    let lenient := (machine summary scope trigger behavior long).run
      ((machine summary scope trigger behavior long).launched start) calls
    Ahead strict lenient ∧
      (machine summary scope trigger behavior short).Suits strict.state strict.pool ∧
      (machine summary scope trigger behavior long).Suits lenient.state lenient.pool := by
  induction calls using List.reverseRecOn with
  | nil =>
      exact ⟨.same rfl, strictSound.perform (Monitor.suits_off _) (.launch start),
        lenientSound.perform (Monitor.suits_off _) (.launch start)⟩
  | append_singleton calls call ih =>
      obtain ⟨ahead, strictSuits, lenientSuits⟩ := ih
      dsimp only
      rw [Machine.run_append, Machine.run_append]
      exact ⟨ahead.next order strictSound lenientSound strictSuits lenientSuits call,
        strictSound.perform strictSuits (.call call), lenientSound.perform lenientSuits (.call call)⟩

/-- A response that is violated is violated with a shorter bound. -/
theorem violated_of_shorter {callbacks : Callbacks} (order : short ≤ long)
    (strictSound : (machine summary scope trigger behavior short).Sound)
    (lenientSound : (machine summary scope trigger behavior long).Sound) (quiet : callbacks.Quiet)
    {start : Timestamp} {calls : List Call}
    (violated : (Monitor.traced (machine summary scope trigger behavior long) callbacks start
      calls).verdict = .ok .violated) :
    (Monitor.traced (machine summary scope trigger behavior short) callbacks start calls).verdict =
      .ok .violated := by
  rw [Monitor.verdict_traced lenientSound quiet] at violated
  rw [Monitor.verdict_traced strictSound quiet]
  cases (Ahead.run order strictSound lenientSound start calls).1 with
  | rejected _ verdict => rw [verdict]
  | same alike => rw [alike, violated]

end Response

/-- Of two monitors for one property with different bounds, the one with the longer bound shows a
violation of an absence if the other one does. For all other patterns it is the other way round, but
for a requirement whose behaviors do not read the trigger only if times elapse in order. -/
theorem Monitor.violated_of_bound_le {property : Property} {short long : Bound}
    {shortMachine longMachine : Machine} {callbacks : Callbacks} (order : short ≤ long)
    (shortCompiled : (property.withBound short).compile = .ok shortMachine)
    (longCompiled : (property.withBound long).compile = .ok longMachine)
    (faithful : property.Tests Predicate.Faithful) (quiet : callbacks.Quiet) (start : Timestamp)
    (calls : List Call) (few : calls.length < UInt64.size)
    (inOrder : ∀ behavior trigger bound, property.pattern = .requirement behavior trigger bound →
      behavior.readsAliasOf trigger = false → long.ElapsesInOrder (calls.map Call.time)) :
    let shortVerdict := (Monitor.traced shortMachine callbacks start calls).verdict
    let longVerdict := (Monitor.traced longMachine callbacks start calls).verdict
    (property.pattern.kind = .absence →
        shortVerdict = .ok .violated → longVerdict = .ok .violated) ∧
      (property.pattern.kind ≠ .absence →
        longVerdict = .ok .violated → shortVerdict = .ok .violated) := by
  have shortFaithful := faithful.withBound short
  have longFaithful := faithful.withBound long
  obtain ⟨summary, scope, pattern⟩ := property
  cases pattern with
  | absence behavior bound =>
      refine ⟨fun _ violated => ?_, fun other => absurd rfl other⟩
      have shortSimulated := Absence.simulated shortCompiled rfl shortFaithful calls
      have longSimulated := Absence.simulated longCompiled rfl longFaithful calls
      rw [shortSimulated.violated_iff quiet] at violated
      rw [longSimulated.violated_iff quiet]
      obtain ⟨episode, member, broken⟩ := violated
      exact ⟨episode, member, broken.mono order⟩
  | existence behavior bound =>
      refine ⟨fun absence => (by cases absence), fun _ violated => ?_⟩
      have shortSimulated := Existence.simulated shortCompiled rfl shortFaithful calls
      have longSimulated := Existence.simulated longCompiled rfl longFaithful calls
      rw [longSimulated.violated_iff quiet] at violated
      rw [shortSimulated.violated_iff quiet]
      obtain ⟨episode, member, missed⟩ := violated
      exact ⟨episode, member, missed.anti order⟩
  | requirement behavior trigger bound =>
      refine ⟨fun absence => (by cases absence), fun _ violated => ?_⟩
      have shortSimulated := Requirement.simulated shortCompiled rfl shortFaithful few
      have longSimulated := Requirement.simulated longCompiled rfl longFaithful few
      rw [longSimulated.violated_iff quiet] at violated
      rw [shortSimulated.violated_iff quiet]
      obtain ⟨episode, member, unbacked⟩ := violated
      refine ⟨episode, member, unbacked.anti order faithful.behavior fun unread => ?_⟩
      exact (inOrder behavior trigger bound rfl unread).mono (Property.times_of_episode member)
  | response trigger behavior bound =>
      refine ⟨fun absence => (by cases absence), fun _ => ?_⟩
      have shortSound := Property.compile_sound shortCompiled shortFaithful.total
      have longSound := Property.compile_sound longCompiled longFaithful.total
      obtain ⟨_, _, made, rfl⟩ := Property.compile_cases shortCompiled
      obtain rfl := Except.ok.inj made
      obtain ⟨_, _, made, rfl⟩ := Property.compile_cases longCompiled
      obtain rfl := Except.ok.inj made
      exact Response.violated_of_shorter order shortSound longSound quiet
  | prevention trigger behavior bound =>
      obtain ⟨_, _, made, _⟩ := Property.compile_cases shortCompiled
      cases made

/-- From each start to the next stop, an access needs a login. -/
def Property.admitted : Property where
  scope := .between { branches := [{ topic := "start" }] } { branches := [{ topic := "stop" }] }
  pattern := .requirement { branches := [{ topic := "access" }] }
    { branches := [{ topic := "login" }] } .unbounded

/-- The login of one episode does not count in the next one, whether or not logins expire. -/
theorem Monitor.violated_of_bound_le_admitted :
    ∃ pooling plain, (Property.admitted.withBound (.within ⟨10⟩)).compile = .ok pooling ∧
      (Property.admitted.withBound .unbounded).compile = .ok plain ∧
      (Monitor.traced pooling {} (.ofNanos 0)
        [.message "start" ⟨[]⟩ (.ofNanos 1), .message "login" ⟨[]⟩ (.ofNanos 2),
          .message "access" ⟨[]⟩ (.ofNanos 9), .message "stop" ⟨[]⟩ (.ofNanos 8),
          .message "start" ⟨[]⟩ (.ofNanos 7), .message "access" ⟨[]⟩ (.ofNanos 7)]).verdict =
        .ok .violated := by
  have faithful : Property.admitted.Tests Predicate.Faithful := .of_atomic (by decide)
  refine ⟨_, _, rfl, rfl, ?_⟩
  exact (Monitor.violated_of_bound_le (Bound.le_unbounded _) rfl rfl faithful Callbacks.quiet_none
    (.ofNanos 0) _ (by decide) fun _ _ _ _ _ => Bound.elapsesInOrder_unbounded _).2 (by decide) rfl

/-- A login just after midnight is over for the shorter of two bounds when a late one comes in, from the
leap second before midnight. It is the one that stays, since for the longer bound the first login is
newer. But a little later only the late one is still in time. -/
theorem Monitor.requirement_stricter_in_leapSecond :
    ∃ strict lenient, (Property.admitted.withBound (.within ⟨9600000000⟩)).compile = .ok strict ∧
      (Property.admitted.withBound (.within ⟨9700000000⟩)).compile = .ok lenient ∧
      let start := Timestamp.ofParts 1483228790 0
      let calls := [.message "start" ⟨[]⟩ start,
        .message "login" ⟨[]⟩ (.ofParts 1483228800 200000000),
        .timer (.ofParts 1483228809 850000000),
        .message "login" ⟨[]⟩ (.ofParts 1483228799 1500000000),
        .message "access" ⟨[]⟩ (.ofParts 1483228809 950000000)]
      (Monitor.traced lenient {} start calls).verdict = .ok .violated ∧
        (Monitor.traced strict {} start calls).verdict = .ok .unknown :=
  ⟨_, _, rfl, rfl, rfl, rfl⟩

end TemporalMonitor
