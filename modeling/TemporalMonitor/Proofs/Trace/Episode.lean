import Mathlib.Data.List.Nodup
import TemporalMonitor.Monitor.Record
import TemporalMonitor.Property.Basic
import TemporalMonitor.Proofs.Predicate.Reading

/-!
Runs as sequences of calls, and the episodes of a run.

An episode opens with the launch, or with an activator while no other one is open. It consists of the
calls that follow, up to and including the first terminator. The meaning of a pattern is a condition
on single episodes, so it is stated without any machine.
-/

namespace TemporalMonitor

/-- A running monitor is told that time has passed, or that a message has come. -/
inductive Call where
  | timer (time : Timestamp)
  | message (topic : String) (content : Message) (time : Timestamp)

namespace Call

def time : Call → Timestamp
  | timer time => time
  | message _ _ time => time

/-- The record of the message of a call, if it has one. -/
def record? (alias? : Option String) : Call → Option Record
  | timer _ => none
  | message topic content time => some ⟨topic, time, content, alias?⟩

theorem time_of_record {call : Call} {alias? : Option String} {record : Record}
    (recorded : call.record? alias? = some record) : record.timestamp = call.time := by
  cases call with
  | timer time => simp [record?] at recorded
  | message topic content time =>
      obtain rfl : (⟨topic, time, content, alias?⟩ : Record) = record := by
        simpa [record?] using recorded
      rfl

theorem alias_of_record {call : Call} {alias? : Option String} {record : Record}
    (recorded : call.record? alias? = some record) : record.alias? = alias? := by
  cases call with
  | timer time => simp [record?] at recorded
  | message topic content time =>
      obtain rfl : (⟨topic, time, content, alias?⟩ : Record) = record := by
        simpa [record?] using recorded
      rfl

end Call

/-- The message of a record is bound to its alias, if it has one. -/
def Bindings.withRecord (bindings : Bindings) (record : Record) : Bindings :=
  match record.alias? with
  | some name => bindings.bind name record.message
  | none => bindings

namespace Event

/-- A branch of the event is on the topic, and its test passes. -/
def passes (event : Event) (topic : String) (test : Predicate → Bool) : Bool :=
  event.branches.any fun branch => branch.topic == topic && test branch.predicate

/-- The first such branch. -/
def passing? (event : Event) (topic : String) (test : Predicate → Bool) : Option Branch :=
  event.branches.find? fun branch => branch.topic == topic && test branch.predicate

/-- The message of the call is an occurrence of the event. -/
def occurs (event : Event) (bindings : Bindings) : Call → Bool
  | .timer _ => false
  | .message topic message _ => event.passes topic (Predicate.holds message bindings)

/-- Partial evaluation does not rule out that the message of the call is an occurrence. -/
def mayOccur (event : Event) (bindings : Bindings) : Call → Bool
  | .timer _ => false
  | .message topic message _ => event.passes topic (Predicate.mayHold message bindings)

theorem passes_iff {event : Event} {topic : String} {test : Predicate → Bool} :
    event.passes topic test = true ↔
      ∃ branch ∈ event.branches, branch.topic = topic ∧ test branch.predicate = true := by
  simp [passes, List.any_eq_true]

theorem isSome_passing {event : Event} {topic : String} {test : Predicate → Bool} :
    (event.passing? topic test).isSome = event.passes topic test := by
  rw [passing?, passes, List.isSome_find?]

theorem passing_eq_some {event : Event} {topic : String} {test : Predicate → Bool} {branch : Branch}
    (first : event.passing? topic test = some branch) :
    branch ∈ event.branches ∧ branch.topic = topic ∧ test branch.predicate = true := by
  have passed := List.find?_some first
  rw [Bool.and_eq_true, beq_iff_eq] at passed
  exact ⟨List.mem_of_find?_eq_some first, passed⟩

/-- If no two branches are on one topic, the only one on a topic decides. -/
theorem passes_of_distinct {event : Event} {branch : Branch} (distinct : event.topics.Nodup)
    (member : branch ∈ event.branches) (test : Predicate → Bool) :
    event.passes branch.topic test = test branch.predicate := by
  rw [Bool.eq_iff_iff, passes_iff]
  constructor
  · rintro ⟨other, listed, onTopic, passed⟩
    obtain rfl := List.inj_on_of_nodup_map distinct listed member onTopic
    exact passed
  · intro passed
    exact ⟨branch, member, rfl, passed⟩

/-- Tests that agree on the branches of an event pass together. -/
theorem passes_congr {event : Event} {topic : String} {first second : Predicate → Bool}
    (same : ∀ branch ∈ event.branches, first branch.predicate = second branch.predicate) :
    event.passes topic first = event.passes topic second := by
  rw [Bool.eq_iff_iff, passes_iff, passes_iff]
  constructor
  · rintro ⟨branch, member, onTopic, passed⟩
    exact ⟨branch, member, onTopic, by rw [← same branch member]; exact passed⟩
  · rintro ⟨branch, member, onTopic, passed⟩
    exact ⟨branch, member, onTopic, by rw [same branch member]; exact passed⟩

end Event

/-- What happens while the scope is open: when it opened, what is bound in it, and the calls so
far. -/
structure Episode where
  start : Timestamp
  bindings : Bindings
  calls : List Call

namespace Episode

/-- The episode with one more call. -/
def extend (episode : Episode) (call : Call) : Episode :=
  { episode with calls := episode.calls ++ [call] }

@[simp] theorem extend_start (episode : Episode) (call : Call) :
    (episode.extend call).start = episode.start := rfl

@[simp] theorem extend_bindings (episode : Episode) (call : Call) :
    (episode.extend call).bindings = episode.bindings := rfl

@[simp] theorem extend_calls (episode : Episode) (call : Call) :
    (episode.extend call).calls = episode.calls ++ [call] := rfl

end Episode

namespace Scope

theorem hasActivator_eq (scope : Scope) : scope.kind.hasActivator = scope.activator?.isSome := by
  cases scope <;> rfl

/-- The call closes an episode with these bindings. -/
def closes (scope : Scope) (bindings : Bindings) (call : Call) : Bool :=
  scope.terminator?.any fun terminator => terminator.occurs bindings call

/-- The episode that a call opens, if it does. -/
def opened? (scope : Scope) (call : Call) : Option Episode :=
  match scope.activator? with
  | some activator =>
      if activator.occurs Bindings.empty call then
        (call.record? activator.alias?).map fun record =>
          { start := call.time, bindings := Bindings.empty.withRecord record, calls := [] }
      else none
  | none => none

end Scope

/-- The episodes of a run so far: those that are closed, and the open one. -/
structure History where
  closed : List Episode := []
  open? : Option Episode := none

namespace History

/-- A scope that waits for no activator is open from the launch on. -/
def launched (scope : Scope) (time : Timestamp) : History where
  open? := match scope.activator? with
    | some _ => none
    | none => some { start := time, bindings := Bindings.empty, calls := [] }

/-- A call belongs to the open episode, or else it may open one. -/
def record (scope : Scope) (history : History) (call : Call) : History :=
  match history.open? with
  | some episode =>
      if scope.closes episode.bindings call then
        { closed := history.closed ++ [episode.extend call], open? := none }
      else { history with open? := some (episode.extend call) }
  | none => { history with open? := scope.opened? call }

def episodes (history : History) : List Episode :=
  history.closed ++ history.open?.toList

end History

/-- The history of a run. -/
def Scope.history (scope : Scope) (start : Timestamp) (calls : List Call) : History :=
  calls.foldl (History.record scope) (History.launched scope start)

/-- The episodes of a run, in the order in which they opened. -/
def Scope.episodes (scope : Scope) (start : Timestamp) (calls : List Call) : List Episode :=
  (scope.history start calls).episodes

theorem Scope.history_append (scope : Scope) (start : Timestamp) (calls : List Call) (call : Call) :
    scope.history start (calls ++ [call]) = (scope.history start calls).record scope call := by
  rw [history, List.foldl_append]
  rfl

/-- A call of a longer list is its last one, or one of the shorter list. -/
theorem calls_split {calls before after : List Call} {call last : Call} :
    calls ++ [last] = before ++ call :: after ↔
      (after = [] ∧ calls = before ∧ call = last) ∨
        ∃ rest, after = rest ++ [last] ∧ calls = before ++ call :: rest := by
  constructor
  · intro split
    rcases List.eq_nil_or_concat after with rfl | ⟨rest, final, rfl⟩
    · obtain ⟨same, ends⟩ := List.append_inj' split rfl
      exact .inl ⟨rfl, same, by simpa using ends.symm⟩
    · rw [List.concat_eq_append] at split ⊢
      have regrouped : calls ++ [last] = (before ++ call :: rest) ++ [final] := by
        rw [split, List.append_assoc, List.cons_append]
      obtain ⟨same, ends⟩ := List.append_inj' regrouped rfl
      obtain rfl : last = final := by simpa using ends
      exact .inr ⟨rest, rfl, same⟩
  · rintro (⟨rfl, rfl, rfl⟩ | ⟨rest, rfl, rfl⟩)
    · rfl
    · rw [List.append_assoc, List.cons_append]

/-- A condition on a call and those before it is met in a longer list by an old call or the last. -/
theorem exists_split_append {calls : List Call} {last : Call}
    {condition : List Call → Call → Prop} :
    (∃ before call after, calls ++ [last] = before ++ call :: after ∧ condition before call) ↔
      (∃ before call after, calls = before ++ call :: after ∧ condition before call) ∨
        condition calls last := by
  constructor
  · rintro ⟨before, call, after, split, met⟩
    rcases calls_split.mp split with ⟨_, rfl, rfl⟩ | ⟨rest, _, same⟩
    · exact .inr met
    · exact .inl ⟨before, call, rest, same, met⟩
  · rintro (⟨before, call, rest, same, met⟩ | met)
    · exact ⟨before, call, rest ++ [last], calls_split.mpr (.inr ⟨rest, rfl, same⟩), met⟩
    · exact ⟨calls, last, [], rfl, met⟩

theorem not_exists_split {calls : List Call} {condition : List Call → Call → Prop}
    (none_yet : calls = []) :
    ¬ ∃ before call after, calls = before ++ call :: after ∧ condition before call := by
  rintro ⟨before, call, after, split, _⟩
  rw [none_yet] at split
  simp at split

/-- The calls up to one of them have their times among those of all. -/
theorem time_of_split {calls before after : List Call} {call : Call}
    (split : calls = before ++ call :: after) :
    ∀ time ∈ (before ++ [call]).map Call.time, time ∈ calls.map Call.time := by
  intro time among
  rw [split, List.append_cons, List.map_append]
  exact List.mem_append_left _ among

/-- A call of the episode closes it. -/
def Episode.Closed (scope : Scope) (episode : Episode) : Prop :=
  ∃ call ∈ episode.calls, scope.closes episode.bindings call = true

theorem Episode.closed_extend {scope : Scope} {episode : Episode} {call : Call} :
    (episode.extend call).Closed scope ↔
      episode.Closed scope ∨ scope.closes episode.bindings call = true := by
  simp only [Closed, extend_calls, extend_bindings, List.mem_append, List.mem_singleton]
  constructor
  · rintro ⟨found, member | rfl, closes⟩
    · exact .inl ⟨found, member, closes⟩
    · exact .inr closes
  · rintro (⟨found, member, closes⟩ | closes)
    · exact ⟨found, .inl member, closes⟩
    · exact ⟨call, .inr rfl, closes⟩

end TemporalMonitor
