import TemporalMonitor.Machine.Basic
import TemporalMonitor.Property.WellFormed

/-!
From properties to machines.

A pattern has a core: the states in which the scope is open, with rules and deadlines for them. The
scope adds a rule that opens it, and a rule that closes it in every open state. Rules of the scope
are placed first, so a message that closes the scope is never also a behavior or a trigger.
-/

namespace TemporalMonitor

namespace Reaction

def goto (witness : WitnessAction) (state : State) : Reaction where
  guard := .message
  pool := .keep
  witness := witness
  scope := .none
  verdict? := none
  next := .goto state

/-- Settles the verdict. -/
def conclude (witness : WitnessAction) (verdict : Bool) : Reaction :=
  { goto witness (State.ofVerdict verdict) with verdict? := some verdict }

/-- Opens the scope. -/
def enter (state : State) : Reaction :=
  { goto .record state with scope := .enter }

/-- Closes the scope for good and settles the verdict. -/
def close (witness : WitnessAction) (verdict : Bool) : Reaction :=
  { conclude witness verdict with scope := .exit }

/-- Closes the scope until it opens again. -/
def leave : Reaction :=
  { goto .reset .inactive with pool := .clear, scope := .exit }

/-- Works on the pool only. -/
def pooling (guard : Guard) (pool : PoolAction) (next : Next) : Reaction where
  guard := guard
  pool := pool
  witness := .keep
  scope := .none
  verdict? := none
  next := next

end Reaction

/-- One rule for each branch of the event, all of them with the same reaction. -/
def Event.place (event : Event) (role : Role) (state : State) (reaction : Reaction) :
    List Placement :=
  event.branches.map fun branch =>
    { state := state
      rule := {
        role := role
        topic := branch.topic
        alias? := event.alias?
        predicate := branch.predicate
        reaction := reaction }
      messageType? := branch.messageType? }

/-- What a pattern contributes to its machine. -/
structure Core where
  /-- The state in which an episode starts. -/
  entry : State := .engaged
  /-- The states in which the scope is open and no verdict is settled. -/
  openStates : List State := [.engaged]
  capacity : Capacity := .zero
  isCorrelated : Bool := false
  placements : List Placement
  deadlines : List (State × Deadline) := []

namespace Core

def deadlineIf (bound : Bound) (state : State) (deadline : Deadline) : List (State × Deadline) :=
  if bound.isBounded then [(state, deadline)] else []

/-- A behavior violates the property. When the time is over, the episode is safe. -/
def absence (isReentrant : Bool) (behavior : Event) (bound : Bound) : Core where
  openStates := if isReentrant && bound.isBounded then [.engaged, .safe] else [.engaged]
  placements := behavior.place .behavior .engaged (.conclude .record false)
  deadlines := deadlineIf bound .engaged
    { anchor := .episodeStart
      effect := if isReentrant then .transition .keep none .safe
        else .transition .keep (some true) .accepted }

/-- A behavior settles the episode. When the time is over, the property is violated. -/
def existence (isReentrant : Bool) (behavior : Event) (bound : Bound) : Core where
  openStates := if isReentrant then [.engaged, .safe] else [.engaged]
  placements := behavior.place .behavior .engaged
    (if isReentrant then .goto .record .safe else .conclude .record true)
  deadlines := deadlineIf bound .engaged
    { anchor := .episodeStart
      effect := .transition .keep (some false) .rejected }

def requirementCapacity (isCorrelated : Bool) (bound : Bound) : Capacity :=
  if isCorrelated then .unbounded else if bound.isBounded then .one else .zero

/-- One trigger allows every later behavior of the episode. -/
def simpleRequirement (isReentrant : Bool) (behavior trigger : Event) : Core where
  openStates := if isReentrant then [.engaged, .safe] else [.engaged]
  placements :=
    trigger.place .trigger .engaged
      (if isReentrant then .goto .record .safe else .conclude .record true) ++
    behavior.place .behavior .engaged (.conclude .record false)

/-- Triggers are pooled, and a behavior that no pooled trigger allows violates the property. -/
def pooledRequirement (behavior trigger : Event) (bound : Bound) : Core :=
  let isCorrelated := behavior.readsAliasOf trigger
  let unmatched := Reaction.conclude .record false
  { capacity := requirementCapacity isCorrelated bound
    isCorrelated := isCorrelated
    placements :=
      trigger.place .trigger .engaged
        (.pooling .message (if isCorrelated then .push else .replace) .stay) ++
      behavior.place .behavior .engaged (.pooling .anyPooled .keep .stay) ++
      behavior.place .behavior .engaged
        (if isCorrelated then { unmatched with guard := .undecided } else unmatched)
    deadlines := deadlineIf bound .engaged { anchor := .oldestPooled, effect := .evict } }

def requirement (isReentrant : Bool) (behavior trigger : Event) (bound : Bound) : Core :=
  if requirementCapacity (behavior.readsAliasOf trigger) bound = .zero then
    simpleRequirement isReentrant behavior trigger
  else pooledRequirement behavior trigger bound

/-- Triggers are pooled until a behavior takes them out. When the time of one is over, the property
is violated. -/
def response (trigger behavior : Event) (bound : Bound) : Core :=
  let isCorrelated := behavior.readsAliasOf trigger
  { entry := .idle
    openStates := [.idle, .pending]
    capacity := if isCorrelated then .unbounded else .one
    isCorrelated := isCorrelated
    placements :=
      trigger.place .trigger .idle (.pooling .message .push (.goto .pending)) ++
      (if isCorrelated then trigger.place .trigger .pending (.pooling .message .push .stay)
        else []) ++
      behavior.place .behavior .pending
        (.pooling .consumePooled .keep (.drain .idle .pending))
    deadlines := deadlineIf bound .pending
      { anchor := .oldestPooled
        effect := .transition .recordPending (some false) .rejected } }

end Core

/-- There is no core for preventions. -/
def Pattern.core (isReentrant : Bool) : Pattern → Except ValidationError Core
  | absence behavior bound => .ok (Core.absence isReentrant behavior bound)
  | existence behavior bound => .ok (Core.existence isReentrant behavior bound)
  | requirement behavior trigger bound =>
      .ok (Core.requirement isReentrant behavior trigger bound)
  | response trigger behavior bound => .ok (Core.response trigger behavior bound)
  | prevention _ _ _ => .error (.unsupportedPattern PatternKind.prevention.name)

/-- What a terminator does in an open state. An existence that is still missing, or a response that
is still owed, violates the property. -/
def closing (isReentrant : Bool) (pattern : PatternKind) (state : State) : Reaction :=
  match pattern, state with
  | .response, .pending => .close .recordBoth false
  | .existence, .engaged => .close .record false
  | .existence, _ => if isReentrant then .leave else .close .record false
  | _, _ => if isReentrant then .leave else .close .record true

namespace Property

def scopePlacements (property : Property) (core : Core) : List Placement :=
  let kind := property.scope.kind
  let opening := match property.scope.activator? with
    | some activator => activator.place .activator .inactive (.enter core.entry)
    | none => []
  let closings := match property.scope.terminator? with
    | some terminator => core.openStates.flatMap fun state =>
        terminator.place .terminator state
          (closing kind.isReentrant property.pattern.kind state)
    | none => []
  opening ++ closings

def assemble (property : Property) (core : Core) : Machine where
  summary := property.summary
  scope := property.scope.kind
  pattern := property.pattern.kind
  bound := property.pattern.bound
  initial := if property.scope.kind.hasActivator then .inactive else core.entry
  capacity := core.capacity
  isCorrelated := core.isCorrelated
  placements := property.scopePlacements core ++ core.placements
  deadlines := core.deadlines

/-- The machine that monitors the property. -/
def compile (property : Property) : Except ValidationError Machine := do
  property.validate
  let core ← property.pattern.core property.scope.kind.isReentrant
  .ok (property.assemble core)

end Property

end TemporalMonitor
