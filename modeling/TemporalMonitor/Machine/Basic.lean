import TemporalMonitor.Machine.State
import TemporalMonitor.Property.Basic

/-!
Monitor machines: what a monitor does with a message on a topic in a state, and when time runs out.
-/

namespace TemporalMonitor

/-- How many records a pool may hold. -/
inductive Capacity where
  | zero
  | one
  | unbounded
  deriving DecidableEq, Repr

/-- The largest number of records, if there is one. -/
def Capacity.limit? : Capacity → Option Nat
  | zero => some 0
  | one => some 1
  | unbounded => none

/-- The part that an event plays in a property. -/
inductive Role where
  | activator
  | terminator
  | trigger
  | behavior
  deriving DecidableEq, Repr

/-- How the test of a rule is applied. -/
inductive Guard where
  /-- To the message. -/
  | message
  /-- To the message with each pooled record in turn; one success is enough. -/
  | anyPooled
  /-- As `anyPooled`, and every pooled record with success leaves the pool. -/
  | consumePooled
  /-- To the message, where an unknown result is a success. -/
  | undecided
  deriving DecidableEq, Repr

/-- What a rule does with the pool. -/
inductive PoolAction where
  | keep
  | push
  | replace
  | clear
  deriving DecidableEq, Repr

/-- What a rule does with the witness. -/
inductive WitnessAction where
  | keep
  /-- Appends the message. -/
  | record
  /-- Appends the oldest pooled record. -/
  | recordPending
  /-- Appends the oldest pooled record and then the message. -/
  | recordBoth
  | reset
  deriving DecidableEq, Repr

/-- Whether a rule opens or closes the scope. -/
inductive ScopeAction where
  | none
  | enter
  | exit
  deriving DecidableEq, Repr

/-- The state that follows. -/
inductive Next where
  | stay
  | goto (state : State)
  /-- One state if the pool is empty, and another one if it is not. -/
  | drain (empty otherwise : State)
  deriving DecidableEq, Repr

/-- What happens when a rule applies. -/
structure Reaction where
  guard : Guard
  pool : PoolAction
  witness : WitnessAction
  scope : ScopeAction
  verdict? : Option Bool
  next : Next
  deriving DecidableEq, Repr

/-- A rule for messages on a topic. Their records carry the alias. -/
structure Rule where
  role : Role
  topic : String
  alias? : Option String
  predicate : Predicate
  reaction : Reaction

/-- A rule in the state in which it applies, with the type that its messages are declared to have. -/
structure Placement where
  state : State
  rule : Rule
  messageType? : Option String

/-- Where the time of a deadline starts to count. -/
inductive Anchor where
  | episodeStart
  | oldestPooled
  deriving DecidableEq, Repr

/-- What happens when a deadline has passed. -/
inductive DeadlineEffect where
  /-- Pooled records that are too old are dropped. -/
  | evict
  | transition (witness : WitnessAction) (verdict? : Option Bool) (next : State)
  deriving DecidableEq, Repr

structure Deadline where
  anchor : Anchor
  effect : DeadlineEffect
  deriving DecidableEq, Repr

/-- The rules for one topic and state are tried in the order in which they are placed. -/
structure Machine where
  summary : Summary
  scope : ScopeKind
  pattern : PatternKind
  bound : Bound
  initial : State
  capacity : Capacity
  /-- The behavior reads the pooled records. -/
  isCorrelated : Bool
  placements : List Placement
  /-- At most one deadline for a state, in ascending order of the states. -/
  deadlines : List (State × Deadline)

namespace Capacity

def all : List Capacity := [zero, one, unbounded]

def name : Capacity → String
  | zero => "zero"
  | one => "one"
  | unbounded => "unbounded"

def describe : Capacity → String
  | zero => "Zero"
  | one => "One"
  | unbounded => "Unbounded"

end Capacity

namespace Role

def all : List Role := [activator, terminator, trigger, behavior]

def name : Role → String
  | activator => "activator"
  | terminator => "terminator"
  | trigger => "trigger"
  | behavior => "behavior"

def describe : Role → String
  | activator => "Activator"
  | terminator => "Terminator"
  | trigger => "Trigger"
  | behavior => "Behavior"

end Role

namespace Guard

def all : List Guard := [message, anyPooled, consumePooled, undecided]

def name : Guard → String
  | message => "message"
  | anyPooled => "any_pooled"
  | consumePooled => "consume_pooled"
  | undecided => "partial"

def describe : Guard → String
  | message => "Message"
  | anyPooled => "AnyPooled"
  | consumePooled => "ConsumePooled"
  | undecided => "Partial"

end Guard

namespace PoolAction

def all : List PoolAction := [keep, push, replace, clear]

def name : PoolAction → String
  | keep => "keep"
  | push => "push"
  | replace => "replace"
  | clear => "clear"

def describe : PoolAction → String
  | keep => "Keep"
  | push => "Push"
  | replace => "Replace"
  | clear => "Clear"

end PoolAction

namespace WitnessAction

def all : List WitnessAction := [keep, record, recordPending, recordBoth, reset]

def name : WitnessAction → String
  | keep => "keep"
  | record => "record"
  | recordPending => "record_pending"
  | recordBoth => "record_pending_and_message"
  | reset => "reset"

def describe : WitnessAction → String
  | keep => "Keep"
  | record => "Record"
  | recordPending => "RecordPending"
  | recordBoth => "RecordPendingAndMessage"
  | reset => "Reset"

end WitnessAction

namespace ScopeAction

def all : List ScopeAction := [none, enter, exit]

def name : ScopeAction → String
  | none => "none"
  | enter => "enter"
  | exit => "exit"

def describe : ScopeAction → String
  | none => "None"
  | enter => "Enter"
  | exit => "Exit"

end ScopeAction

namespace Anchor

def all : List Anchor := [episodeStart, oldestPooled]

def name : Anchor → String
  | episodeStart => "episode_start"
  | oldestPooled => "oldest_pooled"

end Anchor

namespace Next

def describe : Next → String
  | stay => "Stay"
  | goto state => "To \x7b state: " ++ state.describe ++ " \x7d"
  | drain empty otherwise =>
      "Drain \x7b empty: " ++ empty.describe ++ ", otherwise: " ++ otherwise.describe ++ " \x7d"

/-- The states that may follow, apart from the present one. -/
def targets : Next → List State
  | stay => []
  | goto state => [state]
  | drain empty otherwise => [empty, otherwise]

end Next

def Rule.describe (rule : Rule) : String :=
  let reaction := rule.reaction
  "Rule \x7b role: " ++ rule.role.describe ++ ", topic: " ++ Text.quoted rule.topic ++
    ", alias: " ++ Text.optional (rule.alias?.map Text.quoted) ++
    ", guard: " ++ reaction.guard.describe ++ ", buffer: " ++ reaction.pool.describe ++
    ", witness: " ++ reaction.witness.describe ++ ", scope: " ++ reaction.scope.describe ++
    ", verdict: " ++ Text.optional (reaction.verdict?.map toString) ++
    ", next: " ++ reaction.next.describe ++ ", .. \x7d"

/-- The states that a deadline may lead to. -/
def DeadlineEffect.targets : DeadlineEffect → List State
  | evict => []
  | transition _ _ next => [next]

namespace Machine

/-- The states in which there are rules for a topic, and the types that its messages are declared to
have. Both ascend. -/
structure TopicInfo where
  states : List State := []
  messageTypes : List String := []

def TopicInfo.add (info : TopicInfo) (placement : Placement) : TopicInfo where
  states := Ordered.add placement.state info.states
  messageTypes := Ordered.addAll placement.messageType?.toList info.messageTypes

/-- What is looked up in a machine: its states, its rules by topic and state, and its topics. All of
it ascends, apart from the rules for one topic and state, which are in the order of placement. -/
structure Table where
  states : List State
  rules : List (String × List (State × List Rule)) := []
  topics : List (String × TopicInfo) := []

/-- Enters a rule, its states and its topic. -/
def Table.place (table : Table) (placement : Placement) : Table where
  states := Ordered.addAll (placement.state :: placement.rule.reaction.next.targets) table.states
  rules := Ordered.update [] placement.rule.topic
    (Ordered.update [] placement.state (· ++ [placement.rule])) table.rules
  topics := Ordered.update {} placement.rule.topic (TopicInfo.add · placement) table.topics

/-- Enters the states of a deadline. -/
def Table.addDeadline (table : Table) (entry : State × Deadline) : Table :=
  { table with states := Ordered.addAll (entry.1 :: entry.2.effect.targets) table.states }

/-- The table of the rules and deadlines, entered one after the other. -/
def table (machine : Machine) : Table :=
  machine.deadlines.foldl Table.addDeadline
    (machine.placements.foldl Table.place { states := [machine.initial] })

/-- The rules for a topic and a state, in the order in which they are tried. -/
def rulesAt (machine : Machine) (topic : String) (state : State) : List Rule :=
  ((machine.table.rules.lookup topic).bind (·.lookup state)).getD []

def deadline? (machine : Machine) (state : State) : Option Deadline :=
  machine.deadlines.lookup state

/-- The topics that some rule is for, ascending. -/
def topics (machine : Machine) : List String :=
  machine.table.topics.map Prod.fst

def listensTo (machine : Machine) (topic : String) : Bool :=
  (machine.table.topics.lookup topic).isSome

/-- The states in which some rule is for the topic, ascending. -/
def statesOf (machine : Machine) (topic : String) : List State :=
  ((machine.table.topics.lookup topic).getD {}).states

/-- The types that messages on the topic are declared to have, ascending. -/
def messageTypesOf (machine : Machine) (topic : String) : List String :=
  ((machine.table.topics.lookup topic).getD {}).messageTypes

/-- The states that the monitor can be in after its launch, ascending. -/
def states (machine : Machine) : List State :=
  machine.table.states

/-- The scope opens with the launch. -/
def entersOnLaunch (machine : Machine) : Bool :=
  !machine.scope.hasActivator

def ruleCount (machine : Machine) : Nat :=
  (machine.table.rules.flatMap fun entry => entry.2.flatMap Prod.snd).length

/-- The name under which the monitor is logged. -/
def label (machine : Machine) : String :=
  machine.summary.id?.getD "anonymous"

/-- Changes the reaction at a position among the placements for a topic and a state. -/
def updatePlacements (topic : String) (state : State) (change : Reaction → Reaction) :
    Nat → List Placement → List Placement
  | _, [] => []
  | order, placement :: rest =>
      if placement.rule.topic == topic && placement.state == state then
        match order with
        | 0 =>
          let rule := { placement.rule with reaction := change placement.rule.reaction }
          { placement with rule := rule } :: rest
        | order + 1 => placement :: updatePlacements topic state change order rest
      else placement :: updatePlacements topic state change order rest

/-- Changes what one of the rules for a topic and a state does. -/
def updateReaction (machine : Machine) (topic : String) (state : State) (order : Nat)
    (change : Reaction → Reaction) : Machine :=
  { machine with placements := updatePlacements topic state change order machine.placements }

/-- Sets the deadline of a state. -/
def setDeadline (machine : Machine) (state : State) (deadline : Deadline) : Machine :=
  { machine with deadlines := Ordered.insert state deadline machine.deadlines }

end Machine

end TemporalMonitor
