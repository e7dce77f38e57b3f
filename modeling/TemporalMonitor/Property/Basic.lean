import TemporalMonitor.Predicate.Basic
import TemporalMonitor.Time.Bound

/-!
Properties: a pattern of events that has to hold within a scope.
-/

namespace TemporalMonitor

/-- One way for an event to occur: a message on a topic that passes a test. -/
structure Branch where
  topic : String
  predicate : Predicate := .always
  messageType? : Option String := none

/-- An event occurs in one of its branches. The message is bound to the alias, if there is one. -/
structure Event where
  alias? : Option String := none
  branches : List Branch

/-- When the pattern has to hold. -/
inductive Scope where
  /-- During the whole run. -/
  | global
  /-- From the first activator on. -/
  | after (activator : Event)
  /-- From the launch to the first terminator. -/
  | upTo (terminator : Event)
  /-- From an activator to the next terminator, again and again. -/
  | between (activator terminator : Event)

/-- What has to hold. -/
inductive Pattern where
  /-- The behavior does not occur. -/
  | absence (behavior : Event) (bound : Bound)
  /-- The behavior occurs. -/
  | existence (behavior : Event) (bound : Bound)
  /-- Every behavior comes after a trigger. -/
  | requirement (behavior trigger : Event) (bound : Bound)
  /-- Every trigger is followed by a behavior. -/
  | response (trigger behavior : Event) (bound : Bound)
  /-- No trigger is followed by a behavior. -/
  | prevention (trigger behavior : Event) (bound : Bound)

/-- Scopes without their events. -/
inductive ScopeKind where
  | global
  | after
  | upTo
  | between
  deriving DecidableEq, Repr

/-- Patterns without their events. -/
inductive PatternKind where
  | absence
  | existence
  | requirement
  | response
  | prevention
  deriving DecidableEq, Repr

/-- What is written about a property. -/
structure Summary where
  id? : Option String := none
  title? : Option String := none
  description? : Option String := none
  sourceText? : Option String := none
  deriving DecidableEq, Repr

structure Property where
  summary : Summary := {}
  scope : Scope
  pattern : Pattern

namespace Branch

def references (branch : Branch) : List String :=
  branch.predicate.references

def describe (branch : Branch) : String :=
  "EventBranch \x7b topic: " ++ Text.quoted branch.topic ++ ", message_type: " ++
    Text.optional (branch.messageType?.map Text.quoted) ++ ", references: " ++
    Text.bracketed (branch.references.map Text.quoted) ++ ", .. \x7d"

end Branch

namespace Event

def topics (event : Event) : List String :=
  event.branches.map Branch.topic

/-- The names that some branch reads, ascending. -/
def references (event : Event) : List String :=
  Ordered.ofItems (event.branches.flatMap Branch.references)

/-- Some branch reads the message that another event binds. -/
def readsAliasOf (event other : Event) : Bool :=
  other.alias?.any event.references.contains

def describe (event : Event) : String :=
  "Event \x7b alias: " ++ Text.optional (event.alias?.map Text.quoted) ++ ", branches: " ++
    Text.bracketed (event.branches.map Branch.describe) ++ " \x7d"

end Event

namespace Scope

def kind : Scope → ScopeKind
  | global => .global
  | after _ => .after
  | upTo _ => .upTo
  | between _ _ => .between

def activator? : Scope → Option Event
  | after activator | between activator _ => some activator
  | global | upTo _ => none

def terminator? : Scope → Option Event
  | upTo terminator | between _ terminator => some terminator
  | global | after _ => none

end Scope

namespace ScopeKind

def all : List ScopeKind := [global, after, upTo, between]

def name : ScopeKind → String
  | global => "global"
  | after => "after"
  | upTo => "until"
  | between => "after_until"

def describe : ScopeKind → String
  | global => "Global"
  | after => "After"
  | upTo => "Until"
  | between => "AfterUntil"

/-- The scope waits for an event before it opens. -/
def hasActivator : ScopeKind → Bool
  | after | between => true
  | global | upTo => false

/-- The scope can open more than once. -/
def isReentrant : ScopeKind → Bool
  | between => true
  | global | after | upTo => false

end ScopeKind

namespace Pattern

def kind : Pattern → PatternKind
  | absence _ _ => .absence
  | existence _ _ => .existence
  | requirement _ _ _ => .requirement
  | response _ _ _ => .response
  | prevention _ _ _ => .prevention

def behavior : Pattern → Event
  | absence behavior _ | existence behavior _ | requirement behavior _ _
  | response _ behavior _ | prevention _ behavior _ => behavior

def trigger? : Pattern → Option Event
  | requirement _ trigger _ | response trigger _ _ | prevention trigger _ _ => some trigger
  | absence _ _ | existence _ _ => none

def bound : Pattern → Bound
  | absence _ bound | existence _ bound | requirement _ _ bound
  | response _ _ bound | prevention _ _ bound => bound

end Pattern

namespace PatternKind

def all : List PatternKind := [absence, existence, requirement, response, prevention]

def name : PatternKind → String
  | absence => "absence"
  | existence => "existence"
  | requirement => "requirement"
  | response => "response"
  | prevention => "prevention"

end PatternKind

/-- The parts of a summary that are given. -/
def Summary.toJson (summary : Summary) : Json :=
  .object (Json.optionalMember "id" .string summary.id? ++
    Json.optionalMember "title" .string summary.title? ++
    Json.optionalMember "description" .string summary.description? ++
    Json.optionalMember "source_text" .string summary.sourceText?)

def Summary.ofJson? (document : Json) : Option Summary := do
  let fields ← document.fields? ["id", "title", "description", "source_text"]
  let text := Json.nullable? Json.string?
  some {
    id? := ← fields.orDefault "id" none text
    title? := ← fields.orDefault "title" none text
    description? := ← fields.orDefault "description" none text
    sourceText? := ← fields.orDefault "source_text" none text }

end TemporalMonitor
