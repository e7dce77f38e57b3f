import TemporalMonitor.Property.Basic

/-!
Well-formed properties.

Every event has a branch, topics and aliases are not blank, no alias is given twice, and a test
reads a name only where it is bound: the alias of the activator inside the scope, and that of the
trigger in the behavior of a requirement or a response.
-/

namespace TemporalMonitor.Property

/-- The events of a property with their roles, in the order in which they are checked. -/
def events (property : Property) : List (String × Event) :=
  (property.scope.activator?.map ("activator", ·)).toList ++
    (property.scope.terminator?.map ("terminator", ·)).toList ++
    (property.pattern.trigger?.map ("trigger", ·)).toList ++
    [("behavior", property.pattern.behavior)]

def checkBranches (role : String) (event : Event) : Except ValidationError Unit :=
  if event.branches.isEmpty then .error (.emptyEvent role)
  else if event.topics.any Text.isBlank then .error (.missingField (role ++ ".topic"))
  else .ok ()

/-- The alias must not be blank, nor among those seen before. -/
def checkAlias (seen : List String) (role name : String) : Except ValidationError Unit :=
  if Text.isBlank name then .error (.missingField (role ++ ".alias"))
  else if seen.contains name then .error (.duplicateAlias name)
  else .ok ()

def checkEvents (seen : List String) : List (String × Event) → Except ValidationError Unit
  | [] => .ok ()
  | (role, event) :: rest => do
      checkBranches role event
      match event.alias? with
      | some name => do
          checkAlias seen role name
          checkEvents (name :: seen) rest
      | none => checkEvents seen rest

/-- The first name that a branch reads although it is not bound, with the topic of the branch. -/
def unbound? (bound : List String) (event : Event) : Option (String × String) :=
  event.branches.findSome? fun branch =>
    (branch.references.find? fun name => !bound.contains name).map (·, branch.topic)

def checkBound (bound : List String) (event : Event) : Except ValidationError Unit :=
  match unbound? bound event with
  | some (name, topic) => .error (.unboundAlias name topic)
  | none => .ok ()

/-- The name that is bound inside the scope. -/
def scopeNames (property : Property) : List String :=
  (property.scope.activator?.bind Event.alias?).toList

/-- The names that are bound where the behavior is tested. -/
def behaviorNames (property : Property) : List String :=
  match property.pattern with
  | .requirement _ trigger _ | .response trigger _ _ =>
      property.scopeNames ++ trigger.alias?.toList
  | _ => property.scopeNames

def checkOptional (bound : List String) : Option Event → Except ValidationError Unit
  | some event => checkBound bound event
  | none => .ok ()

/-- The first fault of a property, if it has one. -/
def validate (property : Property) : Except ValidationError Unit := do
  checkEvents [] property.events
  checkOptional [] property.scope.activator?
  checkOptional property.scopeNames property.scope.terminator?
  checkOptional property.scopeNames property.pattern.trigger?
  checkBound property.behaviorNames property.pattern.behavior

end TemporalMonitor.Property
