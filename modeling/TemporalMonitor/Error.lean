/-!
What can go wrong, and how it is worded.
-/

namespace TemporalMonitor

/-- A property that cannot be monitored. -/
inductive ValidationError where
  | unsupportedPattern (pattern : String)
  | unboundAlias (name topic : String)
  | duplicateAlias (name : String)
  | emptyEvent (role : String)
  | missingField (field : String)
  | invalidPredicate (reason : String)
  | invalidTimeBound (reason : String)
  deriving DecidableEq, Repr

/-- A call that cannot be served. -/
inductive ExecutionError where
  | alreadyActive (state : String)
  | notActive
  | lockPoisoned (context : String)
  | unknownMonitor (id : String)
  | disconnected (path : String)
  | timeout (millis : Nat)
  deriving DecidableEq, Repr

/-- Any refusal. An internal one means that rules and data do not fit together. -/
inductive Error where
  | validation (error : ValidationError)
  | execution (error : ExecutionError)
  | internal (message : String)
  deriving DecidableEq, Repr

def ValidationError.message : ValidationError → String
  | .unsupportedPattern pattern =>
      "Pattern '" ++ pattern ++ "' is not supported by the rule compiler"
  | .unboundAlias name topic =>
      "Alias '@" ++ name ++ "' referenced by an event on '" ++ topic ++
        "' is not bound at that point"
  | .duplicateAlias name => "Alias '@" ++ name ++ "' is declared more than once"
  | .emptyEvent role => "Event '" ++ role ++ "' has no topic branches"
  | .missingField field => "Required field '" ++ field ++ "' is missing"
  | .invalidPredicate reason => "Invalid predicate: " ++ reason
  | .invalidTimeBound reason => "Invalid time bound: " ++ reason

def ExecutionError.message : ExecutionError → String
  | .alreadyActive state => "Monitor is already active (state " ++ state ++ ")"
  | .notActive => "Monitor is not active"
  | .lockPoisoned context => "Lock poisoned: " ++ context
  | .unknownMonitor id => "Unknown monitor: " ++ id
  | .disconnected path => "Channel disconnected: " ++ path
  | .timeout millis => "Operation timed out after " ++ toString millis ++ "ms"

namespace Error

def message : Error → String
  | validation error => "Validation error: " ++ error.message
  | execution error => "Execution error: " ++ error.message
  | internal message => "Internal error: " ++ message

def isValidation : Error → Bool
  | validation _ => true
  | _ => false

def isExecution : Error → Bool
  | execution _ => true
  | _ => false

def isInternal : Error → Bool
  | internal _ => true
  | _ => false

/-- A lifecycle call that came out of order. -/
def isUsage : Error → Bool
  | execution (.alreadyActive _) | execution .notActive => true
  | _ => false

/-- Only a call that ran out of time may succeed when it is repeated. -/
def isRetryable : Error → Bool
  | execution (.timeout _) => true
  | _ => false

end Error

/-- A test or a callback of the user broke off, or a pool was asked to hold too much. -/
structure Crash where
  message : String
  deriving DecidableEq, Repr

/-- A call ends early with an error, or because something crashed. -/
inductive Failure where
  | error (error : Error)
  | crash (crash : Crash)
  deriving DecidableEq, Repr

end TemporalMonitor
