import TemporalMonitor.Monitor.Instance

/-!
What a monitor reports about its work: notices for its user, and lines for a log.
-/

namespace TemporalMonitor

/-- What the user of a monitor is told. -/
inductive Notice where
  | entered (time : Timestamp)
  | exited (time : Timestamp)
  | satisfied (time : Timestamp) (witness : List Record)
  | violated (time : Timestamp) (witness : List Record)

/-- A verdict with its witness. -/
def Notice.ofVerdict (verdict : Bool) (time : Timestamp) (witness : List Record) : Notice :=
  match verdict with
  | true => satisfied time witness
  | false => violated time witness

/-- What a monitor writes to its log. -/
inductive LogEntry where
  | launched (state : State) (time : Timestamp)
  | shutDown (state : State) (verdict : Verdict) (time : Timestamp)
  | timeReversed (time latest : Timestamp)
  | discharged (count remaining : Nat)
  | lateRecord (time : Timestamp)
  | ruleFired (role : Role) (topic : String) (source target : State)
  | evicted (count remaining : Nat)
  | deadlinePassed (source target : State) (now : Timestamp)
  | verdictReached (verdict : Verdict) (witness : Nat) (time : Timestamp)
  | scopeEntered (time : Timestamp)
  | scopeExited (time : Timestamp)
  deriving DecidableEq, Repr

/-- A line: the level, the message, and fields with their values. -/
def logLine (level message label : String) (fields : List (String × String)) : String :=
  " ".intercalate (level :: message :: (("property", label) :: fields).map fun (name, value) =>
    name ++ "=" ++ value)

/-- The line of an entry in the log of the monitor with the given label. -/
def LogEntry.line (label : String) : LogEntry → String
  | launched state time =>
      logLine "INFO" "monitor launched" label [("state", state.name), ("ts", time.logText)]
  | shutDown state verdict time =>
      logLine "INFO" "monitor shut down" label
        [("state", state.name), ("verdict", verdict.text), ("ts", time.logText)]
  | timeReversed time latest =>
      logLine "WARN" "non-monotonic timestamp" label
        [("ts", time.logText), ("latest", latest.logText)]
  | discharged count remaining =>
      logLine "DEBUG" "pooled obligations discharged" label
        [("discharged", toString count), ("remaining", toString remaining)]
  | lateRecord time =>
      logLine "DEBUG" "pooled record is newer, late record not stored" label
        [("ts", time.logText)]
  | ruleFired role topic source target =>
      logLine "DEBUG" "rule fired" label
        [("role", role.describe), ("topic", topic), ("from", source.name), ("to", target.name)]
  | evicted count remaining =>
      logLine "DEBUG" "evicted expired pooled records" label
        [("evicted", toString count), ("remaining", toString remaining)]
  | deadlinePassed source target now =>
      logLine "DEBUG" "deadline passed" label
        [("from", source.name), ("to", target.name), ("now", now.logText)]
  | verdictReached verdict witness time =>
      logLine "INFO" "verdict reached" label
        [("verdict", verdict.text), ("witness", toString witness), ("ts", time.logText)]
  | scopeEntered time => logLine "DEBUG" "scope entered" label [("ts", time.logText)]
  | scopeExited time => logLine "DEBUG" "scope exited" label [("ts", time.logText)]

/-- The line that is written when a property has been compiled. -/
def Machine.compiledLine (machine : Machine) : String :=
  logLine "DEBUG" "compiled monitor" machine.label
    [("scope", machine.scope.describe), ("pattern", machine.pattern.name),
      ("states", toString machine.states.length), ("rules", toString machine.ruleCount),
      ("capacity", machine.capacity.describe)]

/-- What happens to the outside during a step, in order. -/
inductive Effect where
  | log (entry : LogEntry)
  | notify (notice : Notice)

def Effect.notice? : Effect → Option Notice
  | log _ => none
  | notify notice => some notice

end TemporalMonitor
