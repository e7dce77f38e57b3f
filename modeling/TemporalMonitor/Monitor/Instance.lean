import TemporalMonitor.Monitor.Pool

/-!
What a monitor remembers between calls.
-/

namespace TemporalMonitor

/-- What is known about the property. -/
inductive Verdict where
  | unknown
  | satisfied
  | violated
  deriving DecidableEq, Repr

namespace Verdict

def all : List Verdict := [unknown, satisfied, violated]

def name : Verdict → String
  | unknown => "unknown"
  | satisfied => "satisfied"
  | violated => "violated"

def bool? : Verdict → Option Bool
  | unknown => none
  | satisfied => some true
  | violated => some false

def isKnown (verdict : Verdict) : Bool :=
  verdict.bool?.isSome

def ofBool : Bool → Verdict
  | true => satisfied
  | false => violated

def text : Verdict → String
  | unknown => "unknown"
  | satisfied => "true"
  | violated => "false"

end Verdict

structure Instance where
  state : State
  verdict : Verdict
  pool : Pool
  /-- The records that justify the verdict. -/
  witness : List Record
  launchTime? : Option Timestamp
  shutdownTime? : Option Timestamp
  lastTransition? : Option Timestamp
  /-- When the scope opened, while it is open. -/
  episodeStart? : Option Timestamp
  /-- The latest timestamp seen so far. -/
  latestSeen? : Option Timestamp

/-- A copy of what a monitor shows. -/
structure Snapshot where
  state : State
  verdict : Verdict
  witness : List Record
  pool : List Record
  launchTime? : Option Timestamp
  shutdownTime? : Option Timestamp
  lastTransition? : Option Timestamp
  episodeStart? : Option Timestamp

/-- Records with an alias bind their messages; later ones hide earlier ones. -/
def Bindings.ofRecords (records : List Record) : Bindings :=
  records.foldl (fun bindings record =>
    match record.alias? with
    | some name => bindings.bind name record.message
    | none => bindings) Bindings.empty

namespace Instance

/-- A monitor that was never launched. -/
def off (machine : Machine) : Instance where
  state := .off
  verdict := .unknown
  pool := Pool.empty machine.capacity
  witness := []
  launchTime? := none
  shutdownTime? := none
  lastTransition? := none
  episodeStart? := none
  latestSeen? := none

def bindings (inst : Instance) : Bindings :=
  Bindings.ofRecords inst.witness

def snapshot (inst : Instance) : Snapshot where
  state := inst.state
  verdict := inst.verdict
  witness := inst.witness
  pool := inst.pool.records
  launchTime? := inst.launchTime?
  shutdownTime? := inst.shutdownTime?
  lastTransition? := inst.lastTransition?
  episodeStart? := inst.episodeStart?

end Instance

namespace Snapshot

def toJson (snapshot : Snapshot) : Json :=
  let time := Json.ofOption Timestamp.toJson
  .object [
    ("state", snapshot.state.toJson),
    ("verdict", .string snapshot.verdict.name),
    ("witness", .array (snapshot.witness.map Record.toJson)),
    ("pool", .array (snapshot.pool.map Record.toJson)),
    ("launch_time", time snapshot.launchTime?),
    ("shutdown_time", time snapshot.shutdownTime?),
    ("last_transition_time", time snapshot.lastTransition?),
    ("episode_start", time snapshot.episodeStart?)]

def ofJson? (document : Json) : Option Snapshot := do
  let fields ← document.fields? ["state", "verdict", "witness", "pool", "launch_time",
    "shutdown_time", "last_transition_time", "episode_start"]
  some {
    state := ← fields.required "state" State.ofJson?
    verdict := ← fields.required "verdict" fun document =>
      document.choice? Verdict.all Verdict.name
    witness := ← fields.required "witness" (Json.list? Record.ofJson?)
    pool := ← fields.required "pool" (Json.list? Record.ofJson?)
    launchTime? := ← fields.orNull "launch_time" Timestamp.ofJson?
    shutdownTime? := ← fields.orNull "shutdown_time" Timestamp.ofJson?
    lastTransition? := ← fields.orNull "last_transition_time" Timestamp.ofJson?
    episodeStart? := ← fields.orNull "episode_start" Timestamp.ofJson? }

end Snapshot

end TemporalMonitor
