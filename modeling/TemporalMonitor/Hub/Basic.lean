import TemporalMonitor.Hub.Stream
import TemporalMonitor.Monitor.Basic

/-!
Hubs: many monitors behind one door.

A hub passes each message to the monitors that listen to its topic, and queues what they have to
say until it is delivered to the subscribers.
-/

namespace TemporalMonitor

structure HubConfig where
  eventQueueCapacity : Nat := 4096
  streamCapacity : Nat := 1024
  deriving DecidableEq, Repr

def HubConfig.ofJson? (document : Json) : Option HubConfig := do
  let fields ← document.fields? ["event_queue_capacity", "stream_capacity"]
  let standard : HubConfig := {}
  some {
    eventQueueCapacity :=
      ← fields.orDefault "event_queue_capacity" standard.eventQueueCapacity (Json.word? 64)
    streamCapacity := ← fields.orDefault "stream_capacity" standard.streamCapacity (Json.word? 64) }

structure Hub where
  config : HubConfig
  /-- The monitors in ascending order of their identifiers. -/
  monitors : List (Uuid × Monitor) := []
  /-- For each topic the monitors that listen to it, in the order of their registration. -/
  routes : List (String × List Uuid) := []
  /-- Events that are not delivered yet, the oldest one first. -/
  queue : List MonitorEvent := []
  streams : List EventStream := []
  /-- The counters start again from zero behind the last number of 64 bits. -/
  droppedEvents : UInt64 := 0
  droppedDeliveries : UInt64 := 0

namespace Hub

def ofConfig (config : HubConfig) : Hub := { config := config }

/-- A callback that only passes notices on never crashes. -/
def forwarding : Callbacks where
  onViolation? := some fun _ _ => .ok ()
  onSuccess? := some fun _ _ => .ok ()
  onEnter? := some fun _ => .ok ()
  onExit? := some fun _ => .ok ()

/-- Adds a monitor to the route of a topic. -/
def addRoute (id : Uuid) (routes : List (String × List Uuid)) (topic : String) :
    List (String × List Uuid) :=
  Ordered.insert topic ((routes.lookup topic).getD [] ++ [id]) routes

/-- Registers a machine under an identifier that is new to the hub. -/
def register (hub : Hub) (id : Uuid) (machine : Machine) : Hub :=
  { hub with
    routes := machine.topics.foldl (addRoute id) hub.routes
    monitors := Ordered.insert id { Monitor.ofMachine machine with callbacks := forwarding }
      hub.monitors }

def registerProperty (hub : Hub) (id : Uuid) (property : Property) : Except ValidationError Hub :=
  property.compile.map (hub.register id)

def unknown (id : Uuid) : Error :=
  .execution (.unknownMonitor id.text)

def monitor (hub : Hub) (id : Uuid) : Except Error Monitor :=
  match hub.monitors.lookup id with
  | some monitor => .ok monitor
  | none => .error (unknown id)

/-- Removes a monitor from the hub and from every route; no route is left empty. -/
def unregister (hub : Hub) (id : Uuid) : Except Error Hub := do
  let _ ← hub.monitor id
  let removed := hub.routes.map fun (topic, ids) => (topic, ids.filter (· != id))
  .ok { hub with
    monitors := hub.monitors.filter fun entry => entry.1 != id
    routes := removed.filter fun (_, ids) => !ids.isEmpty }

def ids (hub : Hub) : List Uuid :=
  hub.monitors.map Prod.fst

/-- The monitors that listen to a topic. -/
def routed (hub : Hub) (topic : String) : List Uuid :=
  ((hub.routes.lookup topic).getD []).filter fun id => (hub.monitors.lookup id).isSome

/-- The end of a call on a hub. -/
structure Outcome (α : Type) where
  result : Except Failure α
  hub : Hub

/-- Puts a monitor back after a call, and queues its notices. -/
def commit {α : Type} (hub : Hub) (id : Uuid) (outcome : TemporalMonitor.Outcome α) : Hub :=
  { hub with
    monitors := Ordered.insert id outcome.monitor hub.monitors
    queue := hub.queue ++ outcome.calls.map fun notice =>
      MonitorEvent.ofNotice id outcome.monitor.machine.summary.id? notice }

/-- A call on one monitor. -/
def call {α : Type} (hub : Hub) (id : Uuid) (operation : Monitor → TemporalMonitor.Outcome α) :
    Outcome α :=
  match hub.monitor id with
  | .error error => ⟨.error (.error error), hub⟩
  | .ok monitor =>
      let outcome := operation monitor
      ⟨outcome.result, hub.commit id outcome⟩

/-- The same call on several monitors in turn, up to the first failure. -/
def callEach {α : Type} (operation : Monitor → TemporalMonitor.Outcome α) :
    Hub → List Uuid → Outcome (List α)
  | hub, [] => ⟨.ok [], hub⟩
  | hub, id :: rest =>
      let first := hub.call id operation
      match first.result with
      | .error failure => ⟨.error failure, first.hub⟩
      | .ok value =>
          let others := callEach operation first.hub rest
          ⟨others.result.map (value :: ·), others.hub⟩

/-- The first complaint about the states of the monitors. -/
def complaint? (fault? : State → Option ExecutionError) : List (Uuid × Monitor) → Option Failure
  | [] => none
  | (_, monitor) :: rest =>
      match monitor.state with
      | .error failure => some failure
      | .ok state =>
          match fault? state with
          | some fault => some (.error (.execution fault))
          | none => complaint? fault? rest

/-- A call on all monitors that is only made if no monitor has a fault. -/
def callAll (hub : Hub) (fault? : State → Option ExecutionError)
    (operation : Monitor → TemporalMonitor.Outcome Unit) : Outcome Unit :=
  match complaint? fault? hub.monitors with
  | some failure => ⟨.error failure, hub⟩
  | none =>
      let outcome := callEach operation hub hub.ids
      ⟨outcome.result.map fun _ => (), outcome.hub⟩

/-- Launches all monitors, or none if one is running. -/
def launch (hub : Hub) (time : Timestamp) : Outcome Unit :=
  hub.callAll (fun state => if state.isOff then none else some (.alreadyActive state.name))
    fun monitor => monitor.launch time

/-- Shuts all monitors down, or none if one is not running. -/
def shutdown (hub : Hub) (time : Timestamp) : Outcome Unit :=
  hub.callAll (fun state => if state.isOff then some .notActive else none)
    fun monitor => monitor.shutdown time

def onTimer (hub : Hub) (now : Timestamp) : Outcome Unit :=
  let outcome := callEach (fun monitor => monitor.onTimer now) hub hub.ids
  ⟨outcome.result.map fun _ => (), outcome.hub⟩

/-- Passes a message on, and counts the monitors with a rule that applied. -/
def onMessage (hub : Hub) (topic : String) (message : Message) (time : Timestamp) : Outcome Nat :=
  let outcome := callEach (fun monitor => monitor.onMessage topic message time) hub
    (hub.routed topic)
  ⟨outcome.result.map fun consumed => consumed.countP id, outcome.hub⟩

def verdict (hub : Hub) (id : Uuid) : Except Failure Verdict :=
  match hub.monitor id with
  | .error error => .error (.error error)
  | .ok monitor => monitor.verdict

def verdictsOf : List (Uuid × Monitor) → Except Failure (List (Uuid × Verdict))
  | [] => .ok []
  | (id, monitor) :: rest => do
      let verdict ← monitor.verdict
      let others ← verdictsOf rest
      .ok ((id, verdict) :: others)

def verdicts (hub : Hub) : Except Failure (List (Uuid × Verdict)) :=
  verdictsOf hub.monitors

/-- A new stream, whose number is the number of streams so far. It has room for one event at
least. -/
def subscribe (hub : Hub) (filter : EventFilter) : Nat × Hub :=
  (hub.streams.length,
    { hub with
      streams := hub.streams ++
        [{ filter := filter, capacity := max hub.config.streamCapacity 1 }] })

/-- Delivers one event to every stream that wants it. -/
def deliver (hub : Hub) (event : MonitorEvent) : Hub :=
  { hub with
    streams := hub.streams.map (EventStream.deliver event)
    droppedDeliveries :=
      hub.droppedDeliveries + .ofNat (hub.streams.countP fun stream => stream.loses event) }

/-- Delivers the oldest event in the queue. -/
def dispatch (hub : Hub) : Hub :=
  match hub.queue with
  | [] => hub
  | event :: rest => { hub with queue := rest }.deliver event

/-- Delivers every event in the queue, in order. -/
def flush (hub : Hub) : Hub :=
  hub.queue.foldl deliver { hub with queue := [] }

/-- Replaces the stream with the given number. -/
def setStream (hub : Hub) (number : Nat) (stream : EventStream) : Hub :=
  { hub with streams := hub.streams.set number stream }

end Hub

end TemporalMonitor
