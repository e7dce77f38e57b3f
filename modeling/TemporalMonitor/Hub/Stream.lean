import TemporalMonitor.Hub.Event

/-!
Streams of events from a hub to its subscribers.
-/

namespace TemporalMonitor

/-- The events that wait for a subscriber. A stream that is not connected gets no more. -/
structure EventStream where
  filter : EventFilter
  capacity : Nat
  held : List MonitorEvent := []
  isConnected : Bool := true

namespace EventStream

def disconnected : Error :=
  .execution (.disconnected "verdict_stream")

/-- The stream wants the event. -/
def wants (stream : EventStream) (event : MonitorEvent) : Bool :=
  stream.isConnected && stream.filter.accepts event

def hasRoom (stream : EventStream) : Bool :=
  stream.held.length < stream.capacity

/-- An event that the stream wants and has no room for is lost. -/
def loses (stream : EventStream) (event : MonitorEvent) : Bool :=
  stream.wants event && !stream.hasRoom

def deliver (event : MonitorEvent) (stream : EventStream) : EventStream :=
  if stream.wants event && stream.hasRoom then { stream with held := stream.held ++ [event] }
  else stream

/-- What is held can still be received. -/
def disconnect (stream : EventStream) : EventStream :=
  { stream with isConnected := false }

/-- The next event if there is one; a stream that can get none any more is an error. -/
def tryReceive (stream : EventStream) : Except Error (Option MonitorEvent) × EventStream :=
  match stream.held with
  | event :: rest => (.ok (some event), { stream with held := rest })
  | [] => (if stream.isConnected then .ok none else .error disconnected, stream)

/-- The next event; `none` means that the call would have to wait. -/
def receive (stream : EventStream) : Option (Except Error MonitorEvent) × EventStream :=
  match stream.tryReceive with
  | (.ok (some event), stream) => (some (.ok event), stream)
  | (.ok none, stream) => (none, stream)
  | (.error error, stream) => (some (.error error), stream)

/-- The next event, waiting for that many milliseconds in vain if there is none. -/
def receiveWithin (stream : EventStream) (millis : Nat) :
    Except Error MonitorEvent × EventStream :=
  match stream.receive with
  | (some result, stream) => (result, stream)
  | (none, stream) => (.error (.execution (.timeout millis)), stream)

/-- All events held, and the error that the stream ends with if it is not connected. -/
def drain (stream : EventStream) : List MonitorEvent × Option Error × EventStream :=
  (stream.held, if stream.isConnected then none else some disconnected, { stream with held := [] })

end EventStream

end TemporalMonitor
