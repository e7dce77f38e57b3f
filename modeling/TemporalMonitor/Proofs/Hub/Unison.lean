import TemporalMonitor.Proofs.Hub.Delivery
import TemporalMonitor.Proofs.Hub.Routing

/-!
All monitors of a hub are launched or shut down together, or none of them is.

The monitors are looked at first, and called only if none of them objects. A monitor that does not
object cannot fail any more when it is called, since its callbacks only pass on what they are told. So
either every call is made and succeeds, or none is made.
-/

namespace TemporalMonitor

namespace Monitor

/-- The monitor right after its launch, whatever it was before. -/
def launchedAt (time : Timestamp) (monitor : Monitor) : Monitor :=
  { monitor with
    inst := { Instance.off monitor.machine with
      state := monitor.machine.initial
      launchTime? := some time
      lastTransition? := some time
      latestSeen? := some time
      episodeStart? := if monitor.machine.entersOnLaunch then some time else none } }

/-- What is told at a launch. -/
def launchNotices (time : Timestamp) (monitor : Monitor) : List Notice :=
  if monitor.machine.entersOnLaunch then [.entered time] else []

/-- The monitor right after it has been shut down. -/
def stoppedAt (time : Timestamp) (monitor : Monitor) : Monitor :=
  { monitor with inst := { monitor.inst with state := .off, shutdownTime? := some time } }

theorem launchedAt_machine (time : Timestamp) (monitor : Monitor) :
    (monitor.launchedAt time).machine = monitor.machine := rfl

theorem stoppedAt_machine (time : Timestamp) (monitor : Monitor) :
    (monitor.stoppedAt time).machine = monitor.machine := rfl

end Monitor

namespace Hub

/-- The hub can be reached by requests to it, by operations on single monitors, and by what happens
between the monitors and the subscribers. Tests may crash on the way. -/
inductive Reachable : Hub → Prop where
  | start (config : HubConfig) : Reachable (ofConfig config)
  | request {hub : Hub} (before : Reachable hub) (request : Request) :
      Reachable (hub.perform request).hub
  | operation {hub : Hub} (before : Reachable hub) (id : Uuid) (operation : Operation) :
      Reachable (hub.call id fun monitor => monitor.outcome operation).hub
  | activity {hub : Hub} (before : Reachable hub) (activity : Activity) :
      Reachable (hub.act activity)

/-- Every monitor has its own place, and its callbacks pass on what they are told. -/
structure Wired (hub : Hub) : Prop where
  ascending : Ordered.Ascending hub.monitors
  forwards : ∀ entry ∈ hub.monitors, entry.2.callbacks = forwarding

namespace Wired

variable {hub : Hub} (wired : Wired hub)

include wired

theorem of_monitors {other : Hub} (same : other.monitors = hub.monitors) : Wired other := by
  constructor
  · rw [same]
    exact wired.ascending
  · rw [same]
    exact wired.forwards

theorem insert {id : Uuid} {monitor : Monitor} (forwards : monitor.callbacks = forwarding)
    {other : Hub} (put : other.monitors = Ordered.insert id monitor hub.monitors) : Wired other := by
  constructor
  · rw [put]
    exact wired.ascending.insert id monitor
  · intro entry member
    rw [put] at member
    rcases Ordered.mem_insert member with rfl | known
    · exact forwards
    · exact wired.forwards entry known

theorem unregister {id : Uuid} {fewer : Hub} (removed : hub.unregister id = .ok fewer) :
    Wired fewer := by
  unfold Hub.unregister at removed
  cases found : hub.monitor id with
  | error error =>
      rw [found] at removed
      cases removed
  | ok monitor =>
      rw [found] at removed
      obtain rfl := Except.ok.inj removed
      constructor
      · exact List.Pairwise.sublist (List.filter_sublist.map _) wired.ascending
      · intro entry member
        exact wired.forwards entry (List.mem_filter.mp member).1

/-- A monitor that is called keeps its callbacks. -/
theorem call {α : Type} (operation : String) (step : Monitor → Instance → Step α) (id : Uuid) :
    Wired (hub.call id fun monitor => monitor.run operation (step monitor)).hub := by
  unfold Hub.call Hub.monitor
  cases found : hub.monitors.lookup id with
  | none => exact wired
  | some monitor =>
      have forwards := wired.forwards _ (Ordered.mem_of_lookup found)
      exact wired.insert ((monitor.run_callbacks _ _).trans forwards) rfl

/-- Every request leaves the monitors wired. -/
theorem perform (request : Request) : Wired (hub.perform request).hub := by
  cases request with
  | register id machine => exact wired.insert rfl rfl
  | unregister id =>
      rw [Hub.perform]
      cases removed : hub.unregister id with
      | ok fewer => exact wired.unregister removed
      | error error => exact wired
  | launch time => exact callAll_preserves (fun id wired => wired.call _ _ id) wired _
  | shutdown time => exact callAll_preserves (fun id wired => wired.call _ _ id) wired _
  | onTimer time => exact callEach_preserves (fun id wired => wired.call _ _ id) wired _
  | onMessage topic message time =>
      exact callEach_preserves (fun id wired => wired.call _ _ id) wired _

end Wired

/-- Nothing that happens between the monitors and the subscribers changes a monitor. -/
theorem monitors_act (hub : Hub) (activity : Activity) :
    (hub.act activity).monitors = hub.monitors := by
  cases activity with
  | announce id property? notice => rw [act, announce_eq]
  | dispatch =>
      rw [act]
      cases waiting : hub.queue with
      | nil => rw [dispatch_of_nil waiting]
      | cons event rest => rw [dispatch_of_cons waiting, deliver]
  | receive number => rw [act_receive]
  | subscribe filter => rfl

theorem Reachable.wired {hub : Hub} (reachable : hub.Reachable) : Wired hub := by
  induction reachable with
  | start config => exact ⟨List.Pairwise.nil, fun _ member => absurd member List.not_mem_nil⟩
  | request _ request ih => exact ih.perform request
  | operation _ id operation ih =>
      simp only [Monitor.outcome_eq]
      exact ih.call _ _ id
  | activity _ activity ih => exact ih.of_monitors (monitors_act _ activity)

/-- There is no complaint if every monitor can be used and is in a state without a fault. -/
theorem complaint_eq_none_iff {fault? : State → Option ExecutionError}
    {monitors : List (Uuid × Monitor)} :
    complaint? fault? monitors = none ↔
      ∀ entry ∈ monitors, entry.2.isPoisoned = false ∧ fault? entry.2.inst.state = none := by
  induction monitors with
  | nil => simp [complaint?]
  | cons entry rest ih =>
      rw [List.forall_mem_cons, ← ih, complaint?]
      cases poisoned : entry.2.isPoisoned with
      | true => simp [Monitor.state, Monitor.look, poisoned]
      | false =>
          rw [Monitor.state_of_usable poisoned]
          cases fault : fault? entry.2.inst.state with
          | none => simp [fault]
          | some reason => simp [fault]

/-- The hub after all its monitors have changed, each of them with these notices. -/
def afterAll (hub : Hub) (change : Monitor → Monitor) (notices : Monitor → List Notice) : Hub :=
  { hub with
    monitors := hub.monitors.map fun entry => (entry.1, change entry.2)
    queue := hub.queue ++ hub.monitors.flatMap fun entry =>
      (notices entry.2).map (MonitorEvent.ofNotice entry.1 entry.2.machine.summary.id?) }

/-- All monitors change if all of them are usable and in a suitable state, and otherwise nothing
happens at all. -/
structure AllOrNothing (hub : Hub) (suits : State → Prop) (change : Monitor → Monitor)
    (notices : Monitor → List Notice) (outcome : Outcome Unit) : Prop where
  succeeds_iff : outcome.result = .ok () ↔
    ∀ entry ∈ hub.monitors, entry.2.isPoisoned = false ∧ suits entry.2.inst.state
  all : outcome.result = .ok () → outcome.hub = hub.afterAll change notices
  nothing : outcome.result ≠ .ok () → outcome.hub = hub

/-- The operation succeeds on the monitor, with this change and these notices. -/
structure Succeeds (operation : Monitor → TemporalMonitor.Outcome Unit)
    (change : Monitor → Monitor) (notices : Monitor → List Notice) (monitor : Monitor) : Prop where
  result : (operation monitor).result = .ok ()
  changed : (operation monitor).monitor = change monitor
  calls : (operation monitor).calls = notices monitor

section Together

variable {operation : Monitor → TemporalMonitor.Outcome Unit} {change : Monitor → Monitor}
  {notices : Monitor → List Notice}
  (keeps : ∀ monitor, (change monitor).machine = monitor.machine)

include keeps

/-- A call that succeeds replaces its monitor where it stands. -/
theorem call_between {hub : Hub} {before after : List (Uuid × Monitor)} {id : Uuid}
    {monitor : Monitor} (table : hub.monitors = before ++ (id, monitor) :: after)
    (ascending : Ordered.Ascending hub.monitors)
    (succeeds : Succeeds operation change notices monitor) :
    hub.call id operation = ⟨.ok (), { hub with
      monitors := before ++ (id, change monitor) :: after
      queue := hub.queue ++
        (notices monitor).map (MonitorEvent.ofNotice id monitor.machine.summary.id?) }⟩ := by
  have found : hub.monitors.lookup id = some monitor :=
    Ordered.lookup_of_mem ascending.nodup (by simp [table])
  have put : Ordered.insert id (change monitor) hub.monitors =
      before ++ (id, change monitor) :: after := by
    rw [table] at ascending ⊢
    exact Ordered.insert_between ascending (change monitor)
  unfold call Hub.monitor
  rw [found]
  dsimp only [commit]
  rw [succeeds.result, succeeds.changed, succeeds.calls, put, keeps]

/-- Calls that all succeed are made one after the other. In front are the monitors that have been
called already. -/
theorem callEach_behind {hub : Hub} {before after : List (Uuid × Monitor)}
    (table : hub.monitors = before ++ after) (ascending : Ordered.Ascending hub.monitors)
    (succeeds : ∀ entry ∈ after, Succeeds operation change notices entry.2) :
    callEach operation hub (after.map Prod.fst) = ⟨.ok (after.map fun _ => ()), { hub with
      monitors := before ++ after.map fun entry => (entry.1, change entry.2)
      queue := hub.queue ++ after.flatMap fun entry =>
        (notices entry.2).map (MonitorEvent.ofNotice entry.1 entry.2.machine.summary.id?) }⟩ := by
  induction after generalizing before hub with
  | nil =>
      simp only [List.map_nil, List.flatMap_nil, List.append_nil] at table ⊢
      rw [callEach, ← table]
  | cons entry rest ih =>
      obtain ⟨id, monitor⟩ := entry
      obtain ⟨first, others⟩ := List.forall_mem_cons.mp succeeds
      have sorted : Ordered.Ascending (before ++ (id, change monitor) :: rest) := by
        rw [table] at ascending
        simpa [Ordered.Ascending] using ascending
      rw [List.map_cons, callEach, call_between keeps table ascending first]
      dsimp only
      rw [ih (List.append_cons ..) sorted others]
      simp [Except.map]

/-- If no call can fail where there is no fault, then the calls are made on all monitors or on none. -/
theorem callAll_allOrNothing {hub : Hub} (wired : Wired hub) {fault? : State → Option ExecutionError}
    {suits : State → Prop} (faultless : ∀ {state}, fault? state = none ↔ suits state)
    (succeeds : ∀ {monitor : Monitor}, monitor.callbacks = forwarding →
      monitor.isPoisoned = false → suits monitor.inst.state →
        Succeeds operation change notices monitor) :
    hub.AllOrNothing suits change notices (hub.callAll fault? operation) := by
  have fine : complaint? fault? hub.monitors = none ↔
      ∀ entry ∈ hub.monitors, entry.2.isPoisoned = false ∧ suits entry.2.inst.state := by
    simp only [complaint_eq_none_iff, faultless]
  unfold callAll
  cases complaint : complaint? fault? hub.monitors with
  | some failure =>
      refine ⟨?_, fun success => ?_, fun _ => rfl⟩
      · rw [← fine, complaint]
        simp
      · cases success
  | none =>
      have ready := fine.mp complaint
      have made := callEach_behind keeps (List.nil_append hub.monitors).symm wired.ascending
        fun entry member =>
          succeeds (wired.forwards entry member) (ready entry member).1 (ready entry member).2
      dsimp only
      rw [ids, made]
      exact ⟨iff_of_true rfl ready, fun _ => rfl, fun failure => absurd rfl failure⟩

end Together

section Lifecycle

variable {monitor : Monitor} (forwards : monitor.callbacks = forwarding)
  (usable : monitor.isPoisoned = false)

include forwards usable

/-- The callbacks of a hub do not keep a step from being done. -/
theorem run_forwarding (operation : String) (step : Instance → Step Unit) {inst : Instance}
    {effects : List Effect} (done : step monitor.inst = .done () inst effects) :
    let outcome := monitor.run operation step
    outcome.result = .ok () ∧ outcome.monitor = { monitor with inst := inst } ∧
      outcome.calls = effects.filterMap Effect.notice? := by
  have quiet : monitor.callbacks.Quiet := forwards ▸ forwarding_quiet
  have safe : ∀ crash, (step monitor.inst).result ≠ .error (.crash crash) := by
    simp [done, Step.done]
  obtain ⟨result, after⟩ : (monitor.run operation step).result = _ ∧ _ :=
    Monitor.run_eq quiet usable safe
  have calls := calls_forwarding forwards usable operation step
  rw [done] at result after calls
  refine ⟨result, ?_, calls⟩
  rw [after, ← usable]
  rfl

/-- A usable monitor that is off can be launched. -/
theorem launch_succeeds (isOff : monitor.inst.state = .off) (time : Timestamp) :
    Succeeds (fun monitor => monitor.launch time) (Monitor.launchedAt time)
      (Monitor.launchNotices time) monitor := by
  have done : monitor.machine.launch monitor.inst time =
      .done () (monitor.launchedAt time).inst (.log (.launched monitor.machine.initial time) ::
        Instance.scopeEffects (if monitor.machine.entersOnLaunch then .enter else .none) time) := by
    rw [Machine.launch, isOff]
    rfl
  obtain ⟨result, after, calls⟩ := run_forwarding forwards usable "launch"
    (fun inst => monitor.machine.launch inst time) done
  refine ⟨result, after, calls.trans ?_⟩
  unfold Monitor.launchNotices
  cases monitor.machine.entersOnLaunch with
  | true => rfl
  | false => rfl

/-- A usable monitor that is running can be shut down, and nobody is told. -/
theorem shutdown_succeeds (running : monitor.inst.state ≠ .off) (time : Timestamp) :
    Succeeds (fun monitor => monitor.shutdown time) (Monitor.stoppedAt time) (fun _ => [])
      monitor := by
  obtain ⟨result, after, calls⟩ := run_forwarding forwards usable "shutdown"
    (fun inst => Machine.shutdown inst time) (Machine.shutdown_of_on running time)
  exact ⟨result, after, calls⟩

end Lifecycle

/-- Whatever has happened before, and whether or not monitors are poisoned: a hub launches all its
monitors if all of them are usable and off, and shuts all of them down if all are usable and running.
Otherwise the hub stays just as it is, with its events. -/
theorem launch_shutdown_allOrNothing {hub : Hub} (reachable : hub.Reachable) (time : Timestamp) :
    hub.AllOrNothing (· = .off) (Monitor.launchedAt time) (Monitor.launchNotices time)
        (hub.launch time) ∧
      hub.AllOrNothing (· ≠ .off) (Monitor.stoppedAt time) (fun _ => []) (hub.shutdown time) := by
  constructor
  · exact callAll_allOrNothing (Monitor.launchedAt_machine time) reachable.wired launchFault_eq_none
      fun forwards usable isOff => launch_succeeds forwards usable isOff time
  · exact callAll_allOrNothing (Monitor.stoppedAt_machine time) reachable.wired shutdownFault_eq_none
      fun forwards usable running => shutdown_succeeds forwards usable running time

/-- A machine whose only test crashes. -/
def touchy : Machine :=
  let alarm : Event := ⟨none, [⟨"alarm", .custom [] fun _ _ => .error ⟨"no reading"⟩, none⟩]⟩
  ({ scope := .global, pattern := .absence alarm .unbounded } : Property).assemble
    (.absence false alarm .unbounded)

def twins : Hub :=
  (ofConfig {}).after [.register ⟨1⟩ touchy, .register ⟨2⟩ touchy]

/-- The first one has been poisoned by an alarm, and the second one has been shut down alone. -/
def parted : Hub :=
  ((twins.after [.launch (.ofNanos 0), .onMessage "alarm" ⟨[]⟩ (.ofNanos 1)]).call ⟨2⟩ fun monitor =>
    monitor.outcome (.shutdown (.ofNanos 2))).hub

/-- Fresh monitors are launched together. Once they are parted, they can be neither launched nor shut
down. -/
theorem launch_shutdown_allOrNothing_parted :
    twins.Reachable ∧ parted.Reachable ∧
      parted.monitors.map (fun entry => (entry.2.isPoisoned, entry.2.inst.state)) =
        [(true, .engaged), (false, .off)] ∧
      (twins.launch (.ofNanos 3)).result = .ok () ∧
      (twins.launch (.ofNanos 3)).hub =
        twins.afterAll (Monitor.launchedAt (.ofNanos 3)) (Monitor.launchNotices (.ofNanos 3)) ∧
      (parted.launch (.ofNanos 3)).result ≠ .ok () ∧ (parted.launch (.ofNanos 3)).hub = parted ∧
      (parted.shutdown (.ofNanos 3)).result ≠ .ok () ∧ (parted.shutdown (.ofNanos 3)).hub = parted := by
  have together : twins.Reachable := .request (.request (.start {}) _) _
  have apart : parted.Reachable := .operation (.request (.request together _) _) _ _
  have launch := (launch_shutdown_allOrNothing together (.ofNanos 3)).1
  obtain ⟨relaunch, shutdown⟩ := launch_shutdown_allOrNothing apart (.ofNanos 3)
  have launched := launch.succeeds_iff.mpr (by decide)
  have refused := mt relaunch.succeeds_iff.mp (by decide)
  have unstopped := mt shutdown.succeeds_iff.mp (by decide)
  exact ⟨together, apart, by decide, launched, launch.all launched, refused,
    relaunch.nothing refused, unstopped, shutdown.nothing unstopped⟩

end Hub

end TemporalMonitor
