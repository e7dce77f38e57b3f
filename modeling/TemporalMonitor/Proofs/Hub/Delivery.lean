import TemporalMonitor.Hub.Basic
import TemporalMonitor.Proofs.Monitor.Protocol
import Mathlib.Algebra.BigOperators.Group.Finset.Basic

/-!
What becomes of the events between the monitors and the subscribers of a hub.

Callbacks publish, the hub dispatches and subscribers receive, each of them at any time. All that a
subscription misses is what it wanted when its stream was full, and this is counted. So the account of
a subscription is drawn up from what was offered to it: each event that was dispatched, and how many
events its stream held then.
-/

namespace TemporalMonitor

/-- What kind of event a callback is about. -/
def Notice.kind : Notice → EventKind
  | entered _ => .scopeEntered
  | exited _ => .scopeExited
  | satisfied _ _ => .satisfied
  | violated _ _ => .violated

def Notice.time : Notice → Timestamp
  | entered time | exited time | satisfied time _ | violated time _ => time

def Notice.witness : Notice → List Record
  | satisfied _ witness | violated _ witness => witness
  | entered _ | exited _ => []

/-- The event that a subscriber gets, if there is one. -/
def EventStream.next? (stream : EventStream) : Option MonitorEvent :=
  match stream.tryReceive.1 with
  | .ok event? => event?
  | .error _ => none

namespace Hub

/-- Puts an event into the queue, if there is such an event. -/
def publish (hub : Hub) (id : Uuid) (property? : Option String) (kind : EventKind)
    (time : Timestamp) (witness : List Record) : Hub :=
  match MonitorEvent.create id property? kind time witness with
  | .ok event => { hub with queue := hub.queue ++ [event] }
  | .error _ => { hub with droppedEvents := hub.droppedEvents + 1 }

/-- What the callbacks of a registered monitor do. -/
def announce (hub : Hub) (id : Uuid) (property? : Option String) (notice : Notice) : Hub :=
  hub.publish id property? notice.kind notice.time notice.witness

/-- Every callback has an event to publish. -/
theorem announce_eq (hub : Hub) (id : Uuid) (property? : Option String) (notice : Notice) :
    hub.announce id property? notice =
      { hub with
        queue := hub.queue ++ [⟨id, property?, notice.kind, notice.time, notice.witness⟩] } := by
  cases notice <;> rfl

/-- What can happen between the monitors and the subscribers. -/
inductive Activity where
  | announce (id : Uuid) (property? : Option String) (notice : Notice)
  | dispatch
  | receive (number : Nat)
  | subscribe (filter : EventFilter)

def act (hub : Hub) : Activity → Hub
  | .announce id property? notice => hub.announce id property? notice
  | .dispatch => hub.dispatch
  | .receive number =>
      match hub.streams[number]? with
      | some stream => hub.setStream number stream.tryReceive.2
      | none => hub
  | .subscribe filter => (hub.subscribe filter).2

/-- The hub after some activities. -/
def along (hub : Hub) (activities : List Activity) : Hub :=
  activities.foldl act hub

/-- What is observed in the course of some activities. -/
def collect {α : Type} (observe : Hub → Activity → Option α) : Hub → List Activity → List α
  | _, [] => []
  | hub, activity :: rest =>
      (observe hub activity).toList ++ collect observe (hub.act activity) rest

def published? (_ : Hub) : Activity → Option MonitorEvent
  | .announce id property? notice =>
      some ⟨id, property?, notice.kind, notice.time, notice.witness⟩
  | _ => none

def dispatched? (hub : Hub) : Activity → Option MonitorEvent
  | .dispatch => hub.queue.head?
  | _ => none

/-- What the subscriber with this stream receives. -/
def received? (number : Nat) (hub : Hub) : Activity → Option MonitorEvent
  | .receive other =>
      if other = number then (hub.streams[number]?).bind EventStream.next? else none
  | _ => none

/-- What is dispatched, and the number of events that the stream holds then. -/
def offered? (number : Nat) (hub : Hub) (activity : Activity) : Option (MonitorEvent × Nat) :=
  (hub.dispatched? activity).map fun event =>
    (event, ((hub.streams[number]?).elim [] EventStream.held).length)

/-- What is dispatched, wanted by the stream and lost. -/
def lost? (number : Nat) (hub : Hub) (activity : Activity) : Option MonitorEvent :=
  (hub.dispatched? activity).filter fun event =>
    (hub.streams[number]?).any fun stream => stream.loses event

section Collect

variable {α β : Type} {observe : Hub → Activity → Option α} {hub : Hub}

theorem collect_append (early late : List Activity) :
    hub.collect observe (early ++ late) =
      hub.collect observe early ++ (hub.along early).collect observe late := by
  induction early generalizing hub with
  | nil => rfl
  | cons activity rest ih =>
      rw [List.cons_append, collect, ih, collect, List.append_assoc]
      rfl

theorem map_collect (change : α → β) (activities : List Activity) :
    (hub.collect observe activities).map change =
      hub.collect (fun hub activity => (observe hub activity).map change) activities := by
  induction activities generalizing hub with
  | nil => rfl
  | cons activity rest ih =>
      rw [collect, collect, List.map_append, ih]
      cases observe hub activity <;> rfl

/-- Everything that is dispatched is offered. -/
theorem map_offered (number : Nat) (activities : List Activity) :
    (hub.collect (offered? number) activities).map Prod.fst = hub.collect dispatched? activities := by
  rw [map_collect]
  congr 1
  funext hub activity
  rw [offered?, Option.map_map]
  exact Option.map_id'

end Collect

/-- A subscriber only changes its own stream. -/
theorem act_receive (hub : Hub) (number : Nat) :
    hub.act (.receive number) =
      { hub with streams := hub.streams.modify number fun stream => stream.tryReceive.2 } := by
  rw [act, List.modify_eq_set_getElem?]
  cases hub.streams[number]? <;> rfl

theorem dispatch_of_nil {hub : Hub} (waiting : hub.queue = []) : hub.dispatch = hub := by
  rw [dispatch, waiting]

theorem dispatch_of_cons {hub : Hub} {event : MonitorEvent} {rest : List MonitorEvent}
    (waiting : hub.queue = event :: rest) :
    hub.dispatch = { hub with queue := rest }.deliver event := by
  rw [dispatch, waiting]

/-- Nothing is lost in the queue, and the order stays. -/
theorem queue_act (hub : Hub) (activity : Activity) :
    hub.queue ++ (hub.published? activity).toList =
      (hub.dispatched? activity).toList ++ (hub.act activity).queue := by
  cases activity with
  | announce id property? notice =>
      rw [act, announce_eq]
      rfl
  | dispatch =>
      cases waiting : hub.queue with
      | nil => simp [act, published?, dispatched?, dispatch_of_nil waiting, waiting]
      | cons event rest =>
          simp [act, published?, dispatched?, dispatch_of_cons waiting, waiting, deliver]
  | receive number =>
      rw [act_receive]
      exact List.append_nil _
  | subscribe filter => exact List.append_nil _

theorem queue_along (hub : Hub) (activities : List Activity) :
    hub.queue ++ hub.collect published? activities =
      hub.collect dispatched? activities ++ (hub.along activities).queue := by
  induction activities generalizing hub with
  | nil => exact List.append_nil _
  | cons activity rest ih =>
      calc hub.queue ++ hub.collect published? (activity :: rest)
          = (hub.queue ++ (hub.published? activity).toList) ++
              (hub.act activity).collect published? rest := by rw [collect, List.append_assoc]
        _ = (hub.dispatched? activity).toList ++
              ((hub.act activity).queue ++ (hub.act activity).collect published? rest) := by
            rw [queue_act, List.append_assoc]
        _ = hub.collect dispatched? (activity :: rest) ++ (hub.along (activity :: rest)).queue := by
            rw [ih, ← List.append_assoc]
            rfl

/-- A stream that serves a subscription. -/
structure Serves (filter : EventFilter) (room : Nat) (stream : EventStream) : Prop where
  filter_eq : stream.filter = filter
  capacity : stream.capacity = room
  connected : stream.isConnected = true
  fits : stream.held.length ≤ room

/-- What the subscription wants, and the stream has room for. -/
def keeps (filter : EventFilter) (room : Nat) (offer : MonitorEvent × Nat) : Bool :=
  filter.accepts offer.1 && offer.2 != room

/-- What the subscription wants when the stream is full. -/
def misses (filter : EventFilter) (room : Nat) (offer : MonitorEvent × Nat) : Bool :=
  filter.accepts offer.1 && offer.2 == room

/-- The account of a subscription while its stream goes from one content to another: what was
received and is held comes from what was held and was offered, and what was missed is counted. -/
structure Booked (filter : EventFilter) (room : Nat) (first last : EventStream)
    (received lost : List MonitorEvent) (offered : List (MonitorEvent × Nat)) : Prop where
  serves : Serves filter room last
  kept : received ++ last.held = first.held ++ (offered.filter (keeps filter room)).map Prod.fst
  missed : lost = (offered.filter (misses filter room)).map Prod.fst
  bounded : ∀ offer ∈ offered, offer.2 ≤ room

namespace Booked

variable {filter : EventFilter} {room : Nat} {first middle last : EventStream}
  {received lost laterReceived laterLost : List MonitorEvent}
  {offered laterOffered : List (MonitorEvent × Nat)}

theorem refl (serves : Serves filter room first) : Booked filter room first first [] [] [] where
  serves := serves
  kept := (List.append_nil _).symm
  missed := rfl
  bounded := fun _ member => absurd member List.not_mem_nil

theorem trans (early : Booked filter room first middle received lost offered)
    (late : Booked filter room middle last laterReceived laterLost laterOffered) :
    Booked filter room first last (received ++ laterReceived) (lost ++ laterLost)
      (offered ++ laterOffered) where
  serves := late.serves
  kept := by
    rw [List.append_assoc, late.kept, ← List.append_assoc, early.kept, List.append_assoc,
      List.filter_append, List.map_append]
  missed := by
    rw [early.missed, late.missed, List.filter_append, List.map_append]
  bounded := by
    intro offer member
    rcases List.mem_append.mp member with before | after
    · exact early.bounded offer before
    · exact late.bounded offer after

/-- An event that is offered is kept, missed or not wanted. -/
theorem deliver (serves : Serves filter room first) (event : MonitorEvent) :
    Booked filter room first (first.deliver event) []
      (if first.loses event then [event] else []) [(event, first.held.length)] := by
  obtain ⟨filtered, capacity, connected, fits⟩ := serves
  have wants : first.wants event = filter.accepts event := by
    rw [EventStream.wants, connected, filtered, Bool.true_and]
  have hasRoom : first.hasRoom = (first.held.length != room) := by
    rw [EventStream.hasRoom, capacity, Bool.eq_iff_iff, decide_eq_true_iff, bne_iff_ne]
    omega
  have delivered : first.deliver event =
      if keeps filter room (event, first.held.length) then
        { first with held := first.held ++ [event] }
      else first := by
    rw [EventStream.deliver, wants, hasRoom, keeps]
  have loses : first.loses event = misses filter room (event, first.held.length) := by
    rw [EventStream.loses, wants, hasRoom, misses, bne, Bool.not_not]
  rw [delivered, loses]
  constructor
  · split
    · next isKept =>
        have notFull : first.held.length ≠ room := bne_iff_ne.mp (Bool.and_eq_true_iff.mp isKept).2
        refine ⟨filtered, capacity, connected, ?_⟩
        rw [List.length_append, List.length_singleton]
        omega
    · exact ⟨filtered, capacity, connected, fits⟩
  · split
    · next isKept =>
        rw [List.filter_cons_of_pos isKept]
        rfl
    · next notKept =>
        rw [List.filter_cons_of_neg notKept]
        exact (List.append_nil _).symm
  · split
    · next isMissed =>
        rw [List.filter_cons_of_pos isMissed]
        rfl
    · next notMissed =>
        rw [List.filter_cons_of_neg notMissed]
        rfl
  · intro offer member
    rw [List.mem_singleton.mp member]
    exact fits

theorem receive (serves : Serves filter room first) :
    Booked filter room first first.tryReceive.2 first.next?.toList [] [] := by
  obtain ⟨filtered, capacity, connected, fits⟩ := serves
  cases holds : first.held with
  | nil =>
      rw [EventStream.next?, EventStream.tryReceive, holds, connected]
      exact refl ⟨filtered, capacity, connected, fits⟩
  | cons event rest =>
      rw [EventStream.next?, EventStream.tryReceive, holds]
      rw [holds, List.length_cons] at fits
      refine ⟨⟨filtered, capacity, connected, Nat.le_of_succ_le fits⟩, ?_, rfl,
        fun _ member => absurd member List.not_mem_nil⟩
      rw [holds, List.filter_nil, List.map_nil, List.append_nil]
      rfl

variable (booked : Booked filter room first last received lost offered)

include booked

/-- What is wanted is received, held or lost. -/
theorem balance : first.held.length + offered.countP (fun offer => filter.accepts offer.1) =
    received.length + last.held.length + lost.length := by
  have kept := congrArg List.length booked.kept
  have missed := congrArg List.length booked.missed
  rw [List.length_append, List.length_append, List.length_map, ← List.countP_eq_length_filter]
    at kept
  rw [List.length_map, ← List.countP_eq_length_filter] at missed
  have wanted := List.countP_eq_countP_filter_add offered (fun offer => filter.accepts offer.1)
    (fun offer => offer.2 != room)
  have full : (fun offer : MonitorEvent × Nat => filter.accepts offer.1 && !(offer.2 != room)) =
      misses filter room := by
    funext offer
    rw [misses, bne, Bool.not_not]
  rw [List.countP_filter, List.countP_filter, full] at wanted
  change _ = offered.countP (keeps filter room) + _ at wanted
  omega

/-- What was received and is held are events that the subscription wants, in their order. -/
theorem sublist (empty : first.held = []) :
    (received ++ last.held).Sublist ((offered.map Prod.fst).filter filter.accepts) := by
  rw [booked.kept, empty, List.nil_append, List.filter_map]
  refine (List.monotone_filter_right offered fun offer isKept => ?_).map Prod.fst
  exact (Bool.and_eq_true_iff.mp isKept).1

end Booked

section Subscription

variable {filter : EventFilter} {room number : Nat} {hub : Hub} {stream : EventStream}

/-- Each activity is booked to the subscription. -/
theorem booked_act (found : hub.streams[number]? = some stream) (serves : Serves filter room stream)
    (activity : Activity) :
    ∃ next, (hub.act activity).streams[number]? = some next ∧
      Booked filter room stream next (hub.received? number activity).toList
        (hub.lost? number activity).toList (hub.offered? number activity).toList := by
  cases activity with
  | announce id property? notice =>
      refine ⟨stream, ?_, .refl serves⟩
      rw [act, announce_eq]
      exact found
  | dispatch =>
      cases waiting : hub.queue with
      | nil =>
          rw [act, dispatch_of_nil waiting, lost?, offered?, dispatched?, waiting]
          exact ⟨stream, found, .refl serves⟩
      | cons event rest =>
          refine ⟨stream.deliver event, ?_, ?_⟩
          · rw [act, dispatch_of_cons waiting, deliver, List.getElem?_map, found]
            rfl
          · have booked := Booked.deliver serves event
            have lost : ((some event).filter stream.loses).toList =
                if stream.loses event then [event] else [] := by
              rw [Option.filter_some]
              split <;> rfl
            rw [lost?, offered?, dispatched?, waiting, found]
            exact lost ▸ booked
  | receive other =>
      rw [act_receive, List.getElem?_modify, found, received?]
      by_cases same : other = number
      · rw [if_pos same, found]
        exact ⟨stream.tryReceive.2, congrArg some (if_pos same), .receive serves⟩
      · rw [if_neg same]
        exact ⟨stream, congrArg some (if_neg same), .refl serves⟩
  | subscribe other =>
      refine ⟨stream, ?_, .refl serves⟩
      exact List.getElem?_append_left (List.getElem?_eq_some_iff.mp found).1 |>.trans found

theorem booked_along (found : hub.streams[number]? = some stream)
    (serves : Serves filter room stream) (activities : List Activity) :
    ∃ last, (hub.along activities).streams[number]? = some last ∧
      Booked filter room stream last (hub.collect (received? number) activities)
        (hub.collect (lost? number) activities) (hub.collect (offered? number) activities) := by
  induction activities generalizing hub stream with
  | nil => exact ⟨stream, found, .refl serves⟩
  | cons activity rest ih =>
      obtain ⟨next, present, early⟩ := booked_act found serves activity
      obtain ⟨last, still, late⟩ := ih present early.serves
      exact ⟨last, still, early.trans late⟩

end Subscription

theorem config_act (hub : Hub) (activity : Activity) : (hub.act activity).config = hub.config := by
  cases activity with
  | announce id property? notice => rw [act, announce_eq]
  | dispatch =>
      cases waiting : hub.queue with
      | nil => rw [act, dispatch_of_nil waiting]
      | cons event rest => rw [act, dispatch_of_cons waiting, deliver]
  | receive number => rw [act_receive]
  | subscribe filter => rfl

theorem config_along (hub : Hub) (activities : List Activity) :
    (hub.along activities).config = hub.config := by
  induction activities generalizing hub with
  | nil => rfl
  | cons activity rest ih => exact (ih _).trans (hub.config_act activity)

/-- Streams stay. -/
theorem length_streams_act (hub : Hub) (activity : Activity) :
    hub.streams.length ≤ (hub.act activity).streams.length := by
  cases activity with
  | announce id property? notice =>
      rw [act, announce_eq]
  | dispatch =>
      cases waiting : hub.queue with
      | nil => rw [act, dispatch_of_nil waiting]
      | cons event rest => rw [act, dispatch_of_cons waiting, deliver, List.length_map]
  | receive number => rw [act_receive, List.length_modify]
  | subscribe filter =>
      rw [act, subscribe, List.length_append]
      exact Nat.le_add_right _ _

theorem length_streams_along (hub : Hub) (activities : List Activity) :
    hub.streams.length ≤ (hub.along activities).streams.length := by
  induction activities generalizing hub with
  | nil => exact Nat.le_refl _
  | cons activity rest ih => exact Nat.le_trans (hub.length_streams_act activity) (ih _)

/-- A stream that is not there loses nothing. -/
theorem collect_lost_of_absent {hub : Hub} {number : Nat} {activities : List Activity}
    (absent : (hub.along activities).streams.length ≤ number) :
    hub.collect (lost? number) activities = [] := by
  induction activities generalizing hub with
  | nil => rfl
  | cons activity rest ih =>
      have missing : hub.streams[number]? = none :=
        List.getElem?_eq_none (Nat.le_trans (hub.length_streams_along (activity :: rest)) absent)
      have nothing : hub.lost? number activity = none := by
        rw [lost?, missing]
        cases hub.dispatched? activity <;> rfl
      rw [collect, nothing, ih absent]
      rfl

/-- The items that pass can be counted by their places. -/
theorem countP_eq_sum {α : Type} (test : α → Bool) {items : List α} {bound : Nat}
    (within : items.length ≤ bound) :
    items.countP test = ∑ place ∈ Finset.range bound, ((items[place]?).any test).toNat := by
  induction items generalizing bound with
  | nil => simp
  | cons item rest ih =>
      obtain ⟨fewer, rfl⟩ := Nat.exists_eq_add_of_le' (Nat.lt_of_lt_of_le (Nat.succ_pos _) within)
      rw [Finset.sum_range_succ', List.countP_cons, ih (Nat.le_of_succ_le_succ within)]
      refine congrArg₂ (· + ·) rfl ?_
      change _ = (test item).toNat
      cases test item <;> rfl

/-- Each delivery that fails is counted once, for the stream that was full. -/
theorem droppedDeliveries_act (hub : Hub) (activity : Activity) {bound : Nat}
    (within : hub.streams.length ≤ bound) :
    (hub.act activity).droppedDeliveries = hub.droppedDeliveries +
      .ofNat (∑ number ∈ Finset.range bound, (hub.lost? number activity).toList.length) := by
  -- Only a dispatch can lose anything.
  have without (nothing : hub.dispatched? activity = none)
      (same : (hub.act activity).droppedDeliveries = hub.droppedDeliveries) :
      (hub.act activity).droppedDeliveries = hub.droppedDeliveries +
        .ofNat (∑ number ∈ Finset.range bound, (hub.lost? number activity).toList.length) := by
    simp [lost?, nothing, same]
  cases activity with
  | announce id property? notice =>
      refine without rfl ?_
      rw [act, announce_eq]
  | dispatch =>
      cases waiting : hub.queue with
      | nil =>
          refine without (congrArg List.head? waiting) ?_
          rw [act, dispatch_of_nil waiting]
      | cons event rest =>
          rw [act, dispatch_of_cons waiting, deliver, countP_eq_sum _ within]
          refine congrArg (hub.droppedDeliveries + .ofNat ·)
            (Finset.sum_congr rfl fun number _ => ?_)
          rw [lost?, dispatched?, waiting, List.head?_cons, Option.filter_some]
          cases (hub.streams[number]?).any fun stream => stream.loses event <;> rfl
  | receive number =>
      refine without rfl ?_
      rw [act_receive]
  | subscribe filter => exact without rfl rfl

theorem droppedDeliveries_along (hub : Hub) (activities : List Activity) {bound : Nat}
    (within : (hub.along activities).streams.length ≤ bound) :
    (hub.along activities).droppedDeliveries = hub.droppedDeliveries +
      .ofNat (∑ number ∈ Finset.range bound, (hub.collect (lost? number) activities).length) := by
  induction activities generalizing hub with
  | nil => simp [along, collect]
  | cons activity rest ih =>
      have early := hub.droppedDeliveries_act activity
        (Nat.le_trans (hub.length_streams_along (activity :: rest)) within)
      have late := ih (hub.act activity) within
      simp only [collect, List.length_append, Finset.sum_add_distrib]
      rw [UInt64.ofNat_add, ← UInt64.add_assoc, ← early]
      exact late

/-- There is room for one event, and nobody receives it. -/
example : ((ofConfig { streamCapacity := 0 }).along [.subscribe .everything,
    .announce ⟨1⟩ none (.entered (.ofNanos 0)), .announce ⟨2⟩ none (.entered (.ofNanos 0)), .dispatch,
    .announce ⟨1⟩ none (.violated (.ofNanos 10) []), .dispatch, .dispatch]).droppedDeliveries = 2 := by
  decide

theorem forwarding_receptive : forwarding.Receptive := by
  intro notice
  cases notice <;> rfl

/-- Callbacks one after another fill the queue. -/
theorem along_announce (hub : Hub) (id : Uuid) (property? : Option String) (notices : List Notice) :
    hub.along (notices.map (Activity.announce id property?)) =
      { hub with queue := hub.queue ++ notices.map (MonitorEvent.ofNotice id property?) } := by
  induction notices generalizing hub with
  | nil => simp [along]
  | cons notice rest ih =>
      have event : MonitorEvent.ofNotice id property? notice =
          ⟨id, property?, notice.kind, notice.time, notice.witness⟩ := by
        cases notice <;> rfl
      rw [List.map_cons, along, List.foldl_cons]
      refine (ih _).trans ?_
      rw [act, announce_eq, List.map_cons, event, List.append_assoc]
      rfl

/-- A call on a monitor publishes what its callbacks are told. -/
theorem call_announces {α : Type} {hub : Hub} {id : Uuid} {monitor : Monitor}
    (found : hub.monitor id = .ok monitor) (operation : Monitor → TemporalMonitor.Outcome α) :
    (hub.call id operation).hub =
      { hub with monitors := Ordered.insert id (operation monitor).monitor hub.monitors }.along
        ((operation monitor).calls.map
          (Activity.announce id (operation monitor).monitor.machine.summary.id?)) := by
  rw [along_announce, call, found]
  rfl

/-- The callbacks of a hub are told everything. -/
theorem calls_forwarding {α : Type} {monitor : Monitor} (forwards : monitor.callbacks = forwarding)
    (usable : monitor.isPoisoned = false) (operation : String) (step : Instance → Step α) :
    (monitor.run operation step).calls = (step monitor.inst).notices := by
  obtain ⟨_, calls, _⟩ := Monitor.run_notices usable operation step
  rw [calls, forwards, forwarding_receptive.inform_eq]

/-- From its installation on, a subscription receives all dispatched events that match its filter, in
the order of their publication, but for those that came when its stream was full. Those are counted
for it, and the hub counts them for all subscriptions. Every callback publishes one event. -/
theorem deliveries_accounted (config : HubConfig) (before after : List Activity)
    (filter : EventFilter) :
    let start := ofConfig config
    let number := (start.along before).streams.length
    let installed := (start.along before).act (.subscribe filter)
    let final := installed.along after
    let run := before ++ .subscribe filter :: after
    let room := max 1 config.streamCapacity
    let dispatched := installed.collect dispatched? after
    let offered := installed.collect (offered? number) after
    let received := installed.collect (received? number) after
    let lost := installed.collect (lost? number) after
    start.collect published? run = start.collect dispatched? before ++ dispatched ++ final.queue ∧
      offered.map Prod.fst = dispatched ∧
      (∀ offer ∈ offered, offer.2 ≤ room) ∧
      (∃ stream, final.streams[number]? = some stream ∧
        received ++ stream.held =
          (offered.filter fun offer => filter.accepts offer.1 && offer.2 != room).map Prod.fst ∧
        (received ++ stream.held).Sublist (dispatched.filter filter.accepts) ∧
        dispatched.countP filter.accepts = received.length + stream.held.length + lost.length) ∧
      start.collect (lost? number) run = lost ∧
      final.droppedDeliveries.toNat =
        (∑ each ∈ Finset.range final.streams.length, (start.collect (lost? each) run).length) %
          UInt64.size ∧
      (∀ (hub : Hub) id property? (notice : Notice), hub.announce id property? notice =
        { hub with
          queue := hub.queue ++ [⟨id, property?, notice.kind, notice.time, notice.witness⟩] }) ∧
      (∀ {α : Type} (hub : Hub) id monitor (operation : Monitor → TemporalMonitor.Outcome α),
        hub.monitor id = .ok monitor →
        (hub.call id operation).hub =
          { hub with monitors := Ordered.insert id (operation monitor).monitor hub.monitors }.along
            ((operation monitor).calls.map
              (Activity.announce id (operation monitor).monitor.machine.summary.id?))) ∧
      ∀ {α : Type} (monitor : Monitor) operation (step : Instance → Step α),
        monitor.callbacks = forwarding → monitor.isPoisoned = false →
        (monitor.run operation step).calls = (step monitor.inst).notices := by
  intro start number installed final run room dispatched offered received lost
  have unfolded : start.along run = final := List.foldl_append
  have found : installed.streams[number]? =
      some { filter := filter, capacity := max (start.along before).config.streamCapacity 1 } :=
    List.getElem?_concat_length
  have serves : Serves filter room
      { filter := filter, capacity := max (start.along before).config.streamCapacity 1 } := by
    refine ⟨rfl, ?_, rfl, Nat.zero_le _⟩
    change max (start.along before).config.streamCapacity 1 = max 1 config.streamCapacity
    rw [config_along, Nat.max_comm]
    rfl
  obtain ⟨stream, present, booked⟩ := booked_along found serves after
  have same : offered.map Prod.fst = dispatched := map_offered number after
  have unseen : start.collect (lost? number) before = [] := collect_lost_of_absent (Nat.le_refl _)
  refine ⟨?_, same, booked.bounded, ⟨stream, present, booked.kept, ?_, ?_⟩, ?_, ?_, announce_eq,
    fun _ _ _ operation found => call_announces found operation,
    fun _ operation step forwards usable => calls_forwarding forwards usable operation step⟩
  · have history := start.queue_along run
    have parts : start.collect dispatched? run = start.collect dispatched? before ++ dispatched :=
      collect_append _ _
    rw [unfolded, parts] at history
    exact history
  · exact same ▸ booked.sublist rfl
  · have balance := booked.balance
    rw [← same, List.countP_map]
    exact (Nat.zero_add _).symm.trans balance
  · rw [collect_append, unseen]
    rfl
  · have drops := start.droppedDeliveries_along run
      (Nat.le_of_eq (congrArg (fun hub => hub.streams.length) unfolded))
    rw [unfolded] at drops
    rw [drops.trans (UInt64.zero_add _), UInt64.toNat_ofNat']

end Hub

end TemporalMonitor
