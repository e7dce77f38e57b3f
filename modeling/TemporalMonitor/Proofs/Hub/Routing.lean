import TemporalMonitor.Proofs.Hub.Pairing

/-!
A message need not be passed to monitors that have no rule for its topic.

To them it would only say that time has passed, and that they will hear anyway: from the next message
that is meant for them, or from the next call of the timer. So a hub with routes is compared with one
that has none and passes every message to every monitor. Between two calls of the timer, monitors of
the same property need not be in the same state in both hubs, but they answer alike.
-/

namespace TemporalMonitor

namespace Hub

/-- What a hub without routes does, which passes every message to every monitor. -/
def broadcast (hub : Hub) : Request → Outcome Reply
  | .register id machine =>
      ⟨.ok .done, { hub with
        monitors := Ordered.insert id (Monitor.fresh machine forwarding) hub.monitors }⟩
  | .unregister id =>
      match hub.monitor id with
      | .ok _ => ⟨.ok .done, { hub with
          monitors := hub.monitors.filter fun entry => entry.1 != id }⟩
      | .error error => ⟨.error (.error error), hub⟩
  | .onMessage topic message time =>
      let outcome := callEach (fun monitor => monitor.onMessage topic message time) hub hub.ids
      outcome.map fun consumed => .count (consumed.countP id)
  | .launch time => hub.perform (.launch time)
  | .shutdown time => hub.perform (.shutdown time)
  | .onTimer time => hub.perform (.onTimer time)

/-- The hub without routes after some requests. -/
def afterBroadcast (hub : Hub) (requests : List Request) : Hub :=
  requests.foldl (fun hub request => (hub.broadcast request).hub) hub

theorem afterBroadcast_append (hub : Hub) (requests : List Request) (request : Request) :
    hub.afterBroadcast (requests ++ [request]) =
      ((hub.afterBroadcast requests).broadcast request).hub := by
  rw [afterBroadcast, List.foldl_append]
  rfl

/-- When a request is made, if that is part of it. -/
def Request.time? : Request → Option Timestamp
  | launch time | shutdown time | onTimer time | onMessage _ _ time => some time
  | register _ _ | unregister _ => none

/-- Why a monitor in this state cannot be launched. -/
def launchFault? (state : State) : Option ExecutionError :=
  if state.isOff then none else some (.alreadyActive state.name)

/-- Why a monitor in this state cannot be shut down. -/
def shutdownFault? (state : State) : Option ExecutionError :=
  if state.isOff then some .notActive else none

theorem launchFault_eq_none {state : State} : launchFault? state = none ↔ state = .off := by
  cases state <;> simp [launchFault?, State.isOff]

theorem shutdownFault_eq_none {state : State} : shutdownFault? state = none ↔ state ≠ .off := by
  cases state <;> simp [shutdownFault?, State.isOff]

def refusal (state : State) : Except Failure Reply :=
  .error (.error (.execution (.alreadyActive state.name)))

/-- The answers of two hubs to a request are the same. But if they refuse a launch because of a
monitor that is running, then that monitor may be in different states. -/
inductive Answers (routed plain : Hub) :
    Request → Except Failure Reply → Except Failure Reply → Prop where
  | same {request : Request} {result : Except Failure Reply} :
      Answers routed plain request result result
  | refused {time : Timestamp} {id : Uuid} {first second : Monitor}
      (found : routed.monitors.lookup id = some first)
      (matched : plain.monitors.lookup id = some second)
      (running : first.inst.state ≠ .off) (otherRunning : second.inst.state ≠ .off) :
      Answers routed plain (.launch time) (refusal first.inst.state) (refusal second.inst.state)

/-- The monitor with this identifier has a rule that applies to the message. -/
def takes (hub : Hub) (topic : String) (message : Message) (time : Timestamp) (id : Uuid) : Bool :=
  (hub.monitors.lookup id).any fun monitor =>
    match (monitor.onMessage topic message time).result with
    | .ok consumed => consumed
    | .error _ => false

theorem takes_of_lookup {hub : Hub} {id : Uuid} {monitor : Monitor}
    (found : hub.monitors.lookup id = some monitor) {topic : String} {message : Message}
    {time : Timestamp} {consumed : Bool}
    (answer : (monitor.onMessage topic message time).result = .ok consumed) :
    hub.takes topic message time id = consumed := by
  rw [takes, found, Option.any_some, answer]

/-- Items that do not count may be left out, and the others counted in any order. -/
theorem countP_eq_of_subset {α : Type} {counts : α → Bool} {part items : List α}
    (single : part.Nodup) (distinct : items.Nodup)
    (among : ∀ item ∈ part, item ∈ items)
    (enough : ∀ item ∈ items, counts item = true → item ∈ part) :
    part.countP counts = items.countP counts := by
  have counted : (part.filter counts).Perm (items.filter counts) := by
    rw [List.perm_ext_iff_of_nodup (single.filter _) (distinct.filter _)]
    intro item
    rw [List.mem_filter, List.mem_filter]
    constructor
    · exact fun ⟨member, counted⟩ => ⟨among item member, counted⟩
    · exact fun ⟨member, counted⟩ => ⟨enough item member counted, counted⟩
  rw [List.countP_eq_length_filter, List.countP_eq_length_filter, counted.length_eq]

/-- The hub without routes has the same monitors, and they are paired. -/
structure Mirrors (times : List Timestamp) (now : Timestamp) (roster : List (Uuid × Machine))
    (routed plain : Hub) : Prop where
  indexed : Indexed roster routed
  ids : plain.ids = routed.ids
  paired : ∀ id first second, routed.monitors.lookup id = some first →
    plain.monitors.lookup id = some second → Paired times now first second

theorem mirrors_ofConfig (config : HubConfig) (times : List Timestamp) (now : Timestamp) :
    Mirrors times now [] (ofConfig config) (ofConfig config) where
  indexed := indexed_ofConfig config
  ids := rfl
  paired := fun id first second found _ => by cases found

namespace Mirrors

variable {times : List Timestamp} {now : Timestamp} {roster : List (Uuid × Machine)}
  {routed plain : Hub} (mirrors : Mirrors times now roster routed plain)

include mirrors

theorem later {time : Timestamp} (order : now ≤ time) :
    Mirrors times time roster routed plain where
  indexed := mirrors.indexed
  ids := mirrors.ids
  paired := fun id first second found matched =>
    (mirrors.paired id first second found matched).later order

theorem ascending : Ordered.Ascending plain.monitors := by
  have same : plain.monitors.map Prod.fst = routed.monitors.map Prod.fst := mirrors.ids
  rw [Ordered.Ascending, same]
  exact mirrors.indexed.monitors

theorem distinct : routed.ids.Nodup := mirrors.indexed.monitors.nodup

theorem isSome_eq (id : Uuid) :
    (plain.monitors.lookup id).isSome = (routed.monitors.lookup id).isSome := by
  rw [Bool.eq_iff_iff, Ordered.lookup_isSome_iff, Ordered.lookup_isSome_iff]
  exact iff_of_eq (congrArg (id ∈ ·) mirrors.ids)

/-- A registered monitor is registered in both hubs. -/
theorem exists_pair {id : Uuid} (known : id ∈ routed.ids) :
    ∃ first second, routed.monitors.lookup id = some first ∧
      plain.monitors.lookup id = some second ∧ Paired times now first second := by
  have present := (Ordered.lookup_isSome_iff routed.monitors id).mpr known
  obtain ⟨first, found⟩ := Option.isSome_iff_exists.mp present
  obtain ⟨second, matched⟩ := Option.isSome_iff_exists.mp ((mirrors.isSome_eq id).trans present)
  exact ⟨first, second, found, matched, mirrors.paired id first second found matched⟩

/-- A call on all monitors of the hub without routes, and on some of the other hub, leads to monitors
that are related as they are after each single call. -/
theorem callEach {α : Type} (operation : Monitor → TemporalMonitor.Outcome α)
    (keepsMachine : ∀ monitor, (operation monitor).monitor.machine = monitor.machine)
    {called : List Uuid} (single : called.Nodup) (known : ∀ id ∈ called, id ∈ routed.ids)
    (value : Uuid → α) (related : Monitor → Monitor → Prop)
    (each : ∀ id first second, routed.monitors.lookup id = some first →
      plain.monitors.lookup id = some second →
      (id ∈ called → (operation first).result = .ok (value id)) ∧
        (operation second).result = .ok (value id) ∧
        related (if id ∈ called then (operation first).monitor else first)
          (operation second).monitor) :
    (Hub.callEach operation routed called).result = .ok (called.map value) ∧
      (Hub.callEach operation plain plain.ids).result = .ok (routed.ids.map value) ∧
      Indexed roster (Hub.callEach operation routed called).hub ∧
      (Hub.callEach operation plain plain.ids).hub.ids =
        (Hub.callEach operation routed called).hub.ids ∧
      ∀ id first second, (Hub.callEach operation routed called).hub.monitors.lookup id = some first →
        (Hub.callEach operation plain plain.ids).hub.monitors.lookup id = some second →
        related first second := by
  have routedKeeps := callEach_keeps keepsMachine mirrors.indexed.monitors called
  have plainKeeps := callEach_keeps keepsMachine mirrors.ascending plain.ids
  obtain ⟨routedResult, routedAfter⟩ := callEach_ok single fun id member => by
    obtain ⟨first, second, found, matched, _⟩ := mirrors.exists_pair (known id member)
    exact ⟨first, found, (each id first second found matched).1 member⟩
  rw [mirrors.ids] at plainKeeps ⊢
  obtain ⟨plainResult, plainAfter⟩ := callEach_ok mirrors.distinct fun id member => by
    obtain ⟨first, second, found, matched, _⟩ := mirrors.exists_pair member
    exact ⟨second, matched, (each id first second found matched).2.1⟩
  refine ⟨routedResult, plainResult, mirrors.indexed.keeps routedKeeps, ?_, ?_⟩
  · rw [plainKeeps.ids, routedKeeps.ids, mirrors.ids]
  · intro id after otherAfter found matched
    rw [routedAfter] at found
    rw [plainAfter] at matched
    by_cases member : id ∈ routed.ids
    · obtain ⟨first, second, before, otherBefore, _⟩ := mirrors.exists_pair member
      have still := (each id first second before otherBefore).2.2
      rw [before] at found
      rw [if_pos member, otherBefore, Option.map_some, Option.some.injEq] at matched
      rw [← matched]
      split at found
      · next isCalled =>
          rw [if_pos isCalled] at still
          rw [← Option.some.inj found]
          exact still
      · next notCalled =>
          rw [if_neg notCalled] at still
          rw [← Option.some.inj found]
          exact still
    · rw [if_neg member] at matched
      have present := mirrors.isSome_eq id
      rw [matched] at present
      exact absurd ((Ordered.lookup_isSome_iff routed.monitors id).mp present.symm) member

theorem register {id : Uuid} {machine : Machine} (fresh : id ∉ roster.map Prod.fst)
    (paired :
      Paired times now (Monitor.fresh machine forwarding) (Monitor.fresh machine forwarding)) :
    Mirrors times now (roster ++ [(id, machine)]) (routed.register id machine)
      (plain.broadcast (.register id machine)).hub where
  indexed := mirrors.indexed.register fresh machine
  ids := by
    refine (Ordered.keys_insert id _ plain.monitors).trans ?_
    refine (congrArg (Ordered.add id) mirrors.ids).trans ?_
    exact (Ordered.keys_insert id _ routed.monitors).symm
  paired := by
    intro other first second found matched
    dsimp only [Hub.register] at found
    dsimp only [broadcast] at matched
    rw [Ordered.lookup_insert] at found matched
    split at found
    · next same =>
        rw [if_pos same, Option.some.injEq] at matched
        rw [← matched, ← Option.some.inj found]
        exact paired
    · next different =>
        rw [if_neg different] at matched
        exact mirrors.paired other first second found matched

theorem unregister (id : Uuid) :
    (routed.perform (.unregister id)).result = (plain.broadcast (.unregister id)).result ∧
      Mirrors times now (roster.filter fun entry => entry.1 != id)
        (routed.perform (.unregister id)).hub (plain.broadcast (.unregister id)).hub := by
  have indexed := mirrors.indexed.perform
    (show ∀ other, (Request.unregister id).newId? = some other → other ∉ roster.map Prod.fst from
      fun _ new => by cases new)
  cases found : routed.monitors.lookup id with
  | none =>
      have missing : plain.monitors.lookup id = none := by
        rw [← Option.not_isSome_iff_eq_none, mirrors.isSome_eq, found]
        decide
      have refused : routed.perform (.unregister id) = ⟨.error (.error (unknown id)), routed⟩ := by
        simp only [perform, Hub.unregister, Hub.monitor, found, bind, Except.bind]
      have otherRefused : plain.broadcast (.unregister id) =
          ⟨.error (.error (unknown id)), plain⟩ := by
        simp only [broadcast, Hub.monitor, missing]
      rw [refused] at indexed ⊢
      rw [otherRefused]
      exact ⟨rfl, indexed, mirrors.ids, mirrors.paired⟩
  | some monitor =>
      have present := mirrors.isSome_eq id
      rw [found] at present
      obtain ⟨other, matched⟩ := Option.isSome_iff_exists.mp present
      have kept (hub : Hub) : (hub.monitors.filter fun entry => entry.1 != id).map Prod.fst =
          hub.ids.filter (· != id) := by
        rw [Hub.ids, List.filter_map]
        rfl
      simp only [perform, Hub.unregister, Hub.monitor, found, bind, Except.bind] at indexed ⊢
      simp only [broadcast, Hub.monitor, matched, true_and]
      refine ⟨indexed, ?_, ?_⟩
      · exact (kept plain).trans ((congrArg _ mirrors.ids).trans (kept routed).symm)
      · intro other first second found matched
        dsimp only at found matched
        rw [Ordered.lookup_filter_ne] at found matched
        split at found
        · cases found
        · next different =>
            rw [if_neg different] at matched
            exact mirrors.paired other first second found matched

/-- A call on all monitors that is refused by both hubs because of the same monitor, or by none. -/
theorem callAll (fault? : State → Option ExecutionError)
    (operation : Monitor → TemporalMonitor.Outcome Unit)
    (keepsMachine : ∀ monitor, (operation monitor).monitor.machine = monitor.machine)
    (together : ∀ {first second}, Paired times now first second →
      (fault? first.inst.state = none ↔ fault? second.inst.state = none))
    (each : ∀ {first second}, Paired times now first second → fault? first.inst.state = none →
      (operation first).result = .ok () ∧ (operation second).result = .ok () ∧
        Paired times now (operation first).monitor (operation second).monitor) :
    ((routed.callAll fault? operation).result = .ok () ∧
        (plain.callAll fault? operation).result = .ok () ∧
        Mirrors times now roster (routed.callAll fault? operation).hub
          (plain.callAll fault? operation).hub) ∨
      ∃ id first second fault otherFault, routed.monitors.lookup id = some first ∧
        plain.monitors.lookup id = some second ∧ fault? first.inst.state = some fault ∧
        fault? second.inst.state = some otherFault ∧
        routed.callAll fault? operation = ⟨.error (.error (.execution fault)), routed⟩ ∧
        plain.callAll fault? operation = ⟨.error (.error (.execution otherFault)), plain⟩ := by
  have alike := Ordered.forall₂_of_lookup mirrors.ids mirrors.distinct mirrors.paired
  unfold Hub.callAll
  rcases complaints_together Paired.usable together alike with
    ⟨quiet, silent, sane, _⟩ |
    ⟨id, first, second, fault, otherFault, mem, otherMem, found, matched, complains, objects⟩
  · rw [quiet, silent]
    obtain ⟨result, otherResult, indexed, ids, paired⟩ := mirrors.callEach operation keepsMachine
      mirrors.distinct (fun _ member => member) (fun _ => ()) (Paired times now)
      (fun id first second found matched => by
        have pair := mirrors.paired id first second found matched
        have member := Ordered.mem_of_lookup found
        obtain ⟨answer, otherAnswer, still⟩ := each pair (sane _ member)
        have known : id ∈ routed.ids := List.mem_map.mpr ⟨_, member, rfl⟩
        rw [if_pos known]
        exact ⟨fun _ => answer, otherAnswer, still⟩)
    refine .inl ?_
    dsimp only
    rw [result, otherResult]
    exact ⟨rfl, rfl, indexed, ids, paired⟩
  · rw [complains, objects]
    exact .inr ⟨id, first, second, fault, otherFault,
      Ordered.lookup_of_mem mirrors.indexed.monitors.nodup mem,
      Ordered.lookup_of_mem mirrors.ascending.nodup otherMem, found, matched, rfl, rfl⟩

/-- A launch is refused by both hubs because of the same monitor, or by none. -/
theorem launch (here : now ∈ times) :
    Answers routed plain (.launch now) (routed.perform (.launch now)).result
        (plain.broadcast (.launch now)).result ∧
      Mirrors times now roster (routed.perform (.launch now)).hub
        (plain.broadcast (.launch now)).hub := by
  have launched (hub : Hub) : hub.perform (.launch now) =
      (hub.callAll launchFault? fun monitor => monitor.launch now).map fun _ => .done := rfl
  have broadcasted : plain.broadcast (.launch now) = plain.perform (.launch now) := rfl
  rw [broadcasted, launched, launched]
  rcases mirrors.callAll launchFault? (fun monitor => monitor.launch now)
      (fun monitor => monitor.run_machine _ _)
      (fun pair => launchFault_eq_none.trans (pair.off_iff.trans launchFault_eq_none.symm))
      (fun pair isOff => pair.launch here (launchFault_eq_none.mp isOff)) with
    ⟨result, otherResult, after⟩ |
    ⟨id, first, second, fault, otherFault, found, matched, bad, otherBad, refused, otherRefused⟩
  · rw [Outcome.map, Outcome.map, result, otherResult]
    exact ⟨.same, after⟩
  · rw [refused, otherRefused]
    have running : first.inst.state ≠ .off := by
      rw [Ne, ← launchFault_eq_none, bad]
      simp
    have otherRunning : second.inst.state ≠ .off := by
      rw [Ne, ← launchFault_eq_none, otherBad]
      simp
    rw [launchFault?, State.isOff_of_ne running] at bad
    rw [launchFault?, State.isOff_of_ne otherRunning] at otherBad
    obtain rfl := Option.some.inj bad
    obtain rfl := Option.some.inj otherBad
    exact ⟨.refused found matched running otherRunning, mirrors⟩

theorem shutdown :
    (routed.perform (.shutdown now)).result = (plain.broadcast (.shutdown now)).result ∧
      Mirrors times now roster (routed.perform (.shutdown now)).hub
        (plain.broadcast (.shutdown now)).hub := by
  have stopped (hub : Hub) : hub.perform (.shutdown now) =
      (hub.callAll shutdownFault? fun monitor => monitor.shutdown now).map fun _ => .done := rfl
  have broadcasted : plain.broadcast (.shutdown now) = plain.perform (.shutdown now) := rfl
  rw [broadcasted, stopped, stopped]
  rcases mirrors.callAll shutdownFault? (fun monitor => monitor.shutdown now)
      (fun monitor => monitor.run_machine _ _)
      (fun pair => shutdownFault_eq_none.trans
        ((not_congr pair.off_iff).trans shutdownFault_eq_none.symm))
      (fun pair running => pair.shutdown (shutdownFault_eq_none.mp running)) with
    ⟨result, otherResult, after⟩ |
    ⟨id, first, second, fault, otherFault, _, _, bad, otherBad, refused, otherRefused⟩
  · rw [Outcome.map, Outcome.map, result, otherResult]
    exact ⟨rfl, after⟩
  · have only {state : State} {fault : ExecutionError} (bad : shutdownFault? state = some fault) :
        fault = .notActive := by
      unfold shutdownFault? at bad
      split at bad
      · exact (Option.some.inj bad).symm
      · cases bad
    rw [refused, otherRefused, only bad, only otherBad]
    exact ⟨rfl, mirrors⟩

/-- Time passes for all monitors of both hubs, and then they show the same. -/
theorem onTimer (here : now ∈ times) :
    (routed.perform (.onTimer now)).result = (plain.broadcast (.onTimer now)).result ∧
      Mirrors times now roster (routed.perform (.onTimer now)).hub
        (plain.broadcast (.onTimer now)).hub ∧
      ∀ id first second, (routed.perform (.onTimer now)).hub.monitors.lookup id = some first →
        (plain.broadcast (.onTimer now)).hub.monitors.lookup id = some second →
        first.Agrees second := by
  have told (hub : Hub) : hub.perform (.onTimer now) =
      ⟨(Hub.callEach (fun monitor => monitor.onTimer now) hub hub.ids).result.map fun _ => .done,
        (Hub.callEach (fun monitor => monitor.onTimer now) hub hub.ids).hub⟩ := by
    dsimp only [perform, Hub.onTimer, Outcome.map]
    cases (Hub.callEach (fun monitor => monitor.onTimer now) hub hub.ids).result <;> rfl
  have broadcasted : plain.broadcast (.onTimer now) = plain.perform (.onTimer now) := rfl
  obtain ⟨result, otherResult, indexed, ids, shown⟩ := mirrors.callEach
    (fun monitor => monitor.onTimer now) (fun monitor => monitor.run_machine _ _) mirrors.distinct
    (fun _ member => member) (fun _ => ())
    (fun first second => Paired times now first second ∧ first.Agrees second)
    (fun id first second found matched => by
      have pair := mirrors.paired id first second found matched
      have known : id ∈ routed.ids := (Ordered.lookup_isSome_iff _ id).mp (by rw [found]; rfl)
      obtain ⟨answer, otherAnswer, still⟩ := pair.onTimer here
      rw [if_pos known]
      exact ⟨fun _ => answer, otherAnswer, still, pair.onTimer_agrees here⟩)
  rw [broadcasted, told, told, result, otherResult]
  refine ⟨rfl, ⟨indexed, ids, fun id first second found matched => ?_⟩,
    fun id first second found matched => ?_⟩
  · exact (shown id first second found matched).1
  · exact (shown id first second found matched).2

/-- The routes of a hub lead to the registered monitors with a rule for the topic. -/
theorem mem_routed {topic : String} {id : Uuid} :
    id ∈ routed.routed topic ↔
      ∃ monitor, routed.monitors.lookup id = some monitor ∧ monitor.machine.hasRuleOn topic = true := by
  rw [Hub.routed, List.mem_filter, mirrors.indexed.routes, List.mem_map]
  constructor
  · rintro ⟨⟨entry, listed, rfl⟩, present⟩
    obtain ⟨monitor, found⟩ := Option.isSome_iff_exists.mp present
    obtain ⟨member, listens⟩ := List.mem_filter.mp listed
    have machine := mirrors.indexed.machines entry.1
    rw [found, Ordered.lookup_of_mem mirrors.indexed.distinct member] at machine
    refine ⟨monitor, found, ?_⟩
    rw [Option.some.inj machine]
    exact listens
  · rintro ⟨monitor, found, listens⟩
    have machine := mirrors.indexed.machines id
    rw [found] at machine
    refine ⟨⟨(id, monitor.machine), List.mem_filter.mpr ⟨?_, listens⟩, rfl⟩, by rw [found]; rfl⟩
    exact Ordered.mem_of_lookup machine.symm

/-- The same monitors take a message in both hubs. -/
theorem onMessage (here : now ∈ times) (topic : String) (message : Message) :
    (routed.perform (.onMessage topic message now)).result =
        (plain.broadcast (.onMessage topic message now)).result ∧
      Mirrors times now roster (routed.perform (.onMessage topic message now)).hub
        (plain.broadcast (.onMessage topic message now)).hub := by
  have single : (routed.routed topic).Nodup := by
    rw [Hub.routed, mirrors.indexed.routes]
    exact (mirrors.indexed.distinct.sublist (List.filter_sublist.map _)).filter _
  have known (id : Uuid) (member : id ∈ routed.routed topic) : id ∈ routed.ids := by
    obtain ⟨monitor, found, _⟩ := mirrors.mem_routed.mp member
    exact (Ordered.lookup_isSome_iff _ id).mp (by rw [found]; rfl)
  -- A monitor off the route is not called, and the other hub learns nothing from calling it.
  have unheard {id : Uuid} {first second : Monitor} (found : routed.monitors.lookup id = some first)
      (matched : plain.monitors.lookup id = some second) (offRoute : id ∉ routed.routed topic) :
      (second.onMessage topic message now).result = .ok false ∧
        Paired times now first (second.onMessage topic message now).monitor := by
    have pair := mirrors.paired id first second found matched
    refine pair.onMessage_unheard here ?_ message
    rw [← pair.machine_eq, Bool.eq_false_iff]
    exact fun listens => offRoute (mirrors.mem_routed.mpr ⟨first, found, listens⟩)
  obtain ⟨result, otherResult, indexed, ids, paired⟩ := mirrors.callEach
    (fun monitor => monitor.onMessage topic message now) (fun monitor => monitor.run_machine _ _)
    single known (plain.takes topic message now) (Paired times now)
    (fun id first second found matched => by
      by_cases onRoute : id ∈ routed.routed topic
      · obtain ⟨consumed, answer, otherAnswer, still⟩ :=
          (mirrors.paired id first second found matched).onMessage here topic message
        rw [if_pos onRoute, takes_of_lookup matched otherAnswer]
        exact ⟨fun _ => answer, otherAnswer, still⟩
      · obtain ⟨otherAnswer, still⟩ := unheard found matched onRoute
        rw [if_neg onRoute, takes_of_lookup matched otherAnswer]
        exact ⟨fun member => absurd member onRoute, otherAnswer, still⟩)
  have counts : (routed.routed topic).countP (plain.takes topic message now) =
      routed.ids.countP (plain.takes topic message now) := by
    refine countP_eq_of_subset single mirrors.distinct known fun id member taken => ?_
    by_contra offRoute
    obtain ⟨first, second, found, matched, _⟩ := mirrors.exists_pair member
    rw [takes_of_lookup matched (unheard found matched offRoute).1] at taken
    cases taken
  dsimp only [perform, broadcast, Hub.onMessage, Outcome.map]
  rw [result, otherResult]
  refine ⟨?_, indexed, ids, paired⟩
  dsimp only [Except.map]
  rw [List.countP_map, List.countP_map, Function.id_comp, counts]

/-- A request to both hubs at this time, or at no time. -/
theorem perform {request : Request}
    (fresh : ∀ id, request.newId? = some id → id ∉ roster.map Prod.fst)
    (compiled : ∀ id machine, request = .register id machine →
      ∃ property : Property, property.compile = .ok machine ∧ property.Tests Predicate.Total)
    (steady : ∀ id machine, request = .register id machine → machine.bound.StaysElapsed times)
    (timely : ∀ time, request.time? = some time → time = now)
    (known : ∀ time, request.time? = some time → time ∈ times) :
    Answers routed plain request (routed.perform request).result (plain.broadcast request).result ∧
      Mirrors times now (enroll roster request) (routed.perform request).hub
        (plain.broadcast request).hub := by
  cases request with
  | register id machine =>
      obtain ⟨property, compiled, total⟩ := compiled id machine rfl
      have stays := steady id machine rfl
      exact ⟨.same, mirrors.register (fresh id rfl) (paired_fresh compiled total stays now)⟩
  | unregister id =>
      obtain ⟨result, after⟩ := mirrors.unregister id
      rw [result]
      exact ⟨.same, after⟩
  | launch time =>
      obtain rfl := timely time rfl
      exact mirrors.launch (known _ rfl)
  | shutdown time =>
      obtain rfl := timely time rfl
      obtain ⟨result, after⟩ := mirrors.shutdown
      rw [result]
      exact ⟨.same, after⟩
  | onTimer time =>
      obtain rfl := timely time rfl
      obtain ⟨result, after, _⟩ := mirrors.onTimer (known _ rfl)
      rw [result]
      exact ⟨.same, after⟩
  | onMessage topic message time =>
      obtain rfl := timely time rfl
      obtain ⟨result, after⟩ := mirrors.onMessage (known _ rfl) topic message
      rw [result]
      exact ⟨.same, after⟩

end Mirrors

/-- Requests that give every identifier once and register what was compiled, as time goes on. -/
structure Proper (requests : List Request) : Prop where
  distinct : (requests.filterMap Request.newId?).Nodup
  compiled : ∀ id machine, .register id machine ∈ requests →
    ∃ property : Property, property.compile = .ok machine ∧ property.Tests Predicate.Total
  ordered : (requests.filterMap Request.time?).Pairwise (· ≤ ·)

section Proper

variable {requests : List Request} {request : Request} {now : Timestamp}

theorem Proper.init (proper : Proper (requests ++ [request])) : Proper requests where
  distinct := by
    have distinct := proper.distinct
    rw [List.filterMap_append] at distinct
    exact distinct.of_append_left
  compiled := fun id machine member => proper.compiled id machine (List.mem_append_left _ member)
  ordered := by
    have ordered := proper.ordered
    rw [List.filterMap_append, List.pairwise_append] at ordered
    exact ordered.1

theorem Proper.fresh_last (proper : Proper (requests ++ [request])) (id : Uuid)
    (given : request.newId? = some id) : id ∉ (enrolled requests).map Prod.fst :=
  notMem_enrolled given proper.distinct

theorem Proper.compiled_last (proper : Proper (requests ++ [request])) (id : Uuid)
    (machine : Machine) (isLast : request = .register id machine) :
    ∃ property : Property, property.compile = .ok machine ∧ property.Tests Predicate.Total := by
  subst isLast
  exact proper.compiled id machine (List.mem_append_right _ List.mem_cons_self)

/-- The last request is made at a time that is not before any other one. -/
theorem Proper.moment (proper : Proper (requests ++ [request]))
    (past : ∀ time ∈ (requests ++ [request]).filterMap Request.time?, time ≤ now) :
    ∃ moment, moment ≤ now ∧ (∀ time ∈ requests.filterMap Request.time?, time ≤ moment) ∧
      ∀ time, request.time? = some time → time = moment := by
  have ordered := proper.ordered
  rw [List.filterMap_append] at past ordered
  cases made : request.time? with
  | none =>
      refine ⟨now, Std.le_refl _, fun time member => ?_, fun time given => by cases given⟩
      exact past time (List.mem_append_left _ member)
  | some moment =>
      have last : moment ∈ [request].filterMap Request.time? :=
        List.mem_filterMap.mpr ⟨request, List.mem_cons_self, made⟩
      refine ⟨moment, past moment (List.mem_append_right _ last), fun time member => ?_,
        fun time given => (Option.some.inj given).symm⟩
      exact (List.pairwise_append.mp ordered).2.2 time member moment last

theorem exists_latest (times : List Timestamp) : ∃ now : Timestamp, ∀ time ∈ times, time ≤ now := by
  induction times with
  | nil => exact ⟨.ofNanos 0, fun _ member => absurd member List.not_mem_nil⟩
  | cons first rest ih =>
      obtain ⟨latest, others⟩ := ih
      have order : first ≤ latest ∨ latest ≤ first := Std.le_total
      rcases order with early | late
      · exact ⟨latest, List.forall_mem_cons.mpr ⟨early, others⟩⟩
      · refine ⟨first, List.forall_mem_cons.mpr ⟨Std.le_refl _, fun time member => ?_⟩⟩
        exact Std.le_trans (others time member) late

/-- The bounds of the registered machines, once elapsed, stay elapsed at these times. -/
def Steady (times : List Timestamp) (requests : List Request) : Prop :=
  ∀ id machine, .register id machine ∈ requests → machine.bound.StaysElapsed times

/-- The hubs mirror each other after any proper requests. -/
theorem mirrors_after (config : HubConfig) (proper : Proper requests) {times : List Timestamp}
    (steady : Steady times requests)
    (known : ∀ time ∈ requests.filterMap Request.time?, time ∈ times)
    (past : ∀ time ∈ requests.filterMap Request.time?, time ≤ now) :
    Mirrors times now (enrolled requests) ((ofConfig config).after requests)
      ((ofConfig config).afterBroadcast requests) := by
  induction requests using List.reverseRecOn generalizing now with
  | nil => exact mirrors_ofConfig config times now
  | append_singleton requests request ih =>
      -- Time first goes on to the request, then the request is made, and then time goes on again.
      obtain ⟨moment, order, earlier, timely⟩ := proper.moment past
      rw [List.filterMap_append, List.forall_mem_append] at known
      have reached := ih proper.init
        (fun id machine member => steady id machine (List.mem_append_left _ member)) known.1 earlier
      rw [enrolled_append, after_append, afterBroadcast_append]
      refine (reached.perform proper.fresh_last proper.compiled_last ?_ timely ?_).2.later order
      · rintro id machine rfl
        exact steady id machine (List.mem_append_right _ List.mem_cons_self)
      · intro time given
        exact known.2 time (List.mem_filterMap.mpr ⟨request, List.mem_cons_self, given⟩)

/-- If what is over stays over, then the hub with routes and the hub without answer every request alike
and keep the same monitors, which show the same right after every call of the timer. -/
theorem routing_transparent (config : HubConfig) (proper : Proper (requests ++ [request]))
    (steady : Steady ((requests ++ [request]).filterMap Request.time?) (requests ++ [request])) :
    let routed := (ofConfig config).after requests
    let plain := (ofConfig config).afterBroadcast requests
    Answers routed plain request (routed.perform request).result (plain.broadcast request).result ∧
      (plain.broadcast request).hub.ids = (routed.perform request).hub.ids ∧
      ∀ time, request = .onTimer time → ∀ id first second,
        (routed.perform request).hub.monitors.lookup id = some first →
        (plain.broadcast request).hub.monitors.lookup id = some second →
        first.Agrees second := by
  obtain ⟨now, past⟩ := exists_latest ((requests ++ [request]).filterMap Request.time?)
  obtain ⟨moment, _, earlier, timely⟩ := proper.moment past
  have known (time : Timestamp) (given : request.time? = some time) :
      time ∈ (requests ++ [request]).filterMap Request.time? :=
    List.mem_filterMap.mpr ⟨request, List.mem_append_right _ List.mem_cons_self, given⟩
  have reached := mirrors_after config proper.init
    (fun id machine member => steady id machine (List.mem_append_left _ member))
    (fun time member => by
      rw [List.filterMap_append]
      exact List.mem_append_left _ member)
    earlier
  obtain ⟨answers, after⟩ := reached.perform proper.fresh_last proper.compiled_last
    (fun id machine isLast =>
      steady id machine (isLast ▸ List.mem_append_right _ List.mem_cons_self))
    timely known
  refine ⟨answers, after.ids, fun time isTimer => ?_⟩
  subst isTimer
  obtain rfl := timely time rfl
  exact (reached.onTimer (known _ rfl)).2.2

end Proper

section UnrelatedMessage

/-- The machine of the property that was compiled. -/
def mutedMachine : Machine :=
  Property.muted.assemble
    (.absence false { branches := [{ topic := "alarm" }] } (.within ⟨10500000000⟩))

/-- A monitor is launched, and later there is a message that is not for it. -/
def unrelatedMessage (start later : Timestamp) : List Request :=
  [.register ⟨1⟩ mutedMachine, .launch start, .onMessage "weather" ⟨[]⟩ later]

variable {start later : Timestamp} {request : Request} (unnamed : request.newId? = none)

include unnamed

theorem eq_mutedMachine {id : Uuid} {machine : Machine}
    (member : .register id machine ∈ unrelatedMessage start later ++ [request]) :
    machine = mutedMachine := by
  rw [List.mem_append, List.mem_singleton] at member
  rcases member with early | last
  · exact (show id = ⟨1⟩ ∧ machine = mutedMachine by simpa [unrelatedMessage] using early).2
  · rw [← last] at unnamed
    cases unnamed

/-- Such requests and one more are proper. -/
theorem proper_unrelatedMessage
    (ordered : ((unrelatedMessage start later ++ [request]).filterMap Request.time?).Pairwise
      (· ≤ ·)) :
    Proper (unrelatedMessage start later ++ [request]) where
  distinct := by
    rw [List.filterMap_append, List.filterMap_cons_none unnamed]
    exact List.nodup_singleton _
  compiled := by
    intro id machine member
    obtain rfl := eq_mutedMachine unnamed member
    exact ⟨.muted, rfl, (Property.Tests.of_atomic (by decide)).total⟩
  ordered := ordered

end UnrelatedMessage

/-- The hub without routes has told the monitor that its time is over. The next call of the timer
tells it in both hubs. -/
theorem routing_transparent_unrelatedMessage :
    let requests := unrelatedMessage (.ofNanos 0) (.ofNanos 11000000000)
    let routed := (ofConfig {}).after requests
    let plain := (ofConfig {}).afterBroadcast requests
    let timer := Request.onTimer (.ofNanos 12000000000)
    Proper (requests ++ [timer]) ∧
      (routed.monitors.lookup ⟨1⟩).map (fun monitor => monitor.inst.state) = some .engaged ∧
      (plain.monitors.lookup ⟨1⟩).map (fun monitor => monitor.inst.state) = some .accepted ∧
      ∀ id first second, (routed.perform timer).hub.monitors.lookup id = some first →
        (plain.broadcast timer).hub.monitors.lookup id = some second → first.Agrees second := by
  have proper : Proper (unrelatedMessage (.ofNanos 0) (.ofNanos 11000000000) ++
      [.onTimer (.ofNanos 12000000000)]) := proper_unrelatedMessage rfl (by decide)
  refine ⟨proper, rfl, rfl, (routing_transparent {} proper fun id machine member => ?_).2.2 _ rfl⟩
  obtain rfl := eq_mutedMachine rfl member
  exact Bound.staysElapsed_of_ordinary (by decide)

/-- If instead the monitors are launched again, then the hubs refuse with different messages. And if
the message came in a leap second, then only the hub without routes has told the monitor that its
time is over, so that it is deaf to an alarm at the beginning of the next day. -/
theorem routing_noticed :
    let late := unrelatedMessage (.ofNanos 0) (.ofNanos 11000000000)
    let launch := Request.launch (.ofNanos 12000000000)
    let leap := unrelatedMessage (.ofParts 1483228790 0) (.ofParts 1483228799 1900000000)
    let alarm := Request.onMessage "alarm" ⟨[]⟩ (.ofParts 1483228800 100000000)
    (Proper (late ++ [launch]) ∧
        (((ofConfig {}).after late).perform launch).result = refusal .engaged ∧
        (((ofConfig {}).afterBroadcast late).broadcast launch).result = refusal .accepted ∧
        refusal .engaged ≠ refusal .accepted) ∧
      Proper (leap ++ [alarm]) ∧
        (((ofConfig {}).after leap).perform alarm).result = .ok (.count 1) ∧
        (((ofConfig {}).afterBroadcast leap).broadcast alarm).result = .ok (.count 0) := by
  refine ⟨⟨proper_unrelatedMessage rfl (by decide), ?_, ?_, ?_⟩,
    proper_unrelatedMessage rfl (by decide), ?_, ?_⟩
  · rfl
  · rfl
  · decide
  · rfl
  · rfl

end Hub

end TemporalMonitor
