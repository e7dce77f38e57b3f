import Mathlib.Data.List.Nodup
import TemporalMonitor.Proofs.Hub.Calls
import TemporalMonitor.Proofs.Machine.Tabulation

/-!
The monitors of a hub and the routes of its topics.

A hub keeps two tables, of which only the first one is asked whether a monitor is registered. Both of
them follow from the registrations so far: the route of a topic leads to the registered monitors with a
rule for it, in the order in which they came. Calls on the monitors change neither table's shape.
-/

namespace TemporalMonitor

/-- The machine has a rule for the topic. -/
def Machine.hasRuleOn (machine : Machine) (topic : String) : Bool :=
  machine.placements.any fun placement => placement.rule.topic == topic

theorem Machine.hasRuleOn_iff {machine : Machine} {topic : String} :
    machine.hasRuleOn topic = true ↔ topic ∈ machine.topics := by
  rw [hasRuleOn, topics_eq, Ordered.mem_ofItems, List.any_eq_true, List.mem_map]
  simp only [beq_iff_eq]

namespace Hub

/-- What a user can ask of a hub. A registration comes with the identifier that it is given. -/
inductive Request where
  | register (id : Uuid) (machine : Machine)
  | unregister (id : Uuid)
  | launch (time : Timestamp)
  | shutdown (time : Timestamp)
  | onTimer (time : Timestamp)
  | onMessage (topic : String) (message : Message) (time : Timestamp)

/-- What a hub answers if nothing fails: a message is answered by the number of monitors with a rule
that applied. -/
inductive Reply where
  | done
  | count (consumed : Nat)
  deriving DecidableEq, Repr

/-- The same outcome with another answer. -/
def Outcome.map {α β : Type} (change : α → β) (outcome : Outcome α) : Outcome β :=
  ⟨outcome.result.map change, outcome.hub⟩

def perform (hub : Hub) : Request → Outcome Reply
  | .register id machine => ⟨.ok .done, hub.register id machine⟩
  | .unregister id =>
      match hub.unregister id with
      | .ok fewer => ⟨.ok .done, fewer⟩
      | .error error => ⟨.error (.error error), hub⟩
  | .launch time => (hub.launch time).map fun _ => .done
  | .shutdown time => (hub.shutdown time).map fun _ => .done
  | .onTimer time => (hub.onTimer time).map fun _ => .done
  | .onMessage topic message time => (hub.onMessage topic message time).map .count

/-- The hub after some requests. -/
def after (hub : Hub) (requests : List Request) : Hub :=
  requests.foldl (fun hub request => (hub.perform request).hub) hub

theorem after_append (hub : Hub) (requests : List Request) (request : Request) :
    hub.after (requests ++ [request]) = ((hub.after requests).perform request).hub := by
  rw [after, List.foldl_append]
  rfl

/-- The identifier that a registration is given. -/
def Request.newId? : Request → Option Uuid
  | register id _ => some id
  | _ => none

/-- The machines that stay registered after a request, in the order of their registration. -/
def enroll (roster : List (Uuid × Machine)) : Request → List (Uuid × Machine)
  | .register id machine => roster ++ [(id, machine)]
  | .unregister id => roster.filter fun entry => entry.1 != id
  | _ => roster

def enrolled (requests : List Request) : List (Uuid × Machine) :=
  requests.foldl enroll []

theorem enrolled_append (requests : List Request) (request : Request) :
    enrolled (requests ++ [request]) = enroll (enrolled requests) request := by
  rw [enrolled, List.foldl_append]
  rfl

/-- What is registered has been given its identifier by a registration. -/
theorem mem_enrolled {requests : List Request} {entry : Uuid × Machine}
    (member : entry ∈ enrolled requests) : .register entry.1 entry.2 ∈ requests := by
  induction requests using List.reverseRecOn with
  | nil => cases member
  | append_singleton requests request ih =>
      rw [enrolled_append] at member
      have earlier (known : entry ∈ enrolled requests) :
          Request.register entry.1 entry.2 ∈ requests ++ [request] :=
        List.mem_append_left _ (ih known)
      cases request with
      | register id machine =>
          rcases List.mem_append.mp member with known | new
          · exact earlier known
          · obtain rfl := List.mem_singleton.mp new
            exact List.mem_append_right _ List.mem_cons_self
      | unregister id => exact earlier (List.mem_filter.mp member).1
      | launch time => exact earlier member
      | shutdown time => exact earlier member
      | onTimer time => exact earlier member
      | onMessage topic message time => exact earlier member

/-- A hub in agreement with the machines that are registered. -/
structure Indexed (roster : List (Uuid × Machine)) (hub : Hub) : Prop where
  distinct : (roster.map Prod.fst).Nodup
  monitors : Ordered.Ascending hub.monitors
  machines : ∀ id, (hub.monitors.lookup id).map Monitor.machine = roster.lookup id
  topics : Ordered.Ascending hub.routes
  routes : ∀ topic, (hub.routes.lookup topic).getD [] =
    (roster.filter fun entry => entry.2.hasRuleOn topic).map Prod.fst
  occupied : ∀ route ∈ hub.routes, route.2 ≠ []

theorem indexed_ofConfig (config : HubConfig) : Indexed [] (ofConfig config) where
  distinct := List.nodup_nil
  monitors := List.Pairwise.nil
  machines := fun _ => rfl
  topics := List.Pairwise.nil
  routes := fun _ => rfl
  occupied := fun _ member => absurd member List.not_mem_nil

namespace Indexed

variable {roster : List (Uuid × Machine)} {hub : Hub} (indexed : Indexed roster hub)

include indexed

theorem keeps {other : Hub} (keeps : Keeps hub other) : Indexed roster other where
  distinct := indexed.distinct
  monitors := keeps.ascending indexed.monitors
  machines := fun id => (keeps.machines id).trans (indexed.machines id)
  topics := by rw [keeps.routes]; exact indexed.topics
  routes := by rw [keeps.routes]; exact indexed.routes
  occupied := by rw [keeps.routes]; exact indexed.occupied

/-- A monitor is registered exactly if its identifier is in the roster. -/
theorem lookup_isSome_iff (id : Uuid) :
    (hub.monitors.lookup id).isSome = true ↔ id ∈ roster.map Prod.fst := by
  rw [← Ordered.lookup_isSome_iff, ← indexed.machines, Option.isSome_map]

/-- The monitor of a machine in the roster. -/
theorem monitor_iff (id : Uuid) (machine : Machine) :
    (∃ monitor, hub.monitor id = .ok monitor ∧ monitor.machine = machine) ↔
      (id, machine) ∈ roster := by
  have same := indexed.machines id
  unfold Hub.monitor
  constructor
  · rintro ⟨monitor, found, rfl⟩
    cases known : hub.monitors.lookup id with
    | none => rw [known] at found; cases found
    | some present =>
        rw [known] at found same
        obtain rfl := Except.ok.inj found
        exact Ordered.mem_of_lookup same.symm
  · intro member
    rw [Ordered.lookup_of_mem indexed.distinct member] at same
    obtain ⟨monitor, found, machine⟩ := Option.map_eq_some_iff.mp same
    exact ⟨monitor, by rw [found], machine⟩

theorem unregister_unknown {id : Uuid} (absent : id ∉ roster.map Prod.fst) :
    hub.unregister id = .error (unknown id) := by
  have missing : hub.monitors.lookup id = none := by
    rw [← Option.not_isSome_iff_eq_none, indexed.lookup_isSome_iff]
    exact absent
  simp only [Hub.unregister, Hub.monitor, missing, bind, Except.bind]

end Indexed

section Routes

variable {id : Uuid} {topics : List String}

/-- A registration is added at the end of the routes of its topics. -/
theorem lookup_addRoutes (distinct : topics.Nodup) (routes : List (String × List Uuid))
    (topic : String) :
    ((topics.foldl (addRoute id) routes).lookup topic).getD [] =
      (routes.lookup topic).getD [] ++ if topic ∈ topics then [id] else [] := by
  induction topics generalizing routes with
  | nil => simp
  | cons first rest ih =>
      obtain ⟨fresh, others⟩ := List.nodup_cons.mp distinct
      rw [List.foldl_cons, ih others, addRoute, Ordered.lookup_insert]
      by_cases same : topic = first
      · subst same
        simp [fresh]
      · simp [same]

theorem ascending_addRoutes {routes : List (String × List Uuid)}
    (ascending : Ordered.Ascending routes) (topics : List String) :
    Ordered.Ascending (topics.foldl (addRoute id) routes) := by
  induction topics generalizing routes with
  | nil => exact ascending
  | cons first rest ih => exact ih (ascending.insert _ _)

theorem occupied_addRoutes {routes : List (String × List Uuid)}
    (occupied : ∀ route ∈ routes, route.2 ≠ []) (topics : List String) :
    ∀ route ∈ topics.foldl (addRoute id) routes, route.2 ≠ [] := by
  induction topics generalizing routes with
  | nil => exact occupied
  | cons first rest ih =>
      refine ih fun route member => ?_
      rcases Ordered.mem_insert member with rfl | old
      · exact List.append_ne_nil_of_right_ne_nil _ (List.cons_ne_nil _ _)
      · exact occupied route old

end Routes

/-- A registration under a new identifier. -/
theorem Indexed.register {roster : List (Uuid × Machine)} {hub : Hub}
    (indexed : Indexed roster hub) {id : Uuid} (fresh : id ∉ roster.map Prod.fst)
    (machine : Machine) : Indexed (roster ++ [(id, machine)]) (hub.register id machine) where
  distinct := by
    rw [List.map_append, List.nodup_append]
    refine ⟨indexed.distinct, List.nodup_singleton _, fun first member second last => ?_⟩
    rintro rfl
    obtain rfl := List.mem_singleton.mp last
    exact fresh member
  monitors := indexed.monitors.insert _ _
  machines := by
    intro other
    have later : [(id, machine)].lookup other = if other = id then some machine else none :=
      Ordered.lookup_cons_eq id machine [] other
    dsimp only [Hub.register]
    rw [Ordered.lookup_insert, List.lookup_append, later, ← indexed.machines]
    split
    · next same =>
        have absent : hub.monitors.lookup other = none := by
          rw [← Option.not_isSome_iff_eq_none, indexed.lookup_isSome_iff, same]
          exact fresh
        rw [absent]
        rfl
    · rw [Option.or_none]
  topics := ascending_addRoutes indexed.topics _
  routes := by
    intro topic
    have single : machine.topics.Nodup := machine.topics_nodup
    dsimp only [Hub.register]
    rw [lookup_addRoutes single, indexed.routes, List.filter_append,
      List.map_append]
    congr 1
    by_cases listens : machine.hasRuleOn topic = true
    · rw [if_pos (Machine.hasRuleOn_iff.mp listens)]
      simp [listens]
    · rw [if_neg fun member => listens (Machine.hasRuleOn_iff.mpr member)]
      simp [listens]
  occupied := occupied_addRoutes indexed.occupied _

/-- A registered monitor can be taken out. -/
theorem Indexed.unregister {roster : List (Uuid × Machine)} {hub : Hub}
    (indexed : Indexed roster hub) {id : Uuid} (known : id ∈ roster.map Prod.fst) :
    ∃ fewer, hub.unregister id = .ok fewer ∧
      Indexed (roster.filter fun entry => entry.1 != id) fewer := by
  obtain ⟨monitor, found⟩ := Option.isSome_iff_exists.mp ((indexed.lookup_isSome_iff id).mpr known)
  refine ⟨_, by simp only [Hub.unregister, Hub.monitor, found, bind, Except.bind]; rfl, ?_⟩
  have removed (topic : String) := Ordered.lookup_filter_map
    (fun ids : List Uuid => ids.filter (· != id)) (fun ids => !ids.isEmpty) indexed.topics.nodup topic
  exact {
    distinct := indexed.distinct.sublist (List.filter_sublist.map _)
    monitors := List.Pairwise.sublist (List.filter_sublist.map _) indexed.monitors
    machines := by
      intro other
      dsimp only
      rw [Ordered.lookup_filter_ne, Ordered.lookup_filter_ne, ← indexed.machines]
      split
      · rfl
      · rfl
    topics := by
      refine List.Pairwise.sublist (List.filter_sublist.map _) ?_
      rw [List.map_map]
      exact indexed.topics
    routes := by
      intro topic
      refine (congrArg (Option.getD · []) (removed topic)).trans ?_
      have filtered : (roster.filter fun entry => entry.1 != id).filter
            (fun entry => entry.2.hasRuleOn topic) =
          (roster.filter fun entry => entry.2.hasRuleOn topic).filter fun entry => entry.1 != id := by
        rw [List.filter_filter, List.filter_filter]
        simp only [Bool.and_comm]
      rw [filtered, ← Function.comp_def (· != id) Prod.fst, ← List.filter_map, ← indexed.routes]
      cases hub.routes.lookup topic with
      | none => rfl
      | some ids =>
          rw [Option.map_some, Option.filter_some, Option.getD_some]
          split
          · rfl
          · next vacant =>
              rw [Bool.not_eq_true, Bool.not_eq_false', List.isEmpty_iff] at vacant
              rw [vacant]
              rfl
    occupied := by
      intro route member
      have kept := (List.mem_filter.mp member).2
      simpa using kept }

/-- Every request keeps the hub in agreement with the roster. -/
theorem Indexed.perform {roster : List (Uuid × Machine)} {hub : Hub} (indexed : Indexed roster hub)
    {request : Request} (fresh : ∀ id, request.newId? = some id → id ∉ roster.map Prod.fst) :
    Indexed (enroll roster request) (hub.perform request).hub := by
  cases request with
  | register id machine => exact indexed.register (fresh id rfl) machine
  | unregister id =>
      dsimp only [Hub.perform, enroll]
      by_cases known : id ∈ roster.map Prod.fst
      · obtain ⟨fewer, removed, still⟩ := indexed.unregister known
        rw [removed]
        exact still
      · have nobody : roster.filter (fun entry => entry.1 != id) = roster := by
          rw [List.filter_eq_self]
          intro entry member
          refine bne_iff_ne.mpr fun same => known ?_
          exact List.mem_map.mpr ⟨entry, member, same⟩
        rw [indexed.unregister_unknown known, nobody]
        exact indexed
  | launch time =>
      exact indexed.keeps (callAll_keeps (fun monitor => monitor.run_machine _ _) indexed.monitors _)
  | shutdown time =>
      exact indexed.keeps (callAll_keeps (fun monitor => monitor.run_machine _ _) indexed.monitors _)
  | onTimer time =>
      exact indexed.keeps (callEach_keeps (fun monitor => monitor.run_machine _ _) indexed.monitors _)
  | onMessage topic message time =>
      exact indexed.keeps (callEach_keeps (fun monitor => monitor.run_machine _ _) indexed.monitors _)

/-- An identifier that no earlier request has given is not in the roster. -/
theorem notMem_enrolled {requests : List Request} {request : Request} {id : Uuid}
    (given : request.newId? = some id)
    (distinct : ((requests ++ [request]).filterMap Request.newId?).Nodup) :
    id ∉ (enrolled requests).map Prod.fst := by
  rw [List.filterMap_append, List.nodup_append] at distinct
  intro known
  obtain ⟨entry, member, rfl⟩ := List.mem_map.mp known
  have old : entry.1 ∈ requests.filterMap Request.newId? :=
    List.mem_filterMap.mpr ⟨_, mem_enrolled member, rfl⟩
  have new : entry.1 ∈ [request].filterMap Request.newId? :=
    List.mem_filterMap.mpr ⟨request, List.mem_cons_self, given⟩
  exact distinct.2.2 entry.1 old entry.1 new rfl

/-- The hub agrees with the roster after any requests with distinct new identifiers. -/
theorem indexed_after (config : HubConfig) {requests : List Request}
    (distinct : (requests.filterMap Request.newId?).Nodup) :
    Indexed (enrolled requests) ((ofConfig config).after requests) := by
  induction requests using List.reverseRecOn with
  | nil => exact indexed_ofConfig config
  | append_singleton requests request ih =>
      have earlier : (requests.filterMap Request.newId?).Nodup := by
        rw [List.filterMap_append] at distinct
        exact distinct.of_append_left
      rw [enrolled_append, after_append]
      exact (ih earlier).perform fun id given => notMem_enrolled given distinct

/-- The route of a topic leads to the registered monitors with a rule for it, each of them once and
in the order of their registration. There is one route for a topic, which leads somewhere. What is
not registered cannot be taken out. -/
theorem routes_follow_registrations (config : HubConfig) {requests : List Request}
    (distinct : (requests.filterMap Request.newId?).Nodup) :
    let hub := (ofConfig config).after requests
    let roster := enrolled requests
    (∀ id machine, (∃ monitor, hub.monitor id = .ok monitor ∧ monitor.machine = machine) ↔
        (id, machine) ∈ roster) ∧
      (∀ topic, (hub.routes.lookup topic).getD [] =
        (roster.filter fun entry => entry.2.hasRuleOn topic).map Prod.fst) ∧
      (∀ topic, ((hub.routes.lookup topic).getD []).Nodup) ∧
      (hub.routes.map Prod.fst).Nodup ∧
      (∀ route ∈ hub.routes, route.2 ≠ []) ∧
      ∀ id, id ∉ roster.map Prod.fst →
        hub.unregister id = .error (unknown id) ∧
          hub.perform (.unregister id) = ⟨.error (.error (unknown id)), hub⟩ := by
  have indexed := indexed_after config distinct
  refine ⟨indexed.monitor_iff, indexed.routes, fun topic => ?_, indexed.topics.nodup,
    indexed.occupied, fun id absent => ?_⟩
  · rw [indexed.routes]
    exact indexed.distinct.sublist (List.filter_sublist.map _)
  · have refused := indexed.unregister_unknown absent
    refine ⟨refused, ?_⟩
    simp only [perform, refused]

/-- The machine of a property that is about two topics, one of them in two branches. -/
def twoTopics : Machine :=
  ({ scope := .global
     pattern := .response { branches := [{ topic := "ask" }, { topic := "ask" }] }
       { branches := [{ topic := "tell" }] } .unbounded } : Property).assemble
    (.response { branches := [{ topic := "ask" }, { topic := "ask" }] }
      { branches := [{ topic := "tell" }] } .unbounded)

/-- The one with the smaller identifier came later, and a third one has gone. -/
theorem routes_follow_registrations_twoTopics :
    ((((ofConfig {}).after [.register ⟨7⟩ twoTopics, .register ⟨5⟩ twoTopics,
        .register ⟨3⟩ twoTopics, .unregister ⟨5⟩]).routes.lookup "ask").getD []) = [⟨7⟩, ⟨3⟩] :=
  (routes_follow_registrations {} (by decide)).2.1 "ask"

end Hub

end TemporalMonitor
