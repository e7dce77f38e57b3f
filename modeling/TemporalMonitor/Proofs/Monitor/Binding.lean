import TemporalMonitor.Proofs.Monitor.Account
import TemporalMonitor.Proofs.Property.Scoped

/-!
Names that tests read are bound.

A valid property reads a name only where some event has bound it, as far as that can be seen without
running a monitor. Here it is shown of running monitors: whenever a rule is tested, the witness binds
the names that its test reads, with a pooled record where the guard supplies one. The alias of the
activator stands for the message that opened the episode, and no later record hides it.
-/

namespace TemporalMonitor

/-- What a name stands for does not change as long as it is not bound again. -/
theorem Bindings.agreeOn_ofRecords {names : List String} (records : List Record)
    {added : List Record}
    (different : ∀ record ∈ added, ∀ name ∈ names, record.alias? ≠ some name) :
    AgreeOn names (ofRecords (records ++ added)) (ofRecords records) := by
  induction added using List.reverseRecOn with
  | nil =>
      intro name _
      rw [List.append_nil]
  | append_singleton rest last ih =>
      have before := ih fun record member => different record (List.mem_append_left _ member)
      intro name member
      rw [← List.append_assoc, ofRecords_append,
        agreeOn_withRecord _ (different last (List.mem_append_right _ List.mem_cons_self)) name member]
      exact before name member

/-- What a record with an alias binds. -/
theorem Bindings.get_withRecord (bindings : Bindings) {record : Record} {name : String}
    (named : record.alias? = some name) :
    (bindings.withRecord record).get? name = some record.message := by
  rw [withRecord, named]
  dsimp only [bind, get?]
  rw [List.lookup_cons, beq_self_eq_true]

theorem Recounts.exists_call {matched : Call → Record → Prop} {calls : List Call}
    {records : List Record} (recounts : Recounts matched calls records) {record : Record}
    (member : record ∈ records) : ∃ call ∈ calls, matched call record := by
  obtain ⟨chosen, part, each⟩ := recounts
  have found : ∃ call ∈ chosen, matched call record := by
    clear part
    induction each with
    | nil => exact absurd member List.not_mem_nil
    | cons fits _ ih =>
        rcases List.mem_cons.mp member with rfl | later
        · exact ⟨_, List.mem_cons_self, fits⟩
        · obtain ⟨call, listed, fits⟩ := ih later
          exact ⟨call, List.mem_cons_of_mem _ listed, fits⟩
  obtain ⟨call, listed, fits⟩ := found
  exact ⟨call, part.subset listed, fits⟩

/-- A test that looks at the pool, or at less than the whole event, is one of the behavior. -/
theorem Duty.behaves {property : Property} {role : Role} {state : State} {reaction : Reaction}
    (duty : Duty property role state reaction) (other : reaction.guard ≠ .message) :
    role = .behavior ∧ (state = .engaged ∨ state = .pending) := by
  cases duty with
  | decides decides =>
      generalize property.pattern = pattern at decides
      cases decides with
      | unmatched => exact ⟨rfl, .inl rfl⟩
      | _ => exact absurd rfl other
  | allows => exact ⟨rfl, .inl rfl⟩
  | answers => exact ⟨rfl, .inr rfl⟩
  | _ => exact absurd rfl other

namespace Property

variable {property : Property}

/-- No other event has the alias of the activator. -/
theorem Scoped.alias_ne (reading : property.Scoped) {role : Role} (other : role ≠ .activator)
    {event : Event} (given : property.event? role = some event) {name : String}
    (bound : name ∈ property.scopeNames) : event.alias? ≠ some name := by
  cases role with
  | activator => exact absurd rfl other
  | terminator => exact reading.terminator_alias_ne given bound
  | trigger => exact reading.trigger_alias_ne given bound
  | behavior =>
      obtain rfl := Option.some.inj given
      exact reading.behavior_alias_ne bound

theorem Matched.alias_eq {bindings : Bindings} {role : Role} {call : Call} {record : Record}
    (matched : property.Matched bindings role call record) :
    ∃ event, property.event? role = some event ∧ record.alias? = event.alias? := by
  obtain ⟨event, given, recorded, _⟩ := matched
  exact ⟨event, given, Call.alias_of_record recorded⟩

/-- The behavior may read the alias of the trigger besides the names bound inside the scope. -/
theorem mem_behaviorNames {name : String} (member : name ∈ property.behaviorNames) :
    name ∈ property.scopeNames ∨
      ∃ trigger, property.pattern.trigger? = some trigger ∧ trigger.alias? = some name := by
  have paired {trigger : Event} (given : property.pattern.trigger? = some trigger)
      (listed : name ∈ property.scopeNames ++ trigger.alias?.toList) :
      name ∈ property.scopeNames ∨
        ∃ trigger, property.pattern.trigger? = some trigger ∧ trigger.alias? = some name :=
    (List.mem_append.mp listed).imp_right fun named => ⟨trigger, given, Option.mem_toList.mp named⟩
  unfold behaviorNames at member
  split at member
  · next pattern => exact paired (by rw [pattern]; rfl) member
  · next pattern => exact paired (by rw [pattern]; rfl) member
  · exact .inl member

/-- An event that decides an episode by a message alone reads nothing but what the scope binds. -/
theorem Scoped.decides_reads (reading : property.Scoped) {role : Role} {verdict : Bool}
    (decides : property.pattern.Decides role .message verdict) {event : Event}
    (given : property.event? role = some event) : event.ReadsFrom property.scopeNames := by
  have behaves := reading.behavior
  unfold behaviorNames at behaves
  unfold event? at given
  cases pattern : property.pattern with
  | absence behavior bound =>
      rw [pattern] at decides given behaves
      cases decides
      obtain rfl := Option.some.inj given
      exact behaves
  | existence behavior bound =>
      rw [pattern] at decides given behaves
      cases decides
      obtain rfl := Option.some.inj given
      exact behaves
  | requirement behavior trigger bound =>
      rw [pattern] at decides
      cases decides with
      | granted => exact reading.trigger given
      | refused unread =>
          rw [pattern] at given behaves
          obtain rfl := Option.some.inj given
          exact behaves.of_unread unread
  | response trigger behavior bound =>
      rw [pattern] at decides
      cases decides
  | prevention trigger behavior bound =>
      rw [pattern] at decides
      cases decides

/-- Inside an episode, a test of a message alone reads nothing but what the scope binds. -/
theorem Scoped.duty_reads (reading : property.Scoped) {role : Role} {state : State}
    {reaction : Reaction} (duty : Duty property role state reaction)
    (plain : reaction.guard = .message) (isOpen : state ≠ .inactive) {event : Event}
    (given : property.event? role = some event) : event.ReadsFrom property.scopeNames := by
  cases duty with
  | opens => exact absurd rfl isOpen
  | leaves => exact reading.terminator given
  | closes => exact reading.terminator given
  | closesOwed => exact reading.terminator given
  | decides decides =>
      obtain rfl : _ = Guard.message := plain
      exact reading.decides_reads decides given
  | secures decides => exact reading.decides_reads decides given
  | stores => exact reading.trigger given
  | allows => cases plain
  | owes => exact reading.trigger given
  | owesMore => exact reading.trigger given
  | answers => cases plain

/-- The message of the call that opened the latest episode. -/
def OpenedBy (property : Property) (chronicle : Chronicle) (message : Message) : Prop :=
  ∃ activator topic time, property.scope.activator? = some activator ∧
    chronicle.opener? = some (.message topic message time) ∧
    activator.occurs Bindings.empty (.message topic message time) = true

end Property

section Vouched

variable {property : Property} {chronicle : Chronicle} {witness opening added : List Record}

/-- The witness binds the alias of the activator to the message that opened the episode. -/
theorem Vouched.resolves (vouched : Vouched property chronicle witness opening added)
    (reading : property.Scoped) {name : String} (bound : name ∈ property.scopeNames) :
    ∃ message, property.OpenedBy chronicle message ∧
      (Bindings.ofRecords witness).get? name = some message := by
  have unhidden : ∀ record ∈ added, ∀ name ∈ property.scopeNames, record.alias? ≠ some name := by
    intro record member name bound
    obtain ⟨call, _, role, other, matched⟩ := vouched.recounts.exists_call member
    obtain ⟨event, given, same⟩ := matched.alias_eq
    rw [same]
    exact reading.alias_ne other given bound
  have same := Bindings.agreeOn_ofRecords opening unhidden name bound
  rw [vouched.split, same]
  have opens := vouched.opens
  generalize opener : chronicle.opener? = opener? at opens
  cases opens with
  | launched given => simp [Property.scopeNames, given] at bound
  | @activated activator call record given occurs recorded =>
      have named : activator.alias? = some name := by
        simpa [Property.scopeNames, given] using bound
      cases call with
      | timer time => cases recorded
      | message topic message time =>
          obtain rfl := Option.some.inj recorded
          refine ⟨message, ⟨activator, topic, time, given, opener, occurs⟩, ?_⟩
          exact Bindings.get_withRecord Bindings.empty named

end Vouched

/-- Whatever rule is tested in the present state, the names that it reads are bound, and they stand for
the right messages. -/
structure Resolves (property : Property) (machine : Machine) (chronicle : Chronicle)
    (inst : Instance) : Prop where
  message : ∀ topic, ∀ rule ∈ machine.rulesAt topic inst.state, rule.reaction.guard = .message →
    ∀ name ∈ rule.predicate.references, inst.bindings.contains name = true
  pooled : ∀ topic, ∀ rule ∈ machine.rulesAt topic inst.state,
    rule.reaction.guard = .anyPooled ∨ rule.reaction.guard = .consumePooled →
      ∀ record ∈ inst.pool.records, ∀ name ∈ rule.predicate.references,
        (inst.bindingsWith record).contains name = true
  /-- Where partial evaluation is made, only the alias of the trigger may be unbound. -/
  undecided : ∀ topic, ∀ rule ∈ machine.rulesAt topic inst.state, rule.reaction.guard = .undecided →
    ∀ name ∈ rule.predicate.references, inst.bindings.contains name = true ∨
      ∃ trigger, property.pattern.trigger? = some trigger ∧ trigger.alias? = some name
  activator : ∀ name ∈ property.scopeNames, inst.state ≠ .inactive →
    ∃ message, property.OpenedBy chronicle message ∧ inst.bindings.get? name = some message
  /-- A pooled record does not hide the activator, and is itself what the alias of the trigger stands
  for. -/
  candidate : ∀ topic, ∀ rule ∈ machine.rulesAt topic inst.state,
    rule.reaction.guard = .anyPooled ∨ rule.reaction.guard = .consumePooled →
      ∀ record ∈ inst.pool.records,
        (∀ name ∈ property.scopeNames,
          (inst.bindingsWith record).get? name = inst.bindings.get? name) ∧
        ∀ trigger name, property.pattern.trigger? = some trigger → trigger.alias? = some name →
          (inst.bindingsWith record).get? name = some record.message

namespace Account

variable {property : Property} {chronicle : Chronicle} {inst : Instance}

/-- Inside an episode the witness resolves the names that the scope binds. -/
theorem resolves_scope (account : Account property chronicle inst) (reading : property.Scoped)
    (running : inst.state ≠ .off) (isOpen : inst.state ≠ .inactive) {name : String}
    (bound : name ∈ property.scopeNames) :
    ∃ message, property.OpenedBy chronicle message ∧ inst.bindings.get? name = some message := by
  obtain ⟨opening, added, vouched⟩ := account.vouched_of_open running isOpen
  exact vouched.resolves reading bound

/-- A pooled record that a rule looks at binds the alias of the trigger, and nothing else. -/
theorem candidate (account : Account property chronicle inst) (reading : property.Scoped)
    (here : inst.state = .engaged ∨ inst.state = .pending) {record : Record}
    (member : record ∈ inst.pool.records) :
    (∀ name ∈ property.scopeNames,
      (inst.bindingsWith record).get? name = inst.bindings.get? name) ∧
    ∀ trigger name, property.pattern.trigger? = some trigger → trigger.alias? = some name →
      (inst.bindingsWith record).get? name = some record.message := by
  obtain ⟨opening, underway⟩ := account.underway_of_state (here.imp_right .inr)
  obtain ⟨call, _, matched⟩ := underway.pooled record member
  obtain ⟨source, given, named⟩ := matched.alias_eq
  constructor
  · refine Bindings.agreeOn_withRecord inst.bindings fun name listed => ?_
    rw [named]
    exact reading.trigger_alias_ne given listed
  · intro trigger name same is
    obtain rfl : source = trigger := Option.some.inj (given.symm.trans same)
    exact Bindings.get_withRecord inst.bindings (named.trans is)

end Account

section Machine

variable {property : Property} {core : Core} {topic : String} {state : State} {rule : Rule}
  (made : property.pattern.core property.scope.kind.isReentrant = .ok core)
  (member : rule ∈ (property.assemble core).rulesAt topic state)

include made member

/-- A rule that tests a message alone reads what the scope binds, and before an episode nothing. -/
theorem Property.rulesAt_reads (valid : property.validate = .ok ())
    (plain : rule.reaction.guard = .message) :
    ∀ name ∈ rule.predicate.references, state ≠ .inactive ∧ name ∈ property.scopeNames := by
  intro name read
  obtain ⟨duty, event, branch, given, listed, same⟩ := rulesAt_performs made member
  rw [same] at read
  by_cases waiting : state = .inactive
  · rw [waiting] at duty
    rw [duty.activates.1] at given
    exact absurd (validate_activator valid given branch listed name read) List.not_mem_nil
  · have reading := validate_scoped valid
    exact ⟨waiting, reading.duty_reads duty plain waiting given branch listed name read⟩

/-- A rule that does not test a message alone is one of the behavior, in an open state. -/
theorem Property.rulesAt_behaves (reading : property.Scoped)
    (other : rule.reaction.guard ≠ .message) :
    (state = .engaged ∨ state = .pending) ∧
      ∀ name ∈ rule.predicate.references, name ∈ property.behaviorNames := by
  obtain ⟨duty, event, branch, given, listed, same⟩ := rulesAt_performs made member
  obtain ⟨role, here⟩ := duty.behaves other
  refine ⟨here, fun name read => ?_⟩
  rw [role] at given
  obtain rfl := Option.some.inj given
  rw [same] at read
  exact reading.behavior branch listed name read

end Machine

/-- In every running state the names that a rule reads are bound. -/
theorem Account.resolves {property : Property} {core : Core}
    (made : property.pattern.core property.scope.kind.isReentrant = .ok core)
    (valid : property.validate = .ok ()) {chronicle : Chronicle} {inst : Instance}
    (account : Account property chronicle inst) (running : inst.state ≠ .off) :
    Resolves property (property.assemble core) chronicle inst := by
  have reading := property.validate_scoped valid
  have bound {name : String} (isOpen : inst.state ≠ .inactive)
      (listed : name ∈ property.scopeNames) : inst.bindings.contains name = true := by
    obtain ⟨message, _, found⟩ := account.resolves_scope reading running isOpen listed
    rw [Bindings.contains, found]
    rfl
  have isOpen (here : inst.state = .engaged ∨ inst.state = .pending) : inst.state ≠ .inactive := by
    rcases here with here | here <;>
    · rw [here]
      decide
  have pools {guard : Guard} (looks : guard = .anyPooled ∨ guard = .consumePooled) :
      guard ≠ .message := by
    rcases looks with rfl | rfl <;> decide
  exact {
    message := by
      intro topic rule member plain name read
      obtain ⟨started, listed⟩ := property.rulesAt_reads made member valid plain name read
      exact bound started listed
    pooled := by
      intro topic rule member looks record pooled name read
      obtain ⟨here, reads⟩ := property.rulesAt_behaves made member reading (pools looks)
      obtain ⟨kept, bindsTrigger⟩ := account.candidate reading here pooled
      rw [Bindings.contains]
      rcases Property.mem_behaviorNames (reads name read) with listed | ⟨trigger, given, named⟩
      · rw [kept name listed]
        exact bound (isOpen here) listed
      · rw [bindsTrigger trigger name given named]
        rfl
    undecided := by
      intro topic rule member partially name read
      obtain ⟨here, reads⟩ :=
        property.rulesAt_behaves made member reading (by rw [partially]; decide)
      exact (Property.mem_behaviorNames (reads name read)).imp_left (bound (isOpen here))
    activator := fun name listed started => account.resolves_scope reading running started listed
    candidate := by
      intro topic rule member looks record pooled
      obtain ⟨here, _⟩ := property.rulesAt_behaves made member reading (pools looks)
      exact account.candidate reading here pooled }

/-- Names are bound whenever a rule is tested: right now, and after time has passed. -/
theorem Monitor.names_resolve {property : Property} {machine : Machine}
    (compiled : property.compile = .ok machine) {callbacks : Callbacks}
    {operations : List Operation}
    (usable : ((fresh machine callbacks).after operations).isPoisoned = false)
    (running : ((fresh machine callbacks).after operations).inst.state ≠ .off) :
    let inst := ((fresh machine callbacks).after operations).inst
    let chronicle := (fresh machine callbacks).chronicle operations
    Resolves property machine chronicle inst ∧
      ∀ time, Resolves property machine chronicle (machine.onTimer inst time).inst := by
  obtain ⟨valid, core, made, rfl⟩ := property.compile_cases compiled
  have account := Account.of_reached made (reached_after usable).2
  refine ⟨account.resolves made valid running, fun time => ?_⟩
  generalize ((fresh (property.assemble core) callbacks).after operations).inst = inst at *
  obtain ⟨latest?, observed⟩ := Machine.observe_inst inst time
  rw [(property.onTimer_lapse made running time).2, observed]
  have still : ({ inst with latestSeen? := latest? } : Instance).state ≠ .off := running
  exact ((account.observed latest?).lapse time).resolves made valid
    (property.lapse_running still time)

/-- In every session, a request gets a reply to its user within five seconds, and the reply has the
number of the request. -/
def Property.served : Property where
  scope := .between { alias? := some "session", branches := [{ topic := "open" }] }
    { branches := [{ topic := "close" }] }
  pattern := .response { alias? := some "request", branches := [{ topic := "request" }] }
    { branches := [{
        topic := "reply"
        predicate := .all [.compare "user" .eq (.field "session" "user"),
          .compare "id" .eq (.field "request" "id")] }] }
    (.within ⟨5000000000⟩)

/-- In a second session, with a request that is owed a reply, the reply is tested against both. -/
theorem Monitor.names_resolve_served :
    ∃ machine, Property.served.compile = .ok machine ∧
      let operations : List Operation :=
        [.launch (.ofNanos 0),
          .call (.message "open" ⟨[("user", .int 1)]⟩ (.ofNanos 1)),
          .call (.message "close" ⟨[]⟩ (.ofNanos 2)),
          .call (.message "open" ⟨[("user", .int 2)]⟩ (.ofNanos 3)),
          .call (.message "request" ⟨[("id", .int 7)]⟩ (.ofNanos 4))]
      let monitor := (fresh machine {}).after operations
      monitor.isPoisoned = false ∧ monitor.inst.state = .pending ∧
        monitor.inst.bindings.get? "session" = some ⟨[("user", .int 2)]⟩ ∧
        Resolves Property.served machine ((fresh machine {}).chronicle operations) monitor.inst := by
  have compiled : Property.served.compile = .ok _ := rfl
  exact ⟨_, compiled, rfl, rfl, rfl, (names_resolve compiled rfl (by decide)).1⟩

end TemporalMonitor
