import TemporalMonitor.Proofs.Monitor.Lapse

/-!
What a call makes of a monitor, whatever the tests of the property do, as long as none of them crashes
on the way.

A test may crash on some messages and not on others. Where a step has not crashed, every test that it
made has answered, so it has chosen the first rule that admits the message, and the rule has done what
rules do. For a compiled machine that means that time has passed, and that then at most one event has
carried out one of its duties.
-/

namespace TemporalMonitor

theorem Predicate.holds_of_test {predicate : Predicate} {message : Message} {bindings : Bindings}
    {answer : Bool} (answered : predicate.test message bindings = .ok answer) :
    predicate.holds message bindings = answer := by
  rw [holds, answered]

/-- A test of the pooled records that does not crash takes out those that pass it. -/
theorem Pool.consume_ok {pool left : Pool} {test : Record → Except Crash Bool}
    {passes : Record → Bool} {taken : List Record}
    (answers : ∀ record answer, test record = .ok answer → passes record = answer)
    (consumed : pool.consume test = .ok (taken, left)) : left = pool.without passes := by
  have all_tested (entries : List Entry) (results : List (Entry × Bool))
      (done : tested test entries = .ok results) :
      results = entries.map fun entry => (entry, passes entry.record) := by
    induction entries generalizing results with
    | nil =>
        obtain rfl := Except.ok.inj done
        rfl
    | cons first rest ih =>
        rw [tested] at done
        cases answered : test first.record with
        | error crash => simp [answered, bind, Except.bind] at done
        | ok answer =>
            cases others : tested test rest with
            | error crash => simp [answered, others, bind, Except.bind] at done
            | ok remaining =>
                simp only [answered, others, bind, Except.bind] at done
                obtain rfl := Except.ok.inj done
                rw [List.map_cons, answers _ _ answered, ih remaining others]
  unfold consume at consumed
  cases done : tested test pool.entries.reverse with
  | error crash => simp [done, bind, Except.bind] at consumed
  | ok results =>
      simp only [done, bind, Except.bind, Except.ok.injEq, Prod.mk.injEq] at consumed
      rw [← consumed.2, all_tested _ _ done]
      simp [without, List.filter_map, Function.comp_def]

/-- The step has not crashed. -/
def Step.Calm {α : Type} (step : Step α) : Prop :=
  ∀ crash, step.result ≠ .error (.crash crash)

/-- Where a step ends does not depend on what is made of its result. -/
theorem Step.andThen_done_inst {α β : Type} (first : Step α) (value : β) :
    (first.andThen fun _ inst => .done value inst []).inst = first.inst := by
  unfold andThen
  cases first.result <;> rfl

theorem Step.Calm.andThen {α β : Type} {first : Step α} {next : α → Instance → Step β}
    (calm : (first.andThen next).Calm) :
    first.Calm ∧ ∀ value, first.result = .ok value → (next value first.inst).Calm := by
  constructor
  · intro crash crashed
    refine calm crash ?_
    rw [Step.andThen, crashed]
  · intro value succeeded crash crashed
    refine calm crash ?_
    rw [Step.andThen_result _ succeeded]
    exact crashed

namespace Instance

variable {inst : Instance} {message : Message}

theorem anyPasses_ok {test : Record → Except Crash Bool} {passes : Record → Bool}
    (answers : ∀ record answer, test record = .ok answer → passes record = answer)
    {records : List Record} {answer : Bool} (answered : anyPasses test records = .ok answer) :
    records.any passes = answer := by
  induction records with
  | nil => exact Except.ok.inj answered
  | cons first rest ih =>
      rw [anyPasses] at answered
      cases tested : test first with
      | error crash => simp [tested, bind, Except.bind] at answered
      | ok passed =>
          simp only [tested, bind, Except.bind] at answered
          rw [List.any_cons, answers _ _ tested]
          cases passed with
          | true => exact Except.ok.inj answered
          | false => exact ih answered

/-- A guard that answers says whether the rule applies. -/
theorem guardHolds_ok {rule : Rule} {answer : Bool}
    (answered : inst.guardHolds message rule = .ok answer) : inst.admits message rule = answer := by
  have pooled (tested : anyPasses (inst.testPooled rule message) inst.pool.newestFirst =
      .ok answer) :
      (inst.pool.records.any fun pooled =>
        rule.predicate.holds message (inst.bindingsWith pooled)) = answer := by
    rw [← anyPasses_ok (fun _ _ tested => Predicate.holds_of_test tested) tested,
      Pool.newestFirst, List.any_reverse]
  unfold guardHolds at answered
  unfold admits
  cases guard : rule.reaction.guard with
  | message =>
      rw [guard] at answered
      exact Predicate.holds_of_test answered
  | undecided =>
      rw [guard] at answered
      dsimp only at answered ⊢
      rw [Predicate.mayHold]
      cases tested : rule.predicate.testPartial message inst.bindings with
      | error crash => simp [tested, Except.map] at answered
      | ok known =>
          rw [tested] at answered
          exact Except.ok.inj answered
  | anyPooled =>
      rw [guard] at answered
      exact pooled answered
  | consumePooled =>
      rw [guard] at answered
      exact pooled answered

/-- A choice that answers is the first rule that admits the message. -/
theorem select_ok {rules : List Rule} {chosen? : Option Rule}
    (answered : inst.select message rules = .ok chosen?) :
    rules.find? (inst.admits message) = chosen? := by
  induction rules with
  | nil => exact Except.ok.inj answered
  | cons first rest ih =>
      rw [select] at answered
      cases guarded : inst.guardHolds message first with
      | error crash => simp [guarded, bind, Except.bind] at answered
      | ok holds =>
          simp only [guarded, bind, Except.bind] at answered
          rw [List.find?_cons, guardHolds_ok guarded]
          cases holds with
          | true => exact Except.ok.inj answered
          | false => exact ih answered

theorem discharge_calm {rule : Rule} (calm : (inst.discharge rule message).Calm) :
    (inst.discharge rule message).result = .ok () ∧
      (inst.discharge rule message).inst =
        { inst with
          pool := inst.poolLeft rule.reaction.guard fun pooled =>
            rule.predicate.holds message (inst.bindingsWith pooled) } := by
  unfold discharge at calm ⊢
  cases guard : rule.reaction.guard with
  | message => exact ⟨rfl, rfl⟩
  | undecided => exact ⟨rfl, rfl⟩
  | anyPooled => exact ⟨rfl, rfl⟩
  | consumePooled =>
      rw [guard] at calm
      cases consumed : inst.pool.consume (inst.testPooled rule message) with
      | error crash =>
          simp only [consumed] at calm
          exact absurd rfl (calm crash)
      | ok pair =>
          obtain ⟨taken, left⟩ := pair
          have remaining := Pool.consume_ok (fun _ _ tested => Predicate.holds_of_test tested) consumed
          refine ⟨rfl, ?_⟩
          rw [remaining]
          rfl

theorem store_calm {action : PoolAction} {record : Record}
    (calm : (inst.store action record).Calm) :
    (inst.store action record).result = .ok () ∧
      (inst.store action record).inst = { inst with pool := inst.pool.updated action record } := by
  unfold store at calm ⊢
  cases action with
  | keep => exact ⟨rfl, rfl⟩
  | clear => exact ⟨rfl, rfl⟩
  | push =>
      cases full : inst.pool.isFull with
      | true =>
          simp only [Pool.push, full, if_true] at calm
          exact absurd rfl (calm _)
      | false =>
          simp only [Pool.push_eq full]
          exact ⟨rfl, rfl⟩
  | replace =>
      cases newer : inst.pool.holdsNewerThan record with
      | true =>
          simp only [Pool.replace, Pool.updated, newer]
          exact ⟨rfl, rfl⟩
      | false =>
          cases full : inst.pool.clear.isFull with
          | true =>
              simp only [Pool.replace, Pool.push, newer, full, if_true] at calm
              exact absurd rfl (calm _)
          | false =>
              simp only [Pool.replace, Pool.updated, newer, Pool.push_eq full]
              exact ⟨rfl, rfl⟩

/-- What a rule reports is pooled, or else the rule does nothing. -/
theorem additions_cases (inst : Instance) (action : WitnessAction) (record : Record) :
    inst.additions action record = .error emptyPool ∨
      inst.additions action record = .ok (inst.justification action record) ∧
        (action = .recordBoth → inst.pool.records ≠ []) := by
  have pooled {oldest : Record} (first : inst.pool.oldest? = some oldest) :
      inst.pool.records ≠ [] := by
    intro vacant
    rw [Pool.oldest?, vacant] at first
    cases first
  unfold additions justification
  cases first : inst.pool.oldest? with
  | none => cases action <;> simp
  | some oldest => cases action <;> simp [pooled first]

/-- A rule that does not crash does what its reaction says, if there is what it reports. -/
theorem apply_justified {rule : Rule} {topic : String} {time : Timestamp}
    (justified : inst.additions rule.reaction.witness ⟨topic, time, message, rule.alias?⟩ =
      .ok (inst.justification rule.reaction.witness ⟨topic, time, message, rule.alias?⟩))
    (calm : (inst.apply rule topic message time).Calm) :
    (inst.apply rule topic message time).inst =
      inst.reacted rule.reaction ⟨topic, time, message, rule.alias?⟩ fun pooled =>
        rule.predicate.holds message (inst.bindingsWith pooled) := by
  simp only [apply, justified] at calm ⊢
  obtain ⟨first, rest⟩ := calm.andThen
  obtain ⟨discharged, left⟩ := discharge_calm first
  obtain ⟨second, _⟩ := (rest () discharged).andThen
  obtain ⟨stored, updated⟩ := store_calm second
  rw [Step.andThen_inst _ discharged, Step.andThen_inst _ stored, updated, left]
  exact settle_reacted inst rule ⟨topic, time, message, rule.alias?⟩ topic _

/-- A rule that does not crash does nothing, or what its reaction says. -/
theorem apply_calm {rule : Rule} {topic : String} {time : Timestamp}
    (calm : (inst.apply rule topic message time).Calm) :
    (inst.apply rule topic message time).inst = inst ∨
      (rule.reaction.witness = .recordBoth → inst.pool.records ≠ []) ∧
        (inst.apply rule topic message time).inst =
          inst.reacted rule.reaction ⟨topic, time, message, rule.alias?⟩ fun pooled =>
            rule.predicate.holds message (inst.bindingsWith pooled) := by
  rcases inst.additions_cases rule.reaction.witness ⟨topic, time, message, rule.alias?⟩ with
    refused | ⟨justified, reported⟩
  · left
    simp only [apply, refused]
  · exact .inr ⟨reported, apply_justified justified calm⟩

/-- The call is an occurrence of the event, as far as a guard looks at it. -/
def detects (inst : Instance) (event : Event) (guard : Guard) (call : Call) : Bool :=
  match guard with
  | .message => event.occurs inst.bindings call
  | .undecided => event.mayOccur inst.bindings call
  | .anyPooled | .consumePooled =>
      inst.pool.records.any fun pooled => event.occurs (inst.bindings.withRecord pooled) call

/-- A rule that admits a message detects an occurrence of its event. -/
theorem detects_of_admits {event : Event} {role : Role} {reaction : Reaction} {branch : Branch}
    (listed : branch ∈ event.branches)
    (admitted : inst.admits message (event.rule role reaction branch) = true) (time : Timestamp) :
    inst.detects event reaction.guard (.message branch.topic message time) = true := by
  unfold detects
  unfold admits at admitted
  have pooled (passes : (inst.pool.records.any fun pooled =>
      branch.predicate.holds message (inst.bindingsWith pooled)) = true) :
      (inst.pool.records.any fun pooled => event.occurs (inst.bindings.withRecord pooled)
        (.message branch.topic message time)) = true := by
    obtain ⟨record, here, holds⟩ := List.any_eq_true.mp passes
    exact List.any_eq_true.mpr ⟨record, here,
      Event.passes_iff.mpr ⟨branch, listed, rfl, holds⟩⟩
  dsimp only [Event.rule] at admitted
  cases guard : reaction.guard with
  | message =>
      rw [guard] at admitted
      exact Event.passes_iff.mpr ⟨branch, listed, rfl, admitted⟩
  | undecided =>
      rw [guard] at admitted
      exact Event.passes_iff.mpr ⟨branch, listed, rfl, admitted⟩
  | anyPooled =>
      rw [guard] at admitted
      exact pooled admitted
  | consumePooled =>
      rw [guard] at admitted
      exact pooled admitted

end Instance

namespace Machine

variable {machine : Machine} {inst : Instance} {topic : String} {message : Message}
  {time : Timestamp}

/-- Without a verdict the first rule that admits the message applies, unless a test crashes. -/
theorem offer_selected (unsettled : inst.state.isTerminal = false)
    (calm : (machine.offer inst topic message time).Calm) :
    ((machine.rulesAt topic inst.state).find? (inst.admits message) = none →
        (machine.offer inst topic message time).inst = inst) ∧
      ∀ rule, (machine.rulesAt topic inst.state).find? (inst.admits message) = some rule →
        (inst.apply rule topic message time).Calm ∧
          (machine.offer inst topic message time).inst =
            (inst.apply rule topic message time).inst := by
  have running : ¬ inst.state.isTerminal = true := by rw [unsettled]; decide
  rw [offer, if_neg running] at calm ⊢
  cases selected : inst.select message (machine.rulesAt topic inst.state) with
  | error crash =>
      rw [selected] at calm
      exact absurd rfl (calm crash)
  | ok chosen? =>
      rw [Instance.select_ok selected]
      rw [selected] at calm
      constructor
      · rintro rfl
        rfl
      · rintro rule rfl
        exact ⟨calm.andThen.1, Step.andThen_done_inst _ _⟩

/-- A message that does not crash is ignored, or dealt with by the first rule that admits it. -/
theorem offer_calm (calm : (machine.offer inst topic message time).Calm) :
    (machine.offer inst topic message time).inst = inst ∨
      ∃ rule, (machine.rulesAt topic inst.state).find? (inst.admits message) = some rule ∧
        (rule.reaction.witness = .recordBoth → inst.pool.records ≠ []) ∧
        (machine.offer inst topic message time).inst =
          inst.reacted rule.reaction ⟨topic, time, message, rule.alias?⟩ fun pooled =>
            rule.predicate.holds message (inst.bindingsWith pooled) := by
  cases settled : inst.state.isTerminal with
  | true =>
      left
      rw [offer_of_terminal settled]
      rfl
  | false =>
      obtain ⟨ignored, applied⟩ := offer_selected settled calm
      cases found : (machine.rulesAt topic inst.state).find? (inst.admits message) with
      | none => exact .inl (ignored found)
      | some rule =>
          obtain ⟨calm, same⟩ := applied rule found
          rw [same]
          exact (Instance.apply_calm calm).imp id fun reacted => ⟨rule, rfl, reacted⟩

end Machine

/-- The message of the call does not make the monitor crash. -/
def Machine.Survives (machine : Machine) (inst : Instance) : Call → Prop
  | .timer _ => True
  | .message topic message time => (machine.onMessage inst topic message time).Calm

/-- What a call may make of a running monitor once the time of the call has passed: nothing, or the
duty of an event. No other event is looked at if the terminator occurs. -/
inductive Property.Takes (property : Property) (inst : Instance) (call : Call) :
    Instance → Prop where
  | nothing : Takes property inst call inst
  | duty {role : Role} {reaction : Reaction} {event : Event} {record : Record}
      {discharged : Record → Bool} (duty : Duty property role inst.state reaction)
      (given : property.event? role = some event)
      (detected : inst.detects event reaction.guard call = true)
      (unclosed : inst.state ≠ .inactive → role ≠ .terminator →
        property.scope.closes inst.bindings call = false)
      (recorded : call.record? event.alias? = some record)
      (reported : reaction.witness = .recordBoth → inst.pool.records ≠ []) :
      Takes property inst call (inst.reacted reaction record discharged)

theorem Machine.topic_of_rulesAt {machine : Machine} {topic : String} {state : State} {rule : Rule}
    (member : rule ∈ machine.rulesAt topic state) : rule.topic = topic := by
  obtain ⟨_, _, _, onTopic, _⟩ := mem_rulesAt.mp member
  exact onTopic

theorem closing_guard (isReentrant : Bool) (pattern : PatternKind) (state : State) :
    (closing isReentrant pattern state).guard = .message := by
  unfold closing
  split
  · rfl
  · rfl
  · split <;> rfl
  · split <;> rfl

namespace Property

variable {property : Property}

/-- A message is for the terminator exactly if it closes the episode. -/
theorem isSome_find_closing (inst : Instance) (state : State) (topic : String) (message : Message)
    (time : Timestamp) :
    ((property.closingRules state topic).find? (inst.admits message)).isSome =
      property.scope.closes inst.bindings (.message topic message time) := by
  unfold closingRules Scope.closes
  cases property.scope.terminator? with
  | none => rfl
  | some terminator =>
      let closes := closing property.scope.kind.isReentrant property.pattern.kind state
      have tests (branch : Branch) : inst.admits message (terminator.rule .terminator closes branch) =
          branch.predicate.holds message inst.bindings := by
        simp only [Instance.admits, Event.rule, closes, closing_guard]
      dsimp only
      rw [Event.find_rules_passing tests, Option.isSome_map, Event.isSome_passing]
      rfl

theorem role_of_closing {state : State} {topic : String} {rule : Rule}
    (member : rule ∈ property.closingRules state topic) : rule.role = .terminator := by
  unfold closingRules at member
  cases given : property.scope.terminator? with
  | none => simp [given] at member
  | some terminator =>
      rw [given] at member
      obtain ⟨branch, _, _, rfl⟩ := Event.mem_rules.mp member
      rfl

variable {core : Core}
  (made : property.pattern.core property.scope.kind.isReentrant = .ok core)

include made

/-- A rule stands in the state before an episode opens, or in an open one. -/
theorem rulesAt_isOpen {topic : String} {state : State} {rule : Rule}
    (member : rule ∈ (property.assemble core).rulesAt topic state) :
    state = .inactive ∨ state ∈ core.openStates := by
  have regular := property.pattern.core_regular made
  by_cases isOpen : state ∈ core.openStates
  · exact .inr isOpen
  · left
    by_contra started
    have none_left : rulesFor core.placements topic state = [] :=
      rulesFor_eq_nil topic state fun placement listed same =>
        isOpen (same ▸ regular.placed placement listed)
    rw [Machine.rulesAt_eq, assemble] at member
    dsimp only at member
    rw [rulesFor_append, rulesFor_scopePlacements regular, none_left, if_neg (Ne.symm started),
      if_neg isOpen] at member
    simp at member

/-- A rule that comes after those of the terminator applies only if the terminator does not occur. -/
theorem unclosed_of_find {inst : Instance} {topic : String} {message : Message} {rule : Rule}
    (found : ((property.assemble core).rulesAt topic inst.state).find? (inst.admits message) =
      some rule) (started : inst.state ≠ .inactive) (other : rule.role ≠ .terminator)
    (time : Timestamp) :
    property.scope.closes inst.bindings (.message topic message time) = false := by
  have regular := property.pattern.core_regular made
  have isOpen : inst.state ∈ core.openStates := by
    rcases rulesAt_isOpen made (List.mem_of_find?_eq_some found) with waiting | isOpen
    · exact absurd waiting started
    · exact isOpen
  rw [rulesAt_open regular isOpen, List.find?_append] at found
  rw [← isSome_find_closing inst inst.state]
  cases first : (property.closingRules inst.state topic).find? (inst.admits message) with
  | none => rfl
  | some closer =>
      rw [first] at found
      obtain rfl := Option.some.inj found
      exact absurd (role_of_closing (List.mem_of_find?_eq_some first)) other

/-- The message of a call may be an event, once the time of the call has passed. -/
theorem offer_takes {inst : Instance} {topic : String} {message : Message} {time : Timestamp}
    (calm : ((property.assemble core).offer inst topic message time).Calm) :
    property.Takes inst (.message topic message time)
      ((property.assemble core).offer inst topic message time).inst := by
  rcases Machine.offer_calm calm with ignored | ⟨rule, found, reported, reacted⟩
  · rw [ignored]
    exact .nothing
  · have member := List.mem_of_find?_eq_some found
    obtain ⟨duty, event, branch, given, listed, same⟩ := rulesAt_performs made member
    have admitted : inst.admits message rule = true := List.find?_some found
    have onTopic : branch.topic = topic := by
      rw [same] at member
      exact Machine.topic_of_rulesAt member
    rw [reacted]
    refine .duty duty given ?_ (unclosed_of_find made found · · time) ?_ reported
    · rw [same] at admitted
      rw [← onTopic]
      exact Instance.detects_of_admits listed admitted time
    · rw [same]
      rfl

/-- A call looks at the clock and lets time pass, and then it may be an event. -/
theorem next_takes {inst : Instance} (running : inst.state ≠ .off) {call : Call}
    (survives : (property.assemble core).Survives inst call) :
    ∃ latest?, property.Takes (property.lapse { inst with latestSeen? := latest? } call.time) call
      ((property.assemble core).next inst call) := by
  obtain ⟨latest?, observed⟩ := Machine.observe_inst inst call.time
  refine ⟨latest?, ?_⟩
  rw [← observed]
  cases call with
  | timer time =>
      rw [Machine.next, (onTimer_lapse made running time).2]
      exact .nothing
  | message topic message time =>
      change property.Takes (property.lapse (inst.observe time).1 time) _ _
      obtain ⟨result, passed⟩ := onTimer_lapse made running time
      have calm : ((property.assemble core).onMessage inst topic message time).Calm := survives
      rw [Machine.onMessage_of_on running] at calm
      have offered := calm.andThen.2 () result
      rw [Machine.next, (Machine.onMessage_eq running result topic message).2, ← passed]
      exact offer_takes made offered

end Property

end TemporalMonitor
