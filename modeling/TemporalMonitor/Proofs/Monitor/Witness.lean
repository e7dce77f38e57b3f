import TemporalMonitor.Proofs.Monitor.Arrival
import TemporalMonitor.Proofs.Monitor.Soundness

/-!
The witness of a monitor certifies its verdict.

The witness consists of records of the latest episode, in the order of the calls, beginning with that
of the activator. It is empty between episodes, and inside an episode records are only added. When the
verdict is settled, what is added says why: the event that decided the episode, the terminator that
closed it, the earliest of the records that were owed a response, or nothing where time alone decided.
-/

namespace TemporalMonitor

/-- The pooled records, in the order of the calls that they come from. -/
structure Owed (property : Property) (chronicle : Chronicle) (inst : Instance)
    (owed : List Record) : Prop where
  all : owed.Perm inst.pool.records
  recounts : Recounts (property.Matched inst.bindings .trigger) chronicle.calls owed

/-- What settles the verdict when a call comes, and the records that say so. -/
inductive Grounds (property : Property) (inst : Instance) (owed : List Record) (call : Call) :
    Bool → List Record → Prop where
  /-- The time of an absence or an existence is over. -/
  | expired (due : property.isDue inst call.time = true)
      (kind : property.pattern.kind = .absence ∨ property.pattern.kind = .existence) :
      Grounds property inst owed call (property.pattern.kind == .absence) []
  /-- A response is overdue. -/
  | overdue {pending : Record} (due : property.isDue inst call.time = true)
      (response : property.pattern.kind = .response) (earliest : Earliest owed pending) :
      Grounds property inst owed call false [pending]
  /-- The terminator closes the episode, and nothing is owed. -/
  | closed {record : Record} (inTime : property.isDue inst call.time = false)
      (free : inst.state ≠ .pending)
      (matched : property.Matched inst.bindings .terminator call record) :
      Grounds property inst owed call (property.pattern.kind != .existence) [record]
  /-- The terminator closes the episode while a response is owed. -/
  | closedOwed {pending record : Record} (inTime : property.isDue inst call.time = false)
      (response : property.pattern.kind = .response) (owing : inst.state = .pending)
      (earliest : Earliest owed pending)
      (matched : property.Matched inst.bindings .terminator call record) :
      Grounds property inst owed call false [pending, record]
  /-- An event decides the episode. -/
  | decided {role : Role} {guard : Guard} {verdict : Bool} {record : Record}
      (inTime : property.isDue inst call.time = false)
      (unclosed : property.scope.closes inst.bindings call = false)
      (decides : property.pattern.Decides role guard verdict)
      (matched : property.Matched inst.bindings role call record) :
      Grounds property inst owed call verdict [record]

/-- A call settles the verdict, and the witness says why. -/
structure Settles (property : Property) (chronicle : Chronicle) (inst next : Instance) (call : Call)
    (verdict : Bool) : Prop where
  /-- Up to now the witness holds nothing but the record of the activator, if there is one. -/
  opens : property.Opens chronicle.opener? inst.witness
  grounds : ∃ owed added, Owed property chronicle inst owed ∧
    Grounds property inst owed call verdict added ∧ next.witness = inst.witness ++ added

/-- The witness certifies what has happened in the latest episode, and every call that does not crash
goes on from there. -/
structure Certified (property : Property) (machine : Machine) (chronicle : Chronicle)
    (inst : Instance) : Prop where
  vouched : inst.witness = [] ∨
    ∃ opening added, Vouched property chronicle inst.witness opening added
  /-- From the start of an episode on, the record of the activator comes first. -/
  begun : inst.state ≠ .off → inst.state ≠ .inactive →
    ∃ opening added, Vouched property chronicle inst.witness opening added
  waiting : inst.state = .inactive → inst.witness = []
  grows : ∀ call, machine.Survives inst call → (machine.next inst call).state ≠ .inactive →
    inst.witness <+: (machine.next inst call).witness
  /-- The records that are added with the verdict are exactly its grounds. -/
  settles : ∀ call verdict, machine.Survives inst call → inst.verdict = .unknown →
    (machine.next inst call).verdict = .ofBool verdict →
      Settles property chronicle inst (machine.next inst call) call verdict
  final : ∀ call, machine.Survives inst call → inst.verdict ≠ .unknown →
    (machine.next inst call).witness = inst.witness

theorem Verdict.ofBool_ne_unknown (verdict : Bool) : ofBool verdict ≠ .unknown := by
  cases verdict <;> decide

theorem Verdict.ofBool_inj {first second : Bool} (same : ofBool first = ofBool second) :
    first = second := by
  cases first <;> cases second <;> first | rfl | cases same

/-- When the monitor has last looked at the clock is no reason for a verdict. -/
theorem Grounds.of_observed {property : Property} {inst : Instance} {latest? : Option Timestamp}
    {owed added : List Record} {call : Call} {verdict : Bool}
    (grounds : Grounds property { inst with latestSeen? := latest? } owed call verdict added) :
    Grounds property inst owed call verdict added := by
  cases grounds with
  | expired due kind => exact .expired due kind
  | overdue due response earliest => exact .overdue due response earliest
  | closed inTime free matched => exact .closed inTime free matched
  | closedOwed inTime response owing earliest matched =>
      exact .closedOwed inTime response owing earliest matched
  | decided inTime unclosed decides matched => exact .decided inTime unclosed decides matched

/-- The verdict is settled in an open episode, for a reason that shows in the witness. -/
structure Justified (property : Property) (inst next : Instance) (call : Call) (verdict : Bool) :
    Prop where
  isOpen : inst.state = .engaged ∨ inst.state = .idle ∨ inst.state = .pending
  grounds : ∀ owed, (∀ oldest, inst.pool.oldest? = some oldest → Earliest owed oldest) →
    ∃ added, Grounds property inst owed call verdict added ∧ next.witness = inst.witness ++ added

namespace Property

variable {property : Property} {inst next : Instance} {call : Call} {verdict : Bool}

/-- A deadline that settles the verdict. -/
theorem overdue_justified (due : property.isDue inst call.time = true)
    (unsettled : inst.verdict = .unknown)
    (settled : (property.overdue inst call.time).verdict = .ofBool verdict) :
    Justified property inst (property.overdue inst call.time) call verdict := by
  rcases isDue_cases due with ⟨kind, engaged, _⟩ | ⟨response, pending, oldest, first, _⟩
  · refine ⟨.inl engaged, fun owed _ => ⟨[], ?_⟩⟩
    have expired : Grounds property inst owed call _ [] := .expired due kind
    unfold overdue at settled ⊢
    rcases kind with absence | existence
    · rw [absence] at settled expired ⊢
      dsimp only at settled ⊢
      split at settled
      · exact absurd (settled.symm.trans unsettled) (Verdict.ofBool_ne_unknown verdict)
      · next once =>
          obtain rfl : true = verdict := Verdict.ofBool_inj settled
          rw [if_neg once]
          exact ⟨expired, rfl⟩
    · rw [existence] at settled expired ⊢
      obtain rfl : false = verdict := Verdict.ofBool_inj settled
      exact ⟨expired, rfl⟩
  · refine ⟨.inr (.inr pending), fun owed earliest => ⟨[oldest], ?_⟩⟩
    unfold overdue at settled ⊢
    rw [response] at settled ⊢
    obtain rfl : false = verdict := Verdict.ofBool_inj settled
    rw [first]
    exact ⟨.overdue due response (earliest oldest first), rfl⟩

/-- An event that settles the verdict. -/
theorem Takes.justified (takes : property.Takes (property.refreshed inst call.time) call next)
    (inTime : property.isDue inst call.time = false) (unsettled : inst.verdict = .unknown)
    (settled : next.verdict = .ofBool verdict) : Justified property inst next call verdict := by
  obtain ⟨state, witness, undecided, owes⟩ := property.refreshed_frame inst call.time
  generalize property.refreshed inst call.time = mid at takes state witness undecided owes
  have silent : mid.verdict ≠ .ofBool verdict := by
    rw [undecided, unsettled]
    exact (Verdict.ofBool_ne_unknown verdict).symm
  have bindings : mid.bindings = inst.bindings := by
    rw [Instance.bindings, witness]
    rfl
  cases takes with
  | nothing => exact absurd settled silent
  | duty duty given detected unclosed recorded reported =>
      rw [state] at duty unclosed
      generalize here : inst.state = present at duty unclosed
      cases duty with
      | closes free =>
          have matched := Matched.of_detected given detected recorded
          rw [bindings] at matched
          obtain rfl := Verdict.ofBool_inj settled
          have freeState : inst.state ≠ .pending := by
            rw [here]
            rcases free with rfl | rfl <;> decide
          refine ⟨by rw [here]; exact free.imp_right .inl, fun owed _ => ?_⟩
          rw [← witness]
          exact ⟨_, .closed inTime freeState matched, rfl⟩
      | closesOwed response =>
          have matched := Matched.of_detected given detected recorded
          rw [bindings] at matched
          obtain rfl : false = verdict := Verdict.ofBool_inj settled
          obtain ⟨oldest, first⟩ := Instance.exists_oldest (reported rfl)
          refine ⟨.inr (.inr here), fun owed earliest => ?_⟩
          have owing := earliest oldest (by rw [← owes response]; exact first)
          refine ⟨_, .closedOwed inTime response here owing matched, ?_⟩
          change mid.witness ++ (mid.pool.oldest?.toList ++ _) = _
          rw [first, witness]
          rfl
      | decides decides =>
          have matched := Matched.of_decisive decides given detected recorded
          have stillOpen := unclosed (by decide) decides.ne_scope.2
          rw [bindings] at matched stillOpen
          obtain rfl := Verdict.ofBool_inj settled
          refine ⟨.inl here, fun owed _ => ?_⟩
          rw [← witness]
          exact ⟨_, .decided inTime stillOpen decides matched, rfl⟩
      | _ => exact absurd settled silent

/-- Records leave the witness only with the episode. -/
theorem Takes.grows {mid : Instance} (takes : property.Takes mid call next)
    (isOpen : next.state ≠ .inactive) : mid.witness <+: next.witness := by
  cases takes with
  | nothing => exact List.prefix_rfl
  | duty duty =>
      generalize mid.state = present at duty
      cases duty with
      | leaves => exact absurd rfl isOpen
      | _ => exact List.prefix_append _ _

/-- Time only adds to the witness. -/
theorem lapse_grows (property : Property) (inst : Instance) (now : Timestamp) :
    inst.witness <+: (property.lapse inst now).witness := by
  unfold lapse overdue
  split
  · repeat' split
    all_goals exact List.prefix_append _ _
  · exact ⟨[], by rw [List.append_nil, (property.refreshed_frame inst now).2.1]⟩

/-- Once an episode is decided, no event does anything to it but end it. -/
theorem Takes.of_decided {mid : Instance} (takes : property.Takes mid call next)
    (decided : mid.state = .safe ∨ mid.state = .accepted ∨ mid.state = .rejected) :
    next = mid ∨ next.state = .inactive := by
  cases takes with
  | nothing => exact .inl rfl
  | duty duty =>
      generalize mid.state = present at duty decided
      cases duty with
      | leaves => exact .inr rfl
      | closes free => rcases free with rfl | rfl <;> exact absurd decided (by decide)
      | _ => exact absurd decided (by decide)

end Property

section Machine

variable {property : Property} {core : Core} {count : Nat} {chronicle : Chronicle} {inst : Instance}
  (made : property.pattern.core property.scope.kind.isReentrant = .ok core)

include made

/-- Inside an episode the witness only grows at its end. -/
theorem Property.next_grows (running : inst.state ≠ .off) {call : Call}
    (survives : (property.assemble core).Survives inst call)
    (isOpen : ((property.assemble core).next inst call).state ≠ .inactive) :
    inst.witness <+: ((property.assemble core).next inst call).witness := by
  obtain ⟨latest?, takes⟩ := next_takes made running survives
  exact (property.lapse_grows { inst with latestSeen? := latest? } call.time).trans
    (takes.grows isOpen)

/-- A monitor that has reached its verdict keeps its witness. -/
theorem Account.final (account : Account property chronicle inst) (running : inst.state ≠ .off)
    (known : inst.verdict ≠ .unknown) {call : Call}
    (survives : (property.assemble core).Survives inst call) :
    ((property.assemble core).next inst call).witness = inst.witness := by
  have terminal : inst.state.isTerminal = true := by
    by_contra undecided
    exact known (account.verdict_of_open running (Bool.eq_false_iff.mpr undecided))
  have calm : inst.state ≠ .engaged ∧ inst.state ≠ .pending := by
    constructor <;>
    · intro here
      rw [here] at terminal
      cases terminal
  obtain ⟨latest?, takes⟩ := Property.next_takes made running survives
  rw [@Property.lapse_of_calm property { inst with latestSeen? := latest? } calm] at takes
  generalize (property.assemble core).next inst call = next at takes
  cases takes with
  | nothing => rfl
  | duty duty => exact absurd (terminal.symm.trans duty.live.2) (by decide)

/-- When a call settles the verdict, the witness says why. -/
theorem Account.settles (account : Account property chronicle inst)
    (collected : Collected property count chronicle inst) (running : inst.state ≠ .off)
    {call : Call} (survives : (property.assemble core).Survives inst call)
    (unsettled : inst.verdict = .unknown) {verdict : Bool}
    (settled : ((property.assemble core).next inst call).verdict = .ofBool verdict) :
    Settles property chronicle inst ((property.assemble core).next inst call) call verdict := by
  have after := account.next made running survives
  obtain ⟨latest?, takes⟩ := Property.next_takes made running survives
  rw [Property.lapse] at takes
  generalize (property.assemble core).next inst call = next at takes settled after
  have justified : Justified property { inst with latestSeen? := latest? } next call verdict := by
    split at takes
    · next due =>
        rcases takes.of_decided (property.overdue_state _ call.time) with rfl | left
        · exact Property.overdue_justified due unsettled settled
        · obtain ⟨_, _, unknown, _⟩ := after.of_waiting left
          exact absurd (settled.symm.trans unknown) (Verdict.ofBool_ne_unknown verdict)
    · next inTime => exact takes.justified (Bool.eq_false_iff.mpr inTime) unsettled settled
  obtain ⟨opening, underway⟩ := account.underway_of_state justified.isOpen
  obtain ⟨arrived, gathered⟩ := collected.gathered justified.isOpen
  obtain ⟨added, grounds, same⟩ := justified.grounds (arrived.map Pool.Entry.record)
    fun oldest first => gathered.earliest collected.ordered first
  refine ⟨by rw [underway.witness]; exact underway.opens, _, added, ⟨?_, gathered.recounts⟩,
    grounds.of_observed, same⟩
  exact gathered.all.map Pool.Entry.record

/-- Whatever has been done with a monitor, its witness is a certificate. -/
theorem Account.certified (account : Account property chronicle inst)
    (collected : Collected property count chronicle inst) :
    Certified property (property.assemble core) chronicle inst where
  vouched := account.vouched
  begun := account.vouched_of_open
  waiting := fun waiting => (account.of_waiting waiting).1
  grows := by
    intro call survives isOpen
    by_cases isOff : inst.state = .off
    · exact ⟨[], by rw [List.append_nil, Machine.next_of_off isOff]⟩
    · exact Property.next_grows made isOff survives isOpen
  settles := by
    intro call verdict survives unsettled settled
    by_cases isOff : inst.state = .off
    · rw [Machine.next_of_off isOff, unsettled] at settled
      exact absurd settled.symm (Verdict.ofBool_ne_unknown verdict)
    · exact account.settles made collected isOff survives unsettled settled
  final := by
    intro call survives known
    by_cases isOff : inst.state = .off
    · rw [Machine.next_of_off isOff]
    · exact account.final made isOff known survives

end Machine

/-- As long as there are numbers for all arrivals, the witness of a monitor is a certificate. -/
theorem Monitor.witness_certifies {property : Property} {machine : Machine}
    (compiled : property.compile = .ok machine) {callbacks : Callbacks}
    {operations : List Operation} (few : operations.length < UInt64.size)
    (usable : ((fresh machine callbacks).after operations).isPoisoned = false) :
    Certified property machine ((fresh machine callbacks).chronicle operations)
      ((fresh machine callbacks).after operations).inst := by
  obtain ⟨_, core, made, rfl⟩ := property.compile_cases compiled
  have reached := (reached_after usable).2
  exact (Account.of_reached made reached).certified made (Collected.of_reached made reached few)

/-- Of three requests that are owed a reply, the witness reports the first of the two oldest ones. -/
theorem Monitor.witness_certifies_answered :
    ∃ machine, Property.answered.compile = .ok machine ∧
      let operations : List Operation :=
        [.launch (.ofNanos 0),
          .call (.message "start" ⟨[]⟩ (.ofNanos 1)),
          .call (.message "request" ⟨[("id", .int 7)]⟩ (.ofNanos 5)),
          .call (.message "request" ⟨[("id", .int 8)]⟩ (.ofNanos 4)),
          .call (.message "request" ⟨[("id", .int 9)]⟩ (.ofNanos 4))]
      let monitor := (fresh machine {}).after operations
      let closed := machine.next monitor.inst (.message "stop" ⟨[]⟩ (.ofNanos 6))
      monitor.isPoisoned = false ∧
        Certified Property.answered machine ((fresh machine {}).chronicle operations)
          monitor.inst ∧
        closed.verdict = .violated ∧
        closed.witness =
          [⟨"start", (.ofNanos 1), ⟨[]⟩, none⟩,
            ⟨"request", (.ofNanos 4), ⟨[("id", .int 8)]⟩, some "request"⟩,
            ⟨"stop", (.ofNanos 6), ⟨[]⟩, none⟩] := by
  have compiled : Property.answered.compile = .ok _ := rfl
  exact ⟨_, compiled, rfl, witness_certifies compiled (by decide) rfl, rfl, rfl⟩

end TemporalMonitor
