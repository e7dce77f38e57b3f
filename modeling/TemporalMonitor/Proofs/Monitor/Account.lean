import TemporalMonitor.Proofs.Monitor.Chronicle

/-!
What the witness and the pool of a monitor say about its latest episode.

While an episode is open and undecided, the witness is just the record of the activator, if the scope
has one, and every pooled record is that of a trigger in the episode. Whatever is added to the witness
later comes from calls of the episode that were matches of an event.
-/

namespace TemporalMonitor

/-- Some of the calls, in their order, are what the records are about. -/
def Recounts (matched : Call → Record → Prop) (calls : List Call) (records : List Record) : Prop :=
  ∃ chosen, chosen.Sublist calls ∧ List.Forall₂ matched chosen records

namespace Recounts

variable {matched : Call → Record → Prop} {calls : List Call} {records : List Record}

theorem nil (matched : Call → Record → Prop) (calls : List Call) : Recounts matched calls [] :=
  ⟨[], List.nil_sublist calls, .nil⟩

/-- Later calls do not matter. -/
theorem extend (recounts : Recounts matched calls records) (call : Call) :
    Recounts matched (calls ++ [call]) records := by
  obtain ⟨chosen, part, each⟩ := recounts
  exact ⟨chosen, part.trans (List.sublist_append_left calls [call]), each⟩

/-- One more call may be a match. -/
theorem append (recounts : Recounts matched calls records) {call : Call} {record : Record}
    (fits : matched call record) : Recounts matched (calls ++ [call]) (records ++ [record]) := by
  obtain ⟨chosen, part, each⟩ := recounts
  exact ⟨chosen ++ [call], part.append (List.Sublist.refl [call]),
    List.rel_append each (.cons fits .nil)⟩

theorem single {call : Call} {record : Record} (member : call ∈ calls)
    (fits : matched call record) : Recounts matched calls [record] :=
  ⟨[call], List.singleton_sublist.mpr member, .cons fits .nil⟩

end Recounts

/-- A record that a reaction leaves in the pool was there before, or is the one that is stored. -/
theorem Instance.mem_of_poolAfter {inst : Instance} {reaction : Reaction} {record other : Record}
    {discharged : Record → Bool}
    (member : other ∈ (inst.poolAfter reaction record discharged).records) :
    other ∈ inst.pool.records ∨
      other = record ∧ (reaction.pool = .push ∨ reaction.pool = .replace) := by
  have left (kept : other ∈ (inst.poolLeft reaction.guard discharged).records) :
      other ∈ inst.pool.records := by
    unfold poolLeft at kept
    split at kept
    · exact (Pool.mem_records_without.mp kept).1
    · exact kept
  unfold poolAfter Pool.updated at member
  cases action : reaction.pool with
  | keep =>
      rw [action] at member
      exact .inl (left member)
  | push =>
      rw [action] at member
      rcases Pool.mem_of_stored member with new | old
      · exact .inr ⟨new, .inl rfl⟩
      · exact .inl (left old)
  | replace =>
      rw [action] at member
      dsimp only at member
      split at member
      · exact .inl (left member)
      · rcases Pool.mem_of_stored member with new | old
        · exact .inr ⟨new, .inr rfl⟩
        · exact absurd old List.not_mem_nil
  | clear =>
      rw [action] at member
      exact absurd member List.not_mem_nil

/-- The call opened an episode, or none was needed, and these are the records to begin with. -/
inductive Property.Opens (property : Property) : Option Call → List Record → Prop where
  | launched (given : property.scope.activator? = none) : Opens property none []
  | activated {activator : Event} {call : Call} {record : Record}
      (given : property.scope.activator? = some activator)
      (occurs : activator.occurs Bindings.empty call = true)
      (recorded : call.record? activator.alias? = some record) : Opens property (some call) [record]

/-- The record is that of a call that is taken for the event with this role: the event occurs, or it is
one that is decisive already if it may occur. -/
def Property.Matched (property : Property) (bindings : Bindings) (role : Role) (call : Call)
    (record : Record) : Prop :=
  ∃ event, property.event? role = some event ∧ call.record? event.alias? = some record ∧
    (event.occurs bindings call = true ∨
      property.pattern.Decides role .undecided false ∧ event.mayOccur bindings call = true)

section Matched

variable {property : Property} {inst : Instance} {role : Role} {event : Event} {call : Call}
  {record : Record}

/-- A call that is detected as an event is a match of it. -/
theorem Property.Matched.of_detected (given : property.event? role = some event)
    (detected : inst.detects event .message call = true)
    (recorded : call.record? event.alias? = some record) :
    property.Matched inst.bindings role call record :=
  ⟨event, given, recorded, .inl detected⟩

/-- So is a call that is detected as a decisive event. -/
theorem Property.Matched.of_decisive {guard : Guard} {verdict : Bool}
    (decides : property.pattern.Decides role guard verdict)
    (given : property.event? role = some event) (detected : inst.detects event guard call = true)
    (recorded : call.record? event.alias? = some record) :
    property.Matched inst.bindings role call record := by
  generalize same : property.pattern = pattern at decides
  cases decides with
  | broken => exact .of_detected given detected recorded
  | found => exact .of_detected given detected recorded
  | granted => exact .of_detected given detected recorded
  | refused => exact .of_detected given detected recorded
  | unmatched read =>
      refine ⟨event, given, recorded, .inr ⟨?_, detected⟩⟩
      rw [same]
      exact .unmatched read

/-- The events that decide are those of the pattern, not those of the scope. -/
theorem Pattern.Decides.ne_scope {pattern : Pattern} {guard : Guard} {verdict : Bool}
    (decides : pattern.Decides role guard verdict) : role ≠ .activator ∧ role ≠ .terminator := by
  cases decides <;> decide

end Matched

/-- The call is a match of an event of the episode, that is, of any but the activator. -/
def Property.Inside (property : Property) (bindings : Bindings) (call : Call) (record : Record) :
    Prop :=
  ∃ role, role ≠ .activator ∧ property.Matched bindings role call record

/-- The witness consists of the records with which the episode began, and of later matches. -/
structure Vouched (property : Property) (chronicle : Chronicle) (witness opening added : List Record) :
    Prop where
  opens : property.Opens chronicle.opener? opening
  split : witness = opening ++ added
  recounts : Recounts (property.Inside (.ofRecords opening)) chronicle.calls added

theorem Vouched.extend {property : Property} {chronicle : Chronicle}
    {witness opening added : List Record} (vouched : Vouched property chronicle witness opening added)
    (call : Call) :
    Vouched property { chronicle with calls := chronicle.calls ++ [call] } witness opening added :=
  ⟨vouched.opens, vouched.split, vouched.recounts.extend call⟩

/-- An episode is open and may still be decided. -/
structure Underway (property : Property) (chronicle : Chronicle) (inst : Instance)
    (opening : List Record) : Prop where
  state : inst.state = .engaged ∨ inst.state = .idle ∨ inst.state = .pending
  opens : property.Opens chronicle.opener? opening
  witness : inst.witness = opening
  started : inst.episodeStart?.isSome = true
  verdict : inst.verdict = .unknown
  pooled : ∀ record ∈ inst.pool.records, ∃ call ∈ chronicle.calls,
    property.Matched (.ofRecords opening) .trigger call record

/-- What the state says about the witness. -/
inductive Account (property : Property) (chronicle : Chronicle) (inst : Instance) : Prop where
  | waiting (state : inst.state = .inactive) (witness : inst.witness = [])
      (closed : inst.episodeStart? = none) (verdict : inst.verdict = .unknown)
      (vacant : inst.pool.records = [])
  | underway {opening : List Record} (underway : Underway property chronicle inst opening)
  | safe {opening added : List Record} (state : inst.state = .safe)
      (vouched : Vouched property chronicle inst.witness opening added)
      (started : inst.episodeStart?.isSome = true) (verdict : inst.verdict = .unknown)
  | settled {opening added : List Record} (verdict : Bool) (state : inst.state = .ofVerdict verdict)
      (vouched : Vouched property chronicle inst.witness opening added)
      (known : inst.verdict = .ofBool verdict)
  | stopped (state : inst.state = .off)
      (vouched : inst.witness = [] ∨
        ∃ opening added, Vouched property chronicle inst.witness opening added)

namespace Underway

variable {property : Property} {chronicle : Chronicle} {inst : Instance} {opening : List Record}

theorem vouched (underway : Underway property chronicle inst opening) :
    Vouched property chronicle inst.witness opening [] where
  opens := underway.opens
  split := by rw [underway.witness, List.append_nil]
  recounts := .nil _ _

theorem bindings (underway : Underway property chronicle inst opening) :
    inst.bindings = .ofRecords opening := by
  rw [Instance.bindings, underway.witness]

/-- A pooled record is that of a call of the episode. -/
theorem recounts (underway : Underway property chronicle inst opening) {record : Record}
    (member : record ∈ inst.pool.records) :
    Recounts (property.Inside (.ofRecords opening)) chronicle.calls [record] := by
  obtain ⟨call, listed, matched⟩ := underway.pooled record member
  exact .single listed ⟨.trigger, by decide, matched⟩

/-- Records that are added when the time of a deadline has passed. -/
theorem lapsed (underway : Underway property chronicle inst opening) {added : List Record}
    (recounts : Recounts (property.Inside (.ofRecords opening)) chronicle.calls added)
    (verdict? : Option Bool) (next : State) (now : Timestamp) :
    Vouched property chronicle (Machine.lapsed inst added verdict? next now).witness opening added
    where
  opens := underway.opens
  split := by
    change inst.witness ++ added = _
    rw [underway.witness]
  recounts := recounts

/-- A call that is detected as an event is a match of it. -/
theorem matched (underway : Underway property chronicle inst opening) {role : Role} {event : Event}
    {call : Call} {record : Record} (given : property.event? role = some event)
    (detected : inst.detects event .message call = true)
    (recorded : call.record? event.alias? = some record) :
    property.Matched (.ofRecords opening) role call record := by
  rw [← underway.bindings]
  exact .of_detected given detected recorded

/-- A call that is detected as a decisive event is a match inside the episode. -/
theorem decisive (underway : Underway property chronicle inst opening) {role : Role} {guard : Guard}
    {verdict : Bool} (decides : property.pattern.Decides role guard verdict) {event : Event}
    {call : Call} {record : Record} (given : property.event? role = some event)
    (detected : inst.detects event guard call = true)
    (recorded : call.record? event.alias? = some record) :
    property.Inside (.ofRecords opening) call record := by
  rw [← underway.bindings]
  exact ⟨role, decides.ne_scope.1, .of_decisive decides given detected recorded⟩

theorem extend (underway : Underway property chronicle inst opening) (call : Call) :
    Underway property { chronicle with calls := chronicle.calls ++ [call] } inst opening :=
  { underway with
    pooled := fun record member => by
      obtain ⟨source, listed, matched⟩ := underway.pooled record member
      exact ⟨source, List.mem_append_left [call] listed, matched⟩ }

/-- Records that are added by a call. -/
theorem recorded (underway : Underway property chronicle inst opening) {call : Call}
    {added : List Record}
    (recounts : Recounts (property.Inside (.ofRecords opening)) (chronicle.calls ++ [call]) added) :
    Vouched property { chronicle with calls := chronicle.calls ++ [call] } (inst.witness ++ added)
      opening added where
  opens := underway.opens
  split := by rw [underway.witness]
  recounts := recounts

/-- A call may work on the pool. -/
theorem pooling (underway : Underway property chronicle inst opening) {call : Call} {guard : Guard}
    {action : PoolAction} {next : Next} {record : Record} {discharged : Record → Bool}
    (goesOn : (inst.reacted (.pooling guard action next) record discharged).state = .engaged ∨
      (inst.reacted (.pooling guard action next) record discharged).state = .idle ∨
      (inst.reacted (.pooling guard action next) record discharged).state = .pending)
    (stores : action = .push ∨ action = .replace →
      property.Matched (.ofRecords opening) .trigger call record) :
    Underway property { chronicle with calls := chronicle.calls ++ [call] }
      (inst.reacted (.pooling guard action next) record discharged) opening where
  state := goesOn
  opens := underway.opens
  witness := by
    change inst.witness ++ [] = opening
    rw [List.append_nil, underway.witness]
  started := underway.started
  verdict := underway.verdict
  pooled := by
    intro pooled member
    rcases Instance.mem_of_poolAfter member with old | ⟨rfl, new⟩
    · exact (underway.extend call).pooled pooled old
    · exact ⟨call, List.mem_append_right _ List.mem_cons_self, stores new⟩

/-- Records may leave the pool. -/
theorem shrunk (underway : Underway property chronicle inst opening) {pool : Pool}
    (fewer : ∀ record ∈ pool.records, record ∈ inst.pool.records) :
    Underway property chronicle { inst with pool := pool } opening :=
  { underway with pooled := fun record member => underway.pooled record (fewer record member) }

end Underway

namespace Account

variable {property : Property} {chronicle : Chronicle} {inst : Instance}

/-- An open state in which the episode may still be decided. -/
theorem underway_of_state (account : Account property chronicle inst)
    (isOpen : inst.state = .engaged ∨ inst.state = .idle ∨ inst.state = .pending) :
    ∃ opening, Underway property chronicle inst opening := by
  have other {state : State} (is : inst.state = state)
      (closed : state ≠ .engaged ∧ state ≠ .idle ∧ state ≠ .pending) : False := by
    rw [is] at isOpen
    rcases isOpen with engaged | idle | pending
    · exact closed.1 engaged
    · exact closed.2.1 idle
    · exact closed.2.2 pending
  cases account with
  | waiting state => exact (other state (by decide)).elim
  | underway underway => exact ⟨_, underway⟩
  | safe state => exact (other state (by decide)).elim
  | settled verdict state => exact (other state (by cases verdict <;> decide)).elim
  | stopped state => exact (other state (by decide)).elim

/-- Looking at the clock changes nothing. -/
theorem observed (account : Account property chronicle inst) (latest? : Option Timestamp) :
    Account property chronicle { inst with latestSeen? := latest? } := by
  cases account with
  | waiting state witness closed verdict vacant =>
      exact .waiting state witness closed verdict vacant
  | underway underway => exact .underway { underway with }
  | safe state vouched started verdict => exact .safe state vouched started verdict
  | settled verdict state vouched known => exact .settled verdict state vouched known
  | stopped state vouched => exact .stopped state vouched

/-- A deadline that has passed reports at most a pooled record. -/
theorem overdue (account : Account property chronicle inst) {now : Timestamp}
    (due : property.isDue inst now = true) :
    Account property chronicle (property.overdue inst now) := by
  unfold Property.overdue
  rcases Property.isDue_cases due with ⟨kind, engaged, _⟩ | ⟨response, pending, oldest, first, _⟩
  · obtain ⟨opening, underway⟩ := account.underway_of_state (.inl engaged)
    rcases kind with absence | existence
    · rw [absence]
      dsimp only
      split
      · exact .safe rfl (underway.lapsed (.nil _ _) none .safe now) underway.started
          underway.verdict
      · exact .settled true rfl
          (underway.lapsed (.nil _ _) (some true) .accepted now) rfl
    · rw [existence]
      exact .settled false rfl
        (underway.lapsed (.nil _ _) (some false) .rejected now) rfl
  · obtain ⟨opening, underway⟩ := account.underway_of_state (.inr (.inr pending))
    rw [response, first]
    have member : oldest ∈ inst.pool.records := by
      rw [Pool.oldest?] at first
      exact List.mem_of_head? first
    exact .settled false rfl
      (underway.lapsed (underway.recounts member) (some false) .rejected now) rfl

/-- Time may pass. -/
theorem lapse (account : Account property chronicle inst) (now : Timestamp) :
    Account property chronicle (property.lapse inst now) := by
  unfold Property.lapse
  split
  · next due => exact account.overdue due
  · rcases property.refreshed_cases inst now with same | ⟨_, _, span, _, engaged, evicted⟩
    · rw [same]
      exact account
    · rw [evicted]
      obtain ⟨opening, underway⟩ := account.underway_of_state (.inl engaged)
      refine .underway (underway.shrunk fun record member => ?_)
      exact ((List.dropWhile_sublist _).map Pool.Entry.record).subset member

/-- One more call belongs to the episode. -/
theorem extend (account : Account property chronicle inst) (call : Call) :
    Account property { chronicle with calls := chronicle.calls ++ [call] } inst := by
  cases account with
  | waiting state witness closed verdict vacant =>
      exact .waiting state witness closed verdict vacant
  | underway underway => exact .underway (underway.extend call)
  | safe state vouched started verdict => exact .safe state (vouched.extend call) started verdict
  | settled verdict state vouched known => exact .settled verdict state (vouched.extend call) known
  | stopped state vouched =>
      refine .stopped state (vouched.imp_right ?_)
      rintro ⟨opening, added, vouched⟩
      exact ⟨opening, added, vouched.extend call⟩

/-- A witness is empty or vouched for. -/
theorem vouched (account : Account property chronicle inst) :
    inst.witness = [] ∨ ∃ opening added, Vouched property chronicle inst.witness opening added := by
  cases account with
  | waiting _ witness => exact .inl witness
  | underway underway => exact .inr ⟨_, _, underway.vouched⟩
  | safe _ vouched => exact .inr ⟨_, _, vouched⟩
  | settled _ _ vouched => exact .inr ⟨_, _, vouched⟩
  | stopped _ vouched => exact vouched

/-- From the start of an episode on, the witness is vouched for. -/
theorem vouched_of_open (account : Account property chronicle inst) (running : inst.state ≠ .off)
    (isOpen : inst.state ≠ .inactive) :
    ∃ opening added, Vouched property chronicle inst.witness opening added := by
  cases account with
  | waiting state => exact absurd state isOpen
  | underway underway => exact ⟨_, _, underway.vouched⟩
  | safe _ vouched => exact ⟨_, _, vouched⟩
  | settled _ _ vouched => exact ⟨_, _, vouched⟩
  | stopped state => exact absurd state running

/-- Nothing is known before the verdict is settled. -/
theorem verdict_of_open (account : Account property chronicle inst) (running : inst.state ≠ .off)
    (unsettled : inst.state.isTerminal = false) : inst.verdict = .unknown := by
  cases account with
  | waiting _ _ _ verdict => exact verdict
  | underway underway => exact underway.verdict
  | safe _ _ _ verdict => exact verdict
  | settled verdict state =>
      rw [state] at unsettled
      cases verdict <;> cases unsettled
  | stopped state => exact absurd state running

/-- An episode is open from its start until it is settled. -/
theorem started (account : Account property chronicle inst) (running : inst.state ≠ .off)
    (unsettled : inst.state.isTerminal = false) (isOpen : inst.state ≠ .inactive) :
    inst.episodeStart?.isSome = true := by
  cases account with
  | waiting state => exact absurd state isOpen
  | underway underway => exact underway.started
  | safe _ _ started => exact started
  | settled verdict state =>
      rw [state] at unsettled
      cases verdict <;> cases unsettled
  | stopped state => exact absurd state running

theorem of_waiting (account : Account property chronicle inst) (waiting : inst.state = .inactive) :
    inst.witness = [] ∧ inst.episodeStart? = none ∧ inst.verdict = .unknown ∧
      inst.pool.records = [] := by
  have other {state : State} (is : inst.state = state) (different : state ≠ .inactive) : False :=
    different (is.symm.trans waiting)
  cases account with
  | waiting _ witness closed verdict vacant => exact ⟨witness, closed, verdict, vacant⟩
  | underway underway =>
      rcases underway.state with state | state | state <;> exact (other state (by decide)).elim
  | safe state => exact (other state (by decide)).elim
  | settled verdict state => exact (other state (by cases verdict <;> decide)).elim
  | stopped state => exact (other state (by decide)).elim

section Duties

variable {role : Role} {reaction : Reaction} {event : Event} {call : Call} {record : Record}
  {discharged : Record → Bool}

/-- The activator opens an episode. -/
theorem opened (account : Account property chronicle inst) (waiting : inst.state = .inactive)
    (given : property.scope.activator? = some event)
    (detected : inst.detects event .message call = true)
    (recorded : call.record? event.alias? = some record) :
    Account property { opener? := some call, calls := [] }
      (inst.reacted (.enter property.pattern.kind.entry) record discharged) := by
  obtain ⟨witness, _, verdict, vacant⟩ := account.of_waiting waiting
  have occurs : event.occurs Bindings.empty call = true := by
    have unbound : inst.bindings = Bindings.empty := by
      rw [Instance.bindings, witness]
      rfl
    rw [← unbound]
    exact detected
  have underway : Underway property { opener? := some call, calls := [] }
      (inst.reacted (.enter property.pattern.kind.entry) record discharged) [record] := {
    state := by
      change property.pattern.kind.entry = .engaged ∨ property.pattern.kind.entry = .idle ∨ _
      cases property.pattern.kind <;> simp [PatternKind.entry]
    opens := .activated given occurs recorded
    witness := by
      change inst.witness ++ [record] = [record]
      rw [witness, List.nil_append]
    started := rfl
    verdict := verdict
    pooled := by
      change ∀ pooled ∈ inst.pool.records, _
      rw [vacant]
      exact fun _ member => absurd member List.not_mem_nil }
  exact .underway underway

/-- In an open episode every duty keeps the account. -/
theorem carriesOut (account : Account property chronicle inst)
    (duty : Duty property role inst.state reaction) (isOpen : inst.state ≠ .inactive)
    (given : property.event? role = some event)
    (detected : inst.detects event reaction.guard call = true)
    (recorded : call.record? event.alias? = some record)
    (reported : reaction.witness = .recordBoth → inst.pool.records ≠ []) :
    Account property { chronicle with calls := chronicle.calls ++ [call] }
      (inst.reacted reaction record discharged) := by
  generalize here : inst.state = state at duty
  cases duty with
  | opens => exact absurd here isOpen
  | leaves again active =>
      have verdict : inst.verdict = .unknown := by
        rcases active with rfl | rfl | rfl <;>
          exact account.verdict_of_open (by rw [here]; decide) (by rw [here]; rfl)
      exact .waiting rfl rfl rfl verdict rfl
  | closes active =>
      obtain ⟨opening, underway⟩ := account.underway_of_state (by
        rcases active with rfl | rfl
        · exact .inl here
        · exact .inr (.inl here))
      have inside := underway.matched given detected recorded
      exact .settled _ rfl (underway.recorded
        (Recounts.append (.nil _ _) ⟨.terminator, by decide, inside⟩)) rfl
  | closesOwed response =>
      obtain ⟨opening, underway⟩ := account.underway_of_state (.inr (.inr here))
      have inside := underway.matched given detected recorded
      obtain ⟨oldest, first⟩ := Instance.exists_oldest (reported rfl)
      have owed := (underway.recounts (List.mem_of_head? first)).append
        ⟨.terminator, by decide, inside⟩
      have vouched := underway.recorded owed
      have both : inst.pool.oldest?.toList ++ [record] = [oldest] ++ [record] := by
        rw [first]
        rfl
      rw [← both] at vouched
      exact .settled false rfl vouched rfl
  | decides decides =>
      obtain ⟨opening, underway⟩ := account.underway_of_state (.inl here)
      have inside := underway.decisive decides given detected recorded
      exact .settled _ rfl (underway.recorded (Recounts.append (.nil _ _) inside)) rfl
  | secures decides again =>
      obtain ⟨opening, underway⟩ := account.underway_of_state (.inl here)
      have inside := underway.decisive decides given detected recorded
      exact .safe rfl (underway.recorded (Recounts.append (.nil _ _) inside)) underway.started
        underway.verdict
  | stores requirement stores =>
      obtain ⟨opening, underway⟩ := account.underway_of_state (.inl here)
      exact .underway (underway.pooling (.inl here) fun _ =>
        underway.matched given detected recorded)
  | allows requirement =>
      obtain ⟨opening, underway⟩ := account.underway_of_state (.inl here)
      exact .underway (underway.pooling (.inl here) (by simp))
  | owes response =>
      obtain ⟨opening, underway⟩ := account.underway_of_state (.inr (.inl here))
      exact .underway (underway.pooling (.inr (.inr rfl)) fun _ =>
        underway.matched given detected recorded)
  | owesMore response =>
      obtain ⟨opening, underway⟩ := account.underway_of_state (.inr (.inr here))
      exact .underway (underway.pooling (.inr (.inr here)) fun _ =>
        underway.matched given detected recorded)
  | answers response =>
      obtain ⟨opening, underway⟩ := account.underway_of_state (.inr (.inr here))
      refine .underway (underway.pooling (.inr ?_) (by simp))
      change (if (inst.pool.without discharged).isEmpty then State.idle else State.pending) = .idle ∨
        (if (inst.pool.without discharged).isEmpty then State.idle else State.pending) = .pending
      split
      · exact .inl rfl
      · exact .inr rfl

/-- Whatever a call makes of the monitor, the account stands. -/
theorem takes (account : Account property chronicle inst) {next : Instance}
    (takes : property.Takes inst call next) {before : Instance}
    (same : before.episodeStart? = inst.episodeStart?) :
    Account property (chronicle.extend call before next) next := by
  cases takes with
  | nothing =>
      cases start : inst.episodeStart? with
      | none =>
          rw [chronicle.extend_of_closed call (same.trans start) start]
          exact account
      | some time =>
          rw [chronicle.extend_of_open call (by rw [same, start]; rfl)]
          exact account.extend call
  | duty duty given detected unclosed recorded reported =>
      by_cases waiting : inst.state = .inactive
      · obtain ⟨_, closed, _⟩ := account.of_waiting waiting
        rw [waiting] at duty
        obtain ⟨rfl, rfl⟩ := duty.activates
        rw [chronicle.extend_of_opened call (same.trans closed) rfl]
        exact account.opened waiting given detected recorded
      · have started := account.started duty.live.1 duty.live.2 waiting
        rw [chronicle.extend_of_open call (by rw [same]; exact started)]
        exact account.carriesOut duty waiting given detected recorded reported

end Duties

section Machine

variable {core : Core} (made : property.pattern.core property.scope.kind.isReentrant = .ok core)

include made

/-- Every call keeps the account. -/
theorem next (account : Account property chronicle inst) (running : inst.state ≠ .off) {call : Call}
    (survives : (property.assemble core).Survives inst call) :
    Account property (chronicle.extend call inst ((property.assemble core).next inst call))
      ((property.assemble core).next inst call) := by
  obtain ⟨latest?, takes⟩ := Property.next_takes made running survives
  refine ((account.observed latest?).lapse call.time).takes takes ?_
  rw [property.lapse_episodeStart]

/-- A launch begins a new account. -/
theorem launched (time : Timestamp) :
    Account property {} ((property.assemble core).launched time) := by
  have activated := property.scope.hasActivator_eq
  have initial : ((property.assemble core).launched time).state =
      if property.scope.kind.hasActivator then .inactive else core.entry := rfl
  have start : ((property.assemble core).launched time).episodeStart? =
      if !property.scope.kind.hasActivator then some time else none := rfl
  cases given : property.scope.activator? with
  | some activator =>
      rw [given] at activated
      rw [activated] at initial start
      exact .waiting initial rfl start rfl rfl
  | none =>
      rw [given] at activated
      rw [activated] at initial start
      have underway : Underway property {} ((property.assemble core).launched time) [] := {
        state := by
          rw [initial, (Property.core_states made).1]
          cases property.pattern.kind <;> simp [PatternKind.entry]
        opens := .launched given
        witness := rfl
        started := by rw [start]; rfl
        verdict := rfl
        pooled := fun _ member => absurd member List.not_mem_nil }
      exact .underway underway

/-- Whatever has been done with a monitor, the account stands. -/
theorem of_reached {count : Nat} (reached : (property.assemble core).Reached count inst chronicle) :
    Account property chronicle inst := by
  induction reached with
  | fresh => exact .stopped rfl (.inl rfl)
  | launch _ _ time => exact launched made time
  | reset => exact .stopped rfl (.inl rfl)
  | shutdown _ running time account => exact .stopped rfl account.vouched
  | call _ running survives account => exact account.next made running survives
  | ignored _ account => exact account

end Machine

end Account

end TemporalMonitor
