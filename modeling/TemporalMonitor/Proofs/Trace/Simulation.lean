import Mathlib.Data.List.Induction
import TemporalMonitor.Proofs.Monitor.Soundness
import TemporalMonitor.Proofs.Property.Scoped

/-!
Machines follow the episodes of a run.

A pattern says which episodes violate it and which settle it, and how an open episode shows in what
the monitor remembers, before and after the time of a call has passed. If every call of an episode
keeps that up, then the verdict after a run is the one that the episodes of the run call for. How
episodes open and close is the same for all patterns, and is dealt with here.
-/

namespace TemporalMonitor

/-- The verdict says whether the property is violated, and otherwise whether it is satisfied. -/
def Verdict.Tells (verdict : Verdict) (violated satisfied : Prop) : Prop :=
  (verdict = .violated ↔ violated) ∧ (verdict = .satisfied ↔ ¬ violated ∧ satisfied) ∧
    (verdict = .unknown ↔ ¬ violated ∧ ¬ satisfied)

namespace Scope

variable {scope : Scope}

theorem activator_of_reentrant (reentrant : scope.kind.isReentrant = true) :
    scope.activator? ≠ none := by
  cases scope with
  | between activator terminator => nofun
  | global => cases reentrant
  | after activator => cases reentrant
  | upTo terminator => cases reentrant

/-- A scope that opens only once and can be closed is open from the launch on. -/
theorem activator_of_closes (single : scope.kind.isReentrant = false) {bindings : Bindings}
    {call : Call} (closes : scope.closes bindings call = true) : scope.activator? = none := by
  cases scope with
  | between activator terminator => cases single
  | global => rfl
  | after activator => simp [Scope.closes, Scope.terminator?] at closes
  | upTo terminator => rfl

@[simp] theorem closes_timer (bindings : Bindings) (time : Timestamp) :
    scope.closes bindings (.timer time) = false := by
  unfold closes
  cases scope.terminator? <;> rfl

end Scope

namespace History

variable {scope : Scope} {history : History} {episode : Episode} {call : Call}

theorem record_of_closes (opened : history.open? = some episode)
    (closes : scope.closes episode.bindings call = true) :
    history.record scope call = ⟨history.closed ++ [episode.extend call], none⟩ := by
  rw [record, opened]
  dsimp only
  rw [if_pos closes]

theorem record_of_open (opened : history.open? = some episode)
    (goesOn : scope.closes episode.bindings call = false) :
    history.record scope call = ⟨history.closed, some (episode.extend call)⟩ := by
  rw [record, opened]
  dsimp only
  rw [goesOn, if_neg (by decide)]

theorem record_of_none (none_open : history.open? = none) :
    history.record scope call = ⟨history.closed, scope.opened? call⟩ := by
  rw [record, none_open]

/-- A call belongs to the open episode, whether it closes it or not. -/
theorem episodes_record (opened : history.open? = some episode) :
    (history.record scope call).episodes = history.closed ++ [episode.extend call] := by
  cases closes : scope.closes episode.bindings call with
  | true =>
      rw [record_of_closes opened closes, episodes]
      exact List.append_nil _
  | false =>
      rw [record_of_open opened closes]
      rfl

/-- What holds of an episode and stays when it goes on, holds of one after the next call. -/
theorem exists_record {condition : Episode → Prop}
    (grows : ∀ episode, condition episode → condition (episode.extend call))
    (found : ∃ episode ∈ history.episodes, condition episode) :
    ∃ episode ∈ (history.record scope call).episodes, condition episode := by
  obtain ⟨found, member, holds⟩ := found
  rw [episodes] at member
  cases opened : history.open? with
  | none =>
      rw [opened, Option.toList_none, List.append_nil] at member
      rw [record_of_none opened]
      exact ⟨found, List.mem_append_left _ member, holds⟩
  | some last =>
      rw [opened, Option.toList_some] at member
      rw [episodes_record opened]
      rcases List.mem_append.mp member with old | new
      · exact ⟨found, List.mem_append_left _ old, holds⟩
      · obtain rfl := List.mem_singleton.mp new
        exact ⟨found.extend call, by simp, grows found holds⟩

end History

/-- No call of the episode closes it, and the names of the scope are bound in it. -/
structure Ongoing (property : Property) (episode : Episode) : Prop where
  unclosed : ∀ call ∈ episode.calls, property.scope.closes episode.bindings call = false
  bound : ∀ name ∈ property.scopeNames, episode.bindings.contains name = true

namespace Ongoing

variable {property : Property} {episode : Episode} {call : Call}

theorem extend (ongoing : Ongoing property episode)
    (goesOn : property.scope.closes episode.bindings call = false) :
    Ongoing property (episode.extend call) where
  unclosed := by
    intro other member
    rcases List.mem_append.mp member with old | new
    · exact ongoing.unclosed other old
    · obtain rfl := List.mem_singleton.mp new
      exact goesOn
  bound := ongoing.bound

theorem not_closed (ongoing : Ongoing property episode) : ¬ episode.Closed property.scope := by
  rintro ⟨call, member, closes⟩
  rw [ongoing.unclosed call member] at closes
  cases closes

/-- The activator of an episode is bound in it. -/
theorem of_opened (opened : property.scope.opened? call = some episode) :
    episode.calls = [] ∧ Ongoing property episode := by
  unfold Scope.opened? at opened
  cases given : property.scope.activator? with
  | none => simp [given] at opened
  | some activator =>
      simp only [given] at opened
      split at opened
      · obtain ⟨record, recorded, rfl⟩ := Option.map_eq_some_iff.mp opened
        refine ⟨rfl, fun _ member => absurd member List.not_mem_nil, ?_⟩
        rw [Property.scopeNames, given, Option.bind_some, ← Call.alias_of_record recorded]
        intro name member
        rw [Option.mem_toList] at member
        simp [Bindings.withRecord, member, Bindings.contains, Bindings.get?, Bindings.bind]
      · cases opened

/-- An episode that is open from the launch on needs no activator. -/
theorem of_launched {start : Timestamp}
    (opened : (History.launched property.scope start).open? = some episode) :
    episode.calls = [] ∧ Ongoing property episode := by
  unfold History.launched at opened
  cases given : property.scope.activator? with
  | some activator => simp [given] at opened
  | none =>
      simp only [given] at opened
      obtain rfl := Option.some.inj opened
      refine ⟨rfl, fun _ member => absurd member List.not_mem_nil, ?_⟩
      rw [Property.scopeNames, given]
      exact fun _ member => absurd member List.not_mem_nil

/-- The open episode of a run is ongoing, and consists of the last calls. -/
theorem of_history {start : Timestamp} {calls : List Call}
    (opened : (property.scope.history start calls).open? = some episode) :
    Ongoing property episode ∧ episode.calls <:+ calls := by
  induction calls using List.reverseRecOn generalizing episode with
  | nil =>
      obtain ⟨begun, ongoing⟩ := of_launched opened
      rw [begun]
      exact ⟨ongoing, List.suffix_refl _⟩
  | append_singleton calls call ih =>
      rw [Scope.history_append] at opened
      cases before : (property.scope.history start calls).open? with
      | none =>
          rw [History.record_of_none before] at opened
          obtain ⟨begun, ongoing⟩ := of_opened opened
          rw [begun]
          exact ⟨ongoing, List.nil_suffix⟩
      | some earlier =>
          obtain ⟨ongoing, front, same⟩ := ih before
          cases closes : property.scope.closes earlier.bindings call with
          | true =>
              rw [History.record_of_closes before closes] at opened
              cases opened
          | false =>
              rw [History.record_of_open before closes] at opened
              obtain rfl := Option.some.inj opened
              refine ⟨ongoing.extend closes, front, ?_⟩
              rw [Episode.extend_calls, ← List.append_assoc, same]

end Ongoing

/-- The episodes of a run consist of its calls. -/
theorem Property.calls_of_episode {property : Property} {start : Timestamp} {calls : List Call}
    {episode : Episode} (member : episode ∈ property.scope.episodes start calls) :
    ∀ call ∈ episode.calls, call ∈ calls := by
  have vacant {episode : Episode} {calls : List Call} (begun : episode.calls = []) :
      ∀ call ∈ episode.calls, call ∈ calls := by
    rw [begun]
    exact fun _ member => absurd member List.not_mem_nil
  induction calls using List.reverseRecOn generalizing episode with
  | nil => exact vacant (Ongoing.of_launched (Option.mem_toList.mp member)).1
  | append_singleton calls call ih =>
      have longer {episode : Episode} (old : episode ∈ property.scope.episodes start calls) :
          ∀ other ∈ episode.calls, other ∈ calls ++ [call] :=
        fun other among => List.mem_append_left _ (ih old other among)
      rw [Scope.episodes, Scope.history_append] at member
      cases opened : (property.scope.history start calls).open? with
      | none =>
          rw [History.record_of_none opened] at member
          rcases List.mem_append.mp member with old | new
          · exact longer (List.mem_append_left _ old)
          · exact vacant (Ongoing.of_opened (Option.mem_toList.mp new)).1
      | some last =>
          rw [History.episodes_record opened] at member
          rcases List.mem_append.mp member with old | new
          · exact longer (List.mem_append_left _ old)
          · have present : last ∈ property.scope.episodes start calls :=
              List.mem_append_right _ (Option.mem_toList.mpr opened)
            obtain rfl := List.mem_singleton.mp new
            rw [Episode.extend_calls, List.forall_mem_append]
            exact ⟨longer present, fun other among => List.mem_append_right _ among⟩

theorem Property.times_of_episode {property : Property} {start : Timestamp} {calls : List Call}
    {episode : Episode} (member : episode ∈ property.scope.episodes start calls) :
    ∀ time ∈ episode.calls.map Call.time, time ∈ calls.map Call.time := by
  intro time among
  obtain ⟨call, listed, rfl⟩ := List.mem_map.mp among
  exact List.mem_map_of_mem (calls_of_episode member call listed)

section Arrivals

variable {machine : Machine} (inst : Instance)

/-- A message takes up at most one number of arrival. -/
theorem Instance.nextArrival_offered_le (topic : String) (message : Message) (time : Timestamp)
    (rules : List Rule) :
    (inst.offered topic message time rules).pool.nextArrival.toNat ≤
      inst.pool.nextArrival.toNat + 1 := by
  unfold offered
  split
  · exact Nat.le_succ _
  · exact inst.nextArrival_poolAfter_le _ _ _

/-- Time that passes takes up no number of arrival. -/
theorem Machine.nextArrival_checkDeadline (now : Timestamp) :
    (machine.checkDeadline inst now).inst.pool.nextArrival = inst.pool.nextArrival := by
  obtain ⟨entries, _, pool⟩ := machine.checkDeadline_pool inst now
  rw [pool]

end Arrivals

/-- The monitor is in an open episode, and knows when it started and what is bound in it. -/
structure Tracks (property : Property) (core : Core) (episode : Episode) (inst : Instance) :
    Prop where
  isOpen : inst.state ∈ core.openStates
  verdict : inst.verdict = .unknown
  start : inst.episodeStart? = some episode.start
  agree : Bindings.AgreeOn property.scopeNames inst.bindings episode.bindings
  ongoing : Ongoing property episode

namespace Tracks

variable {property : Property} {core : Core} {episode : Episode} {inst : Instance}

/-- What is bound in an episode does not change when it goes on. -/
theorem extend (tracks : Tracks property core episode inst) {call : Call}
    (goesOn : property.scope.closes episode.bindings call = false) :
    Tracks property core (episode.extend call) inst :=
  ⟨tracks.isOpen, tracks.verdict, tracks.start, tracks.agree, tracks.ongoing.extend goesOn⟩

/-- A deadline may lead to another open state. -/
theorem lapsed (tracks : Tracks property core episode inst) {next : State}
    (isOpen : next ∈ core.openStates) (now : Timestamp) :
    Tracks property core episode (Machine.lapsed inst [] none next now) where
  isOpen := isOpen
  verdict := tracks.verdict
  start := tracks.start
  agree := by
    change Bindings.AgreeOn _ (Bindings.ofRecords (inst.witness ++ [])) _
    rw [List.append_nil]
    exact tracks.agree
  ongoing := tracks.ongoing

/-- A rule that works on the pool only may lead to another open state. -/
theorem pooling (tracks : Tracks property core episode inst) (guard : Guard) (action : PoolAction)
    {next : Next} (record : Record) (discharged : Record → Bool)
    (isOpen : (inst.reacted (.pooling guard action next) record discharged).state ∈
      core.openStates) :
    Tracks property core episode (inst.reacted (.pooling guard action next) record discharged) where
  isOpen := isOpen
  verdict := tracks.verdict
  start := tracks.start
  agree := by
    rw [inst.bindings_pooling]
    exact tracks.agree
  ongoing := tracks.ongoing

/-- A record whose alias is no name of the scope may be added on the way to another open state. -/
theorem recorded (tracks : Tracks property core episode inst) {call : Call} {next : State}
    {record : Record} (bindings : inst.bindings = episode.bindings)
    (goesOn : property.scope.closes episode.bindings call = false)
    (isOpen : next ∈ core.openStates)
    (different : ∀ name ∈ property.scopeNames, record.alias? ≠ some name) :
    Tracks property core (episode.extend call)
      (inst.reacted (.goto .record next) record fun _ => false) where
  isOpen := isOpen
  verdict := tracks.verdict
  start := tracks.start
  agree := by
    have bound : (inst.reacted (.goto .record next) record fun _ => false).bindings =
        inst.bindings.withRecord record := Bindings.ofRecords_append inst.witness record
    rw [bound, bindings]
    exact episode.bindings.agreeOn_withRecord different
  ongoing := tracks.ongoing.extend goesOn

/-- The latest timestamp seen does not matter. -/
theorem observed (tracks : Tracks property core episode inst) (latest? : Option Timestamp) :
    Tracks property core episode { inst with latestSeen? := latest? } :=
  ⟨tracks.isOpen, tracks.verdict, tracks.start, tracks.agree, tracks.ongoing⟩

end Tracks

/-- The monitor has just entered an episode. -/
structure Entered (property : Property) (core : Core) (episode : Episode) (inst : Instance) :
    Prop where
  calls : episode.calls = []
  state : inst.state = core.entry
  verdict : inst.verdict = .unknown
  start : inst.episodeStart? = some episode.start
  bindings : inst.bindings = episode.bindings
  ongoing : Ongoing property episode
  vacant : inst.pool.entries = []

theorem Entered.tracks {property : Property} {core : Core} {episode : Episode} {inst : Instance}
    (entered : Entered property core episode inst) (regular : core.Regular) :
    Tracks property core episode inst where
  isOpen := entered.state ▸ regular.entry
  verdict := entered.verdict
  start := entered.start
  agree := fun name _ => by rw [entered.bindings]
  ongoing := entered.ongoing

/-- The call comes next in the episode, and there are as many numbers of arrival as calls. -/
def Upcoming (calls : List Call) (episode : Episode) (inst : Instance) (call : Call) : Prop :=
  ∃ past, past ++ [call] <+: calls ∧ episode.calls <:+ past ∧
    inst.pool.nextArrival.toNat ≤ past.length

/-- In a run that is not too long there is a number for the arrival of the call. -/
theorem Upcoming.numbers {calls : List Call} {episode : Episode} {inst : Instance} {call : Call}
    (upcoming : Upcoming calls episode inst call) (short : calls.length < UInt64.size) :
    inst.pool.nextArrival.toNat + 1 < UInt64.size := by
  obtain ⟨past, front, _, arrivals⟩ := upcoming
  have room := front.length_le
  rw [List.length_append, List.length_singleton] at room
  omega

/-- If timestamps never decrease, then no call of the episode is later than the next one. -/
theorem Upcoming.time_le {calls : List Call} {episode : Episode} {inst : Instance} {call : Call}
    (upcoming : Upcoming calls episode inst call)
    (ascending : calls.Pairwise fun first second => first.time ≤ second.time) :
    ∀ earlier ∈ episode.calls, earlier.time ≤ call.time := by
  obtain ⟨past, front, recent, _⟩ := upcoming
  have inOrder := ascending.sublist front.sublist
  intro earlier member
  exact (List.pairwise_append.mp inOrder).2.2 earlier (recent.subset member) call
    List.mem_cons_self

/-- The verdict is reached and right, or the episode goes on. -/
inductive Progress (property : Property) (violates settles : Episode → Prop)
    (goesOn : Instance → Prop) (episode : Episode) (inst : Instance) : Prop where
  | violated (state : inst.state = .rejected) (verdict : inst.verdict = .violated)
      (found : violates episode)
  | satisfied (single : property.scope.kind.isReentrant = false) (state : inst.state = .accepted)
      (verdict : inst.verdict = .satisfied) (settled : settles episode) (kept : ¬ violates episode)
  | undecided (related : goesOn inst)

/-- After a settled verdict nothing changes, and otherwise the second part of a call decides. -/
theorem Progress.andThen {property : Property} {violates settles : Episode → Prop}
    {goesOn after : Instance → Prop} {episode : Episode} {first second : Instance}
    (progress : Progress property violates settles goesOn episode first)
    (settled : first.state.isTerminal = true → second = first)
    (continues : goesOn first → Progress property violates settles after episode second) :
    Progress property violates settles after episode second := by
  cases progress with
  | violated state verdict found =>
      rw [settled (by rw [state]; rfl)]
      exact .violated state verdict found
  | satisfied single state verdict settles kept =>
      rw [settled (by rw [state]; rfl)]
      exact .satisfied single state verdict settles kept
  | undecided related => exact continues related

/-- The monitor has left an episode and waits for the next one. -/
structure Left (property : Property) (violates settles : Episode → Prop) (episode : Episode)
    (inst : Instance) : Prop where
  reentrant : property.scope.kind.isReentrant = true
  state : inst.state = .inactive
  verdict : inst.verdict = .unknown
  witness : inst.witness = []
  vacant : inst.pool.entries = []
  undecided : ¬ violates episode ∧ ¬ settles episode

/-- What the end of an episode with this verdict, or with none, has to mean. -/
def Concludes (violates settles : Episode → Prop) (verdict? : Option Bool) (episode : Episode) :
    Prop :=
  match verdict? with
  | some true => settles episode ∧ ¬ violates episode
  | some false => violates episode
  | none => ¬ violates episode ∧ ¬ settles episode

/-- How the machine of a pattern follows the open episode in a run with these calls. -/
structure Simulation (property : Property) (core : Core) (calls : List Call)
    (violates settles : Episode → Prop) where
  /-- The episode shows in what is remembered between two calls. -/
  relates : Episode → Instance → Prop
  /-- The episode shows in what is remembered once the time of the next call has passed. -/
  awaits : Episode → Call → Instance → Prop
  tracks : ∀ {episode inst}, relates episode inst → Tracks property core episode inst
  awaits_tracks : ∀ {episode call inst}, awaits episode call inst →
    Tracks property core episode inst
  undecided : ∀ {episode inst}, relates episode inst → ¬ violates episode ∧ ¬ settles episode
  enters : ∀ {episode inst}, Entered property core episode inst → relates episode inst
  observes : ∀ {episode inst} latest?, relates episode inst →
    relates episode { inst with latestSeen? := latest? }
  passes : ∀ {episode inst call}, relates episode inst → Upcoming calls episode inst call →
    Progress property violates settles (awaits episode call) (episode.extend call)
      ((property.assemble core).checkDeadline inst call.time).inst
  waits : ∀ {episode inst time}, awaits episode (.timer time) inst →
    relates (episode.extend (.timer time)) inst
  reacts : ∀ {episode inst topic message time}, awaits episode (.message topic message time) inst →
    property.scope.closes episode.bindings (.message topic message time) = false →
    Progress property violates settles (relates (episode.extend (.message topic message time)))
      (episode.extend (.message topic message time))
      (inst.offered topic message time (rulesFor core.placements topic inst.state))
  closes : ∀ {episode inst call}, awaits episode call inst →
    property.scope.closes episode.bindings call = true →
    Concludes violates settles
      (closing property.scope.kind.isReentrant property.pattern.kind inst.state).verdict?
      (episode.extend call)
  /-- A violation stays one when the episode goes on. -/
  grows : ∀ {episode} call, violates episode → violates (episode.extend call)
  /-- A settled episode stays so when it goes on. -/
  stays : ∀ {episode} call, settles episode → ¬ violates episode → Ongoing property episode →
    settles (episode.extend call) ∧ ¬ violates (episode.extend call)

/-- The monitor has reached what the history calls for, or it follows the open episode. -/
inductive Follows (property : Property) (violates settles : Episode → Prop)
    (relates : Episode → Instance → Prop) (history : History) (inst : Instance) : Prop where
  | waiting (none_open : history.open? = none) (opens : property.scope.activator? ≠ none)
      (state : inst.state = .inactive) (verdict : inst.verdict = .unknown)
      (witness : inst.witness = []) (vacant : inst.pool.entries = [])
      (closed : ∀ episode ∈ history.closed, ¬ violates episode ∧ ¬ settles episode)
      (again : history.closed ≠ [] → property.scope.kind.isReentrant = true)
  | running {episode : Episode} (isOpen : history.open? = some episode)
      (related : relates episode inst)
      (closed : ∀ episode ∈ history.closed, ¬ violates episode ∧ ¬ settles episode)
      (again : history.closed ≠ [] → property.scope.kind.isReentrant = true)
  | violated (state : inst.state = .rejected) (verdict : inst.verdict = .violated)
      (found : ∃ episode ∈ history.episodes, violates episode)
  | satisfied (single : property.scope.kind.isReentrant = false) (state : inst.state = .accepted)
      (verdict : inst.verdict = .satisfied) (begun : history.episodes ≠ [])
      (settled : ∀ episode ∈ history.episodes, settles episode ∧ ¬ violates episode)
      (ended : history.open? = none → property.scope.activator? = none)

/-- What a terminator does is one of three things. -/
theorem closing_cases (isReentrant : Bool) (pattern : PatternKind) (state : State) :
    (closing isReentrant pattern state = .leave ∧ isReentrant = true) ∨
      (closing isReentrant pattern state = .close .record true ∧ isReentrant = false) ∨
      ∃ witness, closing isReentrant pattern state = .close witness false := by
  unfold closing
  split
  · exact .inr (.inr ⟨_, rfl⟩)
  · exact .inr (.inr ⟨_, rfl⟩)
  · cases isReentrant
    · exact .inr (.inr ⟨_, rfl⟩)
    · exact .inl ⟨rfl, rfl⟩
  · cases isReentrant
    · exact .inr (.inl ⟨rfl, rfl⟩)
    · exact .inl ⟨rfl, rfl⟩

namespace Machine.Sound

variable {machine : Machine} {inst : Instance}

/-- Without a deadline nothing but the clock is looked at when time passes. -/
theorem onTimer_untimed (running : inst.state ≠ .off)
    (untimed : machine.deadline? inst.state = none) (now : Timestamp) :
    ∃ latest?, (machine.onTimer inst now).inst = { inst with latestSeen? := latest? } := by
  obtain ⟨latest?, observed⟩ := observe_inst inst now
  refine ⟨latest?, ?_⟩
  rw [(onTimer_eq running now).2, observed, checkDeadline_of_none (by exact untimed)]
  rfl

/-- Time takes up no number of arrival, and a message at most one. -/
theorem nextArrival_next_le (sound : machine.Sound) (suits : machine.Suits inst.state inst.pool)
    (running : inst.state ≠ .off) (call : Call) :
    (machine.next inst call).pool.nextArrival.toNat ≤ inst.pool.nextArrival.toNat + 1 := by
  have passed (now : Timestamp) :
      (machine.onTimer inst now).inst.pool.nextArrival = inst.pool.nextArrival := by
    obtain ⟨latest?, observed⟩ := observe_inst inst now
    rw [(onTimer_eq running now).2, nextArrival_checkDeadline, observed]
  cases call with
  | timer time =>
      change (machine.onTimer inst time).inst.pool.nextArrival.toNat ≤ _
      rw [passed]
      exact Nat.le_succ _
  | message topic content time =>
      change (machine.onMessage inst topic content time).inst.pool.nextArrival.toNat ≤ _
      rw [(sound.onMessage_inst suits running topic content time).2]
      dsimp only
      split
      · rw [passed]
        exact Nat.le_succ _
      · refine Nat.le_trans (Instance.nextArrival_offered_le _ _ _ _ _) (Nat.le_of_eq ?_)
        rw [passed]

end Machine.Sound

namespace Property

variable {property : Property} {core : Core} {inst : Instance}

/-- A settled verdict stays. -/
theorem next_of_terminal (regular : core.Regular) (sound : (property.assemble core).Sound)
    (suits : (property.assemble core).Suits inst.state inst.pool)
    (settled : inst.state.isTerminal = true) (call : Call) :
    ((property.assemble core).next inst call).state = inst.state ∧
      ((property.assemble core).next inst call).verdict = inst.verdict := by
  have running : inst.state ≠ .off := by
    intro isOff
    rw [isOff] at settled
    cases settled
  have closed : inst.state ∉ core.openStates := by
    intro isOpen
    have live := (regular.live _ isOpen).2.2
    rw [settled] at live
    cases live
  obtain ⟨latest?, passed⟩ :=
    Machine.Sound.onTimer_untimed running (deadline_eq_none regular closed) call.time
  cases call with
  | timer time =>
      change ((property.assemble core).onTimer inst time).inst.state = _ ∧
        ((property.assemble core).onTimer inst time).inst.verdict = _
      rw [Call.time] at passed
      rw [passed]
      exact ⟨rfl, rfl⟩
  | message topic content time =>
      change ((property.assemble core).onMessage inst topic content time).inst.state = _ ∧
        ((property.assemble core).onMessage inst topic content time).inst.verdict = _
      rw [Call.time] at passed
      rw [(sound.onMessage_inst suits running topic content time).2, passed]
      dsimp only
      rw [if_pos settled]
      exact ⟨rfl, rfl⟩

/-- While nothing is bound, a message opens an episode exactly if it is an activator. -/
theorem offered_opening (property : Property) (core : Core) (inst : Instance)
    (verdict : inst.verdict = .unknown) (witness : inst.witness = [])
    (vacant : inst.pool.entries = []) (topic : String) (message : Message) (time : Timestamp) :
    (∃ episode, property.scope.opened? (.message topic message time) = some episode ∧
        Entered property core episode
          (inst.offered topic message time (property.openingRules core.entry topic))) ∨
      property.scope.opened? (.message topic message time) = none ∧
        inst.offered topic message time (property.openingRules core.entry topic) = inst := by
  cases given : property.scope.activator? with
  | none =>
      rw [Scope.opened?, openingRules, given]
      exact .inr ⟨rfl, rfl⟩
  | some activator =>
      have unbound : inst.bindings = Bindings.empty := by
        rw [Instance.bindings, witness]
        rfl
      have tried := inst.offered_message topic message time activator .activator
        (.enter core.entry) [] rfl
      rw [List.append_nil, unbound] at tried
      have opens : property.scope.opened? (.message topic message time) =
          if activator.occurs Bindings.empty (.message topic message time) then
            some ⟨time, Bindings.empty.withRecord ⟨topic, time, message, activator.alias?⟩, []⟩
          else none := by
        rw [Scope.opened?, given]
        rfl
      rw [openingRules, given]
      dsimp only
      cases occurs : activator.occurs Bindings.empty (.message topic message time) with
      | false =>
          rw [occurs, if_neg (by decide)] at tried opens
          exact .inr ⟨opens, tried⟩
      | true =>
          rw [occurs, if_pos rfl] at tried opens
          refine .inl ⟨_, opens, ?_⟩
          rw [tried]
          exact {
            calls := rfl
            state := rfl
            verdict := verdict
            start := rfl
            bindings := by
              change Bindings.ofRecords (inst.witness ++ [_]) = _
              rw [witness]
              rfl
            ongoing := (Ongoing.of_opened opens).2
            vacant := vacant }

/-- A monitor that waits goes on waiting, unless the call opens an episode. -/
theorem next_of_waiting (regular : core.Regular) (sound : (property.assemble core).Sound)
    (suits : (property.assemble core).Suits inst.state inst.pool) (state : inst.state = .inactive)
    (verdict : inst.verdict = .unknown) (witness : inst.witness = [])
    (vacant : inst.pool.entries = []) (call : Call) :
    (∃ episode, property.scope.opened? call = some episode ∧
        Entered property core episode ((property.assemble core).next inst call)) ∨
      property.scope.opened? call = none ∧ ∃ latest?,
        (property.assemble core).next inst call = { inst with latestSeen? := latest? } := by
  have closed : inst.state ∉ core.openStates := fun isOpen => (regular.live _ isOpen).2.1 state
  have running : inst.state ≠ .off := by rw [state]; decide
  obtain ⟨latest?, passed⟩ :=
    Machine.Sound.onTimer_untimed running (deadline_eq_none regular closed) call.time
  cases call with
  | timer time =>
      refine .inr ⟨?_, latest?, passed⟩
      unfold Scope.opened?
      cases property.scope.activator? <;> rfl
  | message topic content time =>
      have unsettled : ¬ inst.state.isTerminal = true := by rw [state]; decide
      have received : (property.assemble core).next inst (.message topic content time) =
          Instance.offered { inst with latestSeen? := latest? } topic content time
            (property.openingRules core.entry topic) := by
        rw [← rulesAt_inactive regular, ← state]
        refine (sound.onMessage_inst suits running topic content time).2.trans ?_
        rw [Call.time] at passed
        rw [passed]
        exact if_neg unsettled
      rw [received]
      refine (offered_opening property core { inst with latestSeen? := latest? } verdict witness
        vacant topic content time).imp_right fun ignored => ?_
      exact ⟨ignored.1, latest?, ignored.2⟩

/-- A message on which the episode closes is taken by the terminator. -/
theorem offered_closing (faithful : property.Tests Predicate.Faithful) (reading : property.Scoped)
    {episode : Episode} (tracks : Tracks property core episode inst) (topic : String)
    (message : Message) (time : Timestamp) (rest : List Rule) :
    if property.scope.closes episode.bindings (.message topic message time) then
      ∃ record, record.timestamp = time ∧
        inst.offered topic message time (property.closingRules inst.state topic ++ rest) =
          inst.reacted (closing property.scope.kind.isReentrant property.pattern.kind inst.state)
            record fun _ => false
    else
      inst.offered topic message time (property.closingRules inst.state topic ++ rest) =
        inst.offered topic message time rest := by
  unfold closingRules Scope.closes
  cases given : property.scope.terminator? with
  | none => rfl
  | some terminator =>
      have plain (state : State) :
          (closing property.scope.kind.isReentrant property.pattern.kind state).guard = .message := by
        rcases closing_cases property.scope.kind.isReentrant property.pattern.kind state with
          ⟨same, _⟩ | ⟨same, _⟩ | ⟨_, same⟩ <;> rw [same] <;> rfl
      have occurs : terminator.occurs inst.bindings (.message topic message time) =
          terminator.occurs episode.bindings (.message topic message time) :=
        Event.occurs_congr (faithful.terminator given) (reading.terminator given) tracks.agree _
      dsimp only
      rw [inst.offered_message topic message time terminator .terminator _ rest (plain inst.state),
        Option.any_some, ← occurs]
      split
      · exact ⟨_, rfl, rfl⟩
      · rfl

end Property

namespace Simulation

variable {property : Property} {core : Core} {calls : List Call} {violates settles : Episode → Prop}
  {history : History} {inst : Instance} {call : Call}

/-- A verdict that is reached in an episode is right for the whole run. -/
theorem follows_of_progress (simulation : Simulation property core calls violates settles)
    {episode : Episode} (opened : history.open? = some episode)
    (again : history.closed ≠ [] → property.scope.kind.isReentrant = true)
    {goesOn : Instance → Prop}
    (progress : Progress property violates settles goesOn (episode.extend call) inst)
    (continues : goesOn inst → Follows property violates settles simulation.relates
      (history.record property.scope call) inst) :
    Follows property violates settles simulation.relates (history.record property.scope call)
      inst := by
  cases progress with
  | violated state verdict found =>
      refine .violated state verdict ⟨episode.extend call, ?_, found⟩
      rw [History.episodes_record opened]
      simp
  | satisfied single state verdict settled kept =>
      have first : history.closed = [] := by
        by_contra earlier
        rw [single] at again
        exact nomatch again earlier
      have only : (history.record property.scope call).episodes = [episode.extend call] := by
        rw [History.episodes_record opened, first]
        rfl
      refine .satisfied single state verdict (by rw [only]; simp) ?_ fun none_open => ?_
      · rw [only]
        intro other member
        obtain rfl := List.mem_singleton.mp member
        exact ⟨settled, kept⟩
      · cases closes : property.scope.closes episode.bindings call with
        | true => exact Scope.activator_of_closes single closes
        | false =>
            rw [History.record_of_open opened closes] at none_open
            cases none_open
  | undecided related => exact continues related

/-- A terminator brings the verdict that the episode calls for, or the episode is left. -/
theorem progress_closing (simulation : Simulation property core calls violates settles)
    {episode : Episode} (awaits : simulation.awaits episode call inst)
    (closes : property.scope.closes episode.bindings call = true) (record : Record) :
    Progress property violates settles (Left property violates settles (episode.extend call))
      (episode.extend call)
      (inst.reacted (closing property.scope.kind.isReentrant property.pattern.kind inst.state)
        record fun _ => false) := by
  have concludes := simulation.closes awaits closes
  have verdict := (simulation.awaits_tracks awaits).verdict
  rcases closing_cases property.scope.kind.isReentrant property.pattern.kind inst.state with
    ⟨leaves, reentrant⟩ | ⟨accepts, single⟩ | ⟨witness, rejects⟩
  · rw [leaves] at concludes ⊢
    exact .undecided {
      reentrant := reentrant
      state := rfl
      verdict := verdict
      witness := rfl
      vacant := rfl
      undecided := concludes }
  · rw [accepts] at concludes ⊢
    exact .satisfied single rfl rfl concludes.1 concludes.2
  · rw [rejects] at concludes ⊢
    exact .violated rfl rfl concludes

/-- Without a verdict a call either ends the episode or keeps it going. -/
def Remains (simulation : Simulation property core calls violates settles) (episode : Episode)
    (call : Call) (inst : Instance) : Prop :=
  if property.scope.closes episode.bindings call then
    Left property violates settles (episode.extend call) inst
  else simulation.relates (episode.extend call) inst

/-- A message of the open episode brings the verdict, or ends the episode, or keeps it going. -/
theorem progress_message (simulation : Simulation property core calls violates settles)
    (regular : core.Regular) (faithful : property.Tests Predicate.Faithful)
    (reading : property.Scoped) {episode : Episode} {topic : String} {message : Message}
    {time : Timestamp} (awaits : simulation.awaits episode (.message topic message time) inst) :
    Progress property violates settles
      (simulation.Remains episode (.message topic message time))
      (episode.extend (.message topic message time))
      (inst.offered topic message time ((property.assemble core).rulesAt topic inst.state)) := by
  have tracks := simulation.awaits_tracks awaits
  have taken := Property.offered_closing faithful reading tracks topic message time
    (rulesFor core.placements topic inst.state)
  rw [Property.rulesAt_open regular tracks.isOpen]
  unfold Remains
  cases closes : property.scope.closes episode.bindings (.message topic message time) with
  | true =>
      rw [closes, if_pos rfl] at taken
      obtain ⟨record, _, reacted⟩ := taken
      rw [reacted]
      exact simulation.progress_closing awaits closes record
  | false =>
      rw [closes, if_neg (by decide)] at taken
      rw [taken]
      exact simulation.reacts awaits closes

/-- A call keeps up with the open episode. -/
theorem step_running (simulation : Simulation property core calls violates settles)
    (regular : core.Regular) (sound : (property.assemble core).Sound)
    (faithful : property.Tests Predicate.Faithful) (reading : property.Scoped)
    (suits : (property.assemble core).Suits inst.state inst.pool) {episode : Episode}
    (opened : history.open? = some episode) (related : simulation.relates episode inst)
    (closed : ∀ episode ∈ history.closed, ¬ violates episode ∧ ¬ settles episode)
    (again : history.closed ≠ [] → property.scope.kind.isReentrant = true)
    (upcoming : Upcoming calls episode inst call) :
    Follows property violates settles simulation.relates (history.record property.scope call)
      ((property.assemble core).next inst call) := by
  have running : inst.state ≠ .off := (regular.live _ (simulation.tracks related).isOpen).1
  -- First the time of the call passes, whatever the call is.
  obtain ⟨latest?, observed⟩ := Machine.observe_inst inst call.time
  have passed := simulation.passes (simulation.observes latest? related) upcoming
  rw [← observed, ← (Machine.onTimer_eq running call.time).2] at passed
  have goesOn {next : Instance} (isOpen : property.scope.closes episode.bindings call = false)
      (related : simulation.relates (episode.extend call) next) :
      Follows property violates settles simulation.relates
        (history.record property.scope call) next := by
    rw [History.record_of_open opened isOpen]
    exact .running rfl related closed again
  cases call with
  | timer time =>
      exact simulation.follows_of_progress opened again passed fun awaits =>
        goesOn (Scope.closes_timer _ _) (simulation.waits awaits)
  | message topic content time =>
      have received : (property.assemble core).next inst (.message topic content time) = _ :=
        (sound.onMessage_inst suits running topic content time).2
      have progress : Progress property violates settles
          (simulation.Remains episode (.message topic content time))
          (episode.extend (.message topic content time))
          ((property.assemble core).next inst (.message topic content time)) := by
        -- A deadline that settles the verdict leaves nothing for the message to do.
        refine passed.andThen (fun settled => received.trans (if_pos settled)) fun awaits => ?_
        have live := regular.live _ (simulation.awaits_tracks awaits).isOpen
        have unsettled : ¬ ((property.assemble core).onTimer inst time).inst.state.isTerminal =
            true := Bool.eq_false_iff.mp live.2.2
        rw [received.trans (if_neg unsettled)]
        exact simulation.progress_message regular faithful reading awaits
      refine simulation.follows_of_progress opened again progress fun next => ?_
      unfold Remains at next
      cases closes : property.scope.closes episode.bindings (.message topic content time) with
      | false =>
          rw [closes] at next
          exact goesOn closes next
      | true =>
          rw [closes] at next
          rw [History.record_of_closes opened closes]
          refine .waiting rfl (Scope.activator_of_reentrant next.reentrant) next.state next.verdict
            next.witness next.vacant (fun other member => ?_) fun _ => next.reentrant
          rcases List.mem_append.mp member with old | new
          · exact closed other old
          · obtain rfl := List.mem_singleton.mp new
            exact next.undecided

/-- A call may open an episode while none is open. -/
theorem step_waiting (simulation : Simulation property core calls violates settles)
    (regular : core.Regular) (sound : (property.assemble core).Sound)
    (suits : (property.assemble core).Suits inst.state inst.pool)
    (none_open : history.open? = none) (opens : property.scope.activator? ≠ none)
    (state : inst.state = .inactive) (verdict : inst.verdict = .unknown)
    (witness : inst.witness = []) (vacant : inst.pool.entries = [])
    (closed : ∀ episode ∈ history.closed, ¬ violates episode ∧ ¬ settles episode)
    (again : history.closed ≠ [] → property.scope.kind.isReentrant = true) :
    Follows property violates settles simulation.relates (history.record property.scope call)
      ((property.assemble core).next inst call) := by
  rw [History.record_of_none none_open]
  rcases property.next_of_waiting regular sound suits state verdict witness vacant call with
    ⟨episode, opened, entered⟩ | ⟨nothing, latest?, same⟩
  · exact .running opened (simulation.enters entered) closed again
  · rw [same]
    exact .waiting nothing opens state verdict witness vacant closed again

/-- After a verdict the episodes go on without changing it. -/
theorem step_satisfied (simulation : Simulation property core calls violates settles)
    (single : property.scope.kind.isReentrant = false) (begun : history.episodes ≠ [])
    (settled : ∀ episode ∈ history.episodes, settles episode ∧ ¬ violates episode)
    (ended : history.open? = none → property.scope.activator? = none)
    (ongoing : ∀ episode, history.open? = some episode → Ongoing property episode)
    (call : Call) :
    (history.record property.scope call).episodes ≠ [] ∧
      (∀ episode ∈ (history.record property.scope call).episodes,
        settles episode ∧ ¬ violates episode) ∧
      ((history.record property.scope call).open? = none → property.scope.activator? = none) := by
  cases opened : history.open? with
  | none =>
      -- The only episode is over, and a scope without an activator opens no other.
      have nothing : property.scope.opened? call = none := by
        rw [Scope.opened?, ended opened]
      have same : history.record property.scope call = history := by
        rw [History.record_of_none opened, nothing, ← opened]
      rw [same]
      exact ⟨begun, settled, ended⟩
  | some episode =>
      have here : episode ∈ history.episodes := by
        rw [History.episodes, opened]
        simp
      obtain ⟨now, kept⟩ := settled episode here
      rw [History.episodes_record opened]
      refine ⟨by simp, fun other member => ?_, fun none_open => ?_⟩
      · rcases List.mem_append.mp member with old | new
        · exact settled other (List.mem_append_left _ old)
        · obtain rfl := List.mem_singleton.mp new
          exact simulation.stays call now kept (ongoing episode opened)
      · cases closes : property.scope.closes episode.bindings call with
        | true => exact Scope.activator_of_closes single closes
        | false =>
            rw [History.record_of_open opened closes] at none_open
            cases none_open

/-- A call keeps up with the history. -/
theorem step (simulation : Simulation property core calls violates settles)
    (regular : core.Regular) (sound : (property.assemble core).Sound)
    (faithful : property.Tests Predicate.Faithful) (reading : property.Scoped)
    (suits : (property.assemble core).Suits inst.state inst.pool)
    (follows : Follows property violates settles simulation.relates history inst)
    (ongoing : ∀ episode, history.open? = some episode → Ongoing property episode)
    (upcoming : ∀ episode, history.open? = some episode → Upcoming calls episode inst call) :
    Follows property violates settles simulation.relates (history.record property.scope call)
      ((property.assemble core).next inst call) := by
  cases follows with
  | waiting none_open opens state verdict witness vacant closed again =>
      exact simulation.step_waiting regular sound suits none_open opens state verdict witness vacant
        closed again
  | running opened related closed again =>
      exact simulation.step_running regular sound faithful reading suits opened related closed again
        (upcoming _ opened)
  | violated state verdict found =>
      obtain ⟨sameState, sameVerdict⟩ :=
        property.next_of_terminal regular sound suits (by rw [state]; rfl) call
      exact .violated (sameState.trans state) (sameVerdict.trans verdict)
        (History.exists_record (fun _ => simulation.grows call) found)
  | satisfied single state verdict begun settled ended =>
      obtain ⟨sameState, sameVerdict⟩ :=
        property.next_of_terminal regular sound suits (by rw [state]; rfl) call
      obtain ⟨begun, settled, ended⟩ :=
        simulation.step_satisfied single begun settled ended ongoing call
      exact .satisfied single (sameState.trans state) (sameVerdict.trans verdict) begun settled ended

/-- The launch keeps up with the history. -/
theorem follows_launched (simulation : Simulation property core calls violates settles)
    (start : Timestamp) :
    Follows property violates settles simulation.relates
      (History.launched property.scope start) ((property.assemble core).launched start) := by
  have initial : ((property.assemble core).launched start).state =
      if property.scope.kind.hasActivator then .inactive else core.entry := rfl
  have began : ((property.assemble core).launched start).episodeStart? =
      if !property.scope.kind.hasActivator then some start else none := rfl
  rw [Scope.hasActivator_eq] at initial began
  have none_closed : ∀ episode ∈ (History.launched property.scope start).closed,
      ¬ violates episode ∧ ¬ settles episode := fun _ member => absurd member List.not_mem_nil
  cases given : property.scope.activator? with
  | some activator =>
      rw [given] at initial
      refine .waiting ?_ (by rw [given]; nofun) initial rfl rfl rfl none_closed
        fun earlier => absurd rfl earlier
      rw [History.launched, given]
  | none =>
      have opened : (History.launched property.scope start).open? =
          some ⟨start, Bindings.empty, []⟩ := by
        rw [History.launched, given]
      rw [given] at initial began
      refine .running opened (simulation.enters ?_) none_closed fun earlier => absurd rfl earlier
      exact {
        calls := rfl
        state := initial
        verdict := rfl
        start := began
        bindings := rfl
        ongoing := (Ongoing.of_launched opened).2
        vacant := rfl }

theorem not_off (simulation : Simulation property core calls violates settles)
    (regular : core.Regular)
    (follows : Follows property violates settles simulation.relates history inst) :
    inst.state ≠ .off := by
  cases follows with
  | waiting _ _ state => rw [state]; decide
  | running _ related => exact (regular.live _ (simulation.tracks related).isOpen).1
  | violated state => rw [state]; decide
  | satisfied _ state => rw [state]; decide

/-- The monitor keeps up with the history during the whole run. -/
theorem follows_run (simulation : Simulation property core calls violates settles)
    (regular : core.Regular) (sound : (property.assemble core).Sound)
    (faithful : property.Tests Predicate.Faithful) (reading : property.Scoped) (start : Timestamp)
    {past : List Call} (part : past <+: calls) :
    let inst := (property.assemble core).run ((property.assemble core).launched start) past
    Follows property violates settles simulation.relates (property.scope.history start past) inst ∧
      (property.assemble core).Suits inst.state inst.pool ∧
      inst.pool.nextArrival.toNat ≤ past.length := by
  -- On the end of the run: all three parts speak of the calls so far, and `calls` stays fixed.
  induction past using List.reverseRecOn with
  | nil =>
      exact ⟨simulation.follows_launched start,
        sound.perform (Monitor.suits_off _) (.launch start), Nat.le_refl _⟩
  | append_singleton past call ih =>
      have shorter : past <+: calls := (List.prefix_append past [call]).trans part
      obtain ⟨follows, suits, numbers⟩ := ih shorter
      have running := simulation.not_off regular follows
      dsimp only
      rw [Machine.run_append, Scope.history_append]
      refine ⟨simulation.step regular sound faithful reading suits follows ?_ ?_,
        sound.perform suits (.call call), ?_⟩
      · exact fun episode opened => (Ongoing.of_history opened).1
      · exact fun episode opened => ⟨past, part, (Ongoing.of_history opened).2, numbers⟩
      · have more := sound.nextArrival_next_le suits running call
        rw [List.length_append, List.length_singleton]
        omega

/-- The verdict after a run is the one that its episodes call for. -/
theorem tells (simulation : Simulation property core calls violates settles)
    (regular : core.Regular) (sound : (property.assemble core).Sound)
    (faithful : property.Tests Predicate.Faithful) (reading : property.Scoped)
    (start : Timestamp) :
    ((property.assemble core).run ((property.assemble core).launched start) calls).verdict.Tells
      (∃ episode ∈ property.scope.episodes start calls, violates episode)
      (∃ episode ∈ property.scope.episodes start calls, settles episode) := by
  have undecided {verdict : Verdict} {episodes : List Episode} (unknown : verdict = .unknown)
      (each : ∀ episode ∈ episodes, ¬ violates episode ∧ ¬ settles episode) :
      verdict.Tells (∃ episode ∈ episodes, violates episode)
        (∃ episode ∈ episodes, settles episode) := by
    have clean : ¬ ∃ episode ∈ episodes, violates episode :=
      fun ⟨episode, member, found⟩ => (each episode member).1 found
    have unsettled : ¬ ∃ episode ∈ episodes, settles episode :=
      fun ⟨episode, member, settled⟩ => (each episode member).2 settled
    simp [Verdict.Tells, unknown, clean, unsettled]
  have follows := (simulation.follows_run regular sound faithful reading start
    (List.prefix_refl calls)).1
  unfold Scope.episodes
  cases follows with
  | waiting none_open _ _ verdict _ _ closed _ =>
      refine undecided verdict fun episode member => closed episode ?_
      rw [History.episodes, none_open] at member
      simpa using member
  | running opened related closed _ =>
      refine undecided (simulation.tracks related).verdict fun episode member => ?_
      rw [History.episodes, opened] at member
      rcases List.mem_append.mp member with old | new
      · exact closed episode old
      · obtain rfl := List.mem_singleton.mp new
        exact simulation.undecided related
  | violated _ verdict found => simp [Verdict.Tells, verdict, found]
  | satisfied _ _ verdict begun settled _ =>
      have clean : ¬ ∃ episode ∈ (property.scope.history start calls).episodes, violates episode :=
        fun ⟨episode, member, found⟩ => (settled episode member).2 found
      obtain ⟨episode, member⟩ := List.exists_mem_of_ne_nil _ begun
      have done : ∃ episode ∈ (property.scope.history start calls).episodes, settles episode :=
        ⟨episode, member, (settled episode member).1⟩
      simp [Verdict.Tells, verdict, clean, done]

end Simulation

/-- A monitor shows the verdict that its machine reaches. -/
theorem Monitor.verdict_traced {machine : Machine} (sound : machine.Sound) {callbacks : Callbacks}
    (quiet : callbacks.Quiet) (start : Timestamp) (calls : List Call) :
    (Monitor.traced machine callbacks start calls).verdict =
      .ok (machine.run (machine.launched start) calls).verdict := by
  have same := (Monitor.after_holding sound quiet (Monitor.suits_off machine)
    (.launch start :: calls.map .call)).1
  have begun : Monitor.fresh machine callbacks =
      Monitor.holding machine callbacks (Instance.off machine) := rfl
  rw [Monitor.traced, begun, same, List.foldl_cons, List.foldl_map]
  rfl

/-- A machine that follows the episodes of the calls, of which some violate the property, and in a
scope that opens only once some settle it. -/
inductive Simulated (property : Property) (calls : List Call) (violates settles : Episode → Prop) :
    Machine → Prop where
  | intro {core : Core}
      (simulation : Simulation property core calls violates fun episode =>
        property.scope.kind.isReentrant = false ∧ settles episode)
      (compiled : property.compile = .ok (property.assemble core)) (regular : core.Regular)
      (faithful : property.Tests Predicate.Faithful) (reading : property.Scoped) :
      Simulated property calls violates settles (property.assemble core)

namespace Simulated

variable {property : Property} {machine : Machine} {calls : List Call}
  {violates settles : Episode → Prop} {callbacks : Callbacks}
  (simulated : Simulated property calls violates settles machine) (quiet : callbacks.Quiet)
  (start : Timestamp)

include simulated quiet

/-- The property is violated by some episode, and otherwise satisfied by one in a scope that opens
only once. -/
theorem verdict_tells :
    ∃ verdict, (Monitor.traced machine callbacks start calls).verdict = .ok verdict ∧
      verdict.Tells (∃ episode ∈ property.scope.episodes start calls, violates episode)
        (property.scope.kind ≠ .between ∧
          ∃ episode ∈ property.scope.episodes start calls, settles episode) := by
  obtain ⟨simulation, compiled, regular, faithful, reading⟩ := simulated
  have sound := property.compile_sound compiled faithful.total
  have tells := simulation.tells regular sound faithful reading start
  have single : property.scope.kind.isReentrant = false ↔ property.scope.kind ≠ .between := by
    cases property.scope.kind <;> decide
  have apart : (∃ episode ∈ property.scope.episodes start calls,
      property.scope.kind.isReentrant = false ∧ settles episode) ↔
      property.scope.kind ≠ .between ∧
        ∃ episode ∈ property.scope.episodes start calls, settles episode := by
    rw [← single]
    constructor
    · rintro ⟨episode, member, once, settled⟩
      exact ⟨once, episode, member, settled⟩
    · rintro ⟨once, episode, member, settled⟩
      exact ⟨episode, member, once, settled⟩
  rw [apart] at tells
  exact ⟨_, Monitor.verdict_traced sound quiet start calls, tells⟩

/-- The monitor shows a violation if an episode is one. -/
theorem violated_iff :
    (Monitor.traced machine callbacks start calls).verdict = .ok .violated ↔
      ∃ episode ∈ property.scope.episodes start calls, violates episode := by
  obtain ⟨verdict, shown, violated, _⟩ := simulated.verdict_tells quiet start
  rw [shown, Except.ok.injEq]
  exact violated

end Simulated

end TemporalMonitor
