import TemporalMonitor.Proofs.Monitor.Lifecycle

/-!
The order in which the user of a monitor is told what happens.

Since its last launch, the callbacks of a monitor have heard of a number of episodes that opened and
closed again. Then there may be one more, which is open, or in which the verdict was settled. The
verdict that was told is the one that the monitor shows, with the witness that it shows, and an
episode has been announced as open exactly if the monitor says when it started.
-/

namespace TemporalMonitor

/-- All callbacks are registered, and none of them crashes. -/
def Callbacks.Receptive (callbacks : Callbacks) : Prop :=
  ∀ notice, callbacks.call? notice = some (.ok ())

/-- Receptive callbacks hear everything. -/
theorem Callbacks.Receptive.inform_eq {callbacks : Callbacks} (receptive : callbacks.Receptive)
    (notices : List Notice) : callbacks.inform notices = (none, notices) := by
  induction notices with
  | nil => rfl
  | cons notice rest ih => rw [inform, receptive notice, ih]

/-- What a callback was told, and during which operation. -/
structure Announcement where
  operation : Nat
  notice : Notice

/-- The verdict with its witness, if that is what the user is told. -/
def Notice.verdict? : Notice → Option (Bool × List Record)
  | satisfied _ witness => some (true, witness)
  | violated _ witness => some (false, witness)
  | entered _ | exited _ => none

namespace Announcement

/-- Episodes that opened and closed again. -/
inductive Rounds : List Announcement → Prop where
  | empty : Rounds []
  | more {told : List Announcement} (rounds : Rounds told) (opening closing : Nat)
      (since time : Timestamp) :
      Rounds (told ++ [⟨opening, .entered since⟩, ⟨closing, .exited time⟩])

/-- What may follow after them. An episode that closes with the verdict does so in one operation and
at one time. -/
inductive Ending : List Announcement → Prop where
  | nothing : Ending []
  | entered (opening : Nat) (since : Timestamp) : Ending [⟨opening, .entered since⟩]
  | concluded (opening last : Nat) (since time : Timestamp) (verdict : Bool)
      (witness : List Record) :
      Ending [⟨opening, .entered since⟩, ⟨last, .ofVerdict verdict time witness⟩]
  | closed (opening last : Nat) (since time : Timestamp) (verdict : Bool) (witness : List Record) :
      Ending [⟨opening, .entered since⟩, ⟨last, .exited time⟩,
        ⟨last, .ofVerdict verdict time witness⟩]

/-- The verdicts that were told. -/
def verdicts (told : List Announcement) : List (Bool × List Record) :=
  told.filterMap fun announcement => announcement.notice.verdict?

/-- Whether an episode is open after one more announcement, and since when. -/
def openAfter (since? : Option Timestamp) (announcement : Announcement) : Option Timestamp :=
  match announcement.notice with
  | .entered time => some time
  | .exited _ => none
  | .satisfied _ _ | .violated _ _ => since?

/-- Since when an episode is open, as far as the user has been told. -/
def openSince? (told : List Announcement) : Option Timestamp :=
  told.foldl openAfter none

theorem verdicts_append (told more : List Announcement) :
    verdicts (told ++ more) = verdicts told ++ verdicts more :=
  List.filterMap_append

theorem openSince_append (told more : List Announcement) :
    openSince? (told ++ more) = more.foldl openAfter (openSince? told) :=
  List.foldl_append

/-- After complete rounds no verdict has been told, and no episode is open. -/
theorem Rounds.settled {told : List Announcement} (rounds : Rounds told) :
    verdicts told = [] ∧ openSince? told = none := by
  induction rounds with
  | empty => exact ⟨rfl, rfl⟩
  | more _ opening closing since time ih =>
      rw [verdicts_append, ih.1, openSince_append]
      exact ⟨rfl, rfl⟩

end Announcement

open Announcement

/-- What was told goes together with what is remembered. -/
structure Protocol (inst : Instance) (told : List Announcement) : Prop where
  form : ∃ rounds ending, told = rounds ++ ending ∧ Rounds rounds ∧ Ending ending
  verdict : verdicts told = (inst.verdict.bool?.map fun verdict => (verdict, inst.witness)).toList
  episode : inst.episodeStart? = openSince? told

/-- What was told, for each stage that a monitor may have reached before it was stopped. -/
inductive Announced (inst : Instance) : List Announcement → Prop where
  | waiting {rounds : List Announcement} (done : Rounds rounds)
      (stage : inst.state = .off ∨ inst.state = .inactive) (start : inst.episodeStart? = none)
      (unknown : inst.verdict = .unknown) : Announced inst rounds
  | entered {rounds : List Announcement} (done : Rounds rounds) {opening : Nat} {since : Timestamp}
      (stage : inst.state = .off ∨ inst.state.isOpen = true)
      (start : inst.episodeStart? = some since) (unknown : inst.verdict = .unknown) :
      Announced inst (rounds ++ [⟨opening, .entered since⟩])
  | concluded {rounds : List Announcement} (done : Rounds rounds) {opening last : Nat}
      {since time : Timestamp} {verdict : Bool}
      (stage : inst.state = .off ∨ inst.state = .ofVerdict verdict)
      (start : inst.episodeStart? = some since) (known : inst.verdict = .ofBool verdict) :
      Announced inst (rounds ++ [⟨opening, .entered since⟩,
        ⟨last, .ofVerdict verdict time inst.witness⟩])
  | closed {rounds : List Announcement} (done : Rounds rounds) {opening last : Nat}
      {since time : Timestamp} {verdict : Bool}
      (stage : inst.state = .off ∨ inst.state = .ofVerdict verdict)
      (start : inst.episodeStart? = none) (known : inst.verdict = .ofBool verdict) :
      Announced inst (rounds ++ [⟨opening, .entered since⟩, ⟨last, .exited time⟩,
        ⟨last, .ofVerdict verdict time inst.witness⟩])

namespace Announced

variable {inst next : Instance} {told : List Announcement}

theorem protocol (announced : Announced inst told) : Protocol inst told := by
  cases announced with
  | waiting done stage start unknown =>
      obtain ⟨none_told, shut⟩ := done.settled
      refine ⟨⟨told, [], (List.append_nil told).symm, done, .nothing⟩, ?_, ?_⟩
      · rw [none_told, unknown]
        rfl
      · rw [start, shut]
  | @entered rounds done opening since stage start unknown =>
      obtain ⟨none_told, shut⟩ := done.settled
      refine ⟨⟨_, _, rfl, done, .entered opening since⟩, ?_, ?_⟩
      · rw [verdicts_append, none_told, unknown]
        rfl
      · rw [openSince_append, start]
        rfl
  | @concluded rounds done opening last since time verdict stage start known =>
      obtain ⟨none_told, shut⟩ := done.settled
      refine ⟨⟨_, _, rfl, done, .concluded opening last since time verdict inst.witness⟩, ?_, ?_⟩
      · rw [verdicts_append, none_told, known]
        cases verdict <;> rfl
      · rw [openSince_append, start]
        cases verdict <;> rfl
  | @closed rounds done opening last since time verdict stage start known =>
      obtain ⟨none_told, shut⟩ := done.settled
      refine ⟨⟨_, _, rfl, done, .closed opening last since time verdict inst.witness⟩, ?_, ?_⟩
      · rw [verdicts_append, none_told, known]
        cases verdict <;> rfl
      · rw [openSince_append, start]
        cases verdict <;> rfl

/-- Stopping the monitor tells nothing and forgets nothing. -/
theorem stopped (announced : Announced inst told) (time : Timestamp) :
    Announced { inst with state := .off, shutdownTime? := some time } told := by
  cases announced with
  | waiting done _ start unknown => exact .waiting done (.inl rfl) start unknown
  | entered done _ start unknown => exact .entered done (.inl rfl) start unknown
  | concluded done _ start known => exact .concluded done (.inl rfl) start known
  | closed done _ start known => exact .closed done (.inl rfl) start known

/-- A call of a running monitor goes on with what was told. -/
theorem advance (announced : Announced inst told) (running : inst.state ≠ .off) {time : Timestamp}
    {notices : List Notice} (advance : Advance time inst next notices) (number : Nat) :
    Announced next (told ++ notices.map (Announcement.mk number)) := by
  cases announced with
  | waiting done stage start unknown =>
      have waiting : inst.state = .inactive := stage.resolve_left running
      have shut : ¬ inst.state.isOpen = true := by simp [waiting, State.isOpen]
      cases advance with
      | stays stage same unchanged =>
          rw [List.map_nil, List.append_nil]
          have still := stage.resolve_right fun both => shut both.1
          exact .waiting done (.inr (still.trans waiting)) (same.trans start)
            (unchanged.trans unknown)
      | enters _ isOpen begun unchanged =>
          exact .entered done (.inr isOpen) begun (unchanged.trans unknown)
      | leaves isOpen => exact absurd isOpen shut
      | concludes isOpen => exact absurd isOpen shut
      | closes isOpen => exact absurd isOpen shut
  | @entered rounds done opening since stage start unknown =>
      have isOpen : inst.state.isOpen = true := stage.resolve_left running
      cases advance with
      | stays stage same unchanged =>
          rw [List.map_nil, List.append_nil]
          refine .entered done (.inr ?_) (same.trans start) (unchanged.trans unknown)
          rcases stage with still | both
          · rw [still, isOpen]
          · exact both.2
      | enters waiting => simp [waiting, State.isOpen] at isOpen
      | leaves _ waiting ended unchanged =>
          rw [List.append_assoc]
          exact .waiting (done.more opening number since time) (.inr waiting) ended
            (unchanged.trans unknown)
      | concludes _ settled same known =>
          rw [List.append_assoc]
          exact .concluded done (.inr settled) (same.trans start) known
      | closes _ settled ended known =>
          rw [List.append_assoc]
          exact .closed done (.inr settled) ended known
  | concluded done stage start known =>
      have settled := stage.resolve_left running
      obtain ⟨rfl, state, same, unchanged, witness⟩ := Advance.of_settled settled advance
      rw [List.map_nil, List.append_nil, ← witness]
      exact .concluded done (.inr (state.trans settled)) (same.trans start) (unchanged.trans known)
  | closed done stage start known =>
      have settled := stage.resolve_left running
      obtain ⟨rfl, state, same, unchanged, witness⟩ := Advance.of_settled settled advance
      rw [List.map_nil, List.append_nil, ← witness]
      exact .closed done (.inr (state.trans settled)) (same.trans start) (unchanged.trans known)

end Announced

namespace Monitor

/-- What has been told since the last launch or reset that succeeded, after one more operation. -/
def hear (monitor : Monitor) (number : Nat) (told : List Announcement) (operation : Operation) :
    List Announcement :=
  let ended := monitor.outcome operation
  let heard := ended.calls.map (Announcement.mk number)
  if operation.restarts && ended.result.isOk then heard else told ++ heard

/-- What has been told since the last launch or reset that succeeded, after more operations. -/
def tell (monitor : Monitor) (number : Nat) (told : List Announcement) :
    List Operation → List Announcement
  | [] => told
  | operation :: rest =>
      (monitor.perform operation).tell (number + 1) (monitor.hear number told operation) rest

/-- What the callbacks of a monitor have been told since its last launch or reset. -/
def transcript (monitor : Monitor) (operations : List Operation) : List Announcement :=
  monitor.tell 0 [] operations

section Compiled

variable {property : Property} {core : Core} {monitor : Monitor} {told : List Announcement}
  (made : property.pattern.core property.scope.kind.isReentrant = .ok core)

include made

/-- A launch tells that an episode has opened if the scope waits for no activator. -/
theorem announced_launched (time : Timestamp) (number : Nat) :
    Announced ((property.assemble core).launched time)
      (((property.assemble core).launch (Instance.off (property.assemble core)) time).notices.map
        (Announcement.mk number)) := by
  have state : ((property.assemble core).launched time).state =
      if property.scope.kind.hasActivator then .inactive else core.entry := rfl
  have start : ((property.assemble core).launched time).episodeStart? =
      if !property.scope.kind.hasActivator then some time else none := rfl
  have notices : ((property.assemble core).launch (Instance.off (property.assemble core))
      time).notices = (Instance.scopeEffects
        (if !property.scope.kind.hasActivator then .enter else .none) time).filterMap
          Effect.notice? := rfl
  rw [notices]
  cases activated : property.scope.kind.hasActivator with
  | true =>
      rw [activated] at state start
      exact .waiting .empty (.inr state) start rfl
  | false =>
      rw [activated] at state start
      have isOpen : core.entry.isOpen = true := by
        rw [(Property.core_states made).1]
        cases property.pattern.kind <;> rfl
      exact Announced.entered .empty (.inr (state ▸ isOpen)) start rfl

/-- Every operation goes on with what was told, or begins anew. -/
theorem announced_execute {inst : Instance} (announced : Announced inst told) (number : Nat)
    (operation : Operation) :
    let step := (property.assemble core).execute inst operation
    let heard := step.notices.map (Announcement.mk number)
    Announced step.inst
      (if operation.restarts && step.result.isOk then heard else told ++ heard) := by
  dsimp only
  by_cases misplaced : operation.Misplaced inst.state
  · obtain ⟨error, refused⟩ := (property.assemble core).execute_of_misplaced misplaced
    rw [refused]
    simpa [Step.notices, Except.isOk, Except.toBool] using announced
  · cases operation with
    | launch time =>
        rw [Machine.execute, Machine.launch_of_off _ (not_not.mp misplaced)]
        exact announced_launched made time number
    | reset =>
        rw [Machine.execute, Machine.reset_of_off _ (not_not.mp misplaced)]
        exact .waiting .empty (.inl rfl) rfl rfl
    | shutdown time =>
        rw [Machine.execute, Machine.shutdown_of_on misplaced]
        change Announced { inst with state := .off, shutdownTime? := some time } (told ++ [])
        rw [List.append_nil]
        exact announced.stopped time
    | call call =>
        by_cases isOff : inst.state = .off
        · rw [Machine.execute_of_off _ isOff]
          change Announced inst (told ++ [])
          rwa [List.append_nil]
        · exact announced.advance isOff (Property.execute_advances made inst call) number

/-- Whatever the user asks of a monitor, what was told goes on as it should. -/
theorem announced_hear (kept : monitor.Kept (property.assemble core))
    (receptive : monitor.callbacks.Receptive) (announced : Announced monitor.inst told)
    (number : Nat) (operation : Operation) :
    Announced (monitor.perform operation).inst (monitor.hear number told operation) := by
  cases poisoned : monitor.isPoisoned with
  | true =>
      rw [← outcome_monitor, hear, outcome_of_poisoned poisoned]
      simpa [Except.isOk, Except.toBool] using announced
  | false =>
      obtain ⟨result, calls, after⟩ := run_notices poisoned operation.name fun inst =>
        monitor.machine.execute inst operation
      rw [receptive.inform_eq] at result calls after
      rw [← outcome_monitor, hear, outcome_eq, result, calls, after, kept.machine_eq]
      exact announced_execute made announced number operation

/-- So it is after any number of operations. -/
theorem announced_tell (kept : monitor.Kept (property.assemble core))
    (receptive : monitor.callbacks.Receptive) (announced : Announced monitor.inst told)
    (number : Nat) (operations : List Operation) :
    Announced (monitor.after operations).inst (monitor.tell number told operations) := by
  induction operations generalizing monitor number told with
  | nil => exact announced
  | cons operation rest ih =>
      exact ih (kept.perform made operation) (monitor.callbacks_perform operation ▸ receptive)
        (announced_hear made kept receptive announced number operation) (number + 1)

end Compiled

/-- Since the last launch of a monitor, its callbacks hear of episodes that open and close, and of
one verdict at most, in the right order, whatever its user does and whichever test crashes. -/
theorem protocol_after {property : Property} {machine : Machine}
    (compiled : property.compile = .ok machine) {callbacks : Callbacks}
    (receptive : callbacks.Receptive) (operations : List Operation) :
    Protocol ((fresh machine callbacks).after operations).inst
      ((fresh machine callbacks).transcript operations) := by
  obtain ⟨_, core, made, rfl⟩ := property.compile_cases compiled
  have fresh_announced : Announced (Instance.off (property.assemble core)) [] :=
    .waiting .empty (.inl rfl) rfl rfl
  exact (announced_tell made (kept_after made callbacks []) receptive fresh_announced 0
    operations).protocol

/-- A request is answered in the first episode, and another one is still open at the end of the
second. -/
theorem protocol_answered :
    ∃ machine callbacks operations, Property.answered.compile = .ok machine ∧
      callbacks.Receptive ∧
      operations = [.launch (.ofNanos 0), .call (.message "start" ⟨[]⟩ (.ofNanos 1)),
        .call (.message "request" ⟨[("id", .int 7)]⟩ (.ofNanos 2)),
        .call (.message "reply" ⟨[("id", .int 7)]⟩ (.ofNanos 3)),
        .call (.message "stop" ⟨[]⟩ (.ofNanos 4)), .call (.message "start" ⟨[]⟩ (.ofNanos 5)),
        .call (.message "request" ⟨[("id", .int 8)]⟩ (.ofNanos 6)),
        .call (.message "stop" ⟨[]⟩ (.ofNanos 7)), .shutdown (.ofNanos 8)] ∧
      ((fresh machine callbacks).transcript operations).length = 5 ∧
      Protocol ((fresh machine callbacks).after operations).inst
        ((fresh machine callbacks).transcript operations) := by
  refine ⟨_, ⟨some fun _ _ => .ok (), some fun _ _ => .ok (), some fun _ => .ok (),
    some fun _ => .ok ()⟩, _, rfl, ?_, rfl, rfl,
    protocol_after (show Property.answered.compile = _ from rfl) ?_ _⟩
  · intro notice
    cases notice <;> rfl
  · intro notice
    cases notice <;> rfl

end Monitor

end TemporalMonitor
