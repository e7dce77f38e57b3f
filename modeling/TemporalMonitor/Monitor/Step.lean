import TemporalMonitor.Monitor.Log

/-!
The steps of a monitor: how a machine changes an instance, and which effects that has.

A message first lets the time pass, so that deadlines apply, and is then offered to the rules of
its topic and of the present state. The first rule whose guard holds applies.
-/

namespace TemporalMonitor

/-- The end of a step: its result, what the monitor remembers, and the effects on the way. -/
structure Step (α : Type) where
  result : Except Failure α
  inst : Instance
  effects : List Effect

namespace Step

def done {α : Type} (value : α) (inst : Instance) (effects : List Effect) : Step α :=
  ⟨.ok value, inst, effects⟩

/-- Goes on from where a step ended, unless it failed. -/
def andThen {α β : Type} (first : Step α) (next : α → Instance → Step β) : Step β :=
  match first.result with
  | .ok value =>
      let second := next value first.inst
      { second with effects := first.effects ++ second.effects }
  | .error failure => ⟨.error failure, first.inst, first.effects⟩

end Step

namespace Instance

/-- The bindings of the witness and of one pooled record. -/
def bindingsWith (inst : Instance) (pooled : Record) : Bindings :=
  match pooled.alias? with
  | some name => inst.bindings.bind name pooled.message
  | none => inst.bindings

/-- The test of a rule together with a pooled record. -/
def testPooled (inst : Instance) (rule : Rule) (message : Message) (pooled : Record) :
    Except Crash Bool :=
  rule.predicate.test message (inst.bindingsWith pooled)

/-- Whether one of the records passes; no more of them are tested than needed. -/
def anyPasses (test : Record → Except Crash Bool) : List Record → Except Crash Bool
  | [] => .ok false
  | record :: rest => do
      if ← test record then .ok true else anyPasses test rest

def guardHolds (inst : Instance) (message : Message) (rule : Rule) : Except Crash Bool :=
  match rule.reaction.guard with
  | .message => rule.predicate.test message inst.bindings
  | .undecided => (rule.predicate.testPartial message inst.bindings).map (· != some false)
  | .anyPooled | .consumePooled =>
      anyPasses (inst.testPooled rule message) inst.pool.newestFirst

/-- The first rule whose guard holds. -/
def select (inst : Instance) (message : Message) : List Rule → Except Crash (Option Rule)
  | [] => .ok none
  | rule :: rest => do
      if ← inst.guardHolds message rule then .ok (some rule) else inst.select message rest

/-- Time that runs backwards is only noted. -/
def observe (inst : Instance) (time : Timestamp) : Instance × List Effect :=
  match inst.latestSeen? with
  | some latest =>
      if time < latest then (inst, [.log (.timeReversed time latest)])
      else ({ inst with latestSeen? := some time }, [])
  | none => ({ inst with latestSeen? := some time }, [])

/-- Changes the state, and the verdict if one is given. -/
def transition (inst : Instance) (next : State) (verdict? : Option Bool) (time : Timestamp) :
    Instance × List Effect :=
  let moved :=
    if next = inst.state then inst
    else { inst with state := next, lastTransition? := some time }
  match verdict? with
  | some verdict =>
      ({ moved with verdict := .ofBool verdict },
        [.log (.verdictReached (.ofBool verdict) moved.witness.length time)])
  | none => (moved, [])

/-- The notice of a verdict. -/
def verdictEffects (inst : Instance) (verdict? : Option Bool) (time : Timestamp) : List Effect :=
  match verdict? with
  | some verdict => [.notify (.ofVerdict verdict time inst.witness)]
  | none => []

def scopeEffects (action : ScopeAction) (time : Timestamp) : List Effect :=
  match action with
  | .none => []
  | .enter => [.log (.scopeEntered time), .notify (.entered time)]
  | .exit => [.log (.scopeExited time), .notify (.exited time)]

def emptyPool : Failure :=
  .error (.internal "pending witness requested from an empty pool")

/-- The records that a rule adds to the witness. -/
def additions (inst : Instance) (action : WitnessAction) (record : Record) :
    Except Failure (List Record) :=
  match action, inst.pool.oldest? with
  | .keep, _ | .reset, _ => .ok []
  | .record, _ => .ok [record]
  | .recordPending, some oldest => .ok [oldest]
  | .recordBoth, some oldest => .ok [oldest, record]
  | .recordPending, none | .recordBoth, none => .error emptyPool

/-- Takes the records out of the pool that the message discharges. -/
def discharge (inst : Instance) (rule : Rule) (message : Message) : Step Unit :=
  match rule.reaction.guard with
  | .consumePooled =>
      match inst.pool.consume (inst.testPooled rule message) with
      | .ok (taken, pool) =>
          .done () { inst with pool := pool } [.log (.discharged taken.length pool.size)]
      | .error crash => ⟨.error (.crash crash), inst, []⟩
  | _ => .done () inst []

/-- What a rule does with the pool. -/
def store (inst : Instance) (action : PoolAction) (record : Record) : Step Unit :=
  match action with
  | .keep => .done () inst []
  | .push =>
      match inst.pool.push record with
      | .ok pool => .done () { inst with pool := pool } []
      | .error crash => ⟨.error (.crash crash), inst, []⟩
  | .replace =>
      match inst.pool.replace record with
      | (.ok true, pool) => .done () { inst with pool := pool } []
      | (.ok false, pool) =>
          .done () { inst with pool := pool } [.log (.lateRecord record.timestamp)]
      | (.error crash, pool) => ⟨.error (.crash crash), { inst with pool := pool }, []⟩
  | .clear => .done () { inst with pool := inst.pool.clear } []

/-- The witness after a rule. -/
def justify (inst : Instance) (action : WitnessAction) (added : List Record) : Instance :=
  match action with
  | .reset => { inst with witness := added }
  | _ => { inst with witness := inst.witness ++ added }

/-- The episode after a rule. -/
def rescope (inst : Instance) (action : ScopeAction) (time : Timestamp) : Instance :=
  match action with
  | .none => inst
  | .enter => { inst with episodeStart? := some time }
  | .exit => { inst with episodeStart? := none }

def nextState (inst : Instance) : Next → State
  | .stay => inst.state
  | .goto state => state
  | .drain empty otherwise => if inst.pool.isEmpty then empty else otherwise

/-- The last part of a rule: the witness, the episode and the state. -/
def settle (inst : Instance) (rule : Rule) (topic : String) (time : Timestamp)
    (added : List Record) : Step Unit :=
  let reaction := rule.reaction
  let justified := (inst.justify reaction.witness added).rescope reaction.scope time
  let next := justified.nextState reaction.next
  let (moved, reached) := justified.transition next reaction.verdict? time
  .done () moved
    (.log (.ruleFired rule.role topic justified.state next) :: reached ++
      scopeEffects reaction.scope time ++ moved.verdictEffects reaction.verdict? time)

/-- Applies a rule whose guard holds. -/
def apply (inst : Instance) (rule : Rule) (topic : String) (message : Message)
    (time : Timestamp) : Step Unit :=
  let record : Record :=
    { topic := topic, timestamp := time, message := message, alias? := rule.alias? }
  match inst.additions rule.reaction.witness record with
  | .error failure => ⟨.error failure, inst, []⟩
  | .ok added =>
      (inst.discharge rule message).andThen fun _ inst =>
        (inst.store rule.reaction.pool record).andThen fun _ inst =>
          inst.settle rule topic time added

end Instance

namespace Machine

/-- Where the time of a deadline starts to count, if it does. -/
def reference? (inst : Instance) : Anchor → Option Timestamp
  | .episodeStart => inst.episodeStart?
  | .oldestPooled => inst.pool.oldest?.map Record.timestamp

/-- Drops pooled records that are too old. -/
def evict (inst : Instance) (age : Duration) (now : Timestamp) : Step Unit :=
  let pool := inst.pool.evict now age
  let count := inst.pool.size - pool.size
  .done () { inst with pool := pool }
    (if count = 0 then [] else [.log (.evicted count pool.size)])

/-- The witness after a deadline. -/
def expire (inst : Instance) (action : WitnessAction) : Except Failure Instance :=
  match action with
  | .keep => .ok inst
  | .recordPending =>
      match inst.pool.oldest? with
      | some oldest => .ok { inst with witness := inst.witness ++ [oldest] }
      | none => .error Instance.emptyPool
  | other =>
      .error (.error (.internal
        ("deadline rule cannot apply witness action " ++ other.describe)))

/-- The transition of a deadline that has passed. -/
def overrun (inst : Instance) (action : WitnessAction) (verdict? : Option Bool) (next : State)
    (now : Timestamp) : Step Unit :=
  match expire inst action with
  | .error failure => ⟨.error failure, inst, []⟩
  | .ok justified =>
      let (moved, reached) := justified.transition next verdict? now
      .done () moved
        (.log (.deadlinePassed inst.state next now) :: reached ++
          moved.verdictEffects verdict? now)

/-- Applies the deadline of the present state. -/
def checkDeadline (machine : Machine) (inst : Instance) (now : Timestamp) : Step Unit :=
  match machine.deadline? inst.state, machine.bound with
  | some deadline, .within span =>
      match deadline.effect with
      | .evict => evict inst span now
      | .transition action verdict? next =>
          match reference? inst deadline.anchor with
          | some reference =>
              if machine.bound.hasElapsed reference now then
                overrun inst action verdict? next now
              else .done () inst []
          | none => .done () inst []
  | _, _ => .done () inst []

/-- Lets the time pass. -/
def onTimer (machine : Machine) (inst : Instance) (now : Timestamp) : Step Unit :=
  if inst.state.isOff then .done () inst []
  else
    let (observed, effects) := inst.observe now
    let checked := machine.checkDeadline observed now
    { checked with effects := effects ++ checked.effects }

/-- Offers a message to the rules of the present state, and says whether one of them applied. -/
def offer (machine : Machine) (inst : Instance) (topic : String) (message : Message)
    (time : Timestamp) : Step Bool :=
  if inst.state.isTerminal then .done false inst []
  else match inst.select message (machine.rulesAt topic inst.state) with
    | .error crash => ⟨.error (.crash crash), inst, []⟩
    | .ok none => .done false inst []
    | .ok (some rule) =>
        (inst.apply rule topic message time).andThen fun _ inst => .done true inst []

/-- Lets the time pass up to the message, and then offers the message. -/
def onMessage (machine : Machine) (inst : Instance) (topic : String) (message : Message)
    (time : Timestamp) : Step Bool :=
  if inst.state.isOff then .done false inst []
  else (machine.onTimer inst time).andThen fun _ inst => machine.offer inst topic message time

/-- Starts anew. A scope that waits for no activator opens at once. -/
def launch (machine : Machine) (inst : Instance) (time : Timestamp) : Step Unit :=
  if inst.state.isOff then
    let fresh : Instance := { Instance.off machine with
      state := machine.initial
      launchTime? := some time
      lastTransition? := some time
      latestSeen? := some time
      episodeStart? := if machine.entersOnLaunch then some time else none }
    .done () fresh
      (.log (.launched machine.initial time) ::
        Instance.scopeEffects (if machine.entersOnLaunch then .enter else .none) time)
  else ⟨.error (.error (.execution (.alreadyActive inst.state.name))), inst, []⟩

/-- Stops the monitor. Verdict and witness can still be looked at. -/
def shutdown (inst : Instance) (time : Timestamp) : Step Unit :=
  if inst.state.isOff then ⟨.error (.error (.execution .notActive)), inst, []⟩
  else
    .done () { inst with state := .off, shutdownTime? := some time }
      [.log (.shutDown inst.state inst.verdict time)]

/-- Forgets the last run. -/
def reset (machine : Machine) (inst : Instance) : Step Unit :=
  if inst.state.isOff then .done () (Instance.off machine) []
  else ⟨.error (.error (.execution (.alreadyActive inst.state.name))), inst, []⟩

end Machine

end TemporalMonitor
