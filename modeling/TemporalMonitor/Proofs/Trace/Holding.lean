import Mathlib.Data.List.Induction
import TemporalMonitor.Proofs.Monitor.Pool
import TemporalMonitor.Proofs.Property.Scoped
import TemporalMonitor.Proofs.Trace.Trigger

/-!
Triggers that are held for later behaviors.

When time passes, the held records are dropped from the oldest one on, up to the first one whose time
has not elapsed. A new trigger is filed with the others if behaviors read it. Otherwise it takes their
place, unless a newer one is held. If times elapse in order, then the held triggers allow the same
behaviors as all those together whose time has not elapsed at any call since.
-/

namespace TemporalMonitor

/-- What is left of some records at this time: the first one whose time has not elapsed, and all that
stand behind it. -/
def Bound.remaining (bound : Bound) (now : Timestamp) (records : List Record) : List Record :=
  records.dropWhile fun record => bound.hasElapsed record.timestamp now

/-- The records with one more: it stands among them if records are read, and otherwise instead of
them, unless one of them is newer. -/
def Record.joined (record : Record) (isCorrelated : Bool) (records : List Record) : List Record :=
  if isCorrelated then record.filed records
  else if records.any fun other => decide (record.timestamp < other.timestamp) then records
  else [record]

namespace Bound

theorem remaining_sublist (bound : Bound) (now : Timestamp) (records : List Record) :
    (bound.remaining now records).Sublist records :=
  List.dropWhile_sublist _

variable {bound : Bound} {now : Timestamp} {record : Record} {records : List Record}

@[simp] theorem remaining_unbounded : unbounded.remaining now records = records := by
  cases records <;> rfl

theorem remaining_cons_of_elapsed (elapsed : bound.hasElapsed record.timestamp now = true) :
    bound.remaining now (record :: records) = bound.remaining now records := by
  rw [remaining, List.dropWhile_cons, elapsed, if_pos rfl, remaining]

theorem remaining_cons_of_inTime (inTime : bound.hasElapsed record.timestamp now = false) :
    bound.remaining now (record :: records) = record :: records := by
  rw [remaining, List.dropWhile_cons, inTime, if_neg (by decide)]

/-- A record whose time has not elapsed is not dropped. -/
theorem mem_remaining (member : record ∈ records)
    (inTime : bound.hasElapsed record.timestamp now = false) :
    record ∈ bound.remaining now records := by
  induction records with
  | nil => exact absurd member List.not_mem_nil
  | cons first rest ih =>
      cases elapsed : bound.hasElapsed first.timestamp now with
      | false =>
          rw [remaining_cons_of_inTime elapsed]
          exact member
      | true =>
          rw [remaining_cons_of_elapsed elapsed]
          refine ih ((List.mem_cons.mp member).resolve_left fun same => ?_)
          rw [← same, inTime] at elapsed
          cases elapsed

/-- Nothing else is left if times elapse in the order of the records. -/
theorem hasElapsed_of_remaining
    (inOrder : records.Pairwise fun first second =>
      bound.hasElapsed second.timestamp now = true → bound.hasElapsed first.timestamp now = true)
    (member : record ∈ bound.remaining now records) :
    bound.hasElapsed record.timestamp now = false := by
  rw [remaining, dropWhile_eq_filter inOrder, List.mem_filter, Bool.not_eq_true'] at member
  exact member.2

end Bound

namespace Record

variable {isCorrelated : Bool} {record other : Record} {records : List Record}

theorem mem_of_joined (member : other ∈ record.joined isCorrelated records) :
    other = record ∨ other ∈ records := by
  unfold joined at member
  split at member
  · exact mem_filed.mp member
  · split at member
    · exact .inr member
    · exact .inl (List.mem_singleton.mp member)

/-- The record stands for itself, or a newer one does. -/
theorem exists_joined :
    ∃ pooled ∈ record.joined isCorrelated records, Covers isCorrelated (· ≥ ·) pooled record := by
  unfold joined
  split
  · exact ⟨record, mem_filed.mpr (.inl rfl), covers_self (fun _ => Std.le_refl _) record⟩
  · next unread =>
      split
      · next newer =>
          obtain ⟨other, member, later⟩ := List.any_eq_true.mp newer
          refine ⟨other, member, ?_⟩
          rw [Covers, if_neg unread]
          exact Std.le_of_lt (of_decide_eq_true later)
      · exact ⟨record, List.mem_singleton.mpr rfl, covers_self (fun _ => Std.le_refl _) record⟩

/-- What a record does for, it still does for, or the new one does. -/
theorem exists_joined_of_mem {pooled : Record} (member : pooled ∈ records)
    (covers : Covers isCorrelated (· ≥ ·) pooled other) :
    ∃ pooled ∈ record.joined isCorrelated records, Covers isCorrelated (· ≥ ·) pooled other := by
  unfold joined
  split
  · exact ⟨pooled, mem_filed.mpr (.inr member), covers⟩
  · next unread =>
      split
      · exact ⟨pooled, member, covers⟩
      · next newest =>
          refine ⟨record, List.mem_singleton.mpr rfl, ?_⟩
          rw [Covers, if_neg unread] at covers ⊢
          have notNewer : ¬ record.timestamp < pooled.timestamp := fun later =>
            newest (List.any_eq_true.mpr ⟨pooled, member, decide_eq_true later⟩)
          exact Std.le_trans covers (Std.not_lt.mp notNewer)

theorem joined_ascending
    (ascending : records.Pairwise fun first second => first.timestamp ≤ second.timestamp) :
    (record.joined isCorrelated records).Pairwise fun first second =>
      first.timestamp ≤ second.timestamp := by
  unfold joined
  split
  · exact filed_ascending ascending
  · split
    · exact ascending
    · exact List.pairwise_singleton _ _

/-- Where records are not read, at most one is kept. -/
theorem length_joined_le (single : records.length ≤ 1) :
    (record.joined false records).length ≤ 1 := by
  rw [joined, if_neg (by decide)]
  split
  · exact single
  · exact Nat.le_refl 1

end Record

section Holding

variable (scope : Scope) (trigger : Event) (bindings : Bindings) (isCorrelated : Bool)
  (bound : Bound)

/-- The record of the call if it is a trigger that does not close the episode. -/
def Call.trigger? (call : Call) : Option Record :=
  if trigger.occurs bindings call && !scope.closes bindings call then call.record? trigger.alias?
  else none

/-- The records that are held after one more call. -/
def hold (records : List Record) (call : Call) : List Record :=
  let left := bound.remaining call.time records
  (call.trigger? scope trigger bindings).elim left fun record => record.joined isCorrelated left

/-- The records that are held after some calls. -/
def held (calls : List Call) : List Record :=
  calls.foldl (hold scope trigger bindings isCorrelated bound) []

/-- The time of a trigger has not elapsed at the call. -/
def inTime (record : Record) (call : Call) : Bool :=
  !bound.hasElapsed record.timestamp call.time

variable {scope trigger bindings isCorrelated bound} {calls : List Call} {call : Call}
  {record : Record} {records : List Record}

theorem Call.triggers_iff :
    call.Triggers scope trigger bindings record ↔
      call.trigger? scope trigger bindings = some record := by
  unfold Call.Triggers Call.trigger?
  rw [← Bool.not_eq_true', ← and_assoc, ← Bool.and_eq_true]
  split
  · next triggers => exact ⟨And.right, fun recorded => ⟨triggers, recorded⟩⟩
  · next other => exact ⟨fun both => absurd both.1 other, fun nothing => by cases nothing⟩

theorem hold_of_triggers (triggers : call.Triggers scope trigger bindings record) :
    hold scope trigger bindings isCorrelated bound records call =
      record.joined isCorrelated (bound.remaining call.time records) := by
  rw [hold, Call.triggers_iff.mp triggers]
  rfl

/-- A call that is no trigger, or that closes the episode, leaves what time has left. -/
theorem hold_of_untriggered (untriggered : ¬ ∃ record, call.Triggers scope trigger bindings record) :
    hold scope trigger bindings isCorrelated bound records call =
      bound.remaining call.time records := by
  have nothing : call.trigger? scope trigger bindings = none :=
    Option.eq_none_iff_forall_ne_some.mpr fun record found =>
      untriggered ⟨record, Call.triggers_iff.mpr found⟩
  rw [hold, nothing]
  rfl

theorem hold_of_other (other : trigger.occurs bindings call = false) :
    hold scope trigger bindings isCorrelated bound records call =
      bound.remaining call.time records := by
  refine hold_of_untriggered ?_
  rintro ⟨_, occurs, _⟩
  rw [other] at occurs
  cases occurs

theorem held_append :
    held scope trigger bindings isCorrelated bound (calls ++ [call]) =
      hold scope trigger bindings isCorrelated bound
        (held scope trigger bindings isCorrelated bound calls) call :=
  List.foldl_append

/-- What is held after one more call is this call or was left by it. -/
theorem mem_of_hold (member : record ∈ hold scope trigger bindings isCorrelated bound records call) :
    call.Triggers scope trigger bindings record ∨ record ∈ bound.remaining call.time records := by
  by_cases triggers : ∃ added, call.Triggers scope trigger bindings added
  · obtain ⟨added, triggers⟩ := triggers
    rw [hold_of_triggers triggers] at member
    rcases Record.mem_of_joined member with rfl | old
    · exact .inl triggers
    · exact .inr old
  · rw [hold_of_untriggered triggers] at member
    exact .inr member

/-- All that is held are triggers. -/
theorem exists_of_held (member : record ∈ held scope trigger bindings isCorrelated bound calls) :
    ∃ source ∈ calls, source.Triggers scope trigger bindings record := by
  induction calls using List.reverseRecOn with
  | nil => exact absurd member List.not_mem_nil
  | append_singleton calls call ih =>
      rw [held_append] at member
      rcases mem_of_hold member with triggers | left
      · exact ⟨call, by simp, triggers⟩
      · obtain ⟨source, among, triggers⟩ := ih ((bound.remaining_sublist _ _).subset left)
        exact ⟨source, List.mem_append_left _ among, triggers⟩

theorem time_of_held (member : record ∈ held scope trigger bindings isCorrelated bound calls) :
    record.timestamp ∈ calls.map Call.time := by
  obtain ⟨source, among, triggers⟩ := exists_of_held member
  rw [triggers.time_eq]
  exact List.mem_map_of_mem among

/-- What holds of all parts of a list and stays true with one more record is true of what is held. -/
theorem held_invariant {motive : List Record → Prop} (nothing : motive [])
    (part : ∀ {fewer records : List Record}, fewer.Sublist records → motive records →
      motive fewer)
    (more : ∀ (record : Record) {records : List Record}, motive records →
      motive (record.joined isCorrelated records)) (calls : List Call) :
    motive (held scope trigger bindings isCorrelated bound calls) := by
  induction calls using List.reverseRecOn with
  | nil => exact nothing
  | append_singleton calls call ih =>
      have left := part (bound.remaining_sublist call.time _) ih
      rw [held_append]
      by_cases triggers : ∃ record, call.Triggers scope trigger bindings record
      · obtain ⟨record, triggers⟩ := triggers
        rw [hold_of_triggers triggers]
        exact more record left
      · rw [hold_of_untriggered triggers]
        exact left

/-- What is held ascends by the timestamps. -/
theorem held_ascending (calls : List Call) :
    (held scope trigger bindings isCorrelated bound calls).Pairwise fun first second =>
      first.timestamp ≤ second.timestamp :=
  held_invariant List.Pairwise.nil (fun part ascending => ascending.sublist part)
    (fun _ _ => Record.joined_ascending) calls

theorem length_held_le (calls : List Call) :
    (held scope trigger bindings false bound calls).length ≤ 1 :=
  held_invariant (motive := fun records => records.length ≤ 1) (Nat.zero_le 1)
    (fun part single => Nat.le_trans part.length_le single)
    (fun _ _ => Record.length_joined_le) calls

/-- At most one record is held where triggers are not read, so there is none behind another one. -/
theorem held_elapses_inOrder {now : Timestamp}
    (inOrder : isCorrelated = true → bound.ElapsesInOrder (now :: calls.map Call.time)) :
    (held scope trigger bindings isCorrelated bound calls).Pairwise fun first second =>
      bound.hasElapsed second.timestamp now = true →
        bound.hasElapsed first.timestamp now = true := by
  cases isCorrelated with
  | true =>
      refine List.Pairwise.imp_of_mem (fun {first second} earlier later order => ?_)
        (held_ascending calls)
      exact inOrder rfl now List.mem_cons_self first.timestamp
        (List.mem_cons_of_mem _ (time_of_held earlier)) second.timestamp
        (List.mem_cons_of_mem _ (time_of_held later)) order
  | false =>
      cases kept : held scope trigger bindings false bound calls with
      | nil => exact List.Pairwise.nil
      | cons first rest =>
          have single : (held scope trigger bindings false bound calls).length ≤ 1 :=
            length_held_le calls
          rw [kept, List.length_cons] at single
          obtain rfl : rest = [] := List.eq_nil_of_length_eq_zero (by omega)
          exact List.pairwise_singleton _ _

/-- What is held stands, if it is alone or times elapse in order. -/
theorem standing_of_held
    (inOrder : isCorrelated = true → bound.ElapsesInOrder (calls.map Call.time))
    (member : record ∈ held scope trigger bindings isCorrelated bound calls) :
    Standing scope trigger bindings (inTime bound) calls record := by
  induction calls using List.reverseRecOn generalizing record with
  | nil => exact absurd member List.not_mem_nil
  | append_singleton calls call ih =>
      have now (correlated : isCorrelated = true) :
          bound.ElapsesInOrder (call.time :: calls.map Call.time) :=
        (inOrder correlated).mono fun time among => by
          rw [List.map_append, List.mem_append]
          rcases List.mem_cons.mp among with rfl | earlier
          · exact .inr List.mem_cons_self
          · exact .inl earlier
      rw [held_append] at member
      rcases mem_of_hold member with triggers | left
      · exact standing_append.mpr (.inr triggers)
      · have stood := ih (fun correlated => (now correlated).mono fun _ => List.mem_cons_of_mem _)
          ((bound.remaining_sublist _ _).subset left)
        have intact := Bound.hasElapsed_of_remaining (held_elapses_inOrder now) left
        refine standing_append.mpr (.inl ⟨stood, ?_⟩)
        rw [inTime, intact]
        rfl

/-- What stands is held, or a newer one does for it if times elapse in order. -/
theorem held_of_standing
    (inOrder : isCorrelated = false → bound.ElapsesInOrder (calls.map Call.time))
    (standing : Standing scope trigger bindings (inTime bound) calls record) :
    ∃ pooled ∈ held scope trigger bindings isCorrelated bound calls,
      Covers isCorrelated (· ≥ ·) pooled record := by
  induction calls using List.reverseRecOn with
  | nil => exact absurd standing not_standing_nil
  | append_singleton calls call ih =>
      rw [held_append]
      rcases standing_append.mp standing with ⟨stood, kept⟩ | triggers
      · have fewer (unread : isCorrelated = false) : bound.ElapsesInOrder (calls.map Call.time) :=
          (inOrder unread).mono fun time earlier => by
            rw [List.map_append]
            exact List.mem_append_left _ earlier
        obtain ⟨pooled, member, covers⟩ := ih fewer stood
        rw [inTime, Bool.not_eq_true'] at kept
        have intact : bound.hasElapsed pooled.timestamp call.time = false := by
          cases isCorrelated with
          | true =>
              rw [covers.eq_of_correlated rfl]
              exact kept
          | false =>
              -- The pooled record is not older, so it is in time as long as the other one.
              rw [Bool.eq_false_iff] at kept ⊢
              have known (time : Timestamp) (earlier : time ∈ calls.map Call.time) :
                  time ∈ (calls ++ [call]).map Call.time := by
                rw [List.map_append]
                exact List.mem_append_left _ earlier
              exact fun elapsed => kept (inOrder rfl call.time (by simp) record.timestamp
                (known _ stood.time_mem) pooled.timestamp (known _ (time_of_held member))
                (covers.ordered fun _ => Std.le_refl _) elapsed)
        have left := Bound.mem_remaining member intact
        by_cases triggers : ∃ added, call.Triggers scope trigger bindings added
        · obtain ⟨added, triggers⟩ := triggers
          rw [hold_of_triggers triggers]
          exact Record.exists_joined_of_mem left covers
        · rw [hold_of_untriggered triggers]
          exact ⟨pooled, left, covers⟩
      · rw [hold_of_triggers triggers]
        exact Record.exists_joined

end Holding

namespace Episode

variable {scope : Scope} {behavior trigger : Event} {bound : Bound} {episode : Episode} {call : Call}
  {bindings : Bindings} {earlier : List Call}

/-- A trigger among the earlier calls allows the behavior, and its time has not elapsed since. -/
def Allowed (scope : Scope) (behavior trigger : Event) (bound : Bound) (bindings : Bindings)
    (earlier : List Call) (call : Call) : Prop :=
  ∃ record rest, Triggered scope trigger bindings earlier record rest ∧
    (∀ later ∈ rest ++ [call], bound.hasElapsed record.timestamp later.time = false) ∧
    behavior.occurs (bindings.withRecord record) call = true

/-- A trigger that is held allows the behavior. -/
def Backed (scope : Scope) (behavior trigger : Event) (bound : Bound) (bindings : Bindings)
    (earlier : List Call) (call : Call) : Prop :=
  ∃ record ∈ bound.remaining call.time
      (held scope trigger bindings (behavior.readsAliasOf trigger) bound earlier),
    behavior.occurs (bindings.withRecord record) call = true

/-- Some call is no trigger, may be a behavior and is not allowed. -/
def Refused (scope : Scope) (behavior trigger : Event)
    (allowed : Bindings → List Call → Call → Prop) (episode : Episode) : Prop :=
  ∃ before call after, episode.calls = before ++ call :: after ∧
    scope.closes episode.bindings call = false ∧
    trigger.occurs episode.bindings call = false ∧
    behavior.mayOccur episode.bindings call = true ∧
    ¬ allowed episode.bindings before call

/-- Some call is refused since no trigger allows it whose time has not elapsed. -/
abbrev Unmet (scope : Scope) (behavior trigger : Event) (bound : Bound) : Episode → Prop :=
  Refused scope behavior trigger (Allowed scope behavior trigger bound)

/-- Some call is refused since no trigger allows it that is held. -/
abbrev Unbacked (scope : Scope) (behavior trigger : Event) (bound : Bound) : Episode → Prop :=
  Refused scope behavior trigger (Backed scope behavior trigger bound)

/-- A behavior is allowed if a trigger that allows it stands up to and including the behavior. -/
theorem allowed_iff (other : trigger.occurs bindings call = false) :
    Allowed scope behavior trigger bound bindings earlier call ↔
      ∃ record, Standing scope trigger bindings (inTime bound) (earlier ++ [call]) record ∧
        behavior.occurs (bindings.withRecord record) call = true := by
  constructor
  · rintro ⟨record, rest, triggered, kept, occurs⟩
    refine ⟨record, ⟨rest ++ [call], triggered.extend call, fun later member => ?_⟩, occurs⟩
    rw [inTime, kept later member]
    rfl
  · rintro ⟨record, standing, occurs⟩
    obtain ⟨⟨rest, triggered, kept⟩, last⟩ := (standing_append_of_other other).mp standing
    refine ⟨record, rest, triggered, fun later member => ?_, occurs⟩
    rcases List.mem_append.mp member with old | new
    · simpa [inTime] using kept later old
    · obtain rfl := List.mem_singleton.mp new
      simpa [inTime] using last

theorem backed_iff (other : trigger.occurs bindings call = false) :
    Backed scope behavior trigger bound bindings earlier call ↔
      ∃ record ∈ held scope trigger bindings (behavior.readsAliasOf trigger) bound
          (earlier ++ [call]),
        behavior.occurs (bindings.withRecord record) call = true := by
  rw [Backed, held_append, hold_of_other other]

/-- What is held allows nothing else, if it is alone or times elapse in order. -/
theorem allowed_of_backed (other : trigger.occurs bindings call = false)
    (inOrder : behavior.readsAliasOf trigger = true →
      bound.ElapsesInOrder ((earlier ++ [call]).map Call.time))
    (backed : Backed scope behavior trigger bound bindings earlier call) :
    Allowed scope behavior trigger bound bindings earlier call := by
  obtain ⟨record, member, behaves⟩ := (backed_iff other).mp backed
  exact (allowed_iff other).mpr ⟨record, standing_of_held inOrder member, behaves⟩

/-- What is held allows as much, if all is held or times elapse in order. -/
theorem backed_of_allowed (faithful : ∀ branch ∈ behavior.branches, branch.predicate.Faithful)
    (other : trigger.occurs bindings call = false)
    (inOrder : behavior.readsAliasOf trigger = false →
      bound.ElapsesInOrder ((earlier ++ [call]).map Call.time))
    (allowed : Allowed scope behavior trigger bound bindings earlier call) :
    Backed scope behavior trigger bound bindings earlier call := by
  obtain ⟨record, standing, behaves⟩ := (allowed_iff other).mp allowed
  obtain ⟨pooled, member, covers⟩ := held_of_standing inOrder standing
  obtain ⟨source, _, triggers⟩ := exists_of_held member
  refine (backed_iff other).mpr ⟨pooled, member, ?_⟩
  rw [Event.occurs_withRecord_congr faithful covers.eq_of_correlated triggers.alias_eq
    standing.alias_eq]
  exact behaves

/-- One more call is refused if it may be a behavior that is not allowed. -/
theorem refused_extend {allowed : Bindings → List Call → Call → Prop} :
    (episode.extend call).Refused scope behavior trigger allowed ↔
      episode.Refused scope behavior trigger allowed ∨
        scope.closes episode.bindings call = false ∧
          trigger.occurs episode.bindings call = false ∧
          behavior.mayOccur episode.bindings call = true ∧
          ¬ allowed episode.bindings episode.calls call :=
  exists_split_append

/-- Fewer calls are refused if more is allowed. -/
theorem Refused.imp {allowed permitted : Bindings → List Call → Call → Prop}
    (refused : episode.Refused scope behavior trigger allowed)
    (implies : ∀ before call after, episode.calls = before ++ call :: after →
      trigger.occurs episode.bindings call = false →
      permitted episode.bindings before call → allowed episode.bindings before call) :
    episode.Refused scope behavior trigger permitted := by
  obtain ⟨before, call, after, split, isOpen, other, may, refused⟩ := refused
  exact ⟨before, call, after, split, isOpen, other, may, fun permitted =>
    refused (implies before call after split other permitted)⟩

/-- What no held trigger allows is allowed by none, if all are held or times elapse in order. -/
theorem unmet_of_unbacked (faithful : ∀ branch ∈ behavior.branches, branch.predicate.Faithful)
    (inOrder : behavior.readsAliasOf trigger = false →
      bound.ElapsesInOrder (episode.calls.map Call.time))
    (unbacked : episode.Unbacked scope behavior trigger bound) :
    episode.Unmet scope behavior trigger bound :=
  unbacked.imp fun _ _ _ split other =>
    backed_of_allowed faithful other fun unread => (inOrder unread).mono (time_of_split split)

/-- What no trigger allows is allowed by none that is held, if one is held at a time or times elapse
in order. -/
theorem unbacked_of_unmet
    (inOrder : behavior.readsAliasOf trigger = true →
      bound.ElapsesInOrder (episode.calls.map Call.time))
    (unmet : episode.Unmet scope behavior trigger bound) :
    episode.Unbacked scope behavior trigger bound :=
  unmet.imp fun _ _ _ split other =>
    allowed_of_backed other fun correlated => (inOrder correlated).mono (time_of_split split)

/-- If times elapse in order, then it is enough to look at the triggers that are held. -/
theorem unbacked_iff (faithful : ∀ branch ∈ behavior.branches, branch.predicate.Faithful)
    (inOrder : bound.ElapsesInOrder (episode.calls.map Call.time)) :
    episode.Unbacked scope behavior trigger bound ↔ episode.Unmet scope behavior trigger bound :=
  ⟨unmet_of_unbacked faithful fun _ => inOrder, unbacked_of_unmet fun _ => inOrder⟩

end Episode

end TemporalMonitor
