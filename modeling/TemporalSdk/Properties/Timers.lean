import TemporalSdk.Workflow.Emitted

/-!
# Timers

A timer is started by its command and leaves `_pending_timers` when a `fire_timer`
job puts its handle on the ready queue or when its handle is cancelled, whichever
comes first; the other one then finds no entry.

## Main results

* `timers_kept`: in every run that uses timers outside of eviction and read-only
  contexts only and asks for no delay that a `Duration` cannot hold,
  `_pending_timers` holds exactly the timers that have been started and neither
  fired nor been cancelled, and a timer is fired or cancelled at most once in all.
* `refused_timer_is_lost`: `call_later` adds the command before it converts the
  delay, so a timer whose delay is refused is started and gets no entry.

## Proof strategy

`TimerStep` lists what a single atom or move can do to timers. `TimerBooks`
relates the table and the ready queue to the history, and holds in every run, as
does `TimersCommanded` for the commands; that no timer goes missing needs the
condition on the run.
-/
namespace TemporalSdk.Workflow

open Eff

variable {σ : Type}

/-! ### Timer events, handles and commands -/

def Event.ofTimer : Event → Bool
  | .timerStarted _ | .timerCancelled _ | .timerFired _ => true
  | _ => false

def Handle.ofTimer : Handle → Bool
  | .timer _ => true
  | _ => false

/-- The event that a command of timers is logged with. -/
def Command.timerEvent? : Command → Option Event
  | .startTimer seq _ => some (.timerStarted seq)
  | .cancelTimer seq => some (.timerCancelled seq)
  | _ => none

/-- Whether a command is added where an event is logged. -/
def Event.commanded : Event → Bool
  | .timerStarted _ | .timerCancelled _ => true
  | _ => false

/-- The sequence numbers of the timers started so far, in order. -/
def startedTimers (trace : List Event) : List Nat :=
  trace.filterMap fun
    | .timerStarted seq => some seq
    | _ => none

theorem mem_startedTimers {trace : List Event} {seq : Nat} :
    seq ∈ startedTimers trace ↔ .timerStarted seq ∈ trace := by
  refine ⟨fun member => ?_, fun member => ?_⟩
  · obtain ⟨e, member, same⟩ := List.mem_filterMap.mp member
    cases e with
    | timerStarted seq' =>
      cases same
      exact member
    | _ => cases same
  · exact List.mem_filterMap.mpr ⟨_, member, rfl⟩

theorem startedTimers_append {trace es : List Event} (other : ∀ e ∈ es, e.ofTimer = false) :
    startedTimers (trace ++ es) = startedTimers trace := by
  have none : startedTimers es = [] := by
    refine List.filterMap_eq_nil_iff.mpr fun e member => ?_
    have notTimer := other e member
    cases e with
    | timerStarted seq => cases notTimer
    | _ => rfl
  rw [startedTimers, List.filterMap_append]
  change startedTimers trace ++ startedTimers es = startedTimers trace
  rw [none, List.append_nil]

theorem count_append_other {trace es : List Event} (other : ∀ e ∈ es, e.ofTimer = false)
    {e : Event} (timer : e.ofTimer = true) : (trace ++ es).count e = trace.count e := by
  have none : es.count e = 0 := by
    refine List.count_eq_zero.mpr fun member => ?_
    rw [other e member] at timer
    cases timer
  rw [List.count_append, none, Nat.add_zero]

theorem commanded_append {trace es : List Event} (other : ∀ e ∈ es, e.ofTimer = false) :
    (trace ++ es).filter Event.commanded = trace.filter Event.commanded := by
  have none : es.filter Event.commanded = [] := by
    refine List.filter_eq_nil_iff.mpr fun e member => ?_
    have notTimer := other e member
    cases e with
    | timerStarted | timerCancelled => cases notTimer
    | _ => simp [Event.commanded]
  rw [List.filter_append, none, List.append_nil]

/-! ### What can happen to timers -/

/-- Nothing has happened to timers; handles may have left the ready queue. -/
structure TimerFrame (s s' : Inst σ) : Prop where
  pending : s'.pendingTimers = s.pendingTimers
  seq : s'.currSeqs .timer = s.currSeqs .timer
  trace : ∃ es, s'.trace = s.trace ++ es ∧ ∀ e ∈ es, e.ofTimer = false
  ready : (s'.ready.filter Handle.ofTimer).Sublist (s.ready.filter Handle.ofTimer)
  commands : s'.commands.filterMap Command.timerEvent? = s.commands.filterMap Command.timerEvent?

theorem TimerFrame.trans {s₁ s₂ s₃ : Inst σ} (h : TimerFrame s₁ s₂) (h' : TimerFrame s₂ s₃) :
    TimerFrame s₁ s₃ where
  pending := h'.pending.trans h.pending
  seq := h'.seq.trans h.seq
  trace := by
    obtain ⟨es, trace, other⟩ := h.trace
    obtain ⟨es', trace', other'⟩ := h'.trace
    refine ⟨es ++ es', by rw [trace', trace, List.append_assoc], fun e member => ?_⟩
    rcases List.mem_append.mp member with member | member
    · exact other e member
    · exact other' e member
  ready := h'.ready.trans h.ready
  commands := h'.commands.trans h.commands

/-- What one atom or move does to timers. -/
inductive TimerStep (K : List Kind) (s : Inst σ) : Inst σ → Prop
  | frame {s' : Inst σ} (frame : TimerFrame s s') : TimerStep K s s'
  | started (delay : Int) (callback : TimerCallback) : TimerStep K s (s.timed delay callback)
  | refused (delay : Int) (made : Kind.refused ∈ K) : TimerStep K s (s.timerRefused delay)
  | cancelled {seq : Nat} (pending : s.pendingTimers seq = true) :
      TimerStep K s (s.timerCancelled seq)
  | dropped {seq : Nat} (closed : s.open = false) (pending : s.pendingTimers seq = true)
      (made : Kind.timer ∈ K ∨ ∃ t, Kind.sleep t ∈ K) : TimerStep K s
      { s with pendingTimers := Function.update s.pendingTimers seq false }
  | fired {seq : Nat} (pending : s.pendingTimers seq = true) : TimerStep K s
      { s with
        ready := s.ready ++ [.timer seq]
        pendingTimers := Function.update s.pendingTimers seq false
        trace := s.trace ++ [.timerFired seq] }

/-- Handles, commands and events that are not of timers have been added. -/
theorem TimerFrame.added {s s' : Inst σ} (hs : List Handle) (cs : List Command) (es : List Event)
    (pending : s'.pendingTimers = s.pendingTimers)
    (seq : s'.currSeqs .timer = s.currSeqs .timer) (ready : s'.ready = s.ready ++ hs)
    (commands : s'.commands = s.commands ++ cs) (trace : s'.trace = s.trace ++ es)
    (handles : ∀ h ∈ hs, h.ofTimer = false) (others : ∀ c ∈ cs, c.timerEvent? = none)
    (events : ∀ e ∈ es, e.ofTimer = false) : TimerFrame s s' where
  pending := pending
  seq := seq
  trace := ⟨es, trace, events⟩
  ready := by
    have none : hs.filter Handle.ofTimer = [] :=
      List.filter_eq_nil_iff.mpr fun h member => by simp [handles h member]
    rw [ready, List.filter_append, none, List.append_nil]
  commands := by
    have none : cs.filterMap Command.timerEvent? = [] := List.filterMap_eq_nil_iff.mpr others
    rw [commands, List.filterMap_append, none, List.append_nil]

/-- Neither timers nor the ready queue, the commands or the trace have changed. -/
theorem TimerFrame.same {s s' : Inst σ} (pending : s'.pendingTimers = s.pendingTimers)
    (seq : s'.currSeqs .timer = s.currSeqs .timer) (ready : s'.ready = s.ready)
    (commands : s'.commands = s.commands) (trace : s'.trace = s.trace) : TimerFrame s s' :=
  .added [] [] [] pending seq (by simp [ready]) (by simp [commands]) (by simp [trace]) (by simp)
    (by simp) (by simp)

/-- Only the ready queue has changed. -/
theorem TimerFrame.pushed {s s' : Inst σ} (hs : List Handle)
    (pending : s'.pendingTimers = s.pendingTimers)
    (seq : s'.currSeqs .timer = s.currSeqs .timer) (ready : s'.ready = s.ready ++ hs)
    (commands : s'.commands = s.commands) (trace : s'.trace = s.trace)
    (handles : ∀ h ∈ hs, h.ofTimer = false) : TimerFrame s s' :=
  .added hs [] [] pending seq ready (by simp [commands]) (by simp [trace]) handles (by simp)
    (by simp)

/-- Only a command has been added. -/
theorem TimerFrame.emitted {s s' : Inst σ} (c : Command)
    (pending : s'.pendingTimers = s.pendingTimers)
    (seq : s'.currSeqs .timer = s.currSeqs .timer) (ready : s'.ready = s.ready)
    (commands : s'.commands = s.commands ++ [c]) (trace : s'.trace = s.trace)
    (other : c.timerEvent? = none) : TimerFrame s s' :=
  .added [] [c] [] pending seq (by simp [ready]) commands (by simp [trace]) (by simp)
    (by simpa using other) (by simp)

/-- Only an event has been logged. -/
theorem TimerFrame.logged {s s' : Inst σ} (e : Event)
    (pending : s'.pendingTimers = s.pendingTimers)
    (seq : s'.currSeqs .timer = s.currSeqs .timer) (ready : s'.ready = s.ready)
    (commands : s'.commands = s.commands) (trace : s'.trace = s.trace ++ [e])
    (other : e.ofTimer = false) : TimerFrame s s' :=
  .added [] [] [e] pending seq (by simp [ready]) (by simp [commands]) trace (by simp) (by simp)
    (by simpa using other)

theorem TimerFrame.settled (s : Inst σ) (f : FutId) (new : FutState) :
    TimerFrame s (s.settled f new) := by
  refine .pushed _ rfl rfl rfl rfl rfl fun h member => ?_
  split at member
  · cases member
  · obtain ⟨cb, -, rfl⟩ := List.mem_map.mp member
    rfl

theorem TimerFrame.outerSettled (s : Inst σ) (o : OuterId) (new : OuterState) :
    TimerFrame s (s.outerSettled o new) := by
  refine .pushed _ rfl rfl rfl rfl rfl fun h member => ?_
  split at member
  · cases member
  · split at member <;> simp only [List.mem_cons, List.not_mem_nil, or_false] at member
    · rcases member with rfl | rfl <;> rfl
    · rw [member]
      rfl

theorem TimerFrame.fulfilled (s : Inst σ) (p : PromiseId) (outcome : PromiseOutcome) :
    TimerFrame s (s.fulfilled p outcome) := by
  refine .pushed _ rfl rfl rfl rfl rfl fun h member => ?_
  split at member
  · cases member
  · obtain ⟨o, -, rfl⟩ := List.mem_map.mp member
    rfl

theorem Handle.plain_ofTimer {h : Handle} (plain : h.plain = true) : h.ofTimer = false := by
  cases h <;> first | rfl | cases plain

theorem cancelCommand_timerEvent (h : ActivityHandle) : h.cancelCommand.timerEvent? = none := by
  unfold ActivityHandle.cancelCommand
  split <;> rfl

theorem scheduleCommand_timerEvent (h : ActivityHandle) (backoff : Option DoBackoff) :
    (h.scheduleCommand backoff).timerEvent? = none := by
  unfold ActivityHandle.scheduleCommand
  split <;> rfl

theorem Atom.timerStep {K : List Kind} {k : Kind} {s s' : Inst σ} (h : Atom k s s')
    (made : k ∈ Kind.loop :: K) : TimerStep K s s' := by
  cases h with
  | timer | sleepTimer => exact .started _ _
  | refusedTimer => exact .refused _ (by simpa using made)
  | cancelTimer _ _ _ pending => exact .cancelled pending
  | dropTimer _ owns closed pending =>
    refine .dropped closed pending ?_
    rcases owns with ⟨t, rfl⟩ | ⟨rfl, -⟩ <;> simp only [List.mem_cons, reduceCtorEq, false_or] at made
    · exact .inr ⟨t, made⟩
    · exact .inl made
  | fire _ pending => exact .fired pending
  | callSoon => exact .frame (.pushed [_] rfl rfl rfl rfl rfl (by simp [Handle.ofTimer]))
  | push _ _ plain =>
    exact .frame (.pushed [_] rfl rfl rfl rfl rfl (by simpa using Handle.plain_ofTimer plain))
  | wakeup | yield | createUser | strayUser | bareUser =>
    exact .frame (.pushed [_] rfl rfl rfl rfl rfl (by simp [Handle.ofTimer]))
  | newActivity | strayActivity | newChild | strayChild =>
    exact .frame (.pushed [_] rfl rfl rfl rfl rfl (by simp [Handle.ofTimer]))
  | settle | resolveCancel => exact .frame (.settled s _ _)
  | cancelOuter | deliver | slept => exact .frame (.outerSettled s _ _)
  | fulfill => exact .frame (.fulfilled s _ _)
  | cancelActivity | cancelOwn =>
    exact .frame (.emitted _ rfl rfl rfl rfl rfl (cancelCommand_timerEvent _))
  | schedule | scheduleBroken =>
    exact .frame (.emitted _ rfl rfl rfl rfl rfl (scheduleCommand_timerEvent _ _))
  | cancelChild | cancelSignal | startChild | startChildBroken | signal | cancelExternal =>
    exact .frame (.emitted _ rfl rfl rfl rfl rfl rfl)
  | returned => exact .frame (.logged _ rfl rfl rfl rfl rfl rfl)
  | _ => exact .frame (.same rfl rfl rfl rfl rfl)

theorem TimerFrame.popped {s s' : Inst σ} {h : Handle} {rest : List Handle}
    (queue : s.ready = h :: rest) (pending : s'.pendingTimers = s.pendingTimers)
    (seq : s'.currSeqs .timer = s.currSeqs .timer) (ready : s'.ready = rest)
    (commands : s'.commands = s.commands) (trace : s'.trace = s.trace) : TimerFrame s s' where
  pending := pending
  seq := seq
  trace := ⟨[], by simp [trace], by simp⟩
  ready := by
    rw [ready, queue]
    exact (List.sublist_cons_self h rest).filter _
  commands := by rw [commands]

theorem Move.timerStep {K : List Kind} {k : Kind} {s s' : Inst σ} (h : Move k s s')
    (notTurn : k ≠ .turn) : TimerStep K s s' := by
  -- a response is written in place of another command, and neither is a timer's
  have written {i : Nat} {old new : Command} (at_i : s.commands[i]? = some old)
      (notOld : old.timerEvent? = none) (notNew : new.timerEvent? = none) :
      TimerStep K s { s with commands := s.commands.set i new } :=
    .frame ⟨rfl, rfl, ⟨[], by simp, by simp⟩, List.Sublist.refl _,
      filterMap_set_of_none at_i notOld notNew⟩
  cases h with
  | turn => exact absurd rfl notTurn
  | answer _ _ _ _ at_i => exact written at_i rfl rfl
  | updateAnswer _ _ _ _ at_i => exact written at_i rfl rfl
  | pop _ ready => exact .frame (.popped ready rfl rfl rfl rfl rfl)
  | tasksRemove _ ready => exact .frame (.popped ready rfl rfl rfl rfl rfl)
  | signalDone _ ready => exact .frame (.popped ready rfl rfl rfl rfl rfl)
  | command _ _ plain =>
    refine .frame (.emitted _ rfl rfl rfl rfl rfl ?_)
    revert plain
    cases ‹Command› <;> simp [Command.plain, Command.timerEvent?]
  | updateResponse => exact .frame (.emitted _ rfl rfl rfl rfl rfl rfl)
  | memoize =>
    refine .frame (.added [] _ [] rfl rfl (by simp [Inst.memoized]) rfl (by simp [Inst.memoized])
      (by simp) (fun c member => ?_) (by simp))
    split at member
    · rw [List.mem_singleton.mp member]
      rfl
    · cases member
  | methodCall | exceptionHandler | patchCall | updateError | signalDropped | signalHandler
  | signalHandlerMissing => exact .frame (.logged _ rfl rfl rfl rfl rfl rfl)
  | signalTask | straySignal | spawn | strayJob =>
    exact .frame (.pushed [_] rfl rfl rfl rfl rfl (by simp [Handle.ofTimer]))
  | @met _ fn f =>
    have logged : TimerFrame s (s.log (.conditionResolved f)) :=
      .logged _ rfl rfl rfl rfl rfl rfl
    exact .frame (logged.trans (.settled _ f (.result 1)))
  | finish => exact .frame (.settled s _ _)
  | _ => exact .frame (.same rfl rfl rfl rfl rfl)

theorem Allowed.timerStep {K : List Kind} {s s' : Inst σ} (h : Allowed K s s')
    (notTurn : Kind.turn ∉ K) : TimerStep K s s' := by
  rcases h with ⟨k, member, atom⟩ | ⟨k, member, move⟩
  · exact atom.timerStep member
  · exact move.timerStep fun same => notTurn (same ▸ member)

/-! ### The books -/

/-- How the table of timers and the ready queue relate to what has happened,
whatever the run was. -/
structure TimerBooks (s : Inst σ) : Prop where
  increasing : (startedTimers s.trace).Pairwise (· < ·)
  bounded : ∀ seq ∈ startedTimers s.trace, seq ≤ s.currSeqs .timer
  once : ∀ seq, s.trace.count (.timerCancelled seq) + s.trace.count (.timerFired seq) ≤ 1
  pending : ∀ seq, s.pendingTimers seq = true → .timerStarted seq ∈ s.trace ∧
    s.trace.count (.timerCancelled seq) = 0 ∧ s.trace.count (.timerFired seq) = 0
  ended : ∀ seq, s.currSeqs .timer < seq →
    s.trace.count (.timerCancelled seq) = 0 ∧ s.trace.count (.timerFired seq) = 0
  queued : ∀ seq, s.ready.count (.timer seq) ≤ s.trace.count (.timerFired seq)

/-- The commands of timers in `commands` are those that have been added, in their
order, and all of them unless commands have been lost. -/
structure TimersCommanded (lost : Bool) (commands : List Command) (trace : List Event) : Prop where
  some : (commands.filterMap Command.timerEvent?).Sublist (trace.filter Event.commanded)
  all : lost = false → commands.filterMap Command.timerEvent? = trace.filter Event.commanded

/-- A timer that is not pending has been fired or cancelled. -/
def NoTimerLost (s : Inst σ) : Prop :=
  ∀ seq, .timerStarted seq ∈ s.trace → s.trace.count (.timerCancelled seq) = 0 →
    s.trace.count (.timerFired seq) = 0 → s.pendingTimers seq = true

theorem TimersCommanded.added {lost : Bool} {commands commands' added : List Command}
    {trace trace' events : List Event} (h : TimersCommanded lost commands trace)
    (commands_eq : commands' = commands ++ added) (trace_eq : trace' = trace ++ events)
    (same : added.filterMap Command.timerEvent? = events.filter Event.commanded) :
    TimersCommanded lost commands' trace' := by
  subst commands_eq trace_eq
  refine ⟨?_, fun kept => ?_⟩
  · rw [List.filterMap_append, List.filter_append, same]
    exact h.some.append (List.Sublist.refl _)
  · rw [List.filterMap_append, List.filter_append, same, h.all kept]

theorem TimerBooks.frame {s s' : Inst σ} (books : TimerBooks s) (frame : TimerFrame s s') :
    TimerBooks s' := by
  obtain ⟨es, trace, other⟩ := frame.trace
  have same {e : Event} (timer : e.ofTimer = true) : s'.trace.count e = s.trace.count e := by
    rw [trace]
    exact count_append_other other timer
  have started : startedTimers s'.trace = startedTimers s.trace := by
    rw [trace, startedTimers_append other]
  refine ⟨by rw [started]; exact books.increasing, ?_, ?_, ?_, ?_, ?_⟩
  · rw [started, frame.seq]
    exact books.bounded
  · intro seq
    rw [same rfl, same rfl]
    exact books.once seq
  · intro seq pending
    rw [frame.pending] at pending
    obtain ⟨member, cancelled, fired⟩ := books.pending seq pending
    rw [same rfl, same rfl, trace]
    exact ⟨List.mem_append_left _ member, cancelled, fired⟩
  · intro seq later
    rw [frame.seq] at later
    rw [same rfl, same rfl]
    exact books.ended seq later
  · intro seq
    have counted := frame.ready.count_le (.timer seq)
    rw [List.count_filter rfl, List.count_filter rfl] at counted
    rw [same rfl]
    exact counted.trans (books.queued seq)

/-- A number beyond all that are in use keeps the list increasing. -/
theorem pairwise_concat {l : List Nat} {n : Nat} (increasing : l.Pairwise (· < ·))
    (bounded : ∀ m ∈ l, m ≤ n) : (l ++ [n + 1]).Pairwise (· < ·) := by
  refine List.pairwise_append.mpr ⟨increasing, List.pairwise_singleton _ _, ?_⟩
  intro m member m' new
  have := bounded m member
  rw [List.mem_singleton.mp new]
  omega

theorem bounded_concat {l : List Nat} {n : Nat} (bounded : ∀ m ∈ l, m ≤ n) :
    ∀ m ∈ l ++ [n + 1], m ≤ n + 1 := by
  intro m member
  rcases List.mem_append.mp member with old | new
  · have := bounded m old
    omega
  · rw [List.mem_singleton.mp new]

theorem count_concat {α : Type} [DecidableEq α] (l : List α) (a b : α) :
    (l ++ [b]).count a = l.count a + if b = a then 1 else 0 := by
  by_cases same : b = a
  · simp [same]
  · simp [same]

theorem TimerBooks.refused {s : Inst σ} (books : TimerBooks s) (delay : Int) :
    TimerBooks (s.timerRefused delay) := by
  have next : (s.timerRefused delay).currSeqs .timer = s.currSeqs .timer + 1 := by
    simp [Inst.timerRefused]
  have trace : (s.timerRefused delay).trace =
      s.trace ++ [Event.timerStarted (s.currSeqs .timer + 1)] := rfl
  have cancelled (seq : Nat) : (s.timerRefused delay).trace.count (.timerCancelled seq) =
      s.trace.count (.timerCancelled seq) := by simp [trace]
  have fired (seq : Nat) : (s.timerRefused delay).trace.count (.timerFired seq) =
      s.trace.count (.timerFired seq) := by simp [trace]
  have started : startedTimers (s.timerRefused delay).trace =
      startedTimers s.trace ++ [s.currSeqs .timer + 1] := by
    simp [trace, startedTimers]
  refine ⟨?_, ?_, ?_, ?_, ?_, ?_⟩
  · rw [started]
    exact pairwise_concat books.increasing books.bounded
  · rw [started, next]
    exact bounded_concat books.bounded
  · intro seq
    rw [cancelled, fired]
    exact books.once seq
  · intro seq pending
    rw [cancelled, fired]
    obtain ⟨member, none⟩ := books.pending seq pending
    exact ⟨by simp [trace, member], none⟩
  · intro seq later
    rw [next] at later
    rw [cancelled, fired]
    exact books.ended seq (Nat.lt_of_succ_lt later)
  · intro seq
    rw [fired]
    exact books.queued seq

theorem TimerBooks.started {s : Inst σ} (books : TimerBooks s) (delay : Int)
    (callback : TimerCallback) : TimerBooks (s.timed delay callback) := by
  -- what is new over a refused timer is the entry
  have base := books.refused delay
  refine ⟨base.increasing, base.bounded, base.once, fun seq pending => ?_, base.ended, base.queued⟩
  by_cases same : seq = s.currSeqs .timer + 1
  · subst same
    refine ⟨by simp [Inst.timed], ?_⟩
    have none := books.ended _ (Nat.lt_succ_self (s.currSeqs .timer))
    simpa [Inst.timed] using none
  · have pending : s.pendingTimers seq = true := by simpa [Inst.timed, same] using pending
    exact base.pending seq pending

theorem TimerBooks.dropped {s : Inst σ} (books : TimerBooks s) (seq : Nat) :
    TimerBooks { s with pendingTimers := Function.update s.pendingTimers seq false } := by
  refine { books with pending := fun seq' pending => ?_ }
  by_cases same : seq' = seq
  · simp [same] at pending
  · exact books.pending seq' (by simpa [same] using pending)

theorem TimerBooks.cancelled {s : Inst σ} (books : TimerBooks s) {seq : Nat}
    (pending : s.pendingTimers seq = true) : TimerBooks (s.timerCancelled seq) := by
  obtain ⟨started, notCancelled, notFired⟩ := books.pending seq pending
  have bound : seq ≤ s.currSeqs .timer := books.bounded seq (mem_startedTimers.mpr started)
  have dropped := books.dropped seq
  have trace : (s.timerCancelled seq).trace = s.trace ++ [Event.timerCancelled seq] := rfl
  have fired (seq' : Nat) : (s.timerCancelled seq).trace.count (.timerFired seq') =
      s.trace.count (.timerFired seq') := by simp [trace]
  have cancelled (seq' : Nat) : (s.timerCancelled seq).trace.count (.timerCancelled seq') =
      s.trace.count (.timerCancelled seq') + if seq = seq' then 1 else 0 := by
    rw [trace, count_concat]
    simp
  have same : startedTimers (s.timerCancelled seq).trace = startedTimers s.trace := by
    simp [trace, startedTimers]
  refine ⟨by rw [same]; exact books.increasing, by rw [same]; exact books.bounded, ?_, ?_, ?_, ?_⟩
  · intro seq'
    rw [cancelled, fired]
    split
    next equal =>
      subst equal
      rw [notCancelled, notFired]
    · exact books.once seq'
  · intro seq' pending'
    rw [cancelled, fired]
    -- a timer that is still pending is another than the one cancelled
    have different : seq' ≠ seq := by
      rintro rfl
      simp [Inst.timerCancelled] at pending'
    obtain ⟨member, none⟩ := dropped.pending seq' pending'
    rw [if_neg different.symm]
    exact ⟨by simp [trace, member], none⟩
  · intro seq' later
    have later : s.currSeqs .timer < seq' := later
    rw [cancelled, fired, if_neg (by omega)]
    exact books.ended seq' later
  · intro seq'
    rw [fired]
    exact books.queued seq'

theorem TimerBooks.fired {s : Inst σ} (books : TimerBooks s) {seq : Nat}
    (pending : s.pendingTimers seq = true) : TimerBooks
      { s with
        ready := s.ready ++ [.timer seq]
        pendingTimers := Function.update s.pendingTimers seq false
        trace := s.trace ++ [.timerFired seq] } := by
  obtain ⟨started, notCancelled, notFired⟩ := books.pending seq pending
  have bound : seq ≤ s.currSeqs .timer := books.bounded seq (mem_startedTimers.mpr started)
  have dropped := books.dropped seq
  have cancelled (seq' : Nat) :
      (s.trace ++ [Event.timerFired seq]).count (Event.timerCancelled seq') =
        s.trace.count (Event.timerCancelled seq') := by simp
  have fired (seq' : Nat) : (s.trace ++ [Event.timerFired seq]).count (Event.timerFired seq') =
      s.trace.count (Event.timerFired seq') + if seq = seq' then 1 else 0 := by
    rw [count_concat]
    simp
  have same : startedTimers (s.trace ++ [Event.timerFired seq]) = startedTimers s.trace := by
    simp [startedTimers]
  refine ⟨by rw [same]; exact books.increasing, by rw [same]; exact books.bounded, ?_, ?_, ?_, ?_⟩
  · intro seq'
    rw [cancelled, fired]
    split
    next equal =>
      subst equal
      rw [notCancelled, notFired]
    · exact books.once seq'
  · intro seq' pending'
    rw [cancelled, fired]
    -- a timer that is still pending is another than the one fired
    have different : seq' ≠ seq := by
      rintro rfl
      simp at pending'
    obtain ⟨member, none⟩ := dropped.pending seq' pending'
    rw [if_neg different.symm]
    exact ⟨List.mem_append_left _ member, none⟩
  · intro seq' later
    have later : s.currSeqs .timer < seq' := later
    rw [cancelled, fired, if_neg (by omega)]
    exact books.ended seq' later
  · intro seq'
    rw [fired, count_concat]
    simp only [Handle.timer.injEq]
    exact Nat.add_le_add_right (books.queued seq') _

theorem TimerBooks.step {K : List Kind} {s s' : Inst σ} (books : TimerBooks s)
    (h : TimerStep K s s') : TimerBooks s' := by
  cases h with
  | frame frame => exact books.frame frame
  | started delay callback => exact books.started delay callback
  | refused delay => exact books.refused delay
  | cancelled pending => exact books.cancelled pending
  | dropped => exact books.dropped _
  | fired pending => exact books.fired pending

/-- Commands of timers are added where timers are started and cancelled. -/
theorem TimersCommanded.step {K : List Kind} {lost : Bool} {sent : List Command} {s s' : Inst σ}
    (commanded : TimersCommanded lost (sent ++ s.commands) s.trace) (h : TimerStep K s s') :
    TimersCommanded lost (sent ++ s'.commands) s'.trace := by
  cases h with
  | frame frame =>
    obtain ⟨es, trace, other⟩ := frame.trace
    have commands : (sent ++ s'.commands).filterMap Command.timerEvent? =
        (sent ++ s.commands).filterMap Command.timerEvent? := by
      rw [List.filterMap_append, List.filterMap_append, frame.commands]
    have events : s'.trace.filter Event.commanded = s.trace.filter Event.commanded := by
      rw [trace, commanded_append other]
    exact ⟨by rw [commands, events]; exact commanded.some,
      by rw [commands, events]; exact commanded.all⟩
  | started delay callback => exact commanded.added (by rw [List.append_assoc]; rfl) rfl rfl
  | refused delay => exact commanded.added (by rw [List.append_assoc]; rfl) rfl rfl
  | cancelled => exact commanded.added (by rw [List.append_assoc]; rfl) rfl rfl
  | dropped => exact commanded
  | fired =>
    exact @TimersCommanded.added _ _ _ [] _ _ [_] commanded (List.append_nil _).symm rfl rfl

/-- Outside of eviction and read-only contexts no timer goes missing, unless its
delay is refused. -/
theorem NoTimerLost.step {K : List Kind} {s s' : Inst σ} (kept : NoTimerLost s)
    (h : TimerStep K s s') (isOpen : (Kind.timer ∈ K ∨ ∃ t, Kind.sleep t ∈ K) → s.open = true)
    (notRefused : Kind.refused ∉ K) : NoTimerLost s' := by
  cases h with
  | frame frame =>
    obtain ⟨es, trace, other⟩ := frame.trace
    intro seq started notCancelled notFired
    rw [trace, count_append_other other rfl] at notCancelled notFired
    rw [trace, ← mem_startedTimers, startedTimers_append other, mem_startedTimers] at started
    rw [frame.pending]
    exact kept seq started notCancelled notFired
  | refused _ made => exact absurd made notRefused
  | started delay callback =>
    intro seq started notCancelled notFired
    by_cases same : seq = s.currSeqs .timer + 1
    · simp [Inst.timed, same]
    · simp [Inst.timed, same] at started notCancelled notFired ⊢
      exact kept seq started notCancelled notFired
  | @cancelled seq pending =>
    intro seq' started notCancelled notFired
    rw [show (s.timerCancelled seq).trace = s.trace ++ [.timerCancelled seq] from rfl,
      count_concat] at notCancelled notFired
    have different : seq' ≠ seq := by
      rintro rfl
      simp at notCancelled
    have old : .timerStarted seq' ∈ s.trace := by simpa [Inst.timerCancelled] using started
    have pending' := kept seq' old (Nat.le_zero.mp (notCancelled ▸ Nat.le_add_right _ _))
      (Nat.le_zero.mp (notFired ▸ Nat.le_add_right _ _))
    simpa [Inst.timerCancelled, different] using pending'
  | dropped closed pending made =>
    -- a timer is dropped only while the instance is closed
    rw [isOpen made] at closed
    cases closed
  | @fired seq pending =>
    intro seq' started notCancelled notFired
    dsimp only at started notCancelled notFired ⊢
    rw [count_concat] at notCancelled notFired
    have different : seq' ≠ seq := by
      rintro rfl
      simp at notFired
    have old : .timerStarted seq' ∈ s.trace := by simpa using started
    have pending' := kept seq' old (Nat.le_zero.mp (notCancelled ▸ Nat.le_add_right _ _))
      (Nat.le_zero.mp (notFired ▸ Nat.le_add_right _ _))
    simpa [different] using pending'

/-! ### Steps -/

/-- Workflow code starts or cancels a timer, or the coroutine of an activity,
which sleeps between its attempts, is resumed. -/
def Machine.UsesTimers (m : Machine σ) : Label σ → Prop
  | .act (.callLater _) | .act (.cancelTimer _) => True
  | .tick => ∃ frame h rest t task, m.control = .inner frame ∧ m.inst.ready = h :: rest ∧
      m.inst.steps h t ∧ m.inst.tasks t = some task ∧ task.root = .activity
  | _ => False

theorem sleep_mem_kinds {task : Task} {t t' : FutId} (member : Kind.sleep t' ∈ task.kinds t) :
    task.root = .activity := by
  unfold Task.kinds at member
  split at member
  · cases root : task.root <;> simp_all [Root.kinds]
  · split at member
    next isActivity => exact isActivity
    · simp at member

/-- Where code ends no sleep begins. -/
theorem sleep_not_mem_endKinds (s : Inst σ) (ctx : Ctx) (t : FutId) :
    Kind.sleep t ∉ s.endKinds ctx := by
  intro member
  cases ctx with
  | task t' =>
    simp only [Inst.endKinds] at member
    split at member
    next task _ => cases root : task.root <;> simp [root, Root.endKinds] at member
    · cases member
  | _ => simp [Inst.endKinds] at member

/-- A call of workflow code does not ask for a timer with a delay that no `Duration`
can hold. -/
def Label.delayHolds : Label σ → Bool
  | .act (.callLater delay) => timerHolds delay
  | _ => true

/-- Timers of workflow code come from its calls. -/
theorem workKinds_timer_call {det : Details σ} {m : Machine σ} {l : Label σ} {k : Kind}
    (timer : k = .timer ∨ k = .refused) (kind : k ∈ m.workKinds det l) :
    ∃ t a, l = .act a ∧ k ∈ a.kinds det t := by
  have notHandle : k.ofHandle = false := by rcases timer with rfl | rfl <;> rfl
  rcases workKinds_makes kind with rfl | ⟨-, made⟩
  · simp at timer
  cases made with
  | always _ h => rcases timer with rfl | rfl <;> simp at h
  | @job job rest frame control member =>
    rcases timer with rfl | rfl <;> cases job <;> simp [Job.kinds] at member
  | handle control ready member =>
    rw [m.inst.handleKinds_ofHandle _ _ member] at notHandle
    cases notHandle
  | check _ _ same => rcases timer with rfl | rfl <;> cases same
  | ends _ _ member =>
    rcases m.inst.endKinds_cases _ _ member with ofHandle | construct
    · rw [ofHandle] at notHandle
      cases notHandle
    · rcases timer with rfl | rfl <;> cases construct
  | @call ctx frame a control member => exact ⟨ctx.owner, a, rfl, member⟩
  | await _ _ own => rcases timer with rfl | rfl <;> cases own

theorem delayHolds_of_kinds {det : Details σ} {m : Machine σ} {l : Label σ}
    (holds : l.delayHolds = true) : Kind.refused ∉ m.workKinds det l := by
  intro member
  obtain ⟨t, a, rfl, made⟩ := workKinds_timer_call (.inr rfl) member
  cases a with
  | callLater delay =>
    have holds : timerHolds delay = true := holds
    simp [Act.kinds, holds] at made
  | startChildWorkflow input =>
    simp only [Act.kinds] at made
    split at made <;> simp at made
  | _ => simp [Act.kinds] at made

/-- The steps that the kinds of a step allow to use timers are those. -/
theorem usesTimers_of_kinds {det : Details σ} {m : Machine σ} {l : Label σ}
    (h : Kind.timer ∈ m.workKinds det l ∨ ∃ t, Kind.sleep t ∈ m.workKinds det l) :
    m.UsesTimers l := by
  rcases h with kind | ⟨t, kind⟩
  · obtain ⟨t, a, rfl, member⟩ := workKinds_timer_call (.inl rfl) kind
    cases a with
    | callLater | cancelTimer => trivial
    | startChildWorkflow input =>
      simp only [Act.kinds] at member
      split at member <;> simp at member
    | _ => simp [Act.kinds] at member
  · rcases workKinds_makes kind with command | ⟨-, made⟩
    · cases command
    · cases made with
      | always _ h => simp at h
      | @job job rest frame control member => cases job <;> simp [Job.kinds] at member
      | @handle frame handle rest control ready member =>
        rcases Inst.handleKinds_steps member with deliver | ⟨t', steps, member⟩
        · cases deliver
        · simp only [List.mem_cons, reduceCtorEq, false_or] at member
          unfold Inst.rootKinds at member
          split at member
          next task isTask =>
            exact ⟨frame, handle, rest, t', task, control, ready, steps, isTask,
              sleep_mem_kinds member⟩
          · cases member
      | check _ _ same => cases same
      | ends _ _ member => exact absurd member (sleep_not_mem_endKinds m.inst _ t)
      | call _ member => simpa using Act.kinds_subset _ det _ member
      | await _ _ own => cases own

theorem Inst.steps.unique {s : Inst σ} {h : Handle} {t t' : FutId} (steps : s.steps h t)
    (steps' : s.steps h t') : t' = t := by
  rcases steps with rfl | ⟨f, rfl⟩ | ⟨o, rfl, rfl⟩ <;>
    rcases steps' with same | ⟨f', same⟩ | ⟨o', same, rfl⟩ <;> cases same <;> rfl

/-- Such a step neither enters nor leaves a read-only context and does not evict. -/
theorem usesTimers_keeps_open {det : Details σ} {m : Machine σ} {l : Label σ}
    (uses : m.UsesTimers l) {k : Kind} (kind : k ∈ m.workKinds det l) : k ≠ .mode ∧ k ≠ .evict := by
  rcases workKinds_makes kind with command | ⟨-, made⟩
  · subst command
    exact ⟨by simp, by simp⟩
  cases made with
  | always _ h => rcases h with rfl | rfl | rfl <;> exact ⟨by simp, by simp⟩
  | job control =>
    obtain ⟨_, _, _, _, _, control', -⟩ := uses
    have same := control.symm.trans control'
    cases same
  | handle control ready member =>
    obtain ⟨_, handle, _, t, task, -, ready', steps, isTask, isActivity⟩ := uses
    rw [ready, List.cons.injEq] at ready'
    obtain ⟨rfl, -⟩ := ready'
    rcases Inst.handleKinds_steps member with rfl | ⟨t', steps', member⟩
    · exact ⟨by simp, by simp⟩
    · obtain rfl := steps.unique steps'
      simp only [Inst.rootKinds, isTask, Task.kinds, isActivity, Root.kinds, List.mem_cons] at member
      split at member <;> refine ⟨?_, ?_⟩ <;> rintro rfl <;> simp at member
  | check _ _ same =>
    subst same
    exact ⟨by simp, by simp⟩
  | @ends _ _ a control isEnd member => rcases isEnd with ⟨v, rfl⟩ | ⟨e, rfl⟩ <;> cases uses
  | call _ member =>
    refine ⟨?_, ?_⟩ <;> rintro rfl <;> simpa using Act.kinds_subset _ det _ member
  | await _ _ own =>
    subst own
    exact ⟨by simp, by simp⟩

theorem step_timers (det : Details σ) {m m' : Machine σ} {l : Label σ} (wf : m.WellFormed)
    (h : step det m l = some m') (usable : m.UsesTimers l → m.inst.open = true)
    (holds : l.delayHolds = true) (none : m.control = .idle → m.inst.commands = [])
    (books : TimerBooks m.inst) (kept : NoTimerLost m.inst)
    (commanded : TimersCommanded m.failed m.emitted m.inst.trace) :
    TimerBooks m'.inst ∧ NoTimerLost m'.inst ∧
      TimersCommanded m'.failed m'.emitted m'.inst.trace := by
  obtain ⟨s, moves, settles⟩ := step_settles det wf h
  have worked : TimerBooks s ∧ NoTimerLost s ∧
      TimersCommanded m.failed (m.sent ++ s.commands) s.trace := by
    have all := (moves.keeps (I := fun s => (TimerBooks s ∧ NoTimerLost s ∧
      TimersCommanded m.failed (m.sent ++ s.commands) s.trace) ∧
      (m.UsesTimers l → s.open = true)) wf.inst ⟨⟨books, kept, commanded⟩, usable⟩ ?_).1
    · exact all.1
    intro a b wfa allowed ⟨⟨books, kept, commanded⟩, usable⟩
    have timers := allowed.timerStep (turn_not_mem_workKinds det m l)
    refine ⟨⟨books.step timers, kept.step timers (fun made => usable (usesTimers_of_kinds made))
      (delayHolds_of_kinds holds), commanded.step timers⟩, ?_⟩
    intro uses
    have one : Moves (m.workKinds det l) a b := fun _ => .single allowed
    rw [one.open wfa (fun kind => (usesTimers_keeps_open uses kind).1 rfl)
      (fun kind => (usesTimers_keeps_open uses kind).2 rfl)]
    exact usable uses
  obtain ⟨books, kept, commanded⟩ := worked
  cases settles with
  | goesOn inst sent failed =>
    rw [Machine.emitted, inst, sent, failed]
    exact ⟨books, kept, commanded⟩
  | begins idle same jobs isReplaying =>
    -- there are no commands between activations
    subst same
    rw [none idle] at commanded
    exact ⟨{ books with }, kept, commanded⟩
  | sends control inst sent failed =>
    rw [Machine.emitted, inst, sent, failed, List.append_nil]
    exact ⟨{ books with }, kept, commanded⟩
  | loses control inst sent failed =>
    refine ⟨by rw [inst]; exact { books with }, by rw [inst]; exact kept, ?_, fun kept => ?_⟩
    · rw [Machine.emitted, inst, sent, List.append_nil]
      refine List.Sublist.trans ?_ commanded.some
      exact (List.sublist_append_left _ _).filterMap _
    · rw [failed] at kept
      cases kept

/-! ### Main result -/

/-- What timers are kept to, where a timer is started by its command: the numbers
of started timers increase; unless commands have been lost, the commands of timers
are the starts and the cancellations in their order; the table holds the timers
that have been started and have neither fired nor been cancelled; a timer is
cancelled once or fired once, not both; and it is on the ready queue at most once. -/
structure TimersKept (m : Machine σ) : Prop where
  increasing : (startedTimers m.inst.trace).Pairwise (· < ·)
  commands : TimersCommanded m.failed m.emitted m.inst.trace
  pending : ∀ seq, m.inst.pendingTimers seq = true ↔ .timerStarted seq ∈ m.inst.trace ∧
    .timerCancelled seq ∉ m.inst.trace ∧ .timerFired seq ∉ m.inst.trace
  once : ∀ seq,
    m.inst.trace.count (.timerCancelled seq) + m.inst.trace.count (.timerFired seq) ≤ 1
  queued : ∀ seq, m.inst.ready.count (.timer seq) ≤ m.inst.trace.count (.timerFired seq)

/-- In every run in which timers are used outside of eviction and read-only
contexts only, and workflow code asks for no delay that a `Duration` cannot hold,
the books on timers are right in every state. -/
theorem timers_kept (det : Details σ) (mem : σ) {m : Machine σ}
    (reach : Reach det (fun m l => l.delayHolds = true ∧ (m.UsesTimers l →
      m.inst.deleting = false ∧ m.inst.readOnly = false)) (Machine.init det mem) m) :
    TimersKept m := by
  have start : (TimerBooks (Machine.init det mem).inst ∧ NoTimerLost (Machine.init det mem).inst ∧
      TimersCommanded (Machine.init det mem).failed (Machine.init det mem).emitted
        (Machine.init det mem).inst.trace) ∧
      ((Machine.init det mem).control = .idle → (Machine.init det mem).inst.commands = []) := by
    refine ⟨⟨⟨?_, ?_, ?_, ?_, ?_, ?_⟩, ?_, ?_, ?_⟩, fun _ => rfl⟩ <;>
      simp [Machine.init, Machine.emitted, Inst.init, startedTimers, NoTimerLost]
  obtain ⟨⟨⟨books, kept, commanded⟩, -⟩, -⟩ := reach.invariant
    (I := fun m => (TimerBooks m.inst ∧ NoTimerLost m.inst ∧
      TimersCommanded m.failed m.emitted m.inst.trace) ∧
      (m.control = .idle → m.inst.commands = [])) (init_wellFormed det mem) start
    fun m l m' wf timers usable h => ⟨step_timers det wf h (fun uses => by
      obtain ⟨alive, writable⟩ := usable.2 uses
      simp [Inst.open, alive, writable]) usable.1 timers.2 timers.1.1 timers.1.2.1 timers.1.2.2,
      step_idle_commands det wf h⟩
  refine ⟨books.increasing, commanded, fun seq => ⟨fun pending => ?_, ?_⟩, books.once,
    books.queued⟩
  · obtain ⟨started, notCancelled, notFired⟩ := books.pending seq pending
    exact ⟨started, List.count_eq_zero.mp notCancelled, List.count_eq_zero.mp notFired⟩
  · rintro ⟨started, notCancelled, notFired⟩
    exact kept seq started (List.count_eq_zero.mpr notCancelled) (List.count_eq_zero.mpr notFired)

/-- Two timers, of which the first is cancelled before both are fired; the
callback of the second then cancels it. -/
def cancelledThenFired : List (Label Nat) :=
  Label.activate [.startWorkflow []] false :: List.replicate 6 Label.tick ++ Label.act (.ret 0) ::
    List.replicate 2 Label.tick ++ [Label.act (.callLater 5), Label.act (.callLater 7),
    Label.act (.cancelTimer 1), Label.act (.createFuture .user), Label.act (.await 1)] ++
    List.replicate 4 Label.tick ++
    Label.activate [.fireTimer 1, .fireTimer 2] false :: List.replicate 9 Label.tick ++
    Label.act (.cancelTimer 2) :: Label.act (.ret 0) :: List.replicate 4 Label.tick

theorem timers_kept_both_ways : ∃ m,
    runWhile Details.plain (fun m l => l.delayHolds = true ∧ m.inst.deleting = false ∧
      m.inst.readOnly = false) (Machine.init Details.plain 0) cancelledThenFired = some m ∧
    m.emitted = [.startTimer 1 5, .startTimer 2 7, .cancelTimer 1] ∧
    .timerFired 2 ∈ m.inst.trace ∧ TimersKept m := by
  have evaluated : (runWhile Details.plain
      (fun m l => l.delayHolds = true ∧ m.inst.deleting = false ∧ m.inst.readOnly = false)
      (Machine.init Details.plain 0) cancelledThenFired).map (fun m =>
        decide (m.emitted = [.startTimer 1 5, .startTimer 2 7, .cancelTimer 1]) &&
        decide (.timerFired 2 ∈ m.inst.trace)) = some true := by decide +kernel
  obtain ⟨m, ran, checked⟩ := Option.map_eq_some_iff.mp evaluated
  simp only [Bool.and_eq_true, decide_eq_true_eq] at checked
  exact ⟨m, ran, checked.1, checked.2, timers_kept Details.plain 0
    ((Reach.of_runWhile ran).mono fun _ _ meets => ⟨meets.1, fun _ => meets.2⟩)⟩

/-- A timer with a delay of 2^63 seconds, whose `ValueError` the workflow catches. -/
def endlessTimer : List (Label Nat) :=
  Label.activate [.startWorkflow []] false :: List.replicate 6 Label.tick ++ Label.act (.ret 0) ::
    List.replicate 2 Label.tick ++ [Label.act (.callLater (2 ^ 63 * 1000000000)),
    Label.act (.createFuture .user), Label.act (.await 1)] ++ List.replicate 4 Label.tick

/-- The timer has been started by its command, and is not in the table. -/
theorem refused_timer_is_lost : ∃ m,
    runWhile Details.plain (fun m _ => m.inst.deleting = false ∧ m.inst.readOnly = false)
      (Machine.init Details.plain 0) endlessTimer = some m ∧
    m.emitted = [.startTimer 1 (2 ^ 63 * 1000000000)] ∧ m.failed = false ∧ ¬TimersKept m := by
  have evaluated : (runWhile Details.plain
      (fun m _ => m.inst.deleting = false ∧ m.inst.readOnly = false)
      (Machine.init Details.plain 0) endlessTimer).map (fun m =>
        decide (m.emitted = [.startTimer 1 (2 ^ 63 * 1000000000)]) && !m.failed &&
        decide (m.inst.trace = [.methodCall (some 0), .timerStarted 1]) &&
        !m.inst.pendingTimers 1) = some true := by decide +kernel
  obtain ⟨m, ran, checked⟩ := Option.map_eq_some_iff.mp evaluated
  simp only [Bool.and_eq_true, decide_eq_true_eq, Bool.not_eq_true'] at checked
  obtain ⟨⟨⟨emitted, kept⟩, trace⟩, missing⟩ := checked
  refine ⟨m, ran, emitted, kept, fun timers => ?_⟩
  have pending := (timers.pending 1).mpr (by simp [trace])
  rw [missing] at pending
  cases pending

end TemporalSdk.Workflow
