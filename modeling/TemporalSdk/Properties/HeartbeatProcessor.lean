import TemporalSdk.Trace
import TemporalSdk.Worker.SharedState

/-!
# The processor of shared heartbeats

What must hold for the heartbeat processors to serve the registered activities,
and what a step may do. Only the end of a processor can leave registered
activities without one, and a processor ends because it finds none registered or
because a call raises: `served_step_iff`. The invariant `Inv` says where the
completion marker of an activity can be.
-/

namespace TemporalSdk.ActivityWorker

variable {T D : Type}

/-! ### Specification -/

/-- Running or submitted. -/
def Processor.Alive (p : Processor T D) : Prop := p ≠ .ended

def Processor.Running (p : Processor T D) : Prop := p ≠ .submitted ∧ p ≠ .ended

/-- The processor that takes a step. -/
def SharedAction.processor? : SharedAction T D → Option Nat
  | .start i | .check i | .get i | .getRaises i | .handle i _ | .complete i _ => some i
  | .register _ | .submit | .sendHeartbeat _ _ | .unregister _ | .put | .putRaises
  | .leave _ _ => none

def SharedAction.OfProcessor (a : SharedAction T D) : Prop := a.processor?.isSome

/-- The event loop goes on in `register_heartbeater` or `unregister_heartbeater`. -/
def SharedAction.Continues : SharedAction T D → Prop
  | .submit | .put | .putRaises => True
  | _ => False

namespace SharedState

variable [DecidableEq T]

/-- If an activity is registered, a processor is running or submitted, or
    `register_heartbeater` is just about to submit it. -/
def Served (s : SharedState T D) : Prop :=
  s.heartbeats = [] ∨ (∃ p ∈ s.processors, p.Alive) ∨
    ∃ token, s.loop = .registering token ∧ s.heartbeats = [token]

/-- The processor in which the step raises: in `get`, in a callback, or in the
    `del` of a token that is not registered. -/
def raisesIn (s : SharedState T D) : SharedAction T D → Option Nat
  | .getRaises i => some i
  | .handle i result => match s.processors[i]? with
    | some (.handling entry) => match entry.item with
      | .complete token => if token ∈ s.heartbeats then none else some i
      | .heartbeat token _ => if token ∈ s.heartbeats ∧ result = .raises then some i else none
    | _ => none
  | .complete i result => match s.processors[i]? with
    | some (.completing token) =>
      if token ∈ s.heartbeatCompletions ∧ result = .raises then some i else none
    | _ => none
  | _ => none

/-- A processor in which something raises is not the only one, or none is needed,
    or another one is just about to be submitted. -/
def Harmless (s : SharedState T D) (a : SharedAction T D) : Prop :=
  ∀ i, s.raisesIn a = some i → s.heartbeats = [] ∨
    (∃ j p, j ≠ i ∧ s.processors[j]? = some p ∧ p.Alive) ∨
    ∃ token, s.loop = .registering token ∧ s.heartbeats = [token]

/-- Threads go on, calls end, the executor starts what is submitted to it unless it
    is running a processor already, and the event loop goes on. -/
structure Fair (t : Trace (step (T := T) (D := D)) init) : Prop where
  processors : ∀ n i p, (t.state n).processors[i]? = some p → p.Running →
    ∃ m, n ≤ m ∧ t.Takes (fun a => a.processor? = some i) m
  executor : ∀ n, .submitted ∈ (t.state n).processors →
    ∃ m, n ≤ m ∧ ∃ p ∈ (t.state m).processors, p.Running
  loop : ∀ n, (t.state n).loop ≠ .idle → ∃ m, n ≤ m ∧ t.Takes SharedAction.Continues m

/-! ### Steps -/

/-- What a step may do. -/
inductive Moves (s : SharedState T D) : SharedAction T D → SharedState T D → Prop where
  | register {token} (idle : s.loop = .idle) (new : s.activities token = .new) :
      Moves s (.register token) { s.setActivity token .registered with
        heartbeats := if token ∈ s.heartbeats then s.heartbeats else s.heartbeats ++ [token]
        loop := .registering token }
  | submit {token} (registering : s.loop = .registering token) (one : s.heartbeats.length = 1) :
      Moves s .submit { s with loop := .idle, processors := s.processors ++ [.submitted] }
  | submitNone {token} (registering : s.loop = .registering token)
      (more : s.heartbeats.length ≠ 1) : Moves s .submit { s with loop := .idle }
  | sendHeartbeat {token details} (known : s.activities token ≠ .new) :
      Moves s (.sendHeartbeat token details) (s.enqueue (.heartbeat token details))
  | unregister {token} (idle : s.loop = .idle) (registered : s.activities token = .registered) :
      Moves s (.unregister token) { s.setActivity token .unregistering with
        heartbeatCompletions := s.heartbeatCompletions ++ [token]
        loop := .putting token }
  | put {token} (putting : s.loop = .putting token) :
      Moves s .put { s.enqueue (.complete token) with loop := .idle }
  | putRaises {token} (putting : s.loop = .putting token) :
      Moves s .putRaises { s.setActivity token .left with
        heartbeatCompletions := s.heartbeatCompletions.erase token
        loop := .idle }
  | leave {token cancelled} (idle : s.loop = .idle)
      (waiting : s.activities token = .unregistering) :
      Moves s (.leave token cancelled) { s.setActivity token .left with
        heartbeatCompletions := s.heartbeatCompletions.erase token }
  | start {i} (at_i : s.processors[i]? = some .submitted) :
      Moves s (.start i) (s.setProcessor i .checking)
  | checkSome {i} (at_i : s.processors[i]? = some .checking) (some' : s.heartbeats ≠ []) :
      Moves s (.check i) (s.setProcessor i .getting)
  | checkNone {i} (at_i : s.processors[i]? = some .checking) (none' : s.heartbeats = []) :
      Moves s (.check i) (s.setProcessor i .ended)
  | getEmpty {i} (at_i : s.processors[i]? = some .getting) (empty : s.heartbeatQueue = []) :
      Moves s (.get i) (s.setProcessor i .checking)
  | get {i entry rest} (at_i : s.processors[i]? = some .getting)
      (first : s.heartbeatQueue = entry :: rest) :
      Moves s (.get i) { s.setProcessor i (.handling entry) with heartbeatQueue := rest }
  | getRaises {i} (at_i : s.processors[i]? = some .getting) :
      Moves s (.getRaises i) (s.setProcessor i .ended)
  | marker {i result number token}
      (at_i : s.processors[i]? = some (.handling ⟨number, .complete token⟩))
      (registered : token ∈ s.heartbeats) :
      Moves s (.handle i result) { s.setProcessor i (.completing token) with
        heartbeats := s.heartbeats.erase token
        completed := s.completed ++ [token] }
  | keyError {i result number token}
      (at_i : s.processors[i]? = some (.handling ⟨number, .complete token⟩))
      (absent : token ∉ s.heartbeats) : Moves s (.handle i result) (s.setProcessor i .ended)
  | deliver {i result number token details}
      (at_i : s.processors[i]? = some (.handling ⟨number, .heartbeat token details⟩))
      (registered : token ∈ s.heartbeats) :
      Moves s (.handle i result) { s.setProcessor i (after result) with
        delivered := s.delivered ++ [⟨number, .heartbeat token details⟩] }
  | drop {i result number token details}
      (at_i : s.processors[i]? = some (.handling ⟨number, .heartbeat token details⟩))
      (absent : token ∉ s.heartbeats) :
      Moves s (.handle i result) (s.setProcessor i .checking)
  | complete {i result token finished} (at_i : s.processors[i]? = some (.completing token))
      (waiting : token ∈ s.heartbeatCompletions) :
      Moves s (.complete i result) { s.setProcessor i (after result) with finished := finished }
  | gone {i result token} (at_i : s.processors[i]? = some (.completing token))
      (absent : token ∉ s.heartbeatCompletions) :
      Moves s (.complete i result) (s.setProcessor i .checking)

variable {s s' : SharedState T D} {a : SharedAction T D}

theorem Moves.of_register {token : T} (stepped : step s (.register token) = some s') :
    Moves s (.register token) s' := by
  obtain ⟨⟨idle, new⟩, rfl⟩ : (s.loop = .idle ∧ s.activities token = .new) ∧ _ = s' := by
    simpa [step] using stepped
  exact .register idle new

/-- A processor is submitted with the first heartbeater only. -/
theorem Moves.of_submit (stepped : step s .submit = some s') : Moves s .submit s' := by
  cases loop : s.loop with
  | registering token =>
    by_cases one : s.heartbeats.length = 1
    · obtain rfl : _ = s' := by simpa [step, loop, one] using stepped
      exact .submit loop one
    · obtain rfl : _ = s' := by simpa [step, loop, one] using stepped
      exact .submitNone loop one
  | idle => simp [step, loop] at stepped
  | putting => simp [step, loop] at stepped

theorem Moves.of_sendHeartbeat {token : T} {details : D}
    (stepped : step s (.sendHeartbeat token details) = some s') :
    Moves s (.sendHeartbeat token details) s' := by
  obtain ⟨⟨known, -⟩, rfl⟩ : (s.activities token ≠ .new ∧
      s.heartbeatQueue.length < queueSize) ∧ _ = s' := by simpa [step] using stepped
  exact .sendHeartbeat known

theorem Moves.of_unregister {token : T} (stepped : step s (.unregister token) = some s') :
    Moves s (.unregister token) s' := by
  obtain ⟨⟨idle, registered⟩, rfl⟩ :
      (s.loop = .idle ∧ s.activities token = .registered) ∧ _ = s' := by
    simpa [step] using stepped
  exact .unregister idle registered

theorem Moves.of_put (stepped : step s .put = some s') : Moves s .put s' := by
  cases loop : s.loop with
  | putting token =>
    obtain ⟨-, rfl⟩ : s.heartbeatQueue.length < queueSize ∧ _ = s' := by
      simpa [step, loop] using stepped
    exact .put loop
  | idle => simp [step, loop] at stepped
  | registering => simp [step, loop] at stepped

theorem Moves.of_putRaises (stepped : step s .putRaises = some s') : Moves s .putRaises s' := by
  cases loop : s.loop with
  | putting token =>
    obtain rfl : _ = s' := by simpa [step, loop] using stepped
    exact .putRaises loop
  | idle => simp [step, loop] at stepped
  | registering => simp [step, loop] at stepped

theorem Moves.of_leave {token : T} {cancelled : Bool}
    (stepped : step s (.leave token cancelled) = some s') :
    Moves s (.leave token cancelled) s' := by
  obtain ⟨⟨idle, waiting, -⟩, rfl⟩ : (s.loop = .idle ∧ s.activities token = .unregistering ∧
      (cancelled = true ∨ token ∈ s.finished)) ∧ _ = s' := by simpa [step] using stepped
  exact .leave idle waiting

theorem Moves.of_start {i : Nat} (stepped : step s (.start i) = some s') :
    Moves s (.start i) s' := by
  simp only [step] at stepped
  split at stepped
  next at_i =>
    cases stepped
    exact .start at_i
  next => cases stepped

theorem Moves.of_check {i : Nat} (stepped : step s (.check i) = some s') :
    Moves s (.check i) s' := by
  simp only [step] at stepped
  split at stepped
  next at_i =>
    cases stepped
    split
    next more => exact .checkSome at_i (List.ne_nil_of_length_pos more)
    next none' => exact .checkNone at_i (by simpa using none')
  next => cases stepped

theorem Moves.of_get {i : Nat} (stepped : step s (.get i) = some s') :
    Moves s (.get i) s' := by
  simp only [step] at stepped
  split at stepped
  next at_i =>
    split at stepped
    next empty =>
      cases stepped
      exact .getEmpty at_i empty
    next first =>
      cases stepped
      exact .get at_i first
  next => cases stepped

theorem Moves.of_getRaises {i : Nat} (stepped : step s (.getRaises i) = some s') :
    Moves s (.getRaises i) s' := by
  simp only [step] at stepped
  split at stepped
  next at_i =>
    cases stepped
    exact .getRaises at_i
  next => cases stepped

/-- An item is a marker or a heartbeat, of a token that is registered or not. -/
theorem Moves.of_handle {i : Nat} {result : CallResult} (stepped : step s (.handle i result) = some s') :
    Moves s (.handle i result) s' := by
  simp only [step] at stepped
  split at stepped
  next entry at_i =>
    obtain ⟨number, item⟩ := entry
    cases item with
    | complete token =>
      by_cases registered : token ∈ s.heartbeats
      · obtain rfl : _ = s' := by simpa [registered] using stepped
        exact .marker at_i registered
      · obtain rfl : _ = s' := by simpa [registered] using stepped
        exact .keyError at_i registered
    | heartbeat token details =>
      by_cases registered : token ∈ s.heartbeats
      · obtain rfl : _ = s' := by simpa [registered] using stepped
        exact .deliver at_i registered
      · obtain rfl : _ = s' := by simpa [registered] using stepped
        exact .drop at_i registered
  next => cases stepped

/-- The finish event is set if it is still there. -/
theorem Moves.of_complete {i : Nat} {result : CallResult} (stepped : step s (.complete i result) = some s') :
    Moves s (.complete i result) s' := by
  simp only [step] at stepped
  split at stepped
  next token at_i =>
    split at stepped
    next waiting =>
      cases stepped
      exact .complete at_i waiting
    next absent =>
      cases stepped
      exact .gone at_i absent
  next => cases stepped

theorem moves_of_step (stepped : step s a = some s') : Moves s a s' := by
  cases a with
  | register token => exact .of_register stepped
  | submit => exact .of_submit stepped
  | sendHeartbeat token details => exact .of_sendHeartbeat stepped
  | unregister token => exact .of_unregister stepped
  | put => exact .of_put stepped
  | putRaises => exact .of_putRaises stepped
  | leave token cancelled => exact .of_leave stepped
  | start i => exact .of_start stepped
  | check i => exact .of_check stepped
  | get i => exact .of_get stepped
  | getRaises i => exact .of_getRaises stepped
  | handle i result => exact .of_handle stepped
  | complete i result => exact .of_complete stepped

/-! ### A processor is running or submitted -/

section

omit [DecidableEq T]

/-- A processor that stays alive serves. -/
theorem served_of_set {i : Nat} {p q : Processor T D} (at_i : s.processors[i]? = some p)
    (now : s'.processors = s.processors.set i q) (alive : q.Alive) : s'.Served := by
  refine .inr (.inl ⟨q, ?_, alive⟩)
  obtain ⟨inside, -⟩ := List.getElem?_eq_some_iff.mp at_i
  rw [now]
  exact List.mem_set inside q

/-- After a processor has ended, the others still serve. -/
theorem served_ended_iff {i : Nat} (now : s'.processors = s.processors.set i .ended)
    (heartbeats : s'.heartbeats = s.heartbeats) (loop : s'.loop = s.loop) :
    s'.Served ↔ s.heartbeats = [] ∨
      (∃ j p, j ≠ i ∧ s.processors[j]? = some p ∧ p.Alive) ∨
      ∃ token, s.loop = .registering token ∧ s.heartbeats = [token] := by
  have others : (∃ q ∈ s'.processors, q.Alive) ↔
      ∃ j p, j ≠ i ∧ s.processors[j]? = some p ∧ p.Alive := by
    rw [now]
    constructor
    · rintro ⟨q, member, alive⟩
      obtain ⟨j, there⟩ := List.mem_iff_getElem?.mp member
      rcases getElem?_set_cases there with ⟨-, rfl⟩ | ⟨other, there⟩
      · exact absurd rfl alive
      · exact ⟨j, q, other, there, alive⟩
    · rintro ⟨j, q, other, there, alive⟩
      refine ⟨q, List.mem_of_getElem? (i := j) ?_, alive⟩
      rw [List.getElem?_set_ne (Ne.symm other)]
      exact there
  unfold Served
  rw [heartbeats, loop, others]

/-- The event loop leaves the processors alone, outside `register_heartbeater`. -/
theorem Served.frame (served : s.Served) (notRegistering : ∀ token, s.loop ≠ .registering token)
    (heartbeats : s'.heartbeats = s.heartbeats) (processors : s'.processors = s.processors) :
    s'.Served := by
  unfold Served
  rw [heartbeats, processors]
  rcases served with none' | alive | ⟨token, registering, -⟩
  · exact .inl none'
  · exact .inr (.inl alive)
  · exact absurd registering (notRegistering token)

end

theorem harmless_of_none (quiet : s.raisesIn a = none) : s.Harmless a := by
  intro i raises
  rw [quiet] at raises
  cases raises

theorem harmless_iff {i : Nat} (raises : s.raisesIn a = some i) : s.Harmless a ↔
    s.heartbeats = [] ∨ (∃ j p, j ≠ i ∧ s.processors[j]? = some p ∧ p.Alive) ∨
      ∃ token, s.loop = .registering token ∧ s.heartbeats = [token] := by
  constructor
  · intro harmless
    exact harmless i raises
  · intro spare j raises'
    rw [raises] at raises'
    cases raises'
    exact spare

/-- A step that ends a processor by raising keeps one running exactly if it is harmless. -/
theorem served_raising_iff {i : Nat} (raises : s.raisesIn a = some i)
    (now : s'.processors = s.processors.set i .ended) (heartbeats : s'.heartbeats = s.heartbeats)
    (loop : s'.loop = s.loop) : s'.Served ↔ s.Harmless a := by
  rw [served_ended_iff now heartbeats loop, harmless_iff raises]

omit [DecidableEq T] in
theorem after_alive {result : CallResult} (goesOn : result ≠ .raises) :
    (after result : Processor T D).Alive := by
  cases result with
  | raises => exact absurd rfl goesOn
  | returns | raisesEmpty => exact nofun

/-- A step keeps a processor unless it ends the last one that is needed. -/
theorem served_step_iff (served : s.Served) (moves : Moves s a s') :
    s'.Served ↔ s.Harmless a := by
  cases moves with
  | @register token idle _ =>
    refine iff_of_true ?_ (harmless_of_none rfl)
    -- a registration into an empty map is the one that submits a processor
    rcases served with none' | alive | ⟨token', registering, -⟩
    · exact .inr (.inr ⟨token, rfl, by simp [none']⟩)
    · exact .inr (.inl alive)
    · simp [idle] at registering
  | submit => exact iff_of_true (.inr (.inl ⟨.submitted, by simp, nofun⟩)) (harmless_of_none rfl)
  | submitNone _ more =>
    refine iff_of_true ?_ (harmless_of_none rfl)
    rcases served with none' | alive | ⟨token, -, one⟩
    · exact .inl none'
    · exact .inr (.inl alive)
    · simp [one] at more
  | sendHeartbeat => exact iff_of_true served (harmless_of_none rfl)
  | unregister idle | leave idle =>
    exact iff_of_true (served.frame (by simp [idle]) rfl rfl) (harmless_of_none rfl)
  | put putting | putRaises putting =>
    exact iff_of_true (served.frame (by simp [putting]) rfl rfl) (harmless_of_none rfl)
  | start at_i | checkSome at_i _ | getEmpty at_i _ | get at_i _ =>
    exact iff_of_true (served_of_set at_i rfl nofun) (harmless_of_none rfl)
  | checkNone _ none' => exact iff_of_true (.inl none') (harmless_of_none rfl)
  -- the processor ends, and whoever is registered is not served
  | getRaises => exact served_raising_iff rfl rfl rfl rfl
  | marker at_i registered | drop at_i registered =>
    exact iff_of_true (served_of_set at_i rfl nofun)
      (harmless_of_none (by simp [raisesIn, at_i, registered]))
  | keyError at_i absent =>
    exact served_raising_iff (by simp [raisesIn, at_i, absent]) rfl rfl rfl
  | @deliver i result _ _ _ at_i registered =>
    by_cases raises : result = .raises
    · subst raises
      exact served_raising_iff (by simp [raisesIn, at_i, registered]) rfl rfl rfl
    · exact iff_of_true (served_of_set at_i rfl (after_alive raises))
        (harmless_of_none (by simp [raisesIn, at_i, raises]))
  | @complete i result _ _ at_i waiting =>
    by_cases raises : result = .raises
    · subst raises
      exact served_raising_iff (by simp [raisesIn, at_i, waiting]) rfl rfl rfl
    · exact iff_of_true (served_of_set at_i rfl (after_alive raises))
        (harmless_of_none (by simp [raisesIn, at_i, raises]))
  | gone at_i absent =>
    exact iff_of_true (served_of_set at_i rfl nofun)
      (harmless_of_none (by simp [raisesIn, at_i, absent]))

theorem served_of_reaches (run : Reaches step Harmless init s) : s.Served := by
  refine run.invariant Served (.inl rfl) ?_
  intro s s' a served harmless stepped
  exact (served_step_iff served (moves_of_step stepped)).mpr harmless

/-! ### Markers -/

/-- On the queue or taken off and not yet handled. -/
def Pending (s : SharedState T D) (entry : QueueEntry T D) : Prop :=
  entry ∈ s.heartbeatQueue ∨ .handling entry ∈ s.processors

/-- `unregister_heartbeater` has been called for the activity. -/
def Leaving (s : SharedState T D) (token : T) : Prop :=
  s.activities token = .unregistering ∨ s.activities token = .left

structure Inv (s : SharedState T D) : Prop where
  registering : ∀ token, s.loop = .registering token →
    token ∈ s.heartbeats ∧ s.activities token = .registered
  putting : ∀ token, s.loop = .putting token → s.activities token = .unregistering
  markers : ∀ entry token, s.Pending entry → entry.item = .complete token → s.Leaving token
  known : ∀ token, s.activities token ≠ .new →
    token ∈ s.heartbeats ∨ token ∈ s.completed ∧ s.Leaving token

omit [DecidableEq T] in
theorem Inv.frame (inv : s.Inv) (loop : s'.loop = s.loop) (activities : s'.activities = s.activities)
    (heartbeats : s'.heartbeats = s.heartbeats) (completed : s'.completed = s.completed)
    (pending : ∀ entry, s'.Pending entry → s.Pending entry) : s'.Inv where
  registering token at_token := by
    rw [heartbeats, activities]
    exact inv.registering token (loop ▸ at_token)
  putting token at_token := by
    rw [activities]
    exact inv.putting token (loop ▸ at_token)
  markers entry token isPending isMarker := by
    unfold Leaving
    rw [activities]
    exact inv.markers entry token (pending entry isPending) isMarker
  known token notNew := by
    unfold Leaving
    rw [heartbeats, completed, activities]
    exact inv.known token (activities ▸ notNew)

omit [DecidableEq T] in
/-- A processor handles what it has taken off the queue. -/
theorem pending_of_set {i : Nat} {q : Processor T D} {entry : QueueEntry T D}
    (now : s'.processors = s.processors.set i q)
    (queue : ∀ entry ∈ s'.heartbeatQueue, entry ∈ s.heartbeatQueue)
    (taken : q = .handling entry → entry ∈ s.heartbeatQueue) (pending : s'.Pending entry) :
    s.Pending entry := by
  rcases pending with queued | held
  · exact .inl (queue entry queued)
  · rw [now] at held
    rcases List.mem_or_eq_of_mem_set held with held | rfl
    · exact .inr held
    · exact .inl (taken rfl)

omit [DecidableEq T] in
theorem after_ne_handling {result : CallResult} {entry : QueueEntry T D} :
    after result ≠ .handling entry := by
  cases result <;> exact nofun

omit [DecidableEq T] in
theorem inv_init : (init : SharedState T D).Inv where
  registering _ registering := by cases registering
  putting _ putting := by cases putting
  markers entry _ pending _ := by rcases pending with queued | held <;> simp [init] at *
  known token notNew := absurd rfl notNew

/-- A step of one activity, which has no marker if it was new. -/
theorem Inv.setActivity (inv : s.Inv) {token : T} {call : ActivityCall}
    (activities : s'.activities = Function.update s.activities token call)
    (unmarked : s.activities token = .new ∨ call = .unregistering ∨ call = .left)
    (registering : ∀ token', s'.loop = .registering token' →
      token' ∈ s'.heartbeats ∧ s'.activities token' = .registered)
    (putting : ∀ token', s'.loop = .putting token' → s'.activities token' = .unregistering)
    (pending : ∀ entry, s'.Pending entry → s.Pending entry)
    (kept : ∀ token' ∈ s.heartbeats, token' ∈ s'.heartbeats)
    (completed : s'.completed = s.completed)
    (own : token ∈ s'.heartbeats ∨
      token ∈ s'.completed ∧ (call = .unregistering ∨ call = .left)) : s'.Inv where
  registering := registering
  putting := putting
  markers entry token' isPending isMarker := by
    have leaving := inv.markers entry token' (pending entry isPending) isMarker
    unfold Leaving at *
    rw [activities]
    by_cases same : token' = token
    · subst same
      rw [Function.update_self]
      rcases unmarked with new | leaves
      -- an activity that is new has no marker in the queue
      · simp [new] at leaving
      · exact leaves
    · rwa [Function.update_of_ne same]
  known token' notNew := by
    unfold Leaving
    rw [activities] at notNew ⊢
    by_cases same : token' = token
    · subst same
      rw [Function.update_self]
      exact own
    · rw [Function.update_of_ne same] at notNew ⊢
      rw [completed]
      exact (inv.known token' notNew).imp_left (kept token')

theorem Inv.step (inv : s.Inv) (moves : Moves s a s') : s'.Inv := by
  cases moves with
  | @register token idle new =>
    have inside : token ∈
        if token ∈ s.heartbeats then s.heartbeats else s.heartbeats ++ [token] := by
      split
      next already => exact already
      next => simp
    refine inv.setActivity rfl (.inl new) ?_ nofun (fun _ pending => pending) ?_ rfl (.inl inside)
    · rintro _ ⟨⟩
      exact ⟨inside, Function.update_self token _ s.activities⟩
    · intro token' registered
      show token' ∈ if token ∈ s.heartbeats then s.heartbeats else s.heartbeats ++ [token]
      split
      next => exact registered
      next => exact List.mem_append_left _ registered
  | submit =>
    refine ⟨nofun, nofun, fun entry token pending => ?_, inv.known⟩
    refine inv.markers entry token ?_
    rcases pending with queued | held
    · exact .inl queued
    · exact .inr (by simpa using held)
  | submitNone => exact ⟨nofun, nofun, inv.markers, inv.known⟩
  | @sendHeartbeat token details =>
    refine ⟨inv.registering, inv.putting, fun entry token' pending isMarker => ?_, inv.known⟩
    rcases pending with queued | held
    · rcases List.mem_append.mp queued with queued | isNew
      · exact inv.markers entry token' (.inl queued) isMarker
      · obtain rfl := List.mem_singleton.mp isNew
        cases isMarker
    · exact inv.markers entry token' (.inr held) isMarker
  | @unregister token idle registered =>
    refine inv.setActivity rfl (.inr (.inl rfl)) nofun ?_ (fun _ pending => pending)
      (fun _ registered => registered) rfl
      ((inv.known token (by simp [registered])).imp_right fun done => ⟨done.1, .inl rfl⟩)
    rintro _ ⟨⟩
    exact Function.update_self token _ s.activities
  | @put token putting =>
    refine ⟨nofun, nofun, fun entry token' pending isMarker => ?_, inv.known⟩
    rcases pending with queued | held
    · rcases List.mem_append.mp queued with queued | isNew
      · exact inv.markers entry token' (.inl queued) isMarker
      · obtain rfl := List.mem_singleton.mp isNew
        cases isMarker
        exact .inl (inv.putting token putting)
    · exact inv.markers entry token' (.inr held) isMarker
  | @putRaises token putting =>
    have waiting := inv.putting token putting
    exact inv.setActivity rfl (.inr (.inr rfl)) nofun nofun (fun _ pending => pending)
      (fun _ registered => registered) rfl
      ((inv.known token (by simp [waiting])).imp_right fun done => ⟨done.1, .inr rfl⟩)
  | @leave token _ idle waiting =>
    exact inv.setActivity rfl (.inr (.inr rfl))
      (fun _ registering => absurd (idle.symm.trans registering) nofun)
      (fun _ putting => absurd (idle.symm.trans putting) nofun) (fun _ pending => pending)
      (fun _ registered => registered) rfl
      ((inv.known token (by simp [waiting])).imp_right fun done => ⟨done.1, .inr rfl⟩)
  | start | checkSome | checkNone | getEmpty | getRaises | keyError | drop | gone =>
    exact inv.frame rfl rfl rfl rfl fun entry =>
      pending_of_set rfl (fun _ queued => queued) (by simp)
  | complete | deliver =>
    exact inv.frame rfl rfl rfl rfl fun entry =>
      pending_of_set rfl (fun _ queued => queued) (absurd · after_ne_handling)
  | @get i first rest at_i isFirst =>
    refine inv.frame rfl rfl rfl rfl fun entry => pending_of_set rfl ?_ ?_
    · intro entry queued
      rw [isFirst]
      exact List.mem_cons_of_mem first queued
    · rintro ⟨⟩
      rw [isFirst]
      exact List.mem_cons_self
  | @marker i _ number token at_i registered =>
    have leaving := inv.markers ⟨number, .complete token⟩ token
      (.inr (List.mem_of_getElem? at_i)) rfl
    constructor
    · intro token' registering
      obtain ⟨registered', call⟩ := inv.registering token' registering
      -- the activity that is being registered has no marker
      have other : token' ≠ token := by
        rintro rfl
        simp [Leaving, call] at leaving
      exact ⟨(List.mem_erase_of_ne other).mpr registered', call⟩
    · exact inv.putting
    · intro entry token' pending
      refine inv.markers entry token' ?_
      revert pending
      exact pending_of_set rfl (fun _ queued => queued) nofun
    · intro token' notNew
      by_cases same : token' = token
      · subst same
        exact .inr ⟨by simp, leaving⟩
      · rcases inv.known token' notNew with registered' | ⟨completed, leaving'⟩
        · exact .inl ((List.mem_erase_of_ne same).mpr registered')
        · exact .inr ⟨List.mem_append_left _ completed, leaving'⟩

end SharedState

end TemporalSdk.ActivityWorker
