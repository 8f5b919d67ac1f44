import Mathlib.Data.Prod.Lex
import TemporalSdk.Properties.HeartbeatProcessor

/-!
# The shared heartbeat processor stays alive

## Main result

`processor_stays_alive`: as long as no call of a processor raises while it is the
only one and activities stay registered, whenever an activity is registered a
processor is running or submitted. In a fair run every completion marker on the
queue is then processed, and every heartbeat delivered unless its activity is
unregistered first, which cannot be if the executor has one thread.

The processor returns when a heartbeat function raises, and nothing submits
another one: `failing_heartbeat_stops_processor`.

## Proof strategy

An item moves to the front of the queue while its activity is registered: the
rank is its place in the queue and then how far the processors are from their
next `get`. A heartbeat that the function has sent is before the marker.
-/

namespace TemporalSdk.ActivityWorker

variable {T D : Type}

/-- Steps, or a bound of them, to the next `get`. -/
def Processor.distance : Processor T D → Nat
  | .submitted => 5
  | .handling _ => 4
  | .completing _ => 3
  | .checking => 2
  | .getting => 1
  | .ended => 0

namespace SharedState

variable [DecidableEq T] {s s' : SharedState T D} {a : SharedAction T D}

/-! ### An item moves to the front of the queue -/

/-- A processor has the item and has not handled it. -/
def Held (entry : QueueEntry T D) (s : SharedState T D) : Prop :=
  ∃ i : Nat, s.processors[i]? = some (.handling entry)

/-- How far the processors are from their next `get`, and whether `token` may get
    one more. -/
def work (s : SharedState T D) (token : T) : Nat :=
  (s.processors.map Processor.distance).sum + if s.loop = .registering token then 6 else 0

theorem work_set {i : Nat} {p q : Processor T D} (at_i : s.processors[i]? = some p)
    (now : s'.processors = s.processors.set i q) (loop : s'.loop = s.loop) (token : T) :
    s'.work token + p.distance = s.work token + q.distance := by
  have := sum_map_set Processor.distance at_i q
  unfold work
  rw [now, loop]
  omega

omit [DecidableEq T] in
theorem after_distance (result : CallResult) : (after result : Processor T D).distance ≤ 2 := by
  cases result <;> simp [after, Processor.distance]

/-- A processor that does not take the item off brings its next `get` nearer. -/
theorem advances_of_set {i k : Nat} {p q : Processor T D} {token : T} {entry : QueueEntry T D}
    (at_i : s.processors[i]? = some p) (now : s'.processors = s.processors.set i q)
    (nearer : q.distance < p.distance) (loop : s'.loop = s.loop)
    (at_k : s'.heartbeatQueue[k]? = some entry) :
    ∃ k', s'.heartbeatQueue[k']? = some entry ∧ (k' < k ∨ k' = k ∧
      s'.work token ≤ s.work token ∧ (a.OfProcessor → s'.work token < s.work token)) := by
  have := work_set at_i now loop token
  exact ⟨k, at_k, .inr ⟨rfl, by omega, fun _ => by omega⟩⟩

/-- An item that stays where it is. -/
theorem advances_of_quiet {k : Nat} {token : T} {entry : QueueEntry T D}
    (quiet : a.processor? = none) (at_k : s'.heartbeatQueue[k]? = some entry)
    (noMore : s'.work token ≤ s.work token) :
    ∃ k', s'.heartbeatQueue[k']? = some entry ∧ (k' < k ∨ k' = k ∧
      s'.work token ≤ s.work token ∧ (a.OfProcessor → s'.work token < s.work token)) := by
  exact ⟨k, at_k, .inr ⟨rfl, noMore, by simp [SharedAction.OfProcessor, quiet]⟩⟩

/-- While its activity is registered, an item stays where it is or moves on, and a
    step of a processor takes it off or brings the next `get` nearer. -/
theorem advances (inv : s.Inv) (moves : Moves s a s') {token : T} {k : Nat}
    {entry : QueueEntry T D} (registered : token ∈ s.heartbeats)
    (notNew : s.activities token ≠ .new) (at_k : s.heartbeatQueue[k]? = some entry) :
    Held entry s' ∨
      ∃ k', s'.heartbeatQueue[k']? = some entry ∧ (k' < k ∨ k' = k ∧
        s'.work token ≤ s.work token ∧ (a.OfProcessor → s'.work token < s.work token)) := by
  cases moves with
  | start at_i | checkSome at_i =>
    exact .inr (advances_of_set at_i rfl (by simp [Processor.distance]) rfl at_k)
  | getRaises at_i | keyError at_i | drop at_i | marker at_i | gone at_i =>
    exact .inr (advances_of_set at_i rfl (by simp [Processor.distance]) rfl at_k)
  | @deliver _ result _ _ _ at_i _ =>
    have : (after result : Processor T D).distance ≤ 2 := after_distance result
    exact .inr (advances_of_set at_i rfl (this.trans_lt (by simp [Processor.distance])) rfl at_k)
  | @complete _ result _ _ at_i _ =>
    have : (after result : Processor T D).distance ≤ 2 := after_distance result
    exact .inr (advances_of_set at_i rfl (this.trans_lt (by simp [Processor.distance])) rfl at_k)
  | checkNone _ none' =>
    rw [none'] at registered
    cases registered
  -- the queue holds the entry, so it is not empty
  | getEmpty _ empty =>
    rw [empty] at at_k
    cases at_k
  | @get i first rest at_i isFirst =>
    -- the first is taken, and the entry is it or one closer to the front
    rw [isFirst] at at_k
    cases k with
    | zero =>
      cases at_k
      refine .inl ⟨i, ?_⟩
      obtain ⟨inside, -⟩ := List.getElem?_eq_some_iff.mp at_i
      exact List.getElem?_set_self inside
    | succ k => exact .inr ⟨k, at_k, .inl (by omega)⟩
  | @register token' idle new =>
    have other : token' ≠ token := by
      rintro rfl
      exact notNew new
    exact .inr (advances_of_quiet rfl at_k (by simp [work, setActivity, idle, other]))
  | @submit token' registering one =>
    obtain ⟨only, heartbeats⟩ := List.length_eq_one_iff.mp one
    -- a processor is submitted for the only activity that is known
    have isOnly : token' = only ∧ token = only := by
      obtain ⟨inside, -⟩ := inv.registering token' registering
      rw [heartbeats] at inside registered
      exact ⟨List.mem_singleton.mp inside, List.mem_singleton.mp registered⟩
    refine .inr (advances_of_quiet rfl at_k ?_)
    simp [work, registering, isOnly.1, isOnly.2, Processor.distance]
  | submitNone => exact .inr (advances_of_quiet rfl at_k (by simp [work]))
  | unregister idle | putRaises idle =>
    exact .inr (advances_of_quiet rfl at_k (by simp [work, setActivity, idle]))
  | leave => exact .inr (advances_of_quiet rfl at_k (le_refl _))
  | sendHeartbeat =>
    obtain ⟨inside, -⟩ := List.getElem?_eq_some_iff.mp at_k
    refine .inr (advances_of_quiet rfl ?_ (le_refl _))
    exact (List.getElem?_append_left inside).trans at_k
  | put putting =>
    obtain ⟨inside, -⟩ := List.getElem?_eq_some_iff.mp at_k
    refine .inr (advances_of_quiet rfl ?_ (by simp [work, enqueue, putting]))
    exact (List.getElem?_append_left inside).trans at_k

/-! ### Fair runs -/

/-- Where a processor is changes in its own steps only. -/
theorem processors_frame (moves : Moves s a s') {i : Nat} {p : Processor T D}
    (at_i : s.processors[i]? = some p) (others : a.processor? ≠ some i) :
    s'.processors[i]? = some p := by
  have set_other : ∀ {j : Nat} {q : Processor T D}, some j ≠ some i →
      (s.processors.set j q)[i]? = some p := by
    intro j q other
    rw [List.getElem?_set_ne (fun same => other (congrArg some same))]
    exact at_i
  cases moves with
  | submit =>
    obtain ⟨inside, -⟩ := List.getElem?_eq_some_iff.mp at_i
    exact (List.getElem?_append_left inside).trans at_i
  | start | checkSome | checkNone | getEmpty | get | getRaises | marker | keyError | deliver | drop
  | complete | gone => exact set_other others
  | _ => exact at_i

theorem activities_ne_new (moves : Moves s a s') {token : T}
    (notNew : s.activities token ≠ .new) : s'.activities token ≠ .new := by
  have updated : ∀ {token' call}, call ≠ ActivityCall.new →
      Function.update s.activities token' call token ≠ .new := by
    intro token' call proper
    by_cases same : token = token'
    · subst same
      rwa [Function.update_self]
    · rwa [Function.update_of_ne same]
  cases moves with
  | register | unregister | putRaises | leave => exact updated nofun
  | _ => exact notNew

theorem handle_of_moves (moves : Moves s a s') {i : Nat} {entry : QueueEntry T D}
    (at_i : s.processors[i]? = some (.handling entry)) (acts : a.processor? = some i) :
    ∃ result, a = .handle i result := by
  cases moves with
  | marker | keyError | deliver | drop =>
    cases acts
    exact ⟨_, rfl⟩
  | start at_i' | checkSome at_i' | checkNone at_i' | getEmpty at_i' | get at_i' | getRaises at_i'
  | complete at_i' | gone at_i' =>
    cases acts
    rw [at_i'] at at_i
    cases at_i
  | _ => cases acts

/-- `register_heartbeater` submits a processor for the only activity. -/
theorem submits (moves : Moves s a s') (continues : a.Continues) {token : T}
    (registering : s.loop = .registering token) (one : s.heartbeats = [token]) :
    .submitted ∈ s'.processors := by
  cases moves with
  | submit => simp
  | submitNone _ more => simp [one] at more
  | put putting | putRaises putting =>
    rw [registering] at putting
    cases putting
  | _ => exact continues.elim

/-- The rank of an item on the queue: its place, and then how far the processors
    are from their next `get`. -/
def Rank (token : T) (entry : QueueEntry T D) (s : SharedState T D) (w : Nat ×ₗ Nat) : Prop :=
  s.activities token ≠ .new ∧
    ∃ k, s.heartbeatQueue[k]? = some entry ∧ w = toLex (k, s.work token)

theorem rank_step (inv : s.Inv) (moves : Moves s a s') {token : T} {entry : QueueEntry T D}
    {w : Nat ×ₗ Nat} (registered : token ∈ s.heartbeats) (ranked : Rank token entry s w) :
    Held entry s' ∨ ∃ w', Rank token entry s' w' ∧ w' ≤ w ∧ (a.OfProcessor → w' < w) := by
  obtain ⟨notNew, k, at_k, rfl⟩ := ranked
  rcases advances inv moves registered notNew at_k with taken | ⟨k', at_k', less⟩
  · exact .inl taken
  · refine .inr ⟨toLex (k', s'.work token),
      ⟨activities_ne_new moves notNew, k', at_k', rfl⟩, ?_, fun helps => ?_⟩
    · rw [Prod.Lex.toLex_le_toLex]
      rcases less with before | ⟨same, noMore, -⟩
      · exact .inl before
      · exact .inr ⟨same, noMore⟩
    · rw [Prod.Lex.toLex_lt_toLex]
      rcases less with before | ⟨same, -, less⟩
      · exact .inl before
      · exact .inr ⟨same, less helps⟩

/-! ### Heartbeats before the marker -/

theorem delivered_of_handle {i : Nat} {result : CallResult} {number : Nat} {token : T} {details : D}
    (moves : Moves s (.handle i result) s')
    (at_i : s.processors[i]? = some (.handling ⟨number, .heartbeat token details⟩))
    (registered : token ∈ s.heartbeats) :
    ⟨number, .heartbeat token details⟩ ∈ s'.delivered := by
  cases moves with
  | deliver at_i' =>
    rw [at_i'] at at_i
    cases at_i
    simp
  | drop at_i' absent =>
    rw [at_i'] at at_i
    cases at_i
    exact absurd registered absent
  | marker at_i' | keyError at_i' =>
    rw [at_i'] at at_i
    cases at_i

theorem completed_of_handle {i : Nat} {result : CallResult} {number : Nat} {token : T}
    (moves : Moves s (.handle i result) s')
    (at_i : s.processors[i]? = some (.handling ⟨number, .complete token⟩))
    (registered : token ∈ s.heartbeats) : token ∈ s'.completed := by
  cases moves with
  | marker at_i' =>
    rw [at_i'] at at_i
    cases at_i
    simp
  | keyError at_i' absent =>
    rw [at_i'] at at_i
    cases at_i
    exact absurd registered absent
  | deliver at_i' | drop at_i' =>
    rw [at_i'] at at_i
    cases at_i

/-- Only one processor is running, as in an executor with one thread. -/
def Single (s : SharedState T D) : Prop :=
  ∀ (i j : Nat) (p q : Processor T D), s.processors[i]? = some p → s.processors[j]? = some q →
    p.Running → q.Running → i = j

/-- The heartbeat is on its way and no marker of its activity is before it. -/
structure InLine (token : T) (entry : QueueEntry T D) (s : SharedState T D) : Prop where
  registered : token ∈ s.heartbeats
  unmarked : ∀ e, .handling e ∈ s.processors → e.item ≠ .complete token
  queued : Held entry s ∨ ∃ front rest, s.heartbeatQueue = front ++ entry :: rest ∧
    ∀ e ∈ front, e.item ≠ .complete token

theorem held_step {number : Nat} {token : T} {details : D}
    (held : Held ⟨number, .heartbeat token details⟩ s) (registered : token ∈ s.heartbeats)
    (moves : Moves s a s') : Held ⟨number, .heartbeat token details⟩ s' ∨
      ⟨number, .heartbeat token details⟩ ∈ s'.delivered := by
  obtain ⟨i, at_i⟩ := held
  by_cases acts : a.processor? = some i
  · obtain ⟨result, rfl⟩ := handle_of_moves moves at_i acts
    exact .inr (delivered_of_handle moves at_i registered)
  · exact .inl ⟨i, processors_frame moves at_i acts⟩

theorem queued_step {token : T} {entry : QueueEntry T D} {front rest : List (QueueEntry T D)}
    (queue : s.heartbeatQueue = front ++ entry :: rest)
    (unmarked : ∀ e ∈ front, e.item ≠ .complete token) (moves : Moves s a s') :
    Held entry s' ∨ ∃ front rest, s'.heartbeatQueue = front ++ entry :: rest ∧
      ∀ e ∈ front, e.item ≠ .complete token := by
  have grown : ∀ item, (s.enqueue item).heartbeatQueue =
      front ++ entry :: (rest ++ [⟨s.puts, item⟩]) := by
    intro item
    simp only [enqueue, queue, List.append_assoc, List.cons_append]
  cases moves with
  | sendHeartbeat | put => exact .inr ⟨front, _, grown _, unmarked⟩
  | @get i first others at_i isFirst =>
    rw [isFirst] at queue
    cases front with
    | nil =>
      cases queue
      obtain ⟨inside, -⟩ := List.getElem?_eq_some_iff.mp at_i
      exact .inl ⟨i, List.getElem?_set_self inside⟩
    | cons f front =>
      cases queue
      exact .inr ⟨front, rest, rfl, fun e member => unmarked e (List.mem_cons_of_mem _ member)⟩
  | _ => exact .inr ⟨front, rest, queue, unmarked⟩

theorem InLine.registered_step {token : T} {entry : QueueEntry T D}
    (inLine : InLine token entry s) (moves : Moves s a s') : token ∈ s'.heartbeats := by
  have registered := inLine.registered
  cases moves with
  | register =>
    show token ∈ ite _ _ _
    split
    · exact registered
    · exact List.mem_append_left _ registered
  | @marker _ _ _ token' at_i =>
    have other : token ≠ token' := by
      rintro rfl
      exact inLine.unmarked _ (List.mem_of_getElem? at_i) rfl
    exact (List.mem_erase_of_ne other).mpr registered
  | _ => exact registered

theorem InLine.unmarked_step {number : Nat} {token : T} {details : D} (single : s.Single)
    (inLine : InLine token ⟨number, .heartbeat token details⟩ s) (moves : Moves s a s') :
    ∀ e, .handling e ∈ s'.processors → e.item ≠ .complete token := by
  have of_set : ∀ {i : Nat} {q : Processor T D},
      (∀ e, q = .handling e → e.item ≠ .complete token) →
      ∀ e, .handling e ∈ s.processors.set i q → e.item ≠ .complete token := by
    intro i q taken e member
    rcases List.mem_or_eq_of_mem_set member with held | rfl
    · exact inLine.unmarked e held
    · exact taken e rfl
  cases moves with
  | submit =>
    intro e member
    exact inLine.unmarked e (by simpa using member)
  | start | checkSome | checkNone | getEmpty | getRaises | marker | keyError | drop | gone =>
    exact of_set nofun
  | deliver | complete => exact of_set fun e taken => absurd taken after_ne_handling
  | @get i first others at_i isFirst =>
    refine of_set fun e taken => ?_
    cases taken
    rcases inLine.queued with ⟨j, at_j⟩ | ⟨front, rest, queue, unmarked⟩
    · -- the processor that has the heartbeat is the only one
      have same := single i j _ _ at_i at_j ⟨nofun, nofun⟩ ⟨nofun, nofun⟩
      rw [same, at_j] at at_i
      cases at_i
    · rw [isFirst] at queue
      cases front with
      | nil =>
        cases queue
        exact nofun
      | cons f front =>
        cases queue
        exact unmarked first List.mem_cons_self
  | _ => exact inLine.unmarked

theorem InLine.step {number : Nat} {token : T} {details : D} (single : s.Single)
    (inLine : InLine token ⟨number, .heartbeat token details⟩ s) (moves : Moves s a s') :
    InLine token ⟨number, .heartbeat token details⟩ s' ∨
      ⟨number, .heartbeat token details⟩ ∈ s'.delivered := by
  by_cases delivered : ⟨number, .heartbeat token details⟩ ∈ s'.delivered
  · exact .inr delivered
  · refine .inl ⟨inLine.registered_step moves, inLine.unmarked_step single moves, ?_⟩
    rcases inLine.queued with held | ⟨front, rest, queue, unmarked⟩
    · exact .inl ((held_step held inLine.registered moves).resolve_right delivered)
    · exact queued_step queue unmarked moves

section Runs

variable {t : Trace (step (T := T) (D := D)) init} (fair : Fair t)
  (harmless : ∀ n a, t.action n = some a → Harmless (t.state n) a)

include harmless in
theorem served_at (n : Nat) : (t.state n).Served := served_of_reaches (t.reaches harmless n)

theorem inv_at (n : Nat) : (t.state n).Inv := by
  have run : Reaches step (fun _ _ => True) init (t.state n) := t.reaches (fun _ _ _ => trivial) n
  refine run.invariant Inv inv_init ?_
  intro s s' a inv _ stepped
  exact inv.step (moves_of_step stepped)

/-- An activity stays registered until its marker is processed. -/
theorem registered_of_never_completed {n : Nat} {token : T}
    (notNew : (t.state n).activities token ≠ .new)
    (never : ∀ m, n ≤ m → token ∉ (t.state m).completed) {m : Nat} (later : n ≤ m) :
    token ∈ (t.state m).heartbeats := by
  have stillKnown : (t.state m).activities token ≠ .new := by
    refine t.holds_from (P := fun s => s.activities token ≠ .new) notNew ?_ later
    intro k _ a acts notNew
    exact activities_ne_new (moves_of_step (t.moves k a acts)) notNew
  rcases (inv_at m).known token stillKnown with registered | ⟨completed, -⟩
  · exact registered
  · exact absurd completed (never m later)

include fair in
theorem processor_steps_of_alive {n : Nat} {p : Processor T D}
    (member : p ∈ (t.state n).processors) (alive : p.Alive) :
    ∃ m, n ≤ m ∧ t.Takes SharedAction.OfProcessor m := by
  have running : ∃ m, n ≤ m ∧ ∃ p ∈ (t.state m).processors, p.Running := by
    by_cases submitted : p = .submitted
    · subst submitted
      exact fair.executor n member
    · exact ⟨n, le_refl n, p, member, submitted, alive⟩
  obtain ⟨m, later, p, member, running⟩ := running
  obtain ⟨i, at_i⟩ := List.mem_iff_getElem?.mp member
  obtain ⟨k, after, a, acts, isProcessor⟩ := fair.processors m i p at_i running
  exact ⟨k, later.trans after, a, acts, by simp [SharedAction.OfProcessor, isProcessor]⟩

include fair harmless in
/-- As long as an activity is registered, some processor takes a step. -/
theorem processor_steps {n : Nat} {token : T}
    (registered : ∀ m, n ≤ m → token ∈ (t.state m).heartbeats) :
    ∃ m, n ≤ m ∧ t.Takes SharedAction.OfProcessor m := by
  -- the registration that is about to submit a processor goes on
  have served : ∀ m, n ≤ m → (∃ p ∈ (t.state m).processors, p.Alive) ∨
      ∃ token', (t.state m).loop = .registering token' ∧ (t.state m).heartbeats = [token'] := by
    intro m later
    rcases served_at harmless m with none' | serves
    · have := registered m later
      rw [none'] at this
      cases this
    · exact serves
  rcases served n (le_refl n) with ⟨p, member, alive⟩ | ⟨token', registering, -⟩
  · exact processor_steps_of_alive fair member alive
  · obtain ⟨m, later, a, acts, continues⟩ := fair.loop n (by simp [registering])
    rcases served m later with ⟨p, member, alive⟩ | ⟨token', registering, one⟩
    · obtain ⟨k, after, steps⟩ := processor_steps_of_alive fair member alive
      exact ⟨k, later.trans after, steps⟩
    · have submitted : Processor.submitted ∈ (t.state (m + 1)).processors :=
        submits (moves_of_step (t.moves m a acts)) continues registering one
      obtain ⟨k, after, steps⟩ := processor_steps_of_alive fair submitted nofun
      exact ⟨k, by omega, steps⟩

include fair harmless in
/-- As long as its activity is registered, an item is taken off some time. -/
theorem taken_off {n : Nat} {token : T} {entry : QueueEntry T D}
    (registered : ∀ m, n ≤ m → token ∈ (t.state m).heartbeats)
    (notNew : (t.state n).activities token ≠ .new) (queued : entry ∈ (t.state n).heartbeatQueue) :
    ∃ m, n ≤ m ∧ Held entry (t.state m) := by
  obtain ⟨k, at_k⟩ := List.mem_iff_getElem?.mp queued
  have ranked : ∀ m, n ≤ m → ∀ a w, t.action m = some a → Rank token entry (t.state m) w →
      Held entry (t.state (m + 1)) ∨ ∃ w', Rank token entry (t.state (m + 1)) w' ∧ w' ≤ w ∧
        (a.OfProcessor → w' < w) := by
    intro m later a w acts ranked
    exact rank_step (inv_at m) (moves_of_step (t.moves m a acts)) (registered m later) ranked
  have steps : ∀ m, n ≤ m → ∃ k, m ≤ k ∧ t.Takes SharedAction.OfProcessor k := by
    intro m later
    exact processor_steps fair harmless fun k after => registered k (later.trans after)
  have here : Rank token entry (t.state n) (toLex (k, (t.state n).work token)) :=
    ⟨notNew, k, at_k, rfl⟩
  exact t.eventually_of_rank ranked steps here

include fair harmless in
/-- And handled. -/
theorem handled {n : Nat} {token : T} {entry : QueueEntry T D}
    (registered : ∀ m, n ≤ m → token ∈ (t.state m).heartbeats)
    (notNew : (t.state n).activities token ≠ .new) (queued : entry ∈ (t.state n).heartbeatQueue) :
    ∃ m, n ≤ m ∧ ∃ (i : Nat) (result : CallResult), t.action m = some (.handle i result) ∧
      (t.state m).processors[i]? = some (.handling entry) := by
  obtain ⟨m, later, i, at_i⟩ := taken_off fair harmless registered notNew queued
  obtain ⟨k, after, acts⟩ := fair.processors m i (.handling entry) at_i ⟨nofun, nofun⟩
  obtain ⟨k', after', ⟨a, acts, isProcessor⟩, at_i⟩ :=
    t.kept_until (P := fun s => s.processors[i]? = some (.handling entry)) at_i
      (fun j _ a acts others at_i =>
        processors_frame (moves_of_step (t.moves j a acts)) at_i others) after acts
  obtain ⟨result, rfl⟩ := handle_of_moves (moves_of_step (t.moves k' a acts)) at_i isProcessor
  exact ⟨k', later.trans after', i, result, acts, at_i⟩

include fair harmless in
/-- A heartbeat whose activity stays registered is delivered. -/
theorem delivered_of_registered {n number : Nat} {token : T} {details : D}
    (registered : ∀ m, n ≤ m → token ∈ (t.state m).heartbeats)
    (notNew : (t.state n).activities token ≠ .new)
    (queued : ⟨number, .heartbeat token details⟩ ∈ (t.state n).heartbeatQueue) :
    ∃ m, n ≤ m ∧ ⟨number, .heartbeat token details⟩ ∈ (t.state m).delivered := by
  obtain ⟨m, later, i, result, acts, at_i⟩ := handled fair harmless registered notNew queued
  exact ⟨m + 1, by omega,
    delivered_of_handle (moves_of_step (t.moves m _ acts)) at_i (registered m later)⟩

/-- The state after a heartbeat has been put on the queue. -/
theorem after_send {n : Nat} {token : T} {details : D}
    (acts : t.action n = some (.sendHeartbeat token details)) :
    (t.state n).activities token ≠ .new ∧
      t.state (n + 1) = (t.state n).enqueue (.heartbeat token details) := by
  have stepped := t.moves n _ acts
  obtain ⟨⟨known, -⟩, now⟩ : ((t.state n).activities token ≠ .new ∧
      (t.state n).heartbeatQueue.length < queueSize) ∧ _ = t.state (n + 1) := by
    simpa [step] using stepped
  exact ⟨known, now.symm⟩

include fair harmless in
theorem heartbeat_delivered {n : Nat} {token : T} {details : D}
    (acts : t.action n = some (.sendHeartbeat token details)) :
    ∃ m, n ≤ m ∧ (⟨(t.state n).puts, .heartbeat token details⟩ ∈ (t.state m).delivered ∨
      token ∈ (t.state m).completed) := by
  obtain ⟨known, now⟩ := after_send acts
  have notNew : (t.state (n + 1)).activities token ≠ .new := by
    rw [now]
    exact known
  by_contra never
  have registered : ∀ m, n + 1 ≤ m → token ∈ (t.state m).heartbeats := by
    intro m later
    refine registered_of_never_completed notNew (fun k after completed => ?_) later
    exact never ⟨k, by omega, .inr completed⟩
  have queued : ⟨(t.state n).puts, .heartbeat token details⟩ ∈ (t.state (n + 1)).heartbeatQueue := by
    simp [now, enqueue]
  obtain ⟨m, later, delivered⟩ := delivered_of_registered fair harmless registered notNew queued
  exact never ⟨m, by omega, .inl delivered⟩

include fair harmless in
theorem heartbeat_delivered_single (single : ∀ n, (t.state n).Single) {n : Nat} {token : T}
    {details : D} (acts : t.action n = some (.sendHeartbeat token details))
    (isRegistered : (t.state n).activities token = .registered) :
    ∃ m, n ≤ m ∧ ⟨(t.state n).puts, .heartbeat token details⟩ ∈ (t.state m).delivered := by
  obtain ⟨known, now⟩ := after_send acts
  by_contra never
  -- a marker is put by an activity that leaves, and this one is still registered
  have unmarked : ∀ e, (t.state n).Pending e → e.item ≠ .complete token := by
    intro e pending isMarker
    have leaving := (inv_at n).markers e token pending isMarker
    simp [Leaving, isRegistered] at leaving
  have here : InLine token ⟨(t.state n).puts, .heartbeat token details⟩ (t.state (n + 1)) := by
    rw [now]
    refine ⟨?_, fun e held => unmarked e (.inr held), .inr ⟨(t.state n).heartbeatQueue, [], rfl,
      fun e queued => unmarked e (.inl queued)⟩⟩
    rcases (inv_at n).known token known with registered | ⟨-, leaving⟩
    · exact registered
    · simp [Leaving, isRegistered] at leaving
  -- it stays in line as long as it is not delivered
  have inLine : ∀ m, n + 1 ≤ m →
      InLine token ⟨(t.state n).puts, .heartbeat token details⟩ (t.state m) := by
    intro m later
    refine t.holds_from here (fun k after a acts inLine => ?_) later
    rcases inLine.step (single k) (moves_of_step (t.moves k a acts)) with inLine | delivered
    · exact inLine
    · exact absurd ⟨k + 1, by omega, delivered⟩ never
  have queued : ⟨(t.state n).puts, .heartbeat token details⟩ ∈ (t.state (n + 1)).heartbeatQueue := by
    simp [now, enqueue]
  have notNew : (t.state (n + 1)).activities token ≠ .new := by
    rw [now]
    exact known
  obtain ⟨m, later, delivered⟩ := delivered_of_registered fair harmless
    (fun m later => (inLine m later).registered) notNew queued
  exact never ⟨m, by omega, delivered⟩

include fair harmless in
theorem marker_processed {n : Nat} {token : T} (acts : t.action n = some .put)
    (putting : (t.state n).loop = .putting token) :
    ∃ m, n ≤ m ∧ token ∈ (t.state m).completed := by
  have waiting := (inv_at n).putting token putting
  have now : t.state (n + 1) = { (t.state n).enqueue (.complete token) with loop := .idle } := by
    have stepped := t.moves n _ acts
    obtain ⟨-, now⟩ : (t.state n).heartbeatQueue.length < queueSize ∧ _ = t.state (n + 1) := by
      simpa [step, putting] using stepped
    exact now.symm
  have notNew : (t.state (n + 1)).activities token ≠ .new := by
    rw [now]
    intro new
    cases waiting.symm.trans new
  have queued : ⟨(t.state n).puts, .complete token⟩ ∈ (t.state (n + 1)).heartbeatQueue := by
    simp [now, enqueue]
  by_contra never
  have registered : ∀ m, n + 1 ≤ m → token ∈ (t.state m).heartbeats := by
    intro m later
    refine registered_of_never_completed notNew (fun k after completed => ?_) later
    exact never ⟨k, by omega, completed⟩
  obtain ⟨m, later, i, result, acts, at_i⟩ := handled fair harmless registered notNew queued
  have completed := completed_of_handle (moves_of_step (t.moves m _ acts)) at_i (registered m later)
  exact never ⟨m + 1, by omega, completed⟩

end Runs

/-! ### Main theorem -/

theorem processor_stays_alive :
    (∀ s s' a, Reaches step Harmless (init : SharedState T D) s → step s a = some s' →
      (s'.Served ↔ s.Harmless a)) ∧
    (∀ s, Reaches step Harmless (init : SharedState T D) s → s.Served) ∧
    ∀ t : Trace (step (T := T) (D := D)) init, Fair t →
      (∀ n a, t.action n = some a → (t.state n).Harmless a) →
      (∀ n token details, t.action n = some (.sendHeartbeat token details) →
        ∃ m, n ≤ m ∧ (⟨(t.state n).puts, .heartbeat token details⟩ ∈ (t.state m).delivered ∨
          token ∈ (t.state m).completed)) ∧
      ((∀ n, (t.state n).Single) → ∀ n token details,
        t.action n = some (.sendHeartbeat token details) →
        (t.state n).activities token = .registered →
        ∃ m, n ≤ m ∧ ⟨(t.state n).puts, .heartbeat token details⟩ ∈ (t.state m).delivered) ∧
      ∀ n token, t.action n = some .put → (t.state n).loop = .putting token →
        ∃ m, n ≤ m ∧ token ∈ (t.state m).completed := by
  refine ⟨?_, fun s run => served_of_reaches run, ?_⟩
  · intro s s' a run stepped
    exact served_step_iff (served_of_reaches run) (moves_of_step stepped)
  · intro t fair harmless
    refine ⟨?_, ?_, ?_⟩
    · intro n token details acts
      exact heartbeat_delivered fair harmless acts
    · intro single n token details acts isRegistered
      exact heartbeat_delivered_single fair harmless single acts isRegistered
    · intro n token acts putting
      exact marker_processed fair harmless acts putting

/-! ### Examples -/

instance : Inhabited (SharedState T D) := ⟨init⟩

/-- One activity: it sends a heartbeat and is unregistered. -/
def oneActivity : List (SharedAction Nat Unit) :=
  [.register 0, .submit, .start 0, .sendHeartbeat 0 (), .check 0, .get 0, .handle 0 .returns,
    .unregister 0, .put, .check 0, .get 0, .handle 0 .returns, .complete 0 .returns,
    .leave 0 false, .check 0]

def oneActivityEnd : SharedState Nat Unit :=
  (runActions step init oneActivity).getD init

def oneActivityTrace : Trace (step (T := Nat) (D := Unit)) init :=
  Trace.ofActions (show runActions step init oneActivity = some oneActivityEnd from rfl)

theorem oneActivityTrace_late {n : Nat} (late : 15 ≤ n) :
    oneActivityTrace.state n = oneActivityEnd := Trace.ofActions_state_late _ late

theorem oneActivity_one : ∀ n < 15, (oneActivityTrace.state n).processors.length ≤ 1 := by decide

theorem oneActivity_fair : Fair oneActivityTrace where
  processors n i p at_i running := by
    by_cases passed : n < 15
    · have := oneActivity_one n passed
      obtain ⟨inside, -⟩ := List.getElem?_eq_some_iff.mp at_i
      obtain rfl : i = 0 := by omega
      exact ⟨14, by omega, .check 0, rfl, rfl⟩
    · rw [oneActivityTrace_late (by omega)] at at_i
      have ended := List.mem_singleton.mp (List.mem_of_getElem? at_i)
      exact absurd ended running.2
  executor n submitted := by
    have started : ∀ n < 15, 3 < n → .submitted ∉ (oneActivityTrace.state n).processors := by decide
    by_cases passed : n < 15
    · by_cases before : n ≤ 3
      · exact ⟨3, before, .checking, by decide, nofun, nofun⟩
      · exact absurd submitted (started n passed (by omega))
    · rw [oneActivityTrace_late (by omega)] at submitted
      exact absurd submitted (by decide)
  loop n busy := by
    have idle : ∀ n < 15, 8 < n → (oneActivityTrace.state n).loop = .idle := by decide
    by_cases passed : n < 15
    · by_cases before : n ≤ 8
      · exact ⟨8, before, .put, rfl, trivial⟩
      · exact absurd (idle n passed (by omega)) busy
    · rw [oneActivityTrace_late (by omega)] at busy
      exact absurd rfl busy

theorem oneActivity_harmless (n : Nat) (a : SharedAction Nat Unit)
    (acts : oneActivityTrace.action n = some a) : (oneActivityTrace.state n).Harmless a := by
  have quiet : ∀ n < 15, (oneActivity[n]?).bind (oneActivityTrace.state n).raisesIn = none := by
    decide
  obtain ⟨inside, -⟩ := List.getElem?_eq_some_iff.mp acts
  have := quiet n inside
  rw [show oneActivity[n]? = some a from acts] at this
  exact harmless_of_none this

theorem oneActivity_single (n : Nat) : (oneActivityTrace.state n).Single := by
  have one : (oneActivityTrace.state n).processors.length ≤ 1 := by
    by_cases passed : n < 15
    · exact oneActivity_one n passed
    · rw [oneActivityTrace_late (by omega)]
      decide
  intro i j p q at_i at_j _ _
  obtain ⟨inside_i, -⟩ := List.getElem?_eq_some_iff.mp at_i
  obtain ⟨inside_j, -⟩ := List.getElem?_eq_some_iff.mp at_j
  omega

theorem oneActivity_served :
    (∃ m, 3 ≤ m ∧ ⟨0, .heartbeat 0 ()⟩ ∈ (oneActivityTrace.state m).delivered) ∧
      ∃ m, 8 ≤ m ∧ 0 ∈ (oneActivityTrace.state m).completed := by
  obtain ⟨-, -, runs⟩ := processor_stays_alive (T := Nat) (D := Unit)
  obtain ⟨-, delivered, processed⟩ := runs oneActivityTrace oneActivity_fair oneActivity_harmless
  exact ⟨delivered oneActivity_single 3 0 () rfl rfl, processed 8 0 rfl rfl⟩

/-- The heartbeat of one activity raises, and the other one has no processor. -/
theorem failing_heartbeat_stops_processor :
    ¬ ∀ s : SharedState Nat Unit, Reaches step (fun _ _ => True) init s → s.loop = .idle →
      s.heartbeats ≠ [] → ∃ p ∈ s.processors, p.Alive := by
  intro serves
  have ran : runActions step init [.register 0, .submit, .register 1, .submit, .start 0,
      .sendHeartbeat 0 (), .check 0, .get 0, .handle 0 .raises] =
      some (_ : SharedState Nat Unit) := rfl
  obtain ⟨p, member, alive⟩ := serves _ (Reaches.init.of_runActions (fun _ _ _ => trivial) ran) rfl
    nofun
  exact alive (List.mem_singleton.mp member)

end SharedState

end TemporalSdk.ActivityWorker
