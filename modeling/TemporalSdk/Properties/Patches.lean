import TemporalSdk.Properties.Activation
import TemporalSdk.Workflow.Emitted

/-!
# Patches

`workflow_patch` decides about a patch id once, by the replay flag and the
notifications that have come in by then, remembers the answer and adds a marker
if it is positive.

## Main result

* `patches_agree`: in any run all calls with one id get one answer and there is
  at most one marker for it; and a replay whose notifications are those of the
  markers of a first execution answers every call as the first execution did and
  emits the same markers.

## Proof strategy

Only a call of `workflow_patch` touches the answers, and it leaves behind the
event, the memoized answer and the marker together. So the markers of a run are
a function of its calls (`markersOf`), which `PatchBooks` states. A first
execution answers `true` throughout; a replay does so for every id it has been
notified of, since notifications are applied before any workflow code runs.
-/
namespace TemporalSdk.Workflow

open Eff

variable {σ : Type}

/-! ### Calls and markers -/

/-- A call of `workflow_patch` that returned. -/
structure PatchCall where
  id : String
  deprecated : Bool
  value : Bool
  deriving DecidableEq

def Event.patchCall? : Event → Option PatchCall
  | .patchCall id deprecated value => some ⟨id, deprecated, value⟩
  | _ => none

/-- The calls of `workflow_patch`, in order. -/
def patchCalls (trace : List Event) : List PatchCall := trace.filterMap Event.patchCall?

def Command.patchMarker? : Command → Option (String × Bool)
  | .setPatchMarker id deprecated => some (id, deprecated)
  | _ => none

/-- The `set_patch_marker` commands, in order. -/
def patchMarkers (commands : List Command) : List (String × Bool) :=
  commands.filterMap Command.patchMarker?

/-- The marker of one more call: the first positive answer for an id gets one. -/
def markCall (markers : List (String × Bool)) (call : PatchCall) : List (String × Bool) :=
  if call.value && !(markers.map Prod.fst).contains call.id then
    markers ++ [(call.id, call.deprecated)]
  else markers

/-- The markers that a sequence of calls leads to. -/
def markersOf (calls : List PatchCall) : List (String × Bool) := calls.foldl markCall []

theorem markersOf_concat (calls : List PatchCall) (call : PatchCall) :
    markersOf (calls ++ [call]) = markCall (markersOf calls) call := by
  simp [markersOf]

theorem markCall_nodup {markers : List (String × Bool)} (distinct : (markers.map Prod.fst).Nodup)
    (call : PatchCall) : ((markCall markers call).map Prod.fst).Nodup := by
  unfold markCall
  split
  next marked =>
    have new : call.id ∉ markers.map Prod.fst := by
      simpa using (Bool.and_eq_true_iff.mp marked).2
    rw [List.map_append, List.nodup_append]
    refine ⟨distinct, by simp, ?_⟩
    rintro id old id' fresh rfl
    rw [List.mem_singleton.mp fresh] at old
    exact new old
  · exact distinct

theorem markersOf_nodup (calls : List PatchCall) : ((markersOf calls).map Prod.fst).Nodup := by
  induction calls using List.reverseRecOn with
  | nil => exact List.nodup_nil
  | append_singleton calls call ih =>
    rw [markersOf_concat]
    exact markCall_nodup ih call

/-! ### What leaves patches alone -/

structure PatchFrame (s s' : Inst σ) : Prop where
  memoized : s'.patchesMemoized = s.patchesMemoized
  notified : s'.patchesNotified = s.patchesNotified
  calls : patchCalls s'.trace = patchCalls s.trace
  markers : patchMarkers s'.commands = patchMarkers s.commands

theorem PatchFrame.refl (s : Inst σ) : PatchFrame s s := ⟨rfl, rfl, rfl, rfl⟩

theorem PatchFrame.trans {s₁ s₂ s₃ : Inst σ} (h : PatchFrame s₁ s₂) (h' : PatchFrame s₂ s₃) :
    PatchFrame s₁ s₃ :=
  ⟨h'.memoized.trans h.memoized, h'.notified.trans h.notified, h'.calls.trans h.calls,
    h'.markers.trans h.markers⟩

theorem Calm.patchFrame {s s' : Inst σ} (h : Calm s s') : PatchFrame s s' where
  memoized := h.books.patchesMemoized
  notified := h.books.patchesNotified
  calls := by
    obtain ⟨es, trace, outbound⟩ := h.trace
    have none : patchCalls es = [] := by
      refine List.filterMap_eq_nil_iff.mpr fun e member => ?_
      have out := outbound e member
      cases e <;> first | rfl | cases out
    rw [trace, patchCalls, List.filterMap_append]
    exact (congrArg (patchCalls s.trace ++ ·) none).trans (List.append_nil _)
  markers := by
    obtain ⟨cs, commands, outbound⟩ := h.commands
    have none : patchMarkers cs = [] := by
      refine List.filterMap_eq_nil_iff.mpr fun c member => ?_
      have out := outbound c member
      cases c <;> first | rfl | cases out
    rw [commands, patchMarkers, List.filterMap_append]
    exact (congrArg (patchMarkers s.commands ++ ·) none).trans (List.append_nil _)

theorem Move.patchFrame {k : Kind} {s s' : Inst σ} (h : Move k s s') (notPatch : k ≠ .patch)
    (notTurn : k ≠ .turn) : PatchFrame s s' := by
  have logged {e : Event} (other : e.patchCall? = none) :
      patchCalls (s.trace ++ [e]) = patchCalls s.trace := by
    simp [patchCalls, other]
  have added {c : Command} (other : c.patchMarker? = none) :
      patchMarkers (s.commands ++ [c]) = patchMarkers s.commands := by
    simp [patchMarkers, other]
  cases h with
  | notified | memoize | patchCall => exact absurd rfl notPatch
  | turn => exact absurd rfl notTurn
  | methodCall | exceptionHandler | updateError | signalDropped | signalHandler
  | signalHandlerMissing | met => exact ⟨rfl, rfl, logged rfl, rfl⟩
  | command _ _ plain =>
    refine ⟨rfl, rfl, rfl, added ?_⟩
    revert plain
    cases ‹Command› <;> simp [Command.plain, Command.patchMarker?]
  | updateResponse => exact ⟨rfl, rfl, rfl, added rfl⟩
  | answer _ _ _ _ at_i => exact ⟨rfl, rfl, rfl, filterMap_set_of_none at_i rfl rfl⟩
  | updateAnswer _ _ _ _ at_i => exact ⟨rfl, rfl, rfl, filterMap_set_of_none at_i rfl rfl⟩
  | _ => exact ⟨rfl, rfl, rfl, rfl⟩

theorem Moves.patchFrame {K : List Kind} {s s' : Inst σ} (h : Moves K s s') (wf : s.WellFormed)
    (notPatch : Kind.patch ∉ K) (notTurn : Kind.turn ∉ K) : PatchFrame s s' := by
  refine (h.keeps (I := PatchFrame s) wf (.refl s) ?_).1
  intro a b wfa allowed frame
  rcases allowed.calm_or_move wfa with calm | ⟨k, member, move⟩
  · exact frame.trans calm.patchFrame
  · exact frame.trans (move.patchFrame (fun same => notPatch (same ▸ member))
      fun same => notTurn (same ▸ member))

/-! ### The books -/

structure PatchBooks (m : Machine σ) : Prop where
  /-- every call got the memoized answer -/
  decided : ∀ call ∈ patchCalls m.inst.trace, m.inst.patchesMemoized call.id = some call.value
  /-- an id has a marker if its answer is positive -/
  marked : ∀ id, id ∈ (markersOf (patchCalls m.inst.trace)).map Prod.fst ↔
    m.inst.patchesMemoized id = some true
  markers : (patchMarkers m.emitted).Sublist (markersOf (patchCalls m.inst.trace))
  /-- unless an activation has failed, its markers have been emitted -/
  complete : m.failed = false → patchMarkers m.emitted = markersOf (patchCalls m.inst.trace)
  idle : m.control = .idle → m.inst.commands = []

theorem patchMarkers_append (cs cs' : List Command) :
    patchMarkers (cs ++ cs') = patchMarkers cs ++ patchMarkers cs' :=
  List.filterMap_append

/-- A step without a call of `workflow_patch`. -/
theorem PatchBooks.frame {m m' : Machine σ} {s : Inst σ} (books : PatchBooks m)
    (frame : PatchFrame m.inst s) (settles : m.Settles s m') : PatchBooks m' := by
  -- nothing of the four books is touched before the completion is settled
  have same : patchMarkers (m.sent ++ s.commands) = patchMarkers m.emitted := by
    rw [Machine.emitted, patchMarkers_append, patchMarkers_append, frame.markers]
  have lost : (patchMarkers m.sent).Sublist (patchMarkers m.emitted) := by
    rw [Machine.emitted, patchMarkers_append]
    exact List.sublist_append_left _ _
  have kept {m' : Machine σ} (memoized : m'.inst.patchesMemoized = s.patchesMemoized)
      (trace : m'.inst.trace = s.trace)
      (markers : (patchMarkers m'.emitted).Sublist (patchMarkers m.emitted))
      (complete : m'.failed = false → m.failed = false ∧
        patchMarkers m'.emitted = patchMarkers m.emitted)
      (idle : m'.control = .idle → m'.inst.commands = []) : PatchBooks m' := by
    refine ⟨?_, ?_, ?_, ?_, idle⟩
    · rw [trace, memoized, frame.calls, frame.memoized]
      exact books.decided
    · rw [trace, memoized, frame.calls, frame.memoized]
      exact books.marked
    · rw [trace, frame.calls]
      exact markers.trans books.markers
    · intro succeeded
      obtain ⟨succeeded, equal⟩ := complete succeeded
      rw [trace, frame.calls, equal]
      exact books.complete succeeded
  cases settles with
  | goesOn inst sent failed running =>
    have equal : patchMarkers m'.emitted = patchMarkers m.emitted := by
      rw [Machine.emitted, sent, inst, same]
    exact kept (by rw [inst]) (by rw [inst]) (by rw [equal])
      (fun succeeded => ⟨failed.symm.trans succeeded, equal⟩) fun idle => absurd idle running
  | begins idle isInst jobs isReplaying =>
    have equal : patchMarkers (m.activate jobs isReplaying).emitted = patchMarkers m.emitted := by
      rw [Machine.emitted, Machine.emitted, books.idle idle]
      rfl
    subst isInst
    exact kept rfl rfl (by rw [equal]) (fun succeeded => ⟨succeeded, equal⟩) fun _ => rfl
  | sends control inst sent failed =>
    have equal : patchMarkers m'.emitted = patchMarkers m.emitted := by
      rw [Machine.emitted, sent, inst, List.append_nil, same]
    exact kept (by rw [inst]) (by rw [inst]) (by rw [equal])
      (fun succeeded => ⟨failed.symm.trans succeeded, equal⟩) fun _ => by rw [inst]
  -- the commands of a failed activation never leave, so only a part of the markers does
  | loses control inst sent failed =>
    refine kept (by rw [inst]) (by rw [inst]) ?_ (fun succeeded => ?_) fun _ => by rw [inst]
    · rw [Machine.emitted, sent, inst, List.append_nil]
      exact lost
    · rw [failed] at succeeded
      cases succeeded

/-! ### A call -/

theorem performPatch_inst (det : Details σ) (id : String) (deprecated : Bool) (s : Inst σ) :
    (performCall det (.patch id deprecated) s).2 =
      if s.open then
        match s.patchesMemoized id with
        | some value => s.log (.patchCall id deprecated value)
        | none => (s.memoized id deprecated).log
            (.patchCall id deprecated (!s.isReplaying || s.patchesNotified id))
      else s := by
  have drop : (performCall det (.patch id deprecated) s).2 = (workflowPatch id deprecated s).2 := by
    simp only [performCall, bind_run]
    cases workflowPatch id deprecated s with
    | mk r s' => cases r <;> rfl
  rw [drop]
  cases isOpen : s.open with
  | true =>
    rw [workflowPatch_run id deprecated isOpen]
    cases s.patchesMemoized id <;> rfl
  | false =>
    rw [workflowPatch, bind_run, assertNotReadOnly_run]
    cases deleting : s.deleting <;> cases readOnly : s.readOnly <;> simp_all [Inst.open]

/-- A call that finds an answer. -/
theorem PatchBooks.recalled {m : Machine σ} (books : PatchBooks m) (running : m.control ≠ .idle)
    {id : String} {value : Bool} (memo : m.inst.patchesMemoized id = some value)
    (deprecated : Bool) :
    PatchBooks { m with inst := m.inst.log (.patchCall id deprecated value) } := by
  have calls : patchCalls (m.inst.log (.patchCall id deprecated value)).trace =
      patchCalls m.inst.trace ++ [⟨id, deprecated, value⟩] := by
    simp [Inst.log, patchCalls, Event.patchCall?]
  -- the answer has its marker if it needs one
  have unmarked : markersOf (patchCalls (m.inst.log (.patchCall id deprecated value)).trace) =
      markersOf (patchCalls m.inst.trace) := by
    rw [calls, markersOf_concat, markCall]
    cases value with
    | false => rfl
    | true =>
      have marked : ((markersOf (patchCalls m.inst.trace)).map Prod.fst).contains id = true :=
        List.contains_iff_mem.mpr ((books.marked id).mpr memo)
      rw [marked]
      rfl
  refine ⟨?_, ?_, ?_, ?_, fun idle => absurd idle running⟩
  · intro call member
    dsimp only at member ⊢
    rw [calls] at member
    rcases List.mem_append.mp member with old | new
    · exact books.decided call old
    · rw [List.mem_singleton.mp new]
      exact memo
  · intro id'
    dsimp only
    rw [unmarked]
    exact books.marked id'
  · dsimp only
    rw [unmarked]
    exact books.markers
  · intro succeeded
    dsimp only
    rw [unmarked]
    exact books.complete succeeded

/-- A call that decides. -/
theorem PatchBooks.memoized {m : Machine σ} (books : PatchBooks m) (running : m.control ≠ .idle)
    {id : String} (fresh : m.inst.patchesMemoized id = none) (deprecated : Bool) :
    PatchBooks { m with
      inst := (m.inst.memoized id deprecated).log
        (.patchCall id deprecated (!m.inst.isReplaying || m.inst.patchesNotified id)) } := by
  generalize answer : (!m.inst.isReplaying || m.inst.patchesNotified id) = value
  have memoized : (m.inst.memoized id deprecated).patchesMemoized =
      Function.update m.inst.patchesMemoized id (some value) := by
    simp [Inst.memoized, answer]
  have calls : patchCalls ((m.inst.memoized id deprecated).log
      (.patchCall id deprecated value)).trace =
      patchCalls m.inst.trace ++ [⟨id, deprecated, value⟩] := by
    simp [Inst.log, Inst.memoized, patchCalls, Event.patchCall?]
  -- an id with a marker is memoized as true, and this one is not memoized yet
  have new : id ∉ (markersOf (patchCalls m.inst.trace)).map Prod.fst := fun old => by
    rw [books.marked, fresh] at old
    cases old
  have marked : markersOf (patchCalls ((m.inst.memoized id deprecated).log
      (.patchCall id deprecated value)).trace) =
      markersOf (patchCalls m.inst.trace) ++ if value then [(id, deprecated)] else [] := by
    rw [calls, markersOf_concat, markCall]
    cases value with
    | false => simp
    | true =>
      rw [if_pos]
      · rfl
      · simpa using new
  have emitted : patchMarkers (m.sent ++ (m.inst.memoized id deprecated).commands) =
      patchMarkers m.emitted ++ if value then [(id, deprecated)] else [] := by
    simp only [Inst.memoized, answer, Machine.emitted]
    cases value <;> simp [patchMarkers, Command.patchMarker?]
  refine ⟨?_, ?_, ?_, ?_, fun idle => absurd idle running⟩
  · intro call member
    dsimp only at member ⊢
    rw [calls] at member
    change (m.inst.memoized id deprecated).patchesMemoized call.id = some call.value
    rw [memoized]
    -- an earlier call is of another id; the new one is what was just memoized
    rcases List.mem_append.mp member with old | new
    · have before := books.decided call old
      have different : call.id ≠ id := by
        intro same
        rw [same, fresh] at before
        cases before
      rwa [Function.update_of_ne different]
    · rw [List.mem_singleton.mp new, Function.update_self]
  · intro id'
    dsimp only
    rw [marked]
    change _ ↔ (m.inst.memoized id deprecated).patchesMemoized id' = some true
    rw [memoized, List.map_append, List.mem_append, books.marked]
    by_cases same : id' = id
    · subst same
      cases value <;> simp [fresh]
    · cases value <;> simp [same]
  · dsimp only
    rw [marked, Machine.emitted]
    change (patchMarkers (m.sent ++ (m.inst.memoized id deprecated).commands)).Sublist _
    rw [emitted]
    exact books.markers.append (List.Sublist.refl _)
  · intro succeeded
    dsimp only
    rw [marked, Machine.emitted]
    change patchMarkers (m.sent ++ (m.inst.memoized id deprecated).commands) = _
    rw [emitted, books.complete succeeded]

theorem PatchBooks.call {m : Machine σ} (books : PatchBooks m) (running : m.control ≠ .idle)
    (det : Details σ) (id : String) (deprecated : Bool) :
    PatchBooks { m with inst := (performCall det (.patch id deprecated) m.inst).2 } := by
  rw [performPatch_inst]
  split
  · cases memo : m.inst.patchesMemoized id with
    | some value => exact books.recalled running memo deprecated
    | none => exact books.memoized running memo deprecated
  · exact books

/-! ### Steps -/

/-- Only a notification and a call are about patches. -/
theorem patch_steps {det : Details σ} {m : Machine σ} {l : Label σ}
    (patch : Kind.patch ∈ m.workKinds det l) :
    (l = .tick ∧ ∃ id rest frame, m.control = .jobs (.notifyHasPatch id :: rest) frame) ∨
      ∃ id deprecated ctx frame, l = .act (.patch id deprecated) ∧ m.control = .code ctx frame := by
  rcases workKinds_makes patch with command | ⟨-, made⟩
  · cases command
  cases made with
  | always _ h => simp at h
  | @job job rest frame control member =>
    cases job with
    | notifyHasPatch id => exact .inl ⟨rfl, id, rest, frame, control⟩
    | _ => simp [Job.kinds] at member
  | handle _ _ member => cases m.inst.handleKinds_ofHandle _ _ member
  | check _ _ same => cases same
  | ends _ _ member => rcases m.inst.endKinds_cases _ _ member with h | h <;> cases h
  | @call ctx frame a control member =>
    cases a with
    | patch id deprecated => exact .inr ⟨id, deprecated, ctx, frame, rfl, control⟩
    | startChildWorkflow input =>
      simp only [Act.kinds] at member
      split at member <;> simp at member
    | _ => simp [Act.kinds] at member
  | await _ _ own => cases own

theorem notify_step {det : Details σ} {m m' : Machine σ} {id : String} {rest : List Job}
    {frame : Frame} (control : m.control = .jobs (.notifyHasPatch id :: rest) frame)
    (h : step det m .tick = some m') :
    m' = (m.goto { m.inst with
      patchesNotified := Function.update m.inst.patchesNotified id true }
      (.jobs rest frame)).note (.applied (.notifyHasPatch id)) := by
  have ran : applyJob det (.notifyHasPatch id) m.inst = (.ok (), { m.inst with
      patchesNotified := Function.update m.inst.patchesNotified id true }) := rfl
  simp only [step, tick, control, ran, Option.some.injEq] at h
  exact h.symm

theorem patch_step {det : Details σ} {m m' : Machine σ} {id : String} {deprecated : Bool}
    (h : step det m (.act (.patch id deprecated)) = some m') :
    m' = { m with inst := (performCall det (.patch id deprecated) m.inst).2 } := by
  cases perform_cases det h with
  | call => rfl
  | await _ _ await => cases await
  | suspend _ _ await => cases await

theorem step_patchBooks (det : Details σ) {m m' : Machine σ} {l : Label σ} (wf : m.WellFormed)
    (books : PatchBooks m) (h : step det m l = some m') : PatchBooks m' := by
  by_cases patch : Kind.patch ∈ m.workKinds det l
  · rcases patch_steps patch with
      ⟨rfl, id, rest, frame, control⟩ | ⟨id, deprecated, ctx, frame, rfl, control⟩
    · rw [notify_step control h]
      exact ⟨books.decided, books.marked, books.markers, books.complete, fun idle => by cases idle⟩
    · rw [patch_step h]
      exact books.call (by simp [control]) det id deprecated
  · obtain ⟨s, moves, settles⟩ := step_settles det wf h
    exact books.frame (moves.patchFrame wf.inst patch (turn_not_mem_workKinds det m l)) settles

theorem init_patchBooks (det : Details σ) (mem : σ) : PatchBooks (Machine.init det mem) := by
  refine ⟨?_, ?_, List.Sublist.refl _, fun _ => rfl, fun _ => rfl⟩
  · intro call member
    cases member
  · intro id
    refine ⟨fun member => ?_, fun memo => ?_⟩
    · cases member
    · cases memo

/-- The answers after a step: they stay, and only a call adds one. -/
theorem step_memoized (det : Details σ) {m m' : Machine σ} {l : Label σ} (wf : m.WellFormed)
    (h : step det m l = some m') {id : String} {value : Bool}
    (memo : m'.inst.patchesMemoized id = some value) :
    m.inst.patchesMemoized id = some value ∨
      (∃ deprecated, l = .act (.patch id deprecated)) ∧ m.inst.open = true ∧
        value = (!m.inst.isReplaying || m.inst.patchesNotified id) := by
  by_cases patch : Kind.patch ∈ m.workKinds det l
  · rcases patch_steps patch with
      ⟨rfl, id', rest, frame, control⟩ | ⟨id', deprecated, ctx, frame, rfl, control⟩
    -- a job of core notifies a patch and memoizes none
    · rw [notify_step control h] at memo
      exact .inl memo
    · rw [patch_step h] at memo
      dsimp only at memo
      rw [performPatch_inst] at memo
      split at memo
      next isOpen =>
        -- `patched` looks at what is memoized first
        cases old : m.inst.patchesMemoized id' with
        | some answer =>
          rw [old] at memo
          exact .inl memo
        | none =>
          rw [old] at memo
          change Function.update m.inst.patchesMemoized id' _ id = some value at memo
          by_cases same : id = id'
          · subst same
            rw [Function.update_self, Option.some.injEq] at memo
            exact .inr ⟨⟨deprecated, rfl⟩, isOpen, memo.symm⟩
          · rw [Function.update_of_ne same] at memo
            exact .inl memo
      · exact .inl memo
  -- no other step memoizes
  · obtain ⟨s, moves, settles⟩ := step_settles det wf h
    have frame := moves.patchFrame wf.inst patch (turn_not_mem_workKinds det m l)
    left
    rw [← frame.memoized, ← memo]
    cases settles with
    | goesOn inst => rw [inst]
    | begins _ same => rw [same]; rfl
    | sends _ inst => rw [inst]
    | loses _ inst => rw [inst]

/-! ### A first execution -/

/-- The replay flag is set by `activate` and by an eviction only. -/
theorem Move.replaying {k : Kind} {s s' : Inst σ} (h : Move k s s') (notTurn : k ≠ .turn)
    (alive : s'.deleting = false) : s.deleting = false ∧ s'.isReplaying = s.isReplaying := by
  cases h with
  | evict => cases alive
  | turn => exact absurd rfl notTurn
  | _ => exact ⟨alive, rfl⟩

theorem Moves.replaying {K : List Kind} {s s' : Inst σ} (h : Moves K s s') (wf : s.WellFormed)
    (notTurn : Kind.turn ∉ K) (alive : s'.deleting = false) :
    s.deleting = false ∧ s'.isReplaying = s.isReplaying := by
  refine (h.keeps (I := fun s' => s'.deleting = false → s.deleting = false ∧
    s'.isReplaying = s.isReplaying) wf (fun alive => ⟨alive, rfl⟩) ?_).1 alive
  intro a b wfa allowed ih alive
  rcases allowed.calm_or_move wfa with calm | ⟨k, member, move⟩
  · obtain ⟨before, same⟩ := ih (calm.books.deleting.symm.trans alive)
    exact ⟨before, calm.books.isReplaying.trans same⟩
  · obtain ⟨alive, same⟩ := move.replaying (fun same => notTurn (same ▸ member)) alive
    exact ⟨(ih alive).1, same.trans (ih alive).2⟩

/-- Core is not replaying. -/
def Label.firstExecution : Label σ → Bool
  | .activate _ isReplaying => !isReplaying
  | _ => true

/-- In a first execution every answer is positive. -/
structure AllPatched (s : Inst σ) : Prop where
  positive : ∀ id value, s.patchesMemoized id = some value → value = true
  notReplaying : s.deleting = false → s.isReplaying = false

theorem step_allPatched (det : Details σ) {m m' : Machine σ} {l : Label σ} (wf : m.WellFormed)
    (first : l.firstExecution = true) (patched : AllPatched m.inst)
    (h : step det m l = some m') : AllPatched m'.inst := by
  constructor
  · intro id value memo
    rcases step_memoized det wf h memo with old | ⟨-, isOpen, answer⟩
    · exact patched.positive id value old
    · rw [answer, patched.notReplaying (by simpa using (Bool.and_eq_true_iff.mp isOpen).1)]
      rfl
  · intro alive
    obtain ⟨s, moves, settles⟩ := step_settles det wf h
    have noTurn := turn_not_mem_workKinds det m l
    have kept (inst : m'.inst.isReplaying = s.isReplaying) (deleting : m'.inst.deleting = s.deleting) :
        m'.inst.isReplaying = false := by
      obtain ⟨before, same⟩ := moves.replaying wf.inst noTurn (deleting.symm.trans alive)
      rw [inst, same]
      exact patched.notReplaying before
    cases settles with
    | goesOn inst => exact kept (by rw [inst]) (by rw [inst])
    | sends _ inst => exact kept (by rw [inst]) (by rw [inst])
    | loses _ inst => exact kept (by rw [inst]) (by rw [inst])
    | begins idle _ jobs isReplaying =>
      cases l with
      | activate jobs' isReplaying' =>
        simp only [step, idle, Option.some.injEq] at h
        have flag : isReplaying' = isReplaying := congrArg (fun m => m.inst.isReplaying) h
        simpa [Label.firstExecution, Machine.activate, flag] using first
      | tick => simp [step, tick, idle] at h
      | act a => simp [step, perform, idle] at h

/-! ### Notifications -/

/-- Core has delivered a notification for the id. -/
def Notified (ls : List (Label σ)) (id : String) : Prop :=
  ∃ jobs isReplaying, .activate jobs isReplaying ∈ ls ∧ .notifyHasPatch id ∈ jobs

/-- The jobs of the first set that are still to be applied. -/
def Control.patchJobs : Control → List Job
  | .sets ⟨0, first :: _⟩ => first
  | .jobs rest ⟨0, _⟩ => rest
  | _ => []

/-- A notification that has been delivered is applied or about to be. -/
structure Informed (ls : List (Label σ)) (m : Machine σ) : Prop where
  notifications : ∀ job ∈ m.control.patchJobs, ∃ id, job = .notifyHasPatch id
  informed : ∀ id, Notified ls id →
    m.inst.patchesNotified id = true ∨ .notifyHasPatch id ∈ m.control.patchJobs

theorem jobSet_zero {job : Job} (h : jobSet job = 0) : ∃ id, job = .notifyHasPatch id := by
  cases job with
  | notifyHasPatch id => exact ⟨id, rfl⟩
  | _ => cases h

theorem activate_informed {ls : List (Label σ)} {m : Machine σ} (informed : Informed ls m)
    (idle : m.control = .idle) (jobs : List Job) (isReplaying : Bool) :
    Informed (ls ++ [.activate jobs isReplaying]) (m.activate jobs isReplaying) := by
  have first : (m.activate jobs isReplaying).control.patchJobs = jobsOf 0 jobs := by
    simp [Machine.activate, jobSets_eq, Control.patchJobs]
  constructor
  · intro job member
    rw [first] at member
    exact jobSet_zero (by simpa using (List.mem_filter.mp member).2)
  · rintro id ⟨jobs', isReplaying', delivered, member⟩
    rcases List.mem_append.mp delivered with old | new
    · rcases informed.informed id ⟨jobs', isReplaying', old, member⟩ with notified | pending
      · exact .inl notified
      · simp [idle, Control.patchJobs] at pending
    · obtain ⟨rfl, rfl⟩ := Label.activate.inj (List.mem_singleton.mp new)
      right
      rw [first]
      exact List.mem_filter.mpr ⟨member, rfl⟩

theorem Move.stays_notified {k : Kind} {s s' : Inst σ} (h : Move k s s') {id : String}
    (notified : s.patchesNotified id = true) : s'.patchesNotified id = true := by
  cases h with
  | notified _ id' =>
    by_cases same : id = id'
    · simp [same]
    · simpa [same] using notified
  | _ => exact notified

theorem Moves.stays_notified {K : List Kind} {s s' : Inst σ} (h : Moves K s s') (wf : s.WellFormed)
    {id : String} (notified : s.patchesNotified id = true) : s'.patchesNotified id = true := by
  refine (h.keeps (I := fun s => s.patchesNotified id = true) wf notified ?_).1
  intro a b wfa allowed notified
  rcases allowed.calm_or_move wfa with calm | ⟨k, -, move⟩
  · rwa [calm.books.patchesNotified]
  · exact move.stays_notified notified

/-- A step that applies no notification. -/
theorem Informed.keep {ls : List (Label σ)} {m m' : Machine σ} {l : Label σ}
    (informed : Informed ls m) (inside : l.inActivation = true)
    (notified : ∀ id, m.inst.patchesNotified id = true → m'.inst.patchesNotified id = true)
    (same : m'.control.patchJobs = m.control.patchJobs) : Informed (ls ++ [l]) m' := by
  constructor
  · rw [same]
    exact informed.notifications
  · rintro id ⟨jobs, isReplaying, delivered, member⟩
    rw [same]
    have old : .activate jobs isReplaying ∈ ls := by
      rcases List.mem_append.mp delivered with old | new
      · exact old
      · rw [← List.mem_singleton.mp new] at inside
        cases inside
    exact (informed.informed id ⟨jobs, isReplaying, old, member⟩).imp_left (notified id)

theorem handleNext_patchJobs (det : Details σ) (m : Machine σ) (frame : Frame)
    (r : Except Exc (Option Ctx) × Inst σ) : (m.handleNext det frame r).control.patchJobs = [] := by
  rcases handleNext_place det m frame r with control | control | ⟨ctx, -, control⟩ <;>
  · rw [control]
    rfl

theorem tick_informed (det : Details σ) {ls : List (Label σ)} {m m' : Machine σ}
    (wf : m.WellFormed) (informed : Informed ls m) (h : step det m .tick = some m') :
    Informed (ls ++ [Label.tick]) m' := by
  have notified (id : String) (before : m.inst.patchesNotified id = true) :
      m'.inst.patchesNotified id = true :=
    (step_moves det wf h).stays_notified wf.inst before
  have keep := informed.keep (l := .tick) rfl notified
  have raised {s : Inst σ} {e : Exc} :
      (Machine.raised det { m with inst := s } e).control.patchJobs = [] := by
    rw [raised_control]
    rfl
  cases tick_cases det h with
  | @complete index control =>
    apply keep
    rw [complete_control, control]
    cases index <;> rfl
  | @skipSet index later control =>
    apply keep
    rw [control]
    cases index <;> rfl
  | @openSet index job jobs later control =>
    apply keep
    rw [control]
    cases index <;> rfl
  | @closeSet frame control =>
    apply keep
    rw [control]
    obtain ⟨index, later⟩ := frame
    cases index <;> rfl
  | @applied job rest frame s control run =>
    obtain ⟨index, later⟩ := frame
    cases index with
    | succ index =>
      apply keep
      rw [control]
      rfl
    | zero =>
      -- a job of the first set: it is a notification
      have pending : m.control.patchJobs = job :: rest := by
        rw [control]
        rfl
      obtain ⟨id, rfl⟩ := informed.notifications job (by simp [pending])
      have here : s.patchesNotified id = true := by
        cases run
        exact Function.update_self ..
      constructor
      · intro job member
        exact informed.notifications job (pending ▸ List.mem_cons_of_mem _ member)
      · rintro id' ⟨jobs, isReplaying, delivered, member⟩
        have old : .activate jobs isReplaying ∈ ls := by simpa using delivered
        rcases informed.informed id' ⟨jobs, isReplaying, old, member⟩ with before | waiting
        · exact .inl (notified id' before)
        · rw [pending] at waiting
          rcases List.mem_cons.mp waiting with this | later
          · rw [Job.notifyHasPatch.inj this]
            exact .inl here
          · exact .inr later
  | @applyRaised job rest frame s e control run =>
    obtain ⟨index, later⟩ := frame
    cases index with
    | succ index =>
      apply keep
      rw [raised, control]
      rfl
    | zero =>
      obtain ⟨id, rfl⟩ := informed.notifications job (by simp [control, Control.patchJobs])
      cases run
  | enter control | init control | loop control | unchecked control | checked control =>
    apply keep
    rw [control]
    rfl
  | ran control =>
    apply keep
    rw [control]
    rfl
  | handle control ready =>
    apply keep
    rw [handleNext_patchJobs, control]
    rfl
  | checkRaised control =>
    apply keep
    rw [raised, control]
    rfl

theorem perform_informed (det : Details σ) {ls : List (Label σ)} {m m' : Machine σ} {a : Act σ}
    (wf : m.WellFormed) (informed : Informed ls m) (h : step det m (.act a) = some m') :
    Informed (ls ++ [Label.act a]) m' := by
  have notified (id : String) (before : m.inst.patchesNotified id = true) :
      m'.inst.patchesNotified id = true :=
    (step_moves det wf h).stays_notified wf.inst before
  apply informed.keep rfl notified
  -- no code runs while jobs to notify patches are left, so none are dropped where it ends
  have ended {ctx : Ctx} {frame : Frame} (r : Except Exc Obj)
      (control : m.control = .code ctx frame) :
      (finishContext det m ctx frame r).control.patchJobs = [] := by
    cases ctx with
    | init =>
      cases r with
      | ok v => rfl
      | error e =>
        rw [finishContext, raised_control]
        rfl
    | callback =>
      cases r with
      | ok v => exact handleNext_patchJobs det m frame (.ok none, m.inst)
      | error e => exact handleNext_patchJobs det m frame (.error e, m.inst)
    | validator => exact handleNext_patchJobs det m frame _
    | task t =>
      obtain ⟨task, isTask, -⟩ := wf.code _ _ control
      simp only [finishContext, isTask]
      exact handleNext_patchJobs det m frame _
  cases perform_cases det h with
  | ret control v =>
    rw [ended _ control, control]
    rfl
  | raise control e =>
    rw [ended _ control, control]
    rfl
  | call | await => rfl
  | suspend control =>
    rw [handleNext_patchJobs, control]
    rfl

theorem step_informed (det : Details σ) {ls : List (Label σ)} {m m' : Machine σ} {l : Label σ}
    (wf : m.WellFormed) (informed : Informed ls m) (h : step det m l = some m') :
    Informed (ls ++ [l]) m' := by
  cases l with
  | activate jobs isReplaying =>
    cases control : m.control with
    | idle =>
      simp only [step, control, Option.some.injEq] at h
      rw [← h]
      exact activate_informed informed control jobs isReplaying
    | _ => simp [step, control] at h
  | tick => exact tick_informed det wf informed h
  | act a => exact perform_informed det wf informed h

theorem init_informed (det : Details σ) (mem : σ) : Informed [] (Machine.init det mem) := by
  constructor
  · intro job member
    cases member
  · rintro id ⟨jobs, isReplaying, delivered, -⟩
    cases delivered

/-! ### Two runs -/

/-- Every call for one of the ids comes after a notification for it. -/
def NotifiedBeforeCalls (ls : List (Label σ)) (ids : List String) : Prop :=
  ∀ past id deprecated rest, ls = past ++ .act (.patch id deprecated) :: rest → id ∈ ids →
    Notified past id

/-- An id that is notified of in time gets a positive answer. -/
theorem run_positive (det : Details σ) (mem : σ) {ls : List (Label σ)} {m : Machine σ}
    {ids : List String} (inTime : NotifiedBeforeCalls ls ids)
    (h : run det (Machine.init det mem) ls = some m) {id : String} {value : Bool}
    (member : id ∈ ids) (memo : m.inst.patchesMemoized id = some value) : value = true := by
  refine (run_invariant (I := fun past m => Informed past m ∧ ∀ id value, id ∈ ids →
    m.inst.patchesMemoized id = some value → value = true) h (init_wellFormed det mem)
    ⟨init_informed det mem, ?_⟩ ?_).2 id value member memo
  · intro id value _ memo
    cases memo
  · rintro past l rest m m' split wf ⟨informed, positive⟩ stepped
    refine ⟨step_informed det wf informed stepped, ?_⟩
    intro id value member memo
    rcases step_memoized det wf stepped memo with old | ⟨⟨deprecated, rfl⟩, -, answer⟩
    · exact positive id value member old
    -- the call is made by workflow code, so no notification is waiting
    have code : m.control.patchJobs = [] := by
      simp only [step, perform] at stepped
      split at stepped
      next control =>
        rw [control]
        rfl
      · cases stepped
    rcases informed.informed id (inTime past id deprecated rest split member) with notified | waiting
    · rw [answer, notified, Bool.or_true]
    · rw [code] at waiting
      cases waiting

/-- What is called, without the answer. -/
def PatchCall.key (call : PatchCall) : String × Bool := (call.id, call.deprecated)

theorem patchCalls_eq_of_keys {calls calls' : List PatchCall}
    (positive : ∀ call ∈ calls, call.value = true) (positive' : ∀ call ∈ calls', call.value = true)
    (keys : calls'.map PatchCall.key = calls.map PatchCall.key) : calls' = calls := by
  have rebuilt (calls : List PatchCall) (positive : ∀ call ∈ calls, call.value = true) :
      (calls.map PatchCall.key).map (fun key => ⟨key.1, key.2, true⟩) = calls := by
    rw [List.map_map]
    refine (List.map_congr_left fun call member => ?_).trans (List.map_id calls)
    have value := positive call member
    cases call
    cases value
    rfl
  rw [← rebuilt calls positive, ← rebuilt calls' positive', keys]

theorem run_patchBooks (det : Details σ) (mem : σ) {m : Machine σ}
    (reach : Reach det (fun _ _ => True) (Machine.init det mem) m) : PatchBooks m :=
  (reach.invariant (init_wellFormed det mem) (init_patchBooks det mem)
    fun _ _ _ wf books _ step => step_patchBooks det wf books step).1

/-- The calls of a first execution: all are answered positively and marked. -/
theorem run_firstExecution (det : Details σ) (mem : σ) {ls : List (Label σ)} {m : Machine σ}
    (h : run det (Machine.init det mem) ls = some m) (first : ∀ l ∈ ls, l.firstExecution = true)
    (succeeded : m.failed = false) {call : PatchCall} (member : call ∈ patchCalls m.inst.trace) :
    call.value = true ∧ call.id ∈ (patchMarkers m.emitted).map Prod.fst := by
  have books := run_patchBooks det mem (.of_run h fun _ _ _ => trivial)
  have patched : AllPatched m.inst := by
    refine run_invariant (I := fun _ m => AllPatched m.inst) h (init_wellFormed det mem) ⟨?_, ?_⟩ ?_
    · intro id value memo
      cases memo
    · intro _
      rfl
    · intro past l rest m m' split wf patched step
      exact step_allPatched det wf (first l (by simp [split])) patched step
  have memo := books.decided call member
  have value := patched.positive call.id call.value memo
  refine ⟨value, ?_⟩
  rw [books.complete succeeded, books.marked, memo, value]

/-- In any run, whatever is replayed, all calls with one id get the same answer
and there is at most one marker for it.

A first execution and a replay of it agree: if before each call of the replay
core has delivered the notifications for the ids that the first execution has
marked, then as long as the calls are the same so are the answers, and with the
same calls there are the same markers. A failed activation, whose commands are
lost, is not part of what is replayed. -/
theorem patches_agree (det : Details σ) (mem mem' : σ) :
    (∀ m, Reach det (fun _ _ => True) (Machine.init det mem) m →
      (∀ call ∈ patchCalls m.inst.trace, ∀ call' ∈ patchCalls m.inst.trace,
        call.id = call'.id → call.value = call'.value) ∧
      ((patchMarkers m.emitted).map Prod.fst).Nodup) ∧
    ∀ (ls ls' : List (Label σ)) (m m' : Machine σ),
      run det (Machine.init det mem) ls = some m → run det (Machine.init det mem') ls' = some m' →
      m.failed = false → m'.failed = false → (∀ l ∈ ls, l.firstExecution = true) →
      NotifiedBeforeCalls ls' ((patchMarkers m.emitted).map Prod.fst) →
      (∀ n, ((patchCalls m'.inst.trace).take n).map PatchCall.key =
          ((patchCalls m.inst.trace).take n).map PatchCall.key →
        (patchCalls m'.inst.trace).take n = (patchCalls m.inst.trace).take n) ∧
      ((patchCalls m'.inst.trace).map PatchCall.key = (patchCalls m.inst.trace).map PatchCall.key →
        patchCalls m'.inst.trace = patchCalls m.inst.trace ∧
        patchMarkers m'.emitted = patchMarkers m.emitted) := by
  refine ⟨fun m reach => ?_, ?_⟩
  · have books := run_patchBooks det mem reach
    refine ⟨?_, (books.markers.map Prod.fst).nodup (markersOf_nodup _)⟩
    intro call member call' member' same
    have memo := books.decided call member
    rw [same, books.decided call' member'] at memo
    exact (Option.some.inj memo).symm
  · intro ls ls' m m' ran ran' succeeded succeeded' first inTime
    have books := run_patchBooks det mem (.of_run ran fun _ _ _ => trivial)
    have books' := run_patchBooks det mem' (.of_run ran' fun _ _ _ => trivial)
    -- calls that are among those of the first execution have its answers
    have agree {calls calls' : List PatchCall} (sub : calls ⊆ patchCalls m.inst.trace)
        (sub' : calls' ⊆ patchCalls m'.inst.trace)
        (keys : calls'.map PatchCall.key = calls.map PatchCall.key) : calls' = calls := by
      refine patchCalls_eq_of_keys ?_ ?_ keys
      · intro call member
        exact (run_firstExecution det mem ran first succeeded (sub member)).1
      · intro call' member'
        have key : call'.key ∈ calls.map PatchCall.key := keys ▸ List.mem_map_of_mem member'
        obtain ⟨call, member, same⟩ := List.mem_map.mp key
        have marked := (run_firstExecution det mem ran first succeeded (sub member)).2
        rw [show call.id = call'.id from congrArg Prod.fst same] at marked
        exact run_positive det mem' inTime ran' marked (books'.decided call' (sub' member'))
    refine ⟨fun n keys => agree (List.take_subset n _) (List.take_subset n _) keys, ?_⟩
    intro keys
    have calls := agree (List.Subset.refl _) (List.Subset.refl _) keys
    refine ⟨calls, ?_⟩
    rw [books.complete succeeded, books'.complete succeeded', calls]

def patchedCalls : List (Label Nat) :=
  [.act (.patch "p" false), .act (.patch "p" true), .act (.patch "q" true), .act (.ret 0)]

/-- A workflow that asks about two patches. -/
def firstPatched : List (Label Nat) :=
  Label.activate [.startWorkflow []] false :: List.replicate 6 Label.tick ++ Label.act (.ret 0) ::
    List.replicate 2 Label.tick ++ patchedCalls ++ List.replicate 5 Label.tick

/-- Its replay. -/
def replayPatched : List (Label Nat) :=
  Label.activate [.startWorkflow [], .notifyHasPatch "q", .notifyHasPatch "p"] true ::
    (List.replicate 5 Label.tick ++ Label.act (.ret 0) :: List.replicate 8 Label.tick ++
      patchedCalls ++ List.replicate 5 Label.tick)

theorem patches_agree_replay : ∃ m m',
    run Details.plain (Machine.init Details.plain 0) firstPatched = some m ∧
    run Details.plain (Machine.init Details.plain 0) replayPatched = some m' ∧
    patchMarkers m.emitted = [("p", false), ("q", true)] ∧
    patchCalls m'.inst.trace = patchCalls m.inst.trace ∧
    patchMarkers m'.emitted = patchMarkers m.emitted ∧
    ((patchMarkers m.emitted).map Prod.fst).Nodup := by
  have evaluated : ((run Details.plain (Machine.init Details.plain 0) firstPatched).bind fun m =>
      (run Details.plain (Machine.init Details.plain 0) replayPatched).map fun m' =>
        !m.failed && !m'.failed && decide (patchMarkers m.emitted = [("p", false), ("q", true)]) &&
          decide ((patchCalls m'.inst.trace).map PatchCall.key =
            (patchCalls m.inst.trace).map PatchCall.key)) = some true := by decide +kernel
  obtain ⟨m, ran, rest⟩ := Option.bind_eq_some_iff.mp evaluated
  obtain ⟨m', ran', checked⟩ := Option.map_eq_some_iff.mp rest
  simp only [Bool.and_eq_true, Bool.not_eq_true', decide_eq_true_eq] at checked
  obtain ⟨⟨⟨succeeded, succeeded'⟩, markers⟩, keys⟩ := checked
  -- both ids are among the jobs of the only activation
  have inTime : NotifiedBeforeCalls replayPatched ((patchMarkers m.emitted).map Prod.fst) := by
    rintro (_ | ⟨l, past⟩) id deprecated rest split member
    · cases split
    · have head : Label.activate [.startWorkflow [], .notifyHasPatch "q", .notifyHasPatch "p"] true
          = l := (List.cons.inj split).1
      refine ⟨_, true, List.mem_cons.mpr (.inl head), ?_⟩
      rw [markers] at member
      simp only [List.map_cons, List.map_nil, List.mem_cons, List.not_mem_nil, or_false] at member
      rcases member with rfl | rfl <;> simp
  have agree := patches_agree Details.plain 0 0
  have same := (agree.2 firstPatched replayPatched m m' ran ran' succeeded succeeded'
    (fun l member => List.all_eq_true.mp (by decide : firstPatched.all Label.firstExecution) l member)
    inTime).2 keys
  exact ⟨m, m', ran, ran', markers, same.1, same.2,
    (agree.1 m (.of_run ran fun _ _ _ => trivial)).2⟩

end TemporalSdk.Workflow
