import TemporalSdk.Client.WorkflowResult

/-!
# Following runs

## Main results

- `result_follows_runs`: in a chain of runs, `result` is decided by the close event of
  the last run, or of the first if runs are not followed, and reads the runs it
  needs in order, each once.
- `no_refetch_iff`: each iteration of the outer loop leaves it or moves to the run that
  a close event names, as long as no stream that ends without a close event is read
  for a run id. For such a stream the same run is read again: `stream_read_again`.

## Proof strategy

An iteration of the outer loop is a function of the stream of events of the run.
The rounds of the iterator on pages come to the same, by induction on what is left
to read, and a chain is followed by induction on its runs.
-/

namespace TemporalSdk.Client

open Converter (Bytes)

variable {P F T V E X : Type} (converter : DataConverter P F T V E X) (server : Server P F X)
  (resultType : Option T) (followRuns : Bool)

/-! ### Events -/

theorem raiseWith_leaves {A : Type} (decoded : Except X A) (cause : A → FailureCause V E) :
    ∃ outcome, raiseWith decoded cause = .leave outcome := by
  cases decoded with
  | ok a => exact ⟨_, rfl⟩
  | error error => exact ⟨_, rfl⟩

theorem firstResult_leaves (results : Except X (List V)) :
    ∃ outcome, (firstResult results : Control V E X) = .leave outcome := by
  unfold firstResult
  split
  all_goals exact ⟨_, rfl⟩

/-- A close event names the run to follow, or decides; other events do nothing. -/
theorem handleEvent_cases (event : HistoryEvent P F) :
    (event.isClose = false ∧ handleEvent converter resultType followRuns event = .next) ∨
    (event.isClose = true ∧ followRuns = true ∧ event.newExecutionRunId ≠ "" ∧
      handleEvent converter resultType followRuns event = .follow event.newExecutionRunId) ∨
    (event.isClose = true ∧ (followRuns = false ∨ event.newExecutionRunId = "") ∧
      ∃ outcome, handleEvent converter resultType followRuns event = .leave outcome) := by
  -- runs are followed where there is one to follow
  have branches (id : String) {leaves : Control V E X} (left : ∃ outcome, leaves = .leave outcome) :
      (followRuns = true ∧ id ≠ "" ∧ (if followRuns ∧ id ≠ "" then .follow id else leaves) =
        Control.follow id) ∨
      ((followRuns = false ∨ id = "") ∧ ∃ outcome,
        (if followRuns ∧ id ≠ "" then .follow id else leaves) = Control.leave outcome) := by
    by_cases follow : followRuns = true ∧ id ≠ ""
    · rw [if_pos follow]
      exact Or.inl ⟨follow.1, follow.2, rfl⟩
    · rw [if_neg follow]
      refine Or.inr ⟨?_, left⟩
      cases followRuns with
      | false => exact Or.inl rfl
      | true => exact Or.inr (by simpa using follow)
  cases event with
  | other => exact Or.inl ⟨rfl, rfl⟩
  -- these three name a run when the workflow is retried or has a schedule
  | workflowExecutionCompleted result id =>
    exact Or.inr ((branches id (firstResult_leaves _)).imp (⟨rfl, ·⟩) (⟨rfl, ·⟩))
  | workflowExecutionFailed failure id =>
    exact Or.inr ((branches id (raiseWith_leaves _ _)).imp (⟨rfl, ·⟩) (⟨rfl, ·⟩))
  | workflowExecutionTimedOut id =>
    exact Or.inr ((branches id ⟨_, rfl⟩).imp (⟨rfl, ·⟩) (⟨rfl, ·⟩))
  | workflowExecutionCanceled details =>
    exact Or.inr (Or.inr ⟨rfl, Or.inr rfl, raiseWith_leaves _ _⟩)
  | workflowExecutionTerminated reason details =>
    exact Or.inr (Or.inr ⟨rfl, Or.inr rfl, raiseWith_leaves _ _⟩)
  | workflowExecutionContinuedAsNew id =>
    -- always left if there is no run, which is an error then
    by_cases missing : id = ""
    · refine Or.inr (Or.inr ⟨rfl, Or.inr missing, ?_⟩)
      exact ⟨_, if_pos missing⟩
    · cases followRuns with
      | true => exact Or.inr (Or.inl ⟨rfl, rfl, missing, if_neg missing⟩)
      | false => exact Or.inr (Or.inr ⟨rfl, Or.inl rfl, _, if_neg missing⟩)

/-- Without a new run id it makes no difference whether runs are followed. -/
theorem handleEvent_last {event : HistoryEvent P F} (last : event.newExecutionRunId = "") :
    handleEvent converter resultType true event = handleEvent converter resultType false event := by
  cases event with
  | workflowExecutionCompleted | workflowExecutionFailed | workflowExecutionTimedOut
  | workflowExecutionContinuedAsNew =>
    simp only [HistoryEvent.newExecutionRunId] at last
    simp [handleEvent, last]
  | workflowExecutionCanceled | workflowExecutionTerminated | other => rfl

/-! ### Iterations of the outer loop -/

/-- The events of a run as they are read, up to an exception if there is one. -/
structure EventStream (P F V E X : Type) where
  events : List (HistoryEvent P F)
  error : Option (ResultError V E X)

inductive Iteration (V E X : Type) where
  | leaves (outcome : Outcome V E X)
  | reads (histRunId : Option String)

/-- An iteration of the outer loop, over the rest of a stream. -/
def iterationFrom (histRunId : Option String) (error : Option (ResultError V E X)) :
    List (HistoryEvent P F) → Iteration V E X
  | [] =>
    match error, histRunId with
    | some error, _ => .leaves (.raised error)
    | none, none => .leaves (.raised (.runtimeError "No completion event found"))
    | none, some _ => .reads histRunId
  | event :: rest =>
    match handleEvent converter resultType followRuns event with
    | .next => iterationFrom histRunId error rest
    | .follow histRunId => .reads (some histRunId)
    | .leave outcome => .leaves outcome

def iteration (histRunId : Option String) (stream : EventStream P F V E X) : Iteration V E X :=
  iterationFrom converter resultType followRuns histRunId stream.error stream.events

/-- Events before a close event make no difference. -/
theorem iterationFrom_append (histRunId : Option String) (error : Option (ResultError V E X))
    {before : List (HistoryEvent P F)} (open_ : ∀ event ∈ before, event.isClose = false)
    (rest : List (HistoryEvent P F)) :
    iterationFrom converter resultType followRuns histRunId error (before ++ rest) =
      iterationFrom converter resultType followRuns histRunId error rest := by
  induction before with
  | nil => rfl
  | cons event before ih =>
    obtain ⟨here, open_⟩ := List.forall_mem_cons.mp open_
    rcases handleEvent_cases converter resultType followRuns event with
      ⟨-, next⟩ | ⟨close, -⟩ | ⟨close, -⟩
    · rw [List.cons_append, iterationFrom, next]
      exact ih open_
    · cases here.symm.trans close
    · cases here.symm.trans close

/-- What an iteration should do: leave the loop, or move to the new run id of a close
    event of the run just read; and raise if there is no close event. -/
def Progresses (histRunId : Option String) (stream : EventStream P F V E X) : Prop :=
  (∀ next, iteration converter resultType followRuns histRunId stream = .reads next →
    ∃ event ∈ stream.events, event.isClose = true ∧ event.newExecutionRunId ≠ "" ∧
      next = some event.newExecutionRunId) ∧
  (stream.error = none → (∀ event ∈ stream.events, event.isClose = false) →
    iteration converter resultType followRuns histRunId stream =
      .leaves (.raised (.runtimeError "No completion event found")))

/-- The stream ends without a close event, and there is a run id. -/
def EndsOpen (histRunId : Option String) (stream : EventStream P F V E X) : Prop :=
  histRunId ≠ none ∧ stream.error = none ∧ ∀ event ∈ stream.events, event.isClose = false

/-- An iteration reads on at a run that a close event names, or its stream ended open. -/
theorem iteration_reads {histRunId next : Option String} {stream : EventStream P F V E X}
    (reads : iteration converter resultType followRuns histRunId stream = .reads next) :
    (∃ event ∈ stream.events, event.isClose = true ∧ event.newExecutionRunId ≠ "" ∧
      next = some event.newExecutionRunId) ∨ EndsOpen histRunId stream := by
  -- along the events: a close event settles it, and at the end the run id does
  obtain ⟨events, error⟩ := stream
  unfold iteration at reads
  unfold EndsOpen
  dsimp only at reads ⊢
  induction events with
  | nil =>
    cases error with
    | some error => cases reads
    | none =>
      cases histRunId with
      | none => cases reads
      | some id => exact Or.inr ⟨by simp, rfl, by simp⟩
  | cons event rest ih =>
    rw [iterationFrom] at reads
    rcases handleEvent_cases converter resultType followRuns event with
      ⟨passed, goes⟩ | ⟨close, -, named, goes⟩ | ⟨close, -, outcome, goes⟩
    · rw [goes] at reads
      rcases ih reads with ⟨event', member, found⟩ | ⟨given, noError, open_⟩
      · exact Or.inl ⟨event', List.mem_cons_of_mem _ member, found⟩
      · exact Or.inr ⟨given, noError, List.forall_mem_cons.mpr ⟨passed, open_⟩⟩
    · rw [goes] at reads
      cases reads
      exact Or.inl ⟨event, List.mem_cons_self, close, named, rfl⟩
    · rw [goes] at reads
      cases reads

/-- Without a close event it is up to the run id. -/
theorem iteration_open (histRunId : Option String) {stream : EventStream P F V E X}
    (noError : stream.error = none) (open_ : ∀ event ∈ stream.events, event.isClose = false) :
    iteration converter resultType followRuns histRunId stream =
      match histRunId with
      | none => .leaves (.raised (.runtimeError "No completion event found"))
      | some _ => .reads histRunId := by
  have all := iterationFrom_append converter resultType followRuns histRunId stream.error open_ []
  rw [List.append_nil, noError] at all
  unfold iteration
  rw [noError, all]
  cases histRunId with
  | none => rfl
  | some id => rfl

theorem progresses_iff (histRunId : Option String) (stream : EventStream P F V E X) :
    Progresses converter resultType followRuns histRunId stream ↔ ¬EndsOpen histRunId stream := by
  constructor
  · rintro ⟨-, raises⟩ ⟨given, noError, open_⟩
    have raised := raises noError open_
    rw [iteration_open converter resultType followRuns histRunId noError open_] at raised
    cases histRunId with
    | none => exact given rfl
    | some id => cases raised
  · intro closed
    refine ⟨fun next reads => ?_, fun noError open_ => ?_⟩
    · exact (iteration_reads converter resultType followRuns reads).resolve_right closed
    · rw [iteration_open converter resultType followRuns histRunId noError open_]
      cases histRunId with
      | none => rfl
      | some id => exact absurd ⟨by simp, noError, open_⟩ closed

/-- The iterations of a call, each with the run id and the stream it reads. -/
def iterations (histRunId : Option String) :
    List (EventStream P F V E X) → List (Option String × EventStream P F V E X)
  | [] => []
  | stream :: streams =>
    (histRunId, stream) ::
      match iteration converter resultType followRuns histRunId stream with
      | .leaves _ => []
      | .reads histRunId => iterations histRunId streams

/-- Every iteration of a call makes progress exactly if none reads a stream that ends
    without a close event for a run id. -/
theorem no_refetch_iff (converter : DataConverter P F T V E X) (resultType : Option T)
    (followRuns : Bool) (resultRunId : Option String) (streams : List (EventStream P F V E X)) :
    (∀ read ∈ iterations converter resultType followRuns resultRunId streams,
      Progresses converter resultType followRuns read.1 read.2) ↔
    ∀ read ∈ iterations converter resultType followRuns resultRunId streams,
      ¬EndsOpen read.1 read.2 := by
  constructor
  · intro progress read member
    exact (progresses_iff converter resultType followRuns read.1 read.2).mp (progress read member)
  · intro closed read member
    exact (progresses_iff converter resultType followRuns read.1 read.2).mpr (closed read member)

/-! ### Pages -/

open WorkflowHistoryEventAsyncIterator (tokenOf)

/-- What the server still has for a run: the rest of a page, and pages from a token on.
    Each page comes at its own time, with as many events as the server likes. -/
inductive Left (server : Server P F X) (runId : String) :
    Nat → List (HistoryEvent P F) → Option Bytes → EventStream P F V E X → Prop
  | stops {time : Nat} : Left server runId time [] none ⟨[], none⟩
  | event {time : Nat} {event : HistoryEvent P F} {page : List (HistoryEvent P F)}
      {token : Option Bytes} {stream : EventStream P F V E X}
      (left : Left server runId time page token stream) :
      Left server runId time (event :: page) token ⟨event :: stream.events, stream.error⟩
  | page {time : Nat} {token : Bytes} {resp : Response P F} {stream : EventStream P F V E X}
      (answers : server time ⟨runId, token⟩ = .ok resp) (supported : resp.rawHistory = 0)
      (left : Left server runId (time + 1) resp.events (tokenOf resp.nextPageToken) stream) :
      Left server runId time [] (some token) stream
  | raw {time : Nat} {token : Bytes} {resp : Response P F}
      (answers : server time ⟨runId, token⟩ = .ok resp) (raw : resp.rawHistory ≠ 0) :
      Left server runId time [] (some token) ⟨[], some .assertionError⟩
  | fails {time : Nat} {token : Bytes} {error : X}
      (answers : server time ⟨runId, token⟩ = .error error) :
      Left server runId time [] (some token) ⟨[], some (.other error)⟩

/-- The stream that the server has for a run, for who asks at that time. -/
def Serves (server : Server P F X) (runId : String) (time : Nat)
    (stream : EventStream P F V E X) : Prop :=
  Left server runId time [] (some []) stream

namespace ResultCall

/-- The call is in a run, at the rest of a page and a token. -/
structure At (s : ResultCall P F V E X) (page : List (HistoryEvent P F)) (token : Option Bytes) :
    Prop where
  running : s.outcome = none
  sameRun : s.events.runId = s.histRunId
  rest : (∃ current, s.events.currentPage = some current ∧
      current.drop s.events.currentPageIndex = page ∧ s.events.nextPageToken = token) ∨
    (s.events.currentPage = none ∧ s.events.nextPageToken = none ∧ page = [] ∧ token = some [])

theorem At.read (histRunId : Option String) (requests : List Request) :
    (read histRunId requests : ResultCall P F V E X).At [] (some []) :=
  ⟨rfl, rfl, Or.inr ⟨rfl, rfl, rfl, rfl⟩⟩

theorem getElem?_of_drop {page rest : List (HistoryEvent P F)} {index : Nat}
    {event : HistoryEvent P F} (drop : page.drop index = event :: rest) :
    page[index]? = some event ∧ page.drop (index + 1) = rest := by
  constructor
  · have first : (page.drop index)[0]? = some event := by rw [drop]; rfl
    rwa [List.getElem?_drop] at first
  · rw [← List.drop_drop, drop]
    rfl

theorem getElem?_of_drop_nil {page : List (HistoryEvent P F)} {index : Nat}
    (drop : page.drop index = []) : page[index]? = none :=
  List.getElem?_eq_none (List.drop_eq_nil_iff.mp drop)

/-- On a page the iterator gives its next event. -/
theorem At.round_event {s : ResultCall P F V E X} {event : HistoryEvent P F}
    {page : List (HistoryEvent P F)} {token : Option Bytes} (here : s.At (event :: page) token) :
    ∃ it, s.events.round = .event event it ∧ ({ s with events := it }).At page token := by
  obtain ⟨running, sameRun, ⟨current, isPage, drop, isToken⟩ | ⟨-, -, empty, -⟩⟩ := here
  · obtain ⟨found, rest⟩ := getElem?_of_drop drop
    refine ⟨{ s.events with currentPageIndex := s.events.currentPageIndex + 1 }, ?_, running,
      sameRun, Or.inl ⟨current, isPage, rest, isToken⟩⟩
    simp only [WorkflowHistoryEventAsyncIterator.round, isPage, found]
  · cases empty

/-- At the end of a page it asks for the next one, by the token. -/
theorem At.round_fetch {s : ResultCall P F V E X} {token : Bytes} (here : s.At [] (some token)) :
    s.events.round = .fetchNextPage ∧
      s.events.request = ⟨s.histRunId.getD "", token⟩ := by
  obtain ⟨-, sameRun, ⟨current, isPage, drop, isToken⟩ | ⟨noPage, noToken, -, first⟩⟩ := here
  · have past := getElem?_of_drop_nil drop
    constructor
    · simp [WorkflowHistoryEventAsyncIterator.round, isPage, past, isToken]
    · simp [WorkflowHistoryEventAsyncIterator.request, sameRun, isToken]
  · constructor
    · simp [WorkflowHistoryEventAsyncIterator.round, noPage]
    · cases first
      simp [WorkflowHistoryEventAsyncIterator.request, sameRun, noToken]

theorem At.round_stop {s : ResultCall P F V E X} (here : s.At [] none) :
    s.events.round = .stopAsyncIteration := by
  obtain ⟨-, -, ⟨current, isPage, drop, isToken⟩ | ⟨-, -, -, first⟩⟩ := here
  · have past := getElem?_of_drop_nil drop
    simp [WorkflowHistoryEventAsyncIterator.round, isPage, past, isToken]
  · cases first

/-- `s'` is where an iteration ends that has requested the pages of these tokens. -/
def Ends (s s' : ResultCall P F V E X) (tokens : List Bytes) : Iteration V E X → Prop
  | .leaves outcome => s'.outcome = some outcome ∧
      s'.requests = s.requests ++ tokens.map (Request.mk (s.histRunId.getD ""))
  | .reads histRunId =>
      s' = read histRunId (s.requests ++ tokens.map (Request.mk (s.histRunId.getD "")))

variable {converter server resultType followRuns}

/-- What a round makes of an event. -/
def handled (s : ResultCall P F V E X) (it : WorkflowHistoryEventAsyncIterator P F) :
    Control V E X → ResultCall P F V E X
  | .next => { s with events := it }
  | .follow histRunId => read (some histRunId) s.requests
  | .leave outcome => { s with outcome := some outcome }

/-- What a round makes of the answer to a request. -/
def answered (s : ResultCall P F V E X) (request : Request) :
    Except X (Response P F) → ResultCall P F V E X
  | .error error => { s with
      requests := s.requests ++ [request]
      outcome := some (.raised (.other error)) }
  | .ok resp =>
    if resp.rawHistory ≠ 0 then { s with
      requests := s.requests ++ [request]
      outcome := some (.raised .assertionError) }
    else { s with
      requests := s.requests ++ [request]
      events := s.events.fetched resp }

theorem step_event {s : ResultCall P F V E X} {event : HistoryEvent P F}
    {it : WorkflowHistoryEventAsyncIterator P F} (running : s.outcome = none)
    (round : s.events.round = .event event it) :
    step converter server resultType followRuns s =
      handled s it (handleEvent converter resultType followRuns event) := by
  rw [step, if_neg (by simp [running]), round]
  dsimp only
  cases handleEvent converter resultType followRuns event with
  | next => rfl
  | follow histRunId => rfl
  | leave outcome => rfl

theorem step_fetch {s : ResultCall P F V E X} {token : Bytes} (here : s.At [] (some token)) :
    step converter server resultType followRuns s =
      answered s ⟨s.histRunId.getD "", token⟩
        (server s.requests.length ⟨s.histRunId.getD "", token⟩) := by
  obtain ⟨fetch, request⟩ := here.round_fetch
  rw [step, if_neg (by simp [here.running]), fetch, ← request]
  dsimp only
  cases server s.requests.length s.events.request with
  | error error => rfl
  | ok resp => rfl

/-- The token that follows a page is not empty. -/
theorem tokenOf_ne {token : Bytes} : tokenOf token ≠ some [] := by
  cases token with
  | nil => simp [tokenOf]
  | cons b rest => simp [tokenOf]

/-- **Reading a run**: the rounds of the call on pages come to the iteration over the
    stream, with one request for each page. -/
theorem reads_left {time : Nat} {page : List (HistoryEvent P F)} {token : Option Bytes}
    {stream : EventStream P F V E X} {s : ResultCall P F V E X}
    (left : Left server (s.histRunId.getD "") time page token stream)
    (now : s.requests.length = time) (here : s.At page token) :
    ∃ n tokens, Ends s ((step converter server resultType followRuns)^[n] s) tokens
        (iteration converter resultType followRuns s.histRunId stream) ∧
      (token ≠ some [] → ∀ t ∈ tokens, t ≠ []) ∧
      (page = [] → token = some [] → ∃ later, tokens = [] :: later ∧ ∀ t ∈ later, t ≠ []) := by
  -- Along what the server has left. The token that was asked for first is the only
  -- empty one: a page without a token is the last.
  generalize id : s.histRunId.getD "" = runId at left
  induction left generalizing s with
  | stops =>
    refine ⟨1, [], ?_, by simp, fun _ first => by cases first⟩
    rw [Function.iterate_one, step, if_neg (by simp [here.running]), here.round_stop]
    unfold iteration
    cases hist : s.histRunId with
    | none => exact ⟨rfl, by simp⟩
    | some id => simp [Ends, iterationFrom, hist]
  | @event time event page token stream left ih =>
    obtain ⟨it, round, next⟩ := here.round_event
    have stepped := @step_event _ _ _ _ _ _ converter server resultType followRuns _ _ _
      here.running round
    rcases handleEvent_cases converter resultType followRuns event with
      ⟨-, goes⟩ | ⟨-, -, -, goes⟩ | ⟨-, -, outcome, goes⟩
    · -- the event is passed over
      rw [goes, handled] at stepped
      obtain ⟨n, tokens, ends, later, -⟩ := ih (s := { s with events := it }) now next id
      refine ⟨n + 1, tokens, ?_, later, fun empty => by cases empty⟩
      rw [Function.iterate_succ_apply, stepped]
      unfold iteration
      rw [iterationFrom, goes]
      exact ends
    · -- the call starts over at the next run
      rw [goes, handled] at stepped
      refine ⟨1, [], ?_, by simp, fun empty => by cases empty⟩
      rw [Function.iterate_one, stepped]
      unfold iteration
      rw [iterationFrom, goes]
      simp [Ends]
    · rw [goes, handled] at stepped
      refine ⟨1, [], ?_, by simp, fun empty => by cases empty⟩
      rw [Function.iterate_one, stepped]
      unfold iteration
      rw [iterationFrom, goes]
      simp [Ends]
  | @page time token resp stream answers supported left ih =>
    have stepped := @step_fetch _ _ _ _ _ _ converter server resultType followRuns _ _ here
    rw [now, id, answers, answered, if_neg (by simp [supported])] at stepped
    obtain ⟨n, tokens, ends, later, -⟩ := ih (s := { s with
        requests := s.requests ++ [Request.mk runId token]
        events := s.events.fetched resp }) (by simp [now])
      ⟨here.running, here.sameRun, Or.inl ⟨resp.events, rfl, rfl, rfl⟩⟩ id
    have nonempty := later tokenOf_ne
    refine ⟨n + 1, token :: tokens, ?_, fun notFirst => ?_, fun _ first => ?_⟩
    · rw [Function.iterate_succ_apply, stepped]
      cases result : iteration converter resultType followRuns s.histRunId stream with
      | leaves outcome =>
        rw [result] at ends
        exact ⟨ends.1, ends.2.trans (by simp [id])⟩
      | reads histRunId =>
        rw [result] at ends
        exact Eq.trans ends (by simp [id])
    · exact List.forall_mem_cons.mpr ⟨fun empty => notFirst (congrArg some empty), nonempty⟩
    · exact ⟨tokens, by rw [Option.some.inj first], nonempty⟩
  | @raw time token resp answers raw =>
    have stepped := @step_fetch _ _ _ _ _ _ converter server resultType followRuns _ _ here
    rw [now, id, answers, answered, if_pos raw] at stepped
    refine ⟨1, [token], ?_, fun notFirst => ?_, fun _ first => ?_⟩
    · rw [Function.iterate_one, stepped]
      exact ⟨rfl, by simp [id]⟩
    · exact List.forall_mem_singleton.mpr fun empty => notFirst (congrArg some empty)
    · exact ⟨[], by rw [Option.some.inj first], by simp⟩
  | @fails time token error answers =>
    have stepped := @step_fetch _ _ _ _ _ _ converter server resultType followRuns _ _ here
    rw [now, id, answers, answered] at stepped
    refine ⟨1, [token], ?_, fun notFirst => ?_, fun _ first => ?_⟩
    · rw [Function.iterate_one, stepped]
      exact ⟨rfl, by simp [id]⟩
    · exact List.forall_mem_singleton.mpr fun empty => notFirst (congrArg some empty)
    · exact ⟨[], by rw [Option.some.inj first], by simp⟩

theorem step_finished {s : ResultCall P F V E X} (finished : s.outcome.isSome = true) (n : Nat) :
    (step converter server resultType followRuns)^[n] s = s := by
  induction n with
  | zero => rfl
  | succ n ih => rw [Function.iterate_succ_apply, step, if_pos finished, ih]

end ResultCall

/-! ### Chains -/

/-- A run with its one close event at the end. -/
structure ClosedRun (P F : Type) where
  id : String
  before : List (HistoryEvent P F)
  close : HistoryEvent P F
  opens : ∀ event ∈ before, event.isClose = false
  closes : close.isClose = true

def ClosedRun.stream (run : ClosedRun P F) : EventStream P F V E X :=
  ⟨run.before ++ [run.close], none⟩

/-- The close event of a run names the next run, if there is one, and none otherwise. -/
def Linked : List (ClosedRun P F) → Prop
  | [] => True
  | [last] => last.close.newExecutionRunId = ""
  | run :: next :: rest =>
    run.close.newExecutionRunId = next.id ∧ next.id ≠ "" ∧ Linked (next :: rest)

/-- The runs are read one after the other, each from its first page on. -/
inductive ReadsOnce : List (ClosedRun P F) → List Request → Prop
  | nil : ReadsOnce [] []
  | cons {run : ClosedRun P F} {rest : List (ClosedRun P F)} {tokens : List Bytes}
      {requests : List Request} (pages : ∀ token ∈ tokens, token ≠ [])
      (later : ReadsOnce rest requests) :
      ReadsOnce (run :: rest) (⟨run.id, []⟩ :: tokens.map (Request.mk run.id) ++ requests)

/-- What the close event alone comes to. -/
def Decides (event : HistoryEvent P F) (outcome : Outcome V E X) : Prop :=
  handleEvent converter resultType false event = .leave outcome

theorem decides_close {event : HistoryEvent P F} (close : event.isClose = true) :
    ∃ outcome, Decides converter resultType event outcome := by
  rcases handleEvent_cases converter resultType false event with
    ⟨open_, -⟩ | ⟨-, follows, -⟩ | ⟨-, -, outcome, goes⟩
  · cases close.symm.trans open_
  · cases follows
  · exact ⟨outcome, goes⟩

/-- The iteration over a closed run is up to its close event. -/
theorem iteration_closed (histRunId : Option String) (run : ClosedRun P F) :
    iteration converter resultType followRuns histRunId run.stream =
      iterationFrom converter resultType followRuns histRunId none [run.close] :=
  iterationFrom_append converter resultType followRuns histRunId none run.opens [run.close]

section Chain

variable {converter server resultType}

/-- The server serves a run to whoever asks, in pages of any kind. -/
def Served (V E : Type) (server : Server P F X) (run : ClosedRun P F) : Prop :=
  ∀ time, Serves (V := V) (E := E) server run.id time run.stream

open ResultCall (read start step)

/-- A call that reads a run comes to what its close event says, with one request for each
    page, of which the first is for the first. -/
theorem reads_run {run : ClosedRun P F} (served : Served V E server run)
    {histRunId : Option String} (asked : run.id = histRunId.getD "") (requests : List Request) :
    ∃ (n : Nat) (later : List Bytes), (∀ token ∈ later, token ≠ []) ∧
      ResultCall.Ends (read histRunId requests)
        ((step converter server resultType followRuns)^[n] (read histRunId requests))
        ([] :: later)
        (iterationFrom converter resultType followRuns histRunId none [run.close]) := by
  have left := served requests.length
  unfold Serves at left
  rw [asked] at left
  have here := ResultCall.At.read (V := V) (E := E) (X := X) (F := F) (P := P) histRunId requests
  obtain ⟨n, tokens, ends, -, first⟩ :=
    @ResultCall.reads_left P F T V E X converter server resultType followRuns _ _ _ _ _ left rfl here
  obtain ⟨later, rfl, nonempty⟩ := first rfl rfl
  refine ⟨n, later, nonempty, ?_⟩
  rw [← iteration_closed]
  exact ends

/-- A run that decides: the call leaves the loop. -/
theorem leaves_run {run : ClosedRun P F} (served : Served V E server run)
    {histRunId : Option String} (asked : run.id = histRunId.getD "") {outcome : Outcome V E X}
    (leaves : handleEvent converter resultType followRuns run.close = .leave outcome)
    (requests : List Request) :
    ∃ (n : Nat) (later : List Bytes), (∀ token ∈ later, token ≠ []) ∧
      ((step converter server resultType followRuns)^[n] (read histRunId requests)).outcome =
        some outcome ∧
      ((step converter server resultType followRuns)^[n] (read histRunId requests)).requests =
        requests ++ (⟨run.id, []⟩ :: later.map (Request.mk run.id)) := by
  obtain ⟨n, later, nonempty, ends⟩ := reads_run followRuns served asked requests
  rw [iterationFrom, leaves] at ends
  exact ⟨n, later, nonempty, ends.1, asked ▸ ends.2⟩

/-- A run that is followed: the call reads the next one. -/
theorem follows_run {run : ClosedRun P F} (served : Served V E server run)
    {histRunId : Option String} (asked : run.id = histRunId.getD "") {next : String}
    (follows : handleEvent converter resultType followRuns run.close = .follow next)
    (requests : List Request) :
    ∃ (n : Nat) (later : List Bytes), (∀ token ∈ later, token ≠ []) ∧
      (step converter server resultType followRuns)^[n] (read histRunId requests) =
        read (some next) (requests ++ (⟨run.id, []⟩ :: later.map (Request.mk run.id))) := by
  obtain ⟨n, later, nonempty, ends⟩ := reads_run followRuns served asked requests
  rw [iterationFrom, follows] at ends
  exact ⟨n, later, nonempty, Eq.trans ends (by rw [asked]; rfl)⟩

/-- Following a chain, from a run on. -/
theorem follows_chain (runs : List (ClosedRun P F)) (run : ClosedRun P F)
    (linked : Linked (run :: runs)) (served : ∀ r ∈ run :: runs, Served V E server r)
    {histRunId : Option String} (asked : run.id = histRunId.getD "") {outcome : Outcome V E X}
    (decides : Decides converter resultType ((run :: runs).getLast (by simp)).close outcome)
    (requests : List Request) :
    ∃ n log, ReadsOnce (run :: runs) log ∧
      ((step converter server resultType true)^[n] (read histRunId requests)).outcome =
        some outcome ∧
      ((step converter server resultType true)^[n] (read histRunId requests)).requests =
        requests ++ log := by
  induction runs generalizing run histRunId requests with
  | nil =>
    -- the last run names no other, so it decides as if runs were not followed
    have goes : handleEvent converter resultType true run.close = .leave outcome :=
      (handleEvent_last converter resultType linked).trans decides
    obtain ⟨n, later, pages, left, made⟩ := leaves_run true (served run List.mem_cons_self) asked
      goes requests
    refine ⟨n, _, .cons pages .nil, left, ?_⟩
    rw [made, List.append_nil]
  | cons next runs ih =>
    obtain ⟨names, named, linked⟩ := linked
    have goes : handleEvent converter resultType true run.close = .follow next.id := by
      rcases handleEvent_cases converter resultType true run.close with
        ⟨open_, -⟩ | ⟨-, -, -, goes⟩ | ⟨-, none | none, -⟩
      · cases run.closes.symm.trans open_
      · rw [goes, names]
      · cases none
      · exact absurd (names.symm.trans none) named
    obtain ⟨n, later, pages, moved⟩ := follows_run true (served run List.mem_cons_self) asked
      goes requests
    have others (r : ClosedRun P F) (member : r ∈ next :: runs) : Served V E server r :=
      served r (List.mem_cons_of_mem _ member)
    rw [List.getLast_cons (by simp)] at decides
    have found : next.id = (some next.id).getD "" := Option.getD_some.symm
    obtain ⟨n', log, once, left, made⟩ := ih next linked others found decides
      (requests ++ (⟨run.id, []⟩ :: later.map (Request.mk run.id)))
    refine ⟨n' + n, _, .cons pages once, ?_, ?_⟩
    · rw [Function.iterate_add_apply, moved]
      exact left
    · rw [Function.iterate_add_apply, moved, made, List.append_assoc]

/-- **Following runs**: the last run decides, or the first if runs are not followed, and
    the runs up to it are read in order, each once. -/
theorem result_follows_runs (converter : DataConverter P F T V E X) (server : Server P F X)
    (resultType : Option T) (resultRunId : Option String) (first : ClosedRun P F)
    (runs : List (ClosedRun P F)) (asked : first.id = resultRunId.getD "")
    (linked : Linked (first :: runs)) (served : ∀ run ∈ first :: runs, Served V E server run) :
    (∃ n outcome, Decides converter resultType ((first :: runs).getLast (by simp)).close outcome ∧
      ∀ m ≥ n,
        ((step converter server resultType true)^[m] (start resultRunId)).outcome = some outcome ∧
        ReadsOnce (first :: runs)
          ((step converter server resultType true)^[m] (start resultRunId)).requests) ∧
    ∃ n outcome, Decides converter resultType first.close outcome ∧
      (∀ id, first.close = .workflowExecutionContinuedAsNew id → id ≠ "" →
        outcome = .raised (.workflowContinuedAsNew id)) ∧
      ∀ m ≥ n,
        ((step converter server resultType false)^[m] (start resultRunId)).outcome = some outcome ∧
        ReadsOnce [first]
          ((step converter server resultType false)^[m] (start resultRunId)).requests := by
  -- once there is an outcome, nothing changes
  have stays {followRuns : Bool} {n m : Nat} {outcome : Outcome V E X} (le : n ≤ m)
      (left : ((step converter server resultType followRuns)^[n] (start resultRunId)).outcome =
        some outcome) :
      (step converter server resultType followRuns)^[m] (start resultRunId) =
        (step converter server resultType followRuns)^[n] (start resultRunId) := by
    obtain ⟨k, rfl⟩ := Nat.exists_eq_add_of_le' le
    rw [Function.iterate_add_apply]
    exact ResultCall.step_finished (by rw [left]; rfl) k
  constructor
  · obtain ⟨outcome, decides⟩ := decides_close converter resultType
      ((first :: runs).getLast (by simp)).closes
    obtain ⟨n, log, once, left, made⟩ := follows_chain runs first linked served asked decides []
    refine ⟨n, outcome, decides, fun m le => ?_⟩
    rw [stays le left]
    exact ⟨left, made ▸ once⟩
  · obtain ⟨outcome, decides⟩ := decides_close converter resultType first.closes
    obtain ⟨n, later, pages, left, made⟩ := leaves_run false (served first List.mem_cons_self)
      asked decides []
    refine ⟨n, outcome, decides, fun id isContinued named => ?_, fun m le => ?_⟩
    · unfold Decides at decides
      rw [isContinued, handleEvent, if_neg named] at decides
      exact (Control.leave.inj decides).symm
    · rw [stays le left]
      refine ⟨left, ?_⟩
      unfold start
      rw [made]
      have once : ReadsOnce [first] (⟨first.id, []⟩ :: later.map (Request.mk first.id) ++ []) :=
        .cons pages .nil
      rwa [List.append_nil] at once

end Chain

/-! ### Examples -/

/-- Payloads are values, and failures errors. -/
def sampleConverter : DataConverter String String Unit String String String where
  decode payloads _ := .ok payloads
  decodeFailure failure := .ok failure

/-- A run that fails and is retried, in two pages, and the run after it. -/
def sampleServer : Server String String String := fun _ request =>
  if request.runId = "run1" then
    if request.nextPageToken = [] then .ok ⟨[], [1], 0⟩
    else .ok ⟨[.workflowExecutionFailed "failed" "run2"], [], 0⟩
  else .ok ⟨[.workflowExecutionCompleted ["done"] ""], [], 0⟩

def run1 : ClosedRun String String where
  id := "run1"
  before := []
  close := .workflowExecutionFailed "failed" "run2"
  opens := by simp
  closes := rfl

def run2 : ClosedRun String String where
  id := "run2"
  before := []
  close := .workflowExecutionCompleted ["done"] ""
  opens := by simp
  closes := rfl

theorem sample_served : ∀ run ∈ [run1, run2], Served String String sampleServer run := by
  intro run member time
  simp only [List.mem_cons, List.not_mem_nil, or_false] at member
  rcases member with rfl | rfl
  · apply @Left.page _ _ _ _ _ _ _ _ _ ⟨[], [1], 0⟩ _ rfl rfl
    apply @Left.page _ _ _ _ _ _ _ _ _ ⟨[.workflowExecutionFailed "failed" "run2"], [], 0⟩ _ rfl rfl
    exact .event .stops
  · apply @Left.page _ _ _ _ _ _ _ _ _ ⟨[.workflowExecutionCompleted ["done"] ""], [], 0⟩ _ rfl rfl
    exact .event .stops

theorem result_follows_retry :
    ∃ n, ∀ m ≥ n,
      ((ResultCall.step sampleConverter sampleServer none true)^[m]
        (ResultCall.start (some "run1"))).outcome = some (.returned (some "done") none) ∧
      ReadsOnce [run1, run2] ((ResultCall.step sampleConverter sampleServer none true)^[m]
        (ResultCall.start (some "run1"))).requests := by
  obtain ⟨⟨n, outcome, decides, all⟩, -⟩ := result_follows_runs sampleConverter sampleServer none
    (some "run1") run1 [run2] rfl ⟨rfl, by decide, rfl⟩ sample_served
  cases decides
  exact ⟨n, all⟩

/-- A handle for "run1" whose stream ends without a close event reads it again, as
    often as that happens. -/
theorem stream_read_again :
    iteration sampleConverter none true (some "run1") ⟨[], none⟩ = .reads (some "run1") ∧
    ¬∀ (resultRunId : Option String) (streams : List (EventStream String String String String String)),
      ∀ read ∈ iterations sampleConverter none true resultRunId streams,
        Progresses sampleConverter none true read.1 read.2 := by
  refine ⟨rfl, fun progress => ?_⟩
  have first := progress (some "run1") [⟨[], none⟩] _ List.mem_cons_self
  obtain ⟨event, member, -⟩ := first.1 (some "run1") rfl
  cases member

end TemporalSdk.Client
