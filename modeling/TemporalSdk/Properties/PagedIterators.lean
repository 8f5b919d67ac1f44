import TemporalSdk.Client.Pages

/-!
# Iterating over pages

## Main result

`pages_drained`: each of the three iterators gives the items of the pages, one after
the other, and then stops, however often it is asked again. It requests each page once,
with the token that came with the page before.

## Proof strategy

`Left` says what a state has still to give: the rest of its page and the pages that are
linked by its token. A call of `__anext__` skips empty pages, which is the induction on
the pages that are left, and takes one item. Calls are put together by induction on
their number.
-/

namespace TemporalSdk.Client.Pages

open Converter (Bytes)
open WorkflowHistoryEventAsyncIterator (tokenOf)

variable {Q R I X : Type} {call : PagedCall Q R I X} {server : Server Q R X} {s : State Q I}

/-- The pages that the server gives from a token on, each with the token it is requested
    with. Only the last has no token for another. -/
inductive Linked (call : PagedCall Q R I X) (server : Server Q R X) :
    Nat → Bytes → List (Bytes × List I) → Prop
  | last {time : Nat} {token : Bytes} {resp : R} {page : List I}
      (answers : server time (call.request none token) = .ok resp)
      (isPage : call.page resp = .ok page) (noToken : call.nextPageToken resp = []) :
      Linked call server time token [(token, page)]
  | more {time : Nat} {token : Bytes} {resp : R} {page : List I} {pages : List (Bytes × List I)}
      (answers : server time (call.request none token) = .ok resp)
      (isPage : call.page resp = .ok page) (given : call.nextPageToken resp ≠ [])
      (rest : Linked call server (time + 1) (call.nextPageToken resp) pages) :
      Linked call server time token ((token, page) :: pages)

/-- The items of pages. -/
def items (pages : List (Bytes × List I)) : List I := pages.flatMap Prod.snd

/-- The requests of pages. -/
def requestsOf (call : PagedCall Q R I X) (pages : List (Bytes × List I)) : List Q :=
  pages.map fun page => call.request none page.1

/-- The pages that a token leads to: none without a token. -/
def Follow (call : PagedCall Q R I X) (server : Server Q R X) (time : Nat) :
    Option Bytes → List (Bytes × List I) → Prop
  | none, pages => pages = []
  | some token, pages => Linked call server time token pages

/-- What a state has still to give: the rest of its page, and pages. -/
structure Left (call : PagedCall Q R I X) (server : Server Q R X) (s : State Q I)
    (rest : List I) (pages : List (Bytes × List I)) : Prop where
  page : (s.it.currentPage = none ∧ rest = [] ∧
      Linked call server s.requests.length (s.it.nextPageToken.getD []) pages) ∨
    ∃ page, s.it.currentPage = some page ∧ page.drop s.it.currentPageIndex = rest ∧
      Follow call server s.requests.length s.it.nextPageToken pages

/-! ### One call -/

theorem Left.round_item {item : I} {rest : List I} {pages : List (Bytes × List I)}
    (left : Left call server s (item :: rest) pages) :
    ∃ it, round s.it = .item item it ∧ Left call server { s with it := it } rest pages := by
  rcases left.page with ⟨-, empty, -⟩ | ⟨page, isPage, drop, follow⟩
  · cases empty
  · have here : page[s.it.currentPageIndex]? = some item := by
      rw [← List.head?_drop, drop]
      rfl
    have past : page.drop (s.it.currentPageIndex + 1) = rest := by
      rw [← List.drop_drop, drop]
      rfl
    exact ⟨{ s.it with currentPageIndex := s.it.currentPageIndex + 1 },
      by simp only [round, isPage, here], ⟨Or.inr ⟨page, isPage, past, follow⟩⟩⟩

/-- Nothing is left of the page: another one is fetched, if there is one. -/
theorem Left.round_end {pages : List (Bytes × List I)} (left : Left call server s [] pages) :
    (pages = [] ∧ round s.it = .stop) ∨
      (round s.it = .fetch ∧
        Linked call server s.requests.length (s.it.nextPageToken.getD []) pages) := by
  rcases left.page with ⟨noPage, -, linked⟩ | ⟨page, isPage, drop, follow⟩
  · exact Or.inr ⟨by simp only [round, noPage], linked⟩
  · have past : page[s.it.currentPageIndex]? = none :=
      List.getElem?_eq_none (List.drop_eq_nil_iff.mp drop)
    cases token : s.it.nextPageToken with
    | none =>
      rw [token] at follow
      exact Or.inl ⟨follow, by simp [round, isPage, past, token]⟩
    | some token' =>
      rw [token] at follow
      exact Or.inr ⟨by simp [round, isPage, past, token], follow⟩

/-- The state once there is a page. -/
def fetched (call : PagedCall Q R I X) (s : State Q I) (resp : R) (page : List I) : State Q I where
  it :=
    { nextPageToken := tokenOf (call.nextPageToken resp)
      currentPage := some page
      currentPageIndex := 0 }
  requests := s.requests ++ [call.request none (s.it.nextPageToken.getD [])]

theorem fetchNextPage_ok {resp : R} {page : List I}
    (answers : server s.requests.length (call.request none (s.it.nextPageToken.getD [])) =
      .ok resp) (isPage : call.page resp = .ok page) :
    fetchNextPage call server none s = (fetched call s resp page, none) := by
  simp only [fetchNextPage, answers, isPage, fetched]

/-- Fetching the first of the pages that are left. -/
theorem fetch_linked {pages : List (Bytes × List I)}
    (linked : Linked call server s.requests.length (s.it.nextPageToken.getD []) pages) :
    ∃ first rest s', pages = first :: rest ∧ fetchNextPage call server none s = (s', none) ∧
      s'.requests = s.requests ++ [call.request none first.1] ∧
      Left call server s' first.2 rest := by
  cases linked with
  | @last _ _ resp page answers isPage noToken =>
    refine ⟨_, _, fetched call s resp page, rfl, fetchNextPage_ok answers isPage, rfl,
      ⟨Or.inr ⟨page, rfl, rfl, ?_⟩⟩⟩
    simp [fetched, tokenOf, noToken, Follow]
  | @more _ _ resp page pages answers isPage given rest =>
    refine ⟨_, _, fetched call s resp page, rfl, fetchNextPage_ok answers isPage, rfl,
      ⟨Or.inr ⟨page, rfl, rfl, ?_⟩⟩⟩
    simpa [fetched, tokenOf, given, Follow] using rest

/-- What a call gives when these items are left. -/
def nextOf : List I → Next I X
  | [] => .stopAsyncIteration
  | item :: _ => .item item

/-- A call gives the first item that is left, and requests pages for as long as there is
    none. With nothing left it has requested them all, and stops. -/
theorem anext_left {rest : List I} {pages : List (Bytes × List I)} {rounds : Nat}
    (left : Left call server s rest pages) (enough : pages.length < rounds) :
    ∃ s' rest' read pages', pages = read ++ pages' ∧
      anext call server rounds s = some (nextOf (rest ++ items pages), s') ∧
      s'.requests = s.requests ++ requestsOf call read ∧
      Left call server s' rest' pages' ∧
      rest' ++ items pages' = (rest ++ items pages).tail ∧
      (rest ++ items pages = [] → pages' = []) := by
  induction rounds generalizing s rest pages with
  | zero => exact absurd enough (Nat.not_lt_zero _)
  | succ rounds ih =>
    cases rest with
    | cons item rest =>
      -- an item of the page is left: nothing is requested
      obtain ⟨it, isItem, left'⟩ := left.round_item
      refine ⟨{ s with it := it }, rest, [], pages, rfl, ?_, by simp [requestsOf], left', rfl,
        by simp⟩
      rw [anext, isItem]
      rfl
    | nil =>
      rcases left.round_end with ⟨rfl, stops⟩ | ⟨fetches, linked⟩
      -- the page is the last one: the state stays, so the next call stops as well
      · refine ⟨s, [], [], [], rfl, ?_, by simp [requestsOf], left, rfl, fun _ => rfl⟩
        rw [anext, stops]
        rfl
      -- a page is fetched, which may be empty: another round
      · obtain ⟨first, pages, s₁, rfl, fetched, requested, left₁⟩ := fetch_linked linked
        have fewer : pages.length < rounds := by
          simpa using enough
        obtain ⟨s', rest', read, pages', rfl, called, requests, left', same, done⟩ := ih left₁ fewer
        refine ⟨s', rest', first :: read, pages', rfl, ?_, ?_, left', same, done⟩
        · rw [anext, fetches]
          dsimp only
          rw [fetched]
          exact called
        · rw [requests, requested]
          simp [requestsOf]

/-! ### Many calls -/

/-- What so many calls give when these items are left. -/
def nextsOf (left : List I) : Nat → List (Next I X)
  | 0 => []
  | calls + 1 => nextOf left :: nextsOf left.tail calls

theorem nextsOf_eq (left : List I) (calls : Nat) :
    (nextsOf left calls : List (Next I X)) =
      (left.take calls).map .item ++ List.replicate (calls - left.length) .stopAsyncIteration := by
  induction calls generalizing left with
  | zero => simp [nextsOf]
  | succ calls ih =>
    cases left with
    | nil => simp [nextsOf, nextOf, ih, List.replicate_succ]
    | cons item rest => simp [nextsOf, nextOf, ih]

theorem anexts_left {rest : List I} {pages : List (Bytes × List I)} {rounds : Nat}
    (left : Left call server s rest pages) (enough : pages.length < rounds) (calls : Nat) :
    ∃ s' read pages', pages = read ++ pages' ∧
      anexts call server rounds calls s = some (nextsOf (rest ++ items pages) calls, s') ∧
      s'.requests = s.requests ++ requestsOf call read ∧
      ((rest ++ items pages).length < calls → pages' = []) := by
  induction calls generalizing s rest pages with
  | zero => exact ⟨s, [], pages, rfl, rfl, by simp [requestsOf], by simp⟩
  | succ calls ih =>
    obtain ⟨s₁, rest₁, read₁, pages₁, rfl, called, requests₁, left₁, same, done⟩ :=
      anext_left left enough
    have enough₁ : pages₁.length < rounds := by
      rw [List.length_append] at enough
      omega
    obtain ⟨s', read, pages', rfl, calledRest, requests, doneRest⟩ := ih left₁ enough₁
    refine ⟨s', read₁ ++ read, pages', by simp, ?_, ?_, ?_⟩
    · simp only [anexts, called, Option.bind_eq_bind, Option.bind_some, calledRest, same]
      rfl
    · rw [requests, requests₁]
      simp [requestsOf]
    · intro many
      cases nothing : rest ++ items (read₁ ++ (read ++ pages')) with
      | nil => exact (List.append_eq_nil_iff.mp (done nothing)).2
      | cons item others =>
        -- this call took an item, so the others are more than the items that are left
        refine doneRest ?_
        rw [same, nothing, List.tail_cons]
        rw [nothing, List.length_cons] at many
        omega

/-- An iterator with this token to begin with gives the items of all pages that are linked
    by their tokens, and no more. After so many calls it has requested the pages up to one
    of them, each once and in order, and after it has stopped all of them. -/
def Drained (call : PagedCall Q R I X) (initial : Option Bytes) : Prop :=
  ∀ (server : Server Q R X) (pages : List (Bytes × List I)),
    Linked call server 0 (initial.getD []) pages →
    ∀ rounds, pages.length < rounds → ∀ calls, ∃ s' read pages', pages = read ++ pages' ∧
      anexts call server rounds calls ⟨AsyncIterator.init initial, []⟩ =
        some (((items pages).take calls).map .item ++
          List.replicate (calls - (items pages).length) .stopAsyncIteration, s') ∧
      s'.requests = requestsOf call read ∧
      ((items pages).length < calls → pages' = [])

theorem drained (call : PagedCall Q R I X) (initial : Option Bytes) : Drained call initial := by
  intro server pages linked rounds enough calls
  have left : Left call server ⟨AsyncIterator.init initial, []⟩ [] pages :=
    ⟨Or.inl ⟨rfl, rfl, linked⟩⟩
  obtain ⟨s', read, pages', split, called, requests, done⟩ := anexts_left left enough calls
  refine ⟨s', read, pages', split, ?_, requests, done⟩
  rw [called, nextsOf_eq]
  rfl

/-- The loop of `result` reads the events of a run with this iterator. -/
theorem round_workflowResult {P F : Type} (it : WorkflowHistoryEventAsyncIterator P F) :
    round ⟨it.nextPageToken, it.currentPage, it.currentPageIndex⟩ =
      match it.round with
      | .fetchNextPage => .fetch
      | .stopAsyncIteration => .stop
      | .event event it => .item event ⟨it.nextPageToken, it.currentPage, it.currentPageIndex⟩ := by
  simp only [round, WorkflowHistoryEventAsyncIterator.round]
  cases it.currentPage with
  | none => rfl
  | some page =>
    dsimp only
    cases page[it.currentPageIndex]? with
    | some event => rfl
    | none => cases it.nextPageToken <;> rfl

/-- The three iterators. -/
theorem pages_drained {A B P F : Type} (namesp : String) (workflows : ListWorkflowsInput)
    (fromRawInfo : A → Except X I) (events : FetchWorkflowHistoryEventsInput)
    (schedules : ListSchedulesInput) (fromProto : B → Except X I) :
    Drained (workflowExecutionAsyncIterator namesp workflows fromRawInfo)
      workflows.nextPageToken ∧
    Drained (workflowHistoryEventAsyncIterator namesp events :
      PagedCall _ (Response P F) _ X) events.nextPageToken ∧
    Drained (scheduleAsyncIterator namesp schedules fromProto) schedules.nextPageToken :=
  ⟨drained _ _, drained _ _, drained _ _⟩

/-- An empty page with a token, and a last page with one schedule. -/
def twoPages : Server ListSchedulesRequest (ListSchedulesResponse String) Empty :=
  fun time _ => if time = 0 then .ok ⟨[], [1]⟩ else .ok ⟨["schedule"], []⟩

theorem pages_drained_two : ∃ s' read pages',
    [(([] : Bytes), ([] : List String)), ([1], ["schedule"])] = read ++ pages' ∧
    anexts (scheduleAsyncIterator "default" ⟨1000, none, none⟩ .ok) twoPages 3 3
      ⟨AsyncIterator.init none, []⟩ =
        some ([.item "schedule", .stopAsyncIteration, .stopAsyncIteration], s') ∧
    s'.requests = requestsOf (scheduleAsyncIterator "default" ⟨1000, none, none⟩
      (.ok : String → Except Empty String)) read ∧
    (1 < 3 → pages' = []) :=
  (@pages_drained String Empty String String Unit Unit "default" ⟨none, 1000, none⟩ .ok
      ⟨"id", none, none, none, false, 1, false⟩ ⟨1000, none, none⟩ .ok).2.2 twoPages _
    (@Linked.more _ _ _ _ _ _ _ _ _ [] _ rfl rfl (by decide)
      (@Linked.last _ _ _ _ _ _ _ _ _ ["schedule"] rfl rfl rfl)) 3
    (by decide) 3

end TemporalSdk.Client.Pages
