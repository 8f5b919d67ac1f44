import TemporalSdk.Conversion
import TemporalSdk.Properties.ScheduleAttributes
import TemporalSdk.Properties.SchedulePatches

/-!
# Schedules there and back

## Main results

`wire_stable_iff`: a schedule that has been converted is read back from its message,
and what is read is converted to the same message, exactly if no typed search
attribute is `None` and no untyped list in use has dates and values that are neither
dates nor text. Such a list is converted, but its dates come back as text next to
values of another type, which is refused: `mixed_dates_refused`.

## Proof strategy

Part by part. Defaults that are filled in are read as if they had been given, so
writing them again changes nothing. For search attributes, each name has the payload
of its typed pair or of its untyped list, and the two ways of reading split them again.
-/

namespace TemporalSdk.Schedules

open Bridge (Timestamp)
open Converter (ConverterError Duration Payloads bind_eq_ok)
open Converter.InPlace (Payload)
open SearchAttributes (AttributeValue Env GivenPair)

variable {V E M C D : Type} {times : Times D} {env : Env M C D} {encode : Encode V E}

/-- Protobuf conversions of times are exact: a duration comes back, and a date as a date
    of the same instant. -/
structure Times.Exact (times : Times D) : Prop where
  timedelta : ∀ d, times.toTimedelta (times.fromTimedelta d) = d
  datetime : ∀ d,
    times.fromDatetime (times.toDatetime (times.fromDatetime d)) = times.fromDatetime d

/-! ### Fields -/

theorem int32_ok {n : Int} {w : Int32} (written : (int32 n : Except (ScheduleError E) _) = .ok w) :
    w.toInt = n := by
  unfold int32 at written
  split at written
  next bounds =>
    cases written
    exact Int32.toInt_ofInt_of_le (by omega) (by omega)
  next => cases written

theorem int64_ok {n : Int} {w : Int64} (written : (int64 n : Except (ScheduleError E) _) = .ok w) :
    w.toInt = n := by
  unfold int64 at written
  split at written
  next bounds =>
    cases written
    exact Int64.toInt_ofInt_of_le (by omega) (by omega)
  next => cases written

theorem orEmpty_orNone (text : String) : orEmpty (orNone text) = text := by
  unfold orNone
  split
  next empty => exact empty.symm
  next => rfl

theorem read_write (exact : times.Exact) (d : Timedelta) :
    times.read (some (times.fromTimedelta d)) = d :=
  exact.timedelta d

/-- An optional duration: none that is zero has been written. -/
theorem write?_read (exact : times.Exact) (d : Option Timedelta) :
    times.write? ((times.write? d).map times.toTimedelta) = times.write? d := by
  have back : ((times.write? d).map times.toTimedelta) = Timedelta.nonzero d := by
    unfold Times.write?
    rw [Option.map_map]
    exact (Option.map_congr fun d' _ => exact.timedelta d').trans Option.map_id'
  unfold Times.write? at back ⊢
  rw [back, Timedelta.nonzero_idem]

theorem datetime_read (exact : times.Exact) (d : Option D) :
    ((d.map times.fromDatetime).map times.toDatetime).map times.fromDatetime =
      d.map times.fromDatetime := by
  cases d with
  | none => rfl
  | some d => exact congrArg some (exact.datetime d)

/-! ### The times -/

/-- A range is read as it was: its end and step have been seen to. -/
theorem ScheduleRange.stable (range : ScheduleRange) :
    Stable (ScheduleRange.toProto (E := E)) ScheduleRange.fromProto range := by
  intro proto written
  have again : ScheduleRange.fromProto proto = range := by
    obtain ⟨start, isStart, written⟩ := bind_eq_ok.mp written
    obtain ⟨last, isEnd, written⟩ := bind_eq_ok.mp written
    obtain ⟨step, isStep, written⟩ := bind_eq_ok.mp written
    cases written
    obtain ⟨s, e, n, inclusive, stepped⟩ := range
    simp only [ScheduleRange.fromProto, ScheduleRange.init, int32_ok isStart, int32_ok isEnd,
      int32_ok isStep, ScheduleRange.mk.injEq, true_and]
    -- the constructor leaves an end that is not before the start, and a step
    exact ⟨if_neg (Int.not_lt.mpr inclusive), if_neg stepped⟩
  rw [again]
  exact written

theorem ranges_stable (ranges : List ScheduleRange) :
    Stable (List.mapM (ScheduleRange.toProto (E := E))) (List.map ScheduleRange.fromProto) ranges :=
  Stable.list fun range _ => range.stable

theorem ScheduleCalendarSpec.stable (calendar : ScheduleCalendarSpec) :
    Stable (ScheduleCalendarSpec.toProto (E := E)) ScheduleCalendarSpec.fromProto calendar := by
  intro proto written
  obtain ⟨second, isSecond, written⟩ := bind_eq_ok.mp written
  obtain ⟨minute, isMinute, written⟩ := bind_eq_ok.mp written
  obtain ⟨hour, isHour, written⟩ := bind_eq_ok.mp written
  obtain ⟨dayOfMonth, isDayOfMonth, written⟩ := bind_eq_ok.mp written
  obtain ⟨month, isMonth, written⟩ := bind_eq_ok.mp written
  obtain ⟨year, isYear, written⟩ := bind_eq_ok.mp written
  obtain ⟨dayOfWeek, isDayOfWeek, written⟩ := bind_eq_ok.mp written
  cases written
  simp only [ScheduleCalendarSpec.toProto, ScheduleCalendarSpec.fromProto,
    ranges_stable _ _ isSecond, ranges_stable _ _ isMinute, ranges_stable _ _ isHour,
    ranges_stable _ _ isDayOfMonth, ranges_stable _ _ isMonth, ranges_stable _ _ isYear,
    ranges_stable _ _ isDayOfWeek, orEmpty_orNone]
  rfl

theorem ScheduleIntervalSpec.stable (exact : times.Exact) (interval : ScheduleIntervalSpec) :
    (ScheduleIntervalSpec.fromProto times (interval.toProto times)).toProto times =
      interval.toProto times := by
  simp only [ScheduleIntervalSpec.fromProto, ScheduleIntervalSpec.toProto, read_write exact,
    write?_read exact]

theorem ScheduleSpec.stable (exact : times.Exact) (spec : ScheduleSpec D) :
    Stable (ScheduleSpec.toProto (E := E) times) (ScheduleSpec.fromProto times) spec := by
  intro proto written
  obtain ⟨calendars, isCalendars, written⟩ := bind_eq_ok.mp written
  obtain ⟨skip, isSkip, written⟩ := bind_eq_ok.mp written
  cases written
  have calendarsAgain := Stable.list (fun calendar _ => ScheduleCalendarSpec.stable calendar)
    _ isCalendars
  have skipAgain := Stable.list (fun calendar _ => ScheduleCalendarSpec.stable calendar) _ isSkip
  have intervals : ((spec.intervals.map (ScheduleIntervalSpec.toProto times)).map
      (ScheduleIntervalSpec.fromProto times)).map (ScheduleIntervalSpec.toProto times) =
      spec.intervals.map (ScheduleIntervalSpec.toProto times) := by
    rw [List.map_map, List.map_map]
    exact List.map_congr_left fun interval _ => ScheduleIntervalSpec.stable exact interval
  simp only [ScheduleSpec.toProto, ScheduleSpec.fromProto, calendarsAgain, skipAgain, intervals,
    datetime_read exact, write?_read exact, orEmpty_orNone]
  rfl

/-! ### The retry policy -/

namespace RetryPolicy

/-- What `_validate` lets pass. -/
theorem validate_ok {policy : RetryPolicy} :
    (policy.validate : Except (ScheduleError E) Unit) = .ok () ↔
      policy.maximumAttempts = 1 ∨
        0 ≤ policy.initialInterval.microseconds ∧ belowOne policy.backoffCoefficient = false ∧
        (∀ maximum, Timedelta.nonzero policy.maximumInterval = some maximum →
          0 ≤ maximum.microseconds ∧
            policy.initialInterval.microseconds ≤ maximum.microseconds) ∧
        0 ≤ policy.maximumAttempts := by
  unfold validate
  -- the checks, in the order of the source
  by_cases once : policy.maximumAttempts = 1
  · simp [once]
  by_cases initial : policy.initialInterval.microseconds < 0
  · simp [once, initial]
  by_cases backoff : belowOne policy.backoffCoefficient = true
  · simp [once, initial, backoff]
  rw [if_neg once, if_neg initial, if_neg backoff]
  have kept : 0 ≤ policy.initialInterval.microseconds := Int.not_lt.mp initial
  cases Timedelta.nonzero policy.maximumInterval with
  | none =>
    by_cases attempts : policy.maximumAttempts < 0
    · simp [once, attempts]
    · simp [once, attempts, kept, backoff, Int.not_lt.mp attempts]
  | some maximum =>
    by_cases negative : maximum.microseconds < 0
    · simp [once, negative]
    by_cases less : maximum.microseconds < policy.initialInterval.microseconds
    · simp [once, negative, less]
    by_cases attempts : policy.maximumAttempts < 0
    · simp [once, negative, less, attempts]
    · simp [once, negative, less, attempts, kept, backoff, Int.not_lt.mp negative,
        Int.not_lt.mp less, Int.not_lt.mp attempts]

/-- The maximum that is written is the one given, or a hundred times the first interval. -/
theorem writtenMaximum_ok {policy : RetryPolicy} {maximum : Timedelta}
    (written : (policy.writtenMaximum : Except (ScheduleError E) _) = .ok maximum) :
    Timedelta.nonzero policy.maximumInterval = some maximum ∨
      Timedelta.nonzero policy.maximumInterval = none ∧
        Timedelta.ofMicroseconds? (policy.initialInterval.microseconds * 100) = some maximum := by
  unfold writtenMaximum at written
  split at written
  next found =>
    cases written
    exact Or.inl found
  next nothing =>
    split at written
    next made =>
      cases written
      exact Or.inr ⟨nothing, made⟩
    next => cases written

/-- The maximum that was filled in is as good as one that was given. -/
theorem stable (exact : times.Exact) (policy : RetryPolicy) :
    Stable (RetryPolicy.toProto (E := E) times) (RetryPolicy.fromProto times) policy := by
  intro proto written
  obtain ⟨⟨⟩, valid, written⟩ := bind_eq_ok.mp written
  obtain ⟨maximum, isMaximum, written⟩ := bind_eq_ok.mp written
  obtain ⟨attempts, isAttempts, written⟩ := bind_eq_ok.mp written
  cases written
  -- an empty list of types is read as `None`, and `None` is written as an empty list
  have types : (if (policy.nonRetryableErrorTypes.getD []).isEmpty then Option.none
      else some (policy.nonRetryableErrorTypes.getD [])).getD [] =
      policy.nonRetryableErrorTypes.getD [] := by
    split
    next empty => exact (List.isEmpty_iff.mp empty).symm
    next => rfl
  let again : RetryPolicy :=
    { policy with
      maximumInterval := some maximum
      nonRetryableErrorTypes := if (policy.nonRetryableErrorTypes.getD []).isEmpty then none
        else some (policy.nonRetryableErrorTypes.getD []) }
  -- a maximum that is zero counts as none, and is filled in again as before
  have maximumAgain : (again.writtenMaximum : Except (ScheduleError E) _) = .ok maximum := by
    rcases writtenMaximum_ok isMaximum with given | ⟨-, made⟩
    · have isNonzero := (Timedelta.nonzero_eq_some.mp given).2
      simp [writtenMaximum, again, Timedelta.nonzero_some, isNonzero]
    · simp only [writtenMaximum, again, Timedelta.nonzero_some]
      split <;> simp_all
  have validAgain : (again.validate : Except (ScheduleError E) _) = .ok () := by
    apply validate_ok.mpr
    refine (validate_ok.mp valid).imp_right ?_
    rintro ⟨initial, backoff, bounds, attempts⟩
    refine ⟨initial, backoff, fun maximum' found => ?_, attempts⟩
    obtain ⟨same, -⟩ := Timedelta.nonzero_eq_some.mp found
    cases same
    rcases writtenMaximum_ok isMaximum with given | ⟨-, made⟩
    · exact bounds _ given
    -- a hundred times an interval that is not negative is not less than it
    · have hundred := Timedelta.ofMicroseconds?_eq made
      change 0 ≤ maximum.microseconds ∧ policy.initialInterval.microseconds ≤ maximum.microseconds
      omega
  have readBack : RetryPolicy.fromProto times
      { initialInterval := some (times.fromTimedelta policy.initialInterval)
        backoffCoefficient := policy.backoffCoefficient
        maximumInterval := some (times.fromTimedelta maximum)
        maximumAttempts := attempts
        nonRetryableErrorTypes := policy.nonRetryableErrorTypes.getD [] } = again := by
    simp only [RetryPolicy.fromProto, read_write exact, Option.map_some, exact.timedelta,
      int32_ok isAttempts, again]
  rw [readBack, RetryPolicy.toProto, validAgain, maximumAgain]
  simp only [bind, Except.bind, again, isAttempts, types]
  rfl

end RetryPolicy

/-! ### Policies and state -/

theorem ScheduleOverlapPolicy.ofNumber_number (overlap : ScheduleOverlapPolicy) :
    (ofNumber overlap.number : Except (ScheduleError E) _) = .ok overlap := by
  cases overlap <;> rfl

theorem SchedulePolicy.fromProto_toProto (exact : times.Exact) (policy : SchedulePolicy) :
    (SchedulePolicy.fromProto times (policy.toProto times) : Except (ScheduleError E) _) =
      .ok policy := by
  simp only [SchedulePolicy.fromProto, SchedulePolicy.toProto,
    ScheduleOverlapPolicy.ofNumber_number, read_write exact]
  rfl

theorem ScheduleState.stable (state : ScheduleState) :
    Stable (ScheduleState.toProto (E := E)) ScheduleState.fromProto state := by
  intro proto written
  obtain ⟨remaining, isRemaining, written⟩ := bind_eq_ok.mp written
  cases written
  simp only [ScheduleState.toProto, ScheduleState.fromProto, int64_ok isRemaining, isRemaining,
    orEmpty_orNone]
  rfl

/-! ### The memo and the headers -/

namespace ScheduleActionStartWorkflow

theorem unlessEmpty_cases {α : Type} (d : Option (Dict String α)) :
    unlessEmpty d = none ∨ ∃ m, d = some m ∧ m.entries.isEmpty = false ∧
      unlessEmpty d = some m := by
  cases d with
  | none => exact Or.inl rfl
  | some m =>
    cases empty : m.entries.isEmpty with
    | true => exact Or.inl (by simp [unlessEmpty, Option.filter, empty])
    | false => exact Or.inr ⟨m, rfl, empty, by simp [unlessEmpty, Option.filter, empty]⟩

theorem unlessEmpty_some {α : Type} {m : Dict String α} (filled : m.entries.isEmpty = false) :
    unlessEmpty (some m) = some m := by
  simp [unlessEmpty, Option.filter, filled]

/-- A map that is not empty is not empty in another order. -/
theorem unlessEmpty_same {m : Option (Dict String Payload)} {q : Option (Dict String Payload)}
    (same : SameMap (unlessEmpty m) q) : unlessEmpty q = q := by
  -- no map, or one that is not empty
  rcases unlessEmpty_cases m with absent | ⟨a, -, filled, present⟩
  · rw [absent] at same
    cases q with
    | none => rfl
    | some b => exact same.elim
  · rw [present] at same
    cases q with
    | none => exact same.elim
    | some b =>
      refine unlessEmpty_some ?_
      rw [← filled]
      exact isEmpty_congr fun k => by rw [same k]

theorem unlessEmpty_congr {a b : Dict String Payload} (same : ∀ k, a.get? k = b.get? k) :
    SameMap (unlessEmpty (some a)) (unlessEmpty (some b)) := by
  have filled : a.entries.isEmpty = b.entries.isEmpty := isEmpty_congr fun k => by rw [same k]
  cases empty : a.entries.isEmpty with
  | true =>
    rw [empty] at filled
    simp [unlessEmpty, Option.filter, empty, ← filled, SameMap]
  | false =>
    rw [unlessEmpty_some empty, unlessEmpty_some (filled.symm.trans empty)]
    exact same

/-- The memo: what has been converted is kept. -/
theorem memo_stable {memo : Option (Dict String (Given V))} {p q : Option (Dict String Payload)}
    (written : (unlessEmpty memo).mapM (convertEntries (Given.encoded encode)) = .ok p)
    (same : SameMap p q) :
    ∃ p', (unlessEmpty ((unlessEmpty q).map fun fields => fields.mapValues Given.payload)).mapM
        (convertEntries (Given.encoded encode)) = .ok p' ∧ SameMap p p' := by
  rcases unlessEmpty_cases memo with absent | ⟨d, -, filled, present⟩
  · rw [absent] at written
    cases written
    cases q with
    | none => exact ⟨none, rfl, trivial⟩
    | some b => exact same.elim
  · rw [present] at written
    obtain ⟨fields, converted, rfl⟩ : ∃ fields,
        convertEntries (Given.encoded encode) d = .ok fields ∧ p = some fields := by
      obtain ⟨fields, converted, made⟩ := bind_eq_ok.mp written
      cases made
      exact ⟨fields, converted, rfl⟩
    cases q with
    | none => exact same.elim
    | some b =>
      obtain ⟨found, missing⟩ := convertEntries_ok converted
      -- the message has the same keys, so it is not empty either
      have filledAgain : b.entries.isEmpty = false := by
        rw [← filled]
        refine isEmpty_congr fun k => ?_
        rw [← same k]
        cases there : d.get? k with
        | none => simp [missing k there]
        | some a =>
          obtain ⟨payload, -, held⟩ := found k a there
          simp [held]
      have lookups (k : String) : (b.mapValues (Given.payload (V := V))).get? k =
          (b.get? k).map Given.payload := Dict.get?_mapValues b _ k
      -- payloads are kept when they are converted
      obtain ⟨ret, again⟩ := @convertEntries_exists _ _ _ (Given.encoded encode)
        (b.mapValues Given.payload) fun k a present => by
          rw [lookups k] at present
          obtain ⟨payload, -, rfl⟩ := Option.map_eq_some_iff.mp present
          exact ⟨payload, rfl⟩
      have filledValues : (b.mapValues (Given.payload (V := V))).entries.isEmpty = false := by
        simpa [Dict.mapValues] using filledAgain
      refine ⟨some ret, ?_, fun k => (same k).trans ?_⟩
      · rw [unlessEmpty_some filledAgain, Option.map_some, unlessEmpty_some filledValues,
          Option.mapM_some, again]
        rfl
      · obtain ⟨found, missing⟩ := convertEntries_ok again
        cases there : b.get? k with
        | none => exact (missing k (by rw [lookups k, there]; rfl)).symm
        | some payload =>
          obtain ⟨payload', isPayload, held⟩ := found k (.payload payload)
            (by rw [lookups k, there]; rfl)
          cases isPayload
          exact held.symm

end ScheduleActionStartWorkflow

/-! ### Messages -/

/-- The same message, whatever the order of the entries in its maps. -/
structure SameInfo (p q : Api.NewWorkflowExecutionInfo) : Prop where
  fields : { p with memo := none, searchAttributes := none, header := none } =
    { q with memo := none, searchAttributes := none, header := none }
  memo : SameMap p.memo q.memo
  searchAttributes : SameMap p.searchAttributes q.searchAttributes
  header : SameMap p.header q.header

/-- The same of schedules that start a workflow. -/
structure SameSchedule (p q : Api.Schedule) : Prop where
  spec : p.spec = q.spec
  policies : p.policies = q.policies
  state : p.state = q.state
  action : ∃ a b, p.action = some ⟨some a⟩ ∧ q.action = some ⟨some b⟩ ∧ SameInfo a b

theorem SameMap.refl (m : Option (Dict String Payload)) : SameMap m m := by
  cases m
  · trivial
  · exact fun _ => rfl

theorem mapError_ok {α ε ε' : Type} {f : ε → ε'} {x : Except ε α} {a : α} :
    x.mapError f = .ok a ↔ x = .ok a := by
  cases x <;> simp [Except.mapError]

namespace ScheduleActionStartWorkflow

open Attributes (Settled IsRead Text)

theorem searchAttributes_ok {self : ScheduleActionStartWorkflow V D}
    {written : Option (Dict String Payload)} :
    (self.searchAttributes env : Except (ScheduleError E) _) = .ok written ↔
      ∃ indexedFields api,
        convertEntries (SearchAttributes.encodeSearchAttributeValues env)
          self.untypedSearchAttributes = .ok indexedFields ∧
        SearchAttributes.encodeSearchAttributes env self.typedSearchAttributes indexedFields =
          .ok api ∧ written = unlessEmpty (some api) := by
  constructor
  · intro made
    obtain ⟨indexedFields, lists, made⟩ := bind_eq_ok.mp made
    obtain ⟨api, pairs, made⟩ := bind_eq_ok.mp made
    cases made
    exact ⟨indexedFields, api, mapError_ok.mp lists, mapError_ok.mp pairs, rfl⟩
  · rintro ⟨indexedFields, api, lists, pairs, rfl⟩
    exact bind_eq_ok.mpr ⟨indexedFields, mapError_ok.mpr lists,
      bind_eq_ok.mpr ⟨api, mapError_ok.mpr pairs, rfl⟩⟩

theorem decodedTyped_ok {attributes : Dict String Payload}
    {pairs : List (SearchAttributes.SearchAttributePair D)}
    (decoded : SearchAttributes.decodeTypedSearchAttributes env attributes = .ok pairs) :
    ∃ typed, decodedTyped env attributes = .ok typed ∧ typed.1 = pairs.map GivenPair.plain := by
  unfold decodedTyped
  split
  next error failed => cases failed.symm.trans decoded
  next pairs' decoded' =>
    cases decoded'.symm.trans decoded
    exact ⟨_, rfl, rfl⟩

/-- The untyped attributes that are left. -/
def untypedLeft (typed : List (GivenPair D)) (untyped : Dict String (List (AttributeValue D))) :
    Dict String (List (AttributeValue D)) :=
  typed.foldl (fun untyped pair => untyped.erase pair.asList.key.name) untyped

theorem get?_untypedLeft (typed : List (GivenPair D))
    (untyped : Dict String (List (AttributeValue D))) (name : String) :
    (untypedLeft typed untyped).get? name =
      if name ∈ SearchAttributes.names (typed.map GivenPair.asList) then none
      else untyped.get? name := by
  induction typed generalizing untyped with
  | nil => rfl
  | cons pair rest ih =>
    have here : (untyped.erase pair.asList.key.name).get? name =
        if name = pair.asList.key.name then none else untyped.get? name :=
      Dict.lookup_filter _ _ _
    rw [untypedLeft, List.foldl_cons]
    refine (ih _).trans ?_
    rw [here, List.map_cons]
    simp only [SearchAttributes.names, List.map_cons, List.mem_cons]
    by_cases same : name = pair.asList.key.name <;> simp [same]

/-- What the attributes of a message are read as. -/
theorem attributes_read {self : ScheduleActionStartWorkflow V D}
    (text : Text env self.typedSearchAttributes self.untypedSearchAttributes)
    {attributes : Dict String Payload}
    (held : ∀ name, Attributes.Held env self.typedSearchAttributes self.untypedSearchAttributes
      name (attributes.get? name)) :
    ∃ pairs typed ret, decodedTyped env attributes = .ok typed ∧
      typed.1 = pairs.map GivenPair.plain ∧
      SearchAttributes.decodeSearchAttributes env attributes = .ok ret ∧
      IsRead env self.typedSearchAttributes self.untypedSearchAttributes pairs
        (untypedLeft typed.1 ret) := by
  obtain ⟨pairs, decoded, distinct, members⟩ := Attributes.read_typed self.distinct text held
  obtain ⟨ret, isRet, listed⟩ := Attributes.read_untyped text held
  obtain ⟨typed, isTyped, same⟩ := decodedTyped_ok decoded
  refine ⟨pairs, typed, ret, isTyped, same, isRet, distinct, members, ?_, ?_⟩
  · intro name named
    rw [same, get?_untypedLeft, IsRead.plain_asList, if_pos named]
  · intro name unread
    rw [same, get?_untypedLeft, IsRead.plain_asList, if_neg unread]
    exact listed name

/-- The message of an action, field by field. -/
theorem toProto_ok {self : ScheduleActionStartWorkflow V D} {action : Api.ScheduleAction} :
    self.toProto times env encode = .ok action ↔ ∃ retryPolicy input memo searchAttributes,
      self.retryPolicy.mapM (RetryPolicy.toProto (E := E) times) = .ok retryPolicy ∧
      self.args.mapM (Given.encoded encode) = .ok input ∧
      (unlessEmpty self.memo).mapM (convertEntries (Given.encoded encode)) = .ok memo ∧
      (self.searchAttributes env : Except (ScheduleError E) _) = .ok searchAttributes ∧
      action =
        { startWorkflow := some
            { workflowId := self.id
              workflowType := some self.workflow
              taskQueue := some self.taskQueue
              input := if input.isEmpty then none else some ⟨input⟩
              workflowExecutionTimeout := times.write? self.executionTimeout
              workflowRunTimeout := times.write? self.runTimeout
              workflowTaskTimeout := times.write? self.taskTimeout
              retryPolicy := retryPolicy
              memo := memo
              searchAttributes := searchAttributes
              header := unlessEmpty self.headers } } := by
  constructor
  · intro written
    obtain ⟨retryPolicy, isRetry, written⟩ := bind_eq_ok.mp written
    obtain ⟨input, isInput, written⟩ := bind_eq_ok.mp written
    obtain ⟨memo, isMemo, written⟩ := bind_eq_ok.mp written
    obtain ⟨searchAttributes, isAttributes, written⟩ := bind_eq_ok.mp written
    cases written
    exact ⟨retryPolicy, input, memo, searchAttributes, isRetry, isInput, isMemo, isAttributes, rfl⟩
  · rintro ⟨retryPolicy, input, memo, searchAttributes, isRetry, isInput, isMemo, isAttributes, rfl⟩
    exact bind_eq_ok.mpr ⟨retryPolicy, isRetry, bind_eq_ok.mpr ⟨input, isInput,
      bind_eq_ok.mpr ⟨memo, isMemo, bind_eq_ok.mpr ⟨searchAttributes, isAttributes, rfl⟩⟩⟩⟩

theorem input_read (input : List Payload) :
    ((if input.isEmpty then none else some (⟨input⟩ : Payloads Payload)).getD ⟨[]⟩).payloads =
      input := by
  cases input <;> rfl

theorem args_stable {args : List (Given V)} {input : List Payload}
    (written : args.mapM (Given.encoded encode) = .ok input) :
    (input.map Given.payload).mapM (Given.encoded encode) = .ok input :=
  have each : ∀ given ∈ args, Stable (Given.encoded encode) Given.payload given :=
    fun _ _ _ _ => rfl
  Stable.list each input written

theorem typed_distinct (typed : { pairs : List (GivenPair D) //
      (SearchAttributes.names (pairs.map GivenPair.asList)).Nodup }) :
    (SearchAttributes.names (typed.1.map GivenPair.asList)).Nodup := typed.2

/-- The action that a message is read as, with these attributes. -/
def readAs (times : Times D) (q : Api.NewWorkflowExecutionInfo)
    (typed : { pairs : List (GivenPair D) //
      (SearchAttributes.names (pairs.map GivenPair.asList)).Nodup })
    (ret : Dict String (List (AttributeValue D))) : ScheduleActionStartWorkflow V D where
  workflow := orEmpty q.workflowType
  args := (q.input.getD ⟨[]⟩).payloads.map .payload
  id := q.workflowId
  taskQueue := orEmpty q.taskQueue
  executionTimeout := q.workflowExecutionTimeout.map times.toTimedelta
  runTimeout := q.workflowRunTimeout.map times.toTimedelta
  taskTimeout := q.workflowTaskTimeout.map times.toTimedelta
  retryPolicy := q.retryPolicy.map (RetryPolicy.fromProto times)
  memo := (unlessEmpty q.memo).map fun fields => fields.mapValues .payload
  typedSearchAttributes := typed.1
  distinct := typed_distinct typed
  untypedSearchAttributes := untypedLeft typed.1 ret
  headers := unlessEmpty q.header

theorem fromProto_eq {q : Api.NewWorkflowExecutionInfo}
    {typed : { pairs : List (GivenPair D) //
      (SearchAttributes.names (pairs.map GivenPair.asList)).Nodup }}
    {ret : Dict String (List (AttributeValue D))}
    (isTyped : decodedTyped env (q.searchAttributes.getD .empty) = .ok typed)
    (isRet : SearchAttributes.decodeSearchAttributes env (q.searchAttributes.getD .empty) =
      .ok ret) :
    (fromProto times env q : Except (ScheduleError E) (ScheduleActionStartWorkflow V D)) =
      .ok (readAs times q typed ret) := by
  simp only [fromProto, isTyped, isRet]
  rfl

/-- The message holds the attributes of the action, and so does the same message. -/
theorem held_of_written {self : ScheduleActionStartWorkflow V D}
    {written q : Option (Dict String Payload)}
    (made : (self.searchAttributes env : Except (ScheduleError E) _) = .ok written)
    (same : SameMap written q) (name : String) :
    Attributes.Held env self.typedSearchAttributes self.untypedSearchAttributes name
      ((q.getD .empty).get? name) := by
  obtain ⟨indexedFields, api, lists, pairs, rfl⟩ := searchAttributes_ok.mp made
  have held := Attributes.held_of_encoded self.distinct lists pairs name
  rw [← same.getD name]
  rcases unlessEmpty_cases (some api) with absent | ⟨api', isApi, -, present⟩
  · rw [absent]
    -- a map that was left out was empty
    have empty : api.get? name = none := by
      apply isEmpty_iff.mp
      by_contra filled
      rw [unlessEmpty_some (by simpa using filled)] at absent
      cases absent
    rw [empty] at held
    exact held
  · cases isApi
    rw [present]
    exact held

/-- What is read from a message is converted to the same message exactly if the search
    attributes have been settled. -/
theorem stable_iff (exact : times.Exact) {self : ScheduleActionStartWorkflow V D}
    {info : Api.NewWorkflowExecutionInfo}
    (written : self.toProto times env encode = .ok ⟨some info⟩)
    (text : Text env self.typedSearchAttributes self.untypedSearchAttributes) :
    (∀ q, SameInfo info q → ∃ again : ScheduleActionStartWorkflow V D,
      fromProto (E := E) times env q = .ok again ∧
      ∃ info', again.toProto times env encode = .ok ⟨some info'⟩ ∧ SameInfo info info') ↔
    Settled self.typedSearchAttributes self.untypedSearchAttributes := by
  obtain ⟨retryPolicy, input, memo, searchAttributes, isRetry, isInput, isMemo, isAttributes,
    isInfo⟩ := toProto_ok.mp written
  cases isInfo
  constructor
  · intro stable
    obtain ⟨again, isAgain, info', rewritten, -⟩ := stable _ ⟨rfl, .refl _, .refl _, .refl _⟩
    -- only the message itself is needed in this direction
    have held := held_of_written isAttributes (.refl _)
    obtain ⟨pairs, typed, ret, isTyped, same, isRet, read⟩ := attributes_read text held
    rw [fromProto_eq isTyped isRet] at isAgain
    cases isAgain
    obtain ⟨_, _, _, _, -, -, -, made, -⟩ := toProto_ok.mp rewritten
    obtain ⟨indexedFields, _, lists, -, -⟩ := searchAttributes_ok.mp made
    exact read.settled_of_encoded self.distinct text held lists
  · intro settled q same
    have held := held_of_written isAttributes same.searchAttributes
    obtain ⟨pairs, typed, ret, isTyped, isPairs, isRet, read⟩ := attributes_read text held
    obtain ⟨indexedFields, api', lists, encoded⟩ :=
      read.encoded_of_settled text held self.distinct settled
    rw [← isPairs] at encoded
    have held' (name : String) := Attributes.held_of_encoded typed.2 lists encoded name
    obtain ⟨indexedFields₀, api, lists₀, encoded₀, rfl⟩ := searchAttributes_ok.mp isAttributes
    -- the two messages hold the same payloads, by what holds under each name
    have payloads (name : String) : api.get? name = api'.get? name :=
      read.same_payloads self.distinct text
        (Attributes.held_of_encoded self.distinct lists₀ encoded₀) settled (isPairs ▸ held') name
    obtain ⟨memo', isMemo', sameMemo'⟩ := memo_stable isMemo same.memo
    have fields := same.fields
    have header := same.header
    cases q
    simp only [Api.NewWorkflowExecutionInfo.mk.injEq] at fields
    -- the other fields are equal, not only the same up to order
    obtain ⟨rfl, rfl, rfl, rfl, rfl, rfl, rfl, rfl, -⟩ := fields
    refine ⟨_, fromProto_eq isTyped isRet, _, toProto_ok.mpr ⟨retryPolicy, input, memo', _,
      ?_, ?_, isMemo', searchAttributes_ok.mpr ⟨_, _, lists, encoded, rfl⟩, rfl⟩, ?_, sameMemo',
      ?_, ?_⟩
    · exact Stable.option (fun policy _ => policy.stable exact) _ isRetry
    · dsimp only [readAs]
      rw [input_read]
      exact args_stable isInput
    · simp only [readAs, write?_read exact, orEmpty, Option.getD_some]
    · exact unlessEmpty_congr payloads
    · dsimp only [readAs] at header ⊢
      rw [unlessEmpty_same header, unlessEmpty_same header]
      exact header

end ScheduleActionStartWorkflow

/-! ### Schedules -/

/-- The message is read, whatever the order of its entries, and what is read is converted to
    the same message. -/
def WireStable (V : Type) (times : Times D) (env : Env M C D) (encode : Encode V E)
    (p : Api.Schedule) : Prop :=
  ∀ q, SameSchedule p q → ∃ again : Schedule V D,
    (Schedule.fromProto times env q : Except (ScheduleError E) _) = .ok again ∧
    ∃ p', again.toProto times env encode = .ok p' ∧ SameSchedule p p'

namespace Schedule

/-- The message of a schedule, part by part. -/
theorem toProto_ok {s : Schedule V D} {p : Api.Schedule} :
    s.toProto times env encode = .ok p ↔ ∃ spec info state,
      (s.spec.toProto times : Except (ScheduleError E) _) = .ok spec ∧
      s.action.toProto times env encode = .ok ⟨some info⟩ ∧
      (s.state.toProto : Except (ScheduleError E) _) = .ok state ∧
      p = ⟨some spec, some ⟨some info⟩, some (s.policy.toProto times), some state⟩ := by
  constructor
  · intro written
    obtain ⟨spec, isSpec, written⟩ := bind_eq_ok.mp written
    obtain ⟨action, isAction, written⟩ := bind_eq_ok.mp written
    obtain ⟨state, isState, written⟩ := bind_eq_ok.mp written
    cases written
    obtain ⟨_, _, _, _, -, -, -, -, rfl⟩ := ScheduleActionStartWorkflow.toProto_ok.mp isAction
    exact ⟨spec, _, state, isSpec, isAction, isState, rfl⟩
  · rintro ⟨spec, info, state, isSpec, isAction, isState, rfl⟩
    exact bind_eq_ok.mpr ⟨spec, isSpec, bind_eq_ok.mpr ⟨_, isAction,
      bind_eq_ok.mpr ⟨state, isState, rfl⟩⟩⟩

/-- Reading a message, part by part. -/
theorem fromProto_ok {p : Api.Schedule} {s : Schedule V D} :
    (fromProto times env p : Except (ScheduleError E) _) = .ok s ↔ ∃ action policy,
      (actionFromProto times env (p.action.getD {}) : Except (ScheduleError E) _) = .ok action ∧
      (SchedulePolicy.fromProto times (p.policies.getD {}) : Except (ScheduleError E) _) =
        .ok policy ∧
      s = ⟨action, .fromProto times (p.spec.getD {}), policy,
        .fromProto (p.state.getD {})⟩ := by
  constructor
  · intro read
    obtain ⟨action, isAction, read⟩ := bind_eq_ok.mp read
    obtain ⟨policy, isPolicy, read⟩ := bind_eq_ok.mp read
    cases read
    exact ⟨action, policy, isAction, isPolicy, rfl⟩
  · rintro ⟨action, policy, isAction, isPolicy, rfl⟩
    exact bind_eq_ok.mpr ⟨action, isAction, bind_eq_ok.mpr ⟨policy, isPolicy, rfl⟩⟩

/-- A schedule is stable exactly if its action is. -/
theorem stable_iff_action (exact : times.Exact) {s : Schedule V D} {p : Api.Schedule}
    (converted : s.toProto times env encode = .ok p) :
    ∃ info, s.action.toProto times env encode = .ok ⟨some info⟩ ∧
      (WireStable V times env encode p ↔
        ∀ q, SameInfo info q → ∃ again : ScheduleActionStartWorkflow V D,
          ScheduleActionStartWorkflow.fromProto (E := E) times env q = .ok again ∧
          ∃ info', again.toProto times env encode = .ok ⟨some info'⟩ ∧ SameInfo info info') := by
  obtain ⟨spec, info, state, isSpec, isAction, isState, rfl⟩ := toProto_ok.mp converted
  refine ⟨info, isAction, ?_, ?_⟩
  -- the action is put into a schedule with everything else unchanged
  · intro stable q same
    obtain ⟨again, isAgain, p', rewritten, samePolicies⟩ :=
      stable ⟨some spec, some ⟨some q⟩, some (s.policy.toProto times), some state⟩
        ⟨rfl, rfl, rfl, info, q, rfl, rfl, same⟩
    obtain ⟨action, policy, isRead, -, rfl⟩ := fromProto_ok.mp isAgain
    obtain ⟨spec', info', state', -, isInfo', -, rfl⟩ := toProto_ok.mp rewritten
    obtain ⟨a, b, isA, isB, sameInfo⟩ := samePolicies.action
    cases isA
    cases isB
    exact ⟨action, isRead, info', isInfo', sameInfo⟩
  · rintro stable q ⟨sameSpec, samePolicies, sameState, a, b, isA, isB, sameInfo⟩
    cases isA
    obtain ⟨action, isRead, info', isInfo', sameAgain⟩ := stable b sameInfo
    obtain ⟨qSpec, qAction, qPolicies, qState⟩ := q
    cases sameSpec
    cases samePolicies
    cases sameState
    cases isB
    -- spec, policies and state are stable whatever they hold
    refine ⟨_, fromProto_ok.mpr ⟨action, s.policy, isRead,
      SchedulePolicy.fromProto_toProto exact s.policy, rfl⟩, _, toProto_ok.mpr ⟨spec, info', state,
      s.spec.stable exact _ isSpec, isInfo', s.state.stable _ isState, rfl⟩, rfl, rfl, rfl,
      info, info', rfl, rfl, sameAgain⟩

end Schedule

/-- A schedule is read back from its message, and converted to the same message, exactly if
    its search attributes have been settled. -/
theorem wire_stable_iff (times : Times D) (exact : times.Exact) (env : Env M C D)
    (encode : Encode V E) (s : Schedule V D) (p : Api.Schedule)
    (converted : s.toProto times env encode = .ok p)
    (text : Attributes.Text env s.action.typedSearchAttributes s.action.untypedSearchAttributes) :
    WireStable V times env encode p ↔
      Attributes.Settled s.action.typedSearchAttributes s.action.untypedSearchAttributes := by
  obtain ⟨info, isInfo, stable⟩ := Schedule.stable_iff_action exact converted
  rw [stable]
  exact ScheduleActionStartWorkflow.stable_iff exact isInfo text

theorem utcTimes_exact : utcTimes.Exact where
  timedelta := by
    rintro ⟨n, above, below⟩
    have seconds : (Int64.ofInt (n / 1000000)).toInt = n / 1000000 :=
      Int64.toInt_ofInt_of_le (by omega) (by omega)
    have nanos : (Int32.ofInt (n % 1000000 * 1000)).toInt = n % 1000000 * 1000 :=
      Int32.toInt_ofInt_of_le (by omega) (by omega)
    have whole : n / 1000000 * 1000000 + n % 1000000 * 1000 / 1000 = n := by omega
    simp only [utcTimes, seconds, nanos, whole, Timedelta.ofMicroseconds?, above, below,
      and_self, dite_true, Option.getD_some]
  datetime := by
    intro text
    by_cases first : text = "2020-01-01T00:00:00+00:00"
    · subst first
      rfl
    · simp only [utcTimes, first, if_false]
      rfl

/-- A schedule with a calendar, a retry policy and a date as a typed attribute. -/
def datedSchedule : Schedule Unit String where
  action :=
    { workflow := "workflow"
      id := "id"
      taskQueue := "queue"
      retryPolicy := some {}
      typedSearchAttributes :=
        [.plain ⟨⟨"date", .datetime⟩, .datetime "2020-01-01T00:00:00+00:00"⟩]
      distinct := by decide }
  spec := { calendars := [{}] }
  policy := bareSchedule.policy

theorem wire_stable_iff_dated : ∃ p,
    datedSchedule.toProto utcTimes SearchAttributes.readingEnv noValues = .ok p ∧
    (WireStable Unit utcTimes SearchAttributes.readingEnv noValues p ↔
      Attributes.Settled datedSchedule.action.typedSearchAttributes
        datedSchedule.action.untypedSearchAttributes) := by
  refine ⟨_, rfl, wire_stable_iff utcTimes utcTimes_exact SearchAttributes.readingEnv noValues
    datedSchedule _ rfl ⟨?_, ?_⟩⟩
  · intro pair member
    simp only [datedSchedule, List.mem_cons, List.not_mem_nil, or_false] at member
    subst member
    exact {
      text := by
        rintro plain data same - dumped
        cases same
        cases dumped
        exact ⟨.str "2020-01-01T00:00:00+00:00", rfl, rfl⟩
      date := by
        rintro d same
        cases same
        rfl }
  · intro name vals present
    cases present

/-- `json.loads` of the list below. -/
def mixedEnv : Env Empty Empty String :=
  { SearchAttributes.readingEnv with
    libraries := { SearchAttributes.readingEnv.libraries with
      loads := fun data =>
        if data = Converter.encode "[\"2020-01-01T00:00:00+00:00\",1]" then
          some (.array [.str "2020-01-01T00:00:00+00:00", .int 1])
        else none } }

/-- An untyped attribute with a date and a number. -/
def mixedSchedule : Schedule Unit String :=
  { bareSchedule with
    action := { bareSchedule.action with
      untypedSearchAttributes :=
        ⟨[("mixed", [.datetime "2020-01-01T00:00:00+00:00", .int 1])], by decide⟩ } }

theorem mixed_text : Attributes.Text mixedEnv mixedSchedule.action.typedSearchAttributes
    mixedSchedule.action.untypedSearchAttributes where
  values := by
    intro pair member
    cases member
  lists := by
    intro name vals present data dumped
    obtain ⟨-, same⟩ : "mixed" = name ∧
        [AttributeValue.datetime "2020-01-01T00:00:00+00:00", .int 1] = vals := by
      simpa [mixedSchedule, Dict.get?, Dict.lookup] using present
    subst same
    cases dumped
    exact ⟨.array [.str "2020-01-01T00:00:00+00:00", .int 1], rfl, rfl⟩

/-- The date comes back as text, which must not stand next to a number. -/
theorem mixed_dates_refused : ∃ p,
    mixedSchedule.toProto utcTimes mixedEnv noValues = .ok p ∧
    Attributes.Text mixedEnv mixedSchedule.action.typedSearchAttributes
      mixedSchedule.action.untypedSearchAttributes ∧
    SearchAttributes.encodeSearchAttributeValues mixedEnv
        [.str "2020-01-01T00:00:00+00:00", .int 1] =
      .error (.typeError "Search attribute values must have the same type for the same key") ∧
    ¬WireStable Unit utcTimes mixedEnv noValues p := by
  refine ⟨_, rfl, mixed_text, rfl, fun stable => ?_⟩
  obtain ⟨info, isInfo, iff⟩ := @Schedule.stable_iff_action _ _ _ _ _ utcTimes mixedEnv noValues
    utcTimes_exact mixedSchedule _ rfl
  have settled := (ScheduleActionStartWorkflow.stable_iff utcTimes_exact isInfo mixed_text).mp
    (iff.mp stable)
  refine settled.2 "mixed" _ rfl (by decide) ⟨⟨_, List.mem_cons_self⟩, .int 1, by simp, by simp,
    by simp⟩

end TemporalSdk.Schedules
