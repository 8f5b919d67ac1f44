import Mathlib.Data.List.Forall2
import TemporalSdk.Conversion
import TemporalSdk.Converter.FailureConverter

/-!
# Exception chains and failure chains

`DefaultFailureConverter.to_failure` against Python's chaining rules: the
effective chain of an exception follows the explicit cause where there is one,
and else the context unless it is suppressed.

## Main result

`failure_chain_iff`: the failure has one node for each exception of the
effective chain, in order, exactly when every exception of the chain can be
turned into text, no successor is falsy and every ordinary exception that has a
successor has it as its explicit cause.
`context_of_ordinary_is_lost` is the smallest chain on which it has not.

## Proof strategy

`toFailure_eq` reads `to_failure` as: convert the exception `convertedCause`
names, then this node. On well-formed chains `convertedCause` is the effective
cause or nothing, so the induction runs along the effective chain, and the
failure's chain is cut off at the first exception that is not followed.
-/
namespace TemporalSdk.Converter

variable {P : Type}

namespace PyException

/-- The proto `_error_to_failure` would use as it is. -/
def preset (e : PyException P) : Option (Failure P) :=
  match e.data with
  | .failureError _ _ failure => failure
  | .ordinary _ _ => none

/-- Not an instance of `FailureError`. -/
def isOrdinary (e : PyException P) : Bool :=
  match e.data with
  | .failureError _ _ _ => false
  | .ordinary _ _ => true

/-- `str(exception)` or, for a `FailureError`, its `message`. -/
def str (e : PyException P) : Except ConversionError String :=
  match e.data with
  | .failureError message _ _ => .ok message
  | .ordinary _ text => text

/-- `str(exception)` does not raise. -/
def printable (e : PyException P) : Bool := e.str.isOk

/-- Python's rule: the explicit cause if present, else the context unless suppressed. -/
def effectiveCause (e : PyException P) : Option (PyException P) :=
  e.cause.or (if e.suppressContext then none else e.context)

/-- An exception with the exceptions Python would print before it. -/
def effectiveChain : PyException P → List (PyException P)
  | ⟨data, traceback, truthy, some cause, context, suppress⟩ =>
    ⟨data, traceback, truthy, some cause, context, suppress⟩ :: effectiveChain cause
  | ⟨data, traceback, truthy, none, some context, false⟩ =>
    ⟨data, traceback, truthy, none, some context, false⟩ :: effectiveChain context
  | e => [e]

/-- The exception whose failure becomes the cause. -/
def convertedCause (e : PyException P) : Option (PyException P) :=
  (e.cause.filter truthy).or
    (if e.isOrdinary || e.suppressContext then none else e.context.filter truthy)

/-- The node written for an exception without a proto, before its attributes
    are encoded. -/
def toNode (conv : PayloadConverter P) (e : PyException P) :
    Except ConversionError (FailureNode P) :=
  match e.data with
  | .failureError message info _ => errorToNode conv message e.traceback info
  | .ordinary className text =>
    text >>= fun text =>
      errorToNode conv text e.traceback (.applicationError [] (some className) false)

end PyException

namespace DefaultFailureConverter

variable (self : DefaultFailureConverter) (conv : PayloadConverter P)

/-- `encodeAttributes` touches one node. -/
def encodeNode (node : FailureNode P) : Except ConversionError (FailureNode P) :=
  self.encodeAttributes conv ⟨node, none⟩ >>= fun failure => .ok failure.node

theorem encodeAttributes_eq (node : FailureNode P) (cause : Option (Failure P)) :
    self.encodeAttributes conv ⟨node, cause⟩ =
      self.encodeNode conv node >>= fun node => .ok ⟨node, cause⟩ := by
  simp only [encodeNode, encodeAttributes]
  cases self.encodeCommonAttributes with
  | false => rfl
  | true =>
    cases converted : conv.toPayloads [commonAttributes node.message node.stackTrace] with
    | error err => rfl
    | ok payloads =>
      cases payloads with
      | nil => rfl
      | cons first rest => rfl

/-- The node of the failure of an exception without a proto. -/
def nodeOf (e : PyException P) : Except ConversionError (FailureNode P) :=
  e.toNode conv >>= self.encodeNode conv

/-- `to_failure` on an error that has a proto: the cause is left as it is. -/
theorem toFailure_preset {e : PyException P} {failure : Failure P}
    (preset : e.preset = some failure) :
    self.toFailure conv e = self.encodeAttributes conv failure := by
  obtain ⟨data, traceback, truthy, cause, context, suppress⟩ := e
  cases data with
  | failureError message info stored =>
    cases preset
    rw [toFailure.eq_def]
    rfl
  | ordinary className text => cases preset

/-- `_error_to_failure` without a proto, for the exception it follows. -/
theorem errorToFailure_eq (message : String) (traceback : Option (List String)) (info : ErrorInfo)
    (followed : Option (PyException P)) :
    (errorToFailure conv message traceback info none
        (followed.map (self.toFailure conv)) >>= self.encodeAttributes conv) =
      match followed with
      | some c => self.toFailure conv c >>= fun cause =>
          errorToNode conv message traceback info >>= fun node =>
            self.encodeAttributes conv ⟨node, some cause⟩
      | none => errorToNode conv message traceback info >>= fun node =>
          self.encodeAttributes conv ⟨node, none⟩ := by
  cases followed with
  | none =>
    simp only [errorToFailure, Option.map_none]
    cases errorToNode conv message traceback info <;> rfl
  | some c =>
    simp only [errorToFailure, Option.map_some]
    cases self.toFailure conv c with
    | error err => rfl
    | ok cause => cases errorToNode conv message traceback info <;> rfl

/-- An exception that cannot be turned into text is not converted at all. -/
theorem toFailure_unprintable {e : PyException P} {err : ConversionError}
    (unprintable : e.str = .error err) : self.toFailure conv e = .error err := by
  obtain ⟨data, traceback, truthy, cause, context, suppress⟩ := e
  cases data with
  | failureError => cases unprintable
  | ordinary className text =>
    have raises : text = .error err := unprintable
    rw [toFailure.eq_def, raises]
    rfl

/-- `to_failure` on an exception without a proto. -/
theorem toFailure_eq {e : PyException P} {message : String} (fresh : e.preset = none)
    (printed : e.str = .ok message) :
    self.toFailure conv e =
      match e.convertedCause with
      | some c => self.toFailure conv c >>= fun cause =>
          e.toNode conv >>= fun node => self.encodeAttributes conv ⟨node, some cause⟩
      | none => e.toNode conv >>= fun node => self.encodeAttributes conv ⟨node, none⟩ := by
  obtain ⟨data, traceback, truthy, cause, context, suppress⟩ := e
  rw [toFailure.eq_def]
  cases data with
  | failureError message info stored =>
    cases fresh
    refine Eq.trans (congrArg (fun linked => errorToFailure conv message traceback info none linked
      >>= self.encodeAttributes conv) ?_) (errorToFailure_eq self conv message traceback info _)
    simp only [PyException.convertedCause, PyException.isOrdinary, PyException.data,
      PyException.cause, PyException.context, PyException.suppressContext, Option.map_or]
    congr 1
    -- `__cause__` first, if it is truthy
    · cases cause with
      | none => rfl
      | some c => cases truth : c.truthy <;> simp [truth, Option.filter]
    -- then `__context__`, unless it is suppressed
    · cases suppress with
      | true => rfl
      | false =>
        cases context with
        | none => rfl
        | some c => cases truth : c.truthy <;> simp [truth, Option.filter]
  -- for an exception that is no failure error only `__cause__` counts
  | ordinary className text =>
    have printed : text = .ok message := printed
    subst printed
    refine Eq.trans (congrArg (fun linked => errorToFailure conv message traceback _ none linked
      >>= self.encodeAttributes conv) ?_) (errorToFailure_eq self conv message traceback _ _)
    simp only [PyException.convertedCause, PyException.isOrdinary, PyException.data,
      PyException.cause, Bool.true_or, if_true, Option.or_none]
    cases cause with
    | none => rfl
    | some c => cases truth : c.truthy <;> simp [truth, Option.filter]

end DefaultFailureConverter

/-! ### The effective chain -/

namespace PyException

theorem effectiveChain_eq (e : PyException P) :
    e.effectiveChain = e :: (e.effectiveCause.map effectiveChain).getD [] := by
  fun_cases effectiveChain e with
  | case1 => rfl
  | case2 => rfl
  | case3 e noCause noContext =>
    obtain ⟨data, traceback, truthy, cause, context, suppress⟩ := e
    rcases cause with _ | cause
    · cases suppress with
      | true => rfl
      | false =>
        rcases context with _ | context
        · rfl
        · exact absurd rfl (noContext data traceback truthy context)
    · exact absurd rfl (noCause data traceback truthy cause context suppress)

/-- Induction along the effective chain. -/
theorem effective_induction {motive : PyException P → Prop}
    (step : ∀ e, (∀ y, e.effectiveCause = some y → motive y) → motive e) (e : PyException P) :
    motive e := by
  induction e using effectiveChain.induct with
  | case1 data traceback truthy cause context suppress ih =>
    apply step
    rintro y ⟨⟩
    exact ih
  | case2 data traceback truthy context ih =>
    apply step
    rintro y ⟨⟩
    exact ih
  | case3 e noCause noContext =>
    apply step
    intro y effective
    have chain : e.effectiveChain = [e] := by
      rw [effectiveChain]
      · exact noCause
      · exact noContext
    rw [effectiveChain_eq, effective, Option.map_some, Option.getD_some, effectiveChain_eq] at chain
    cases chain

/-- `to_failure` follows the effective cause of `e`, or nothing: it drops a falsy
    successor, and the context of an ordinary exception. -/
def followed (e y : PyException P) : Bool := y.truthy && (!e.isOrdinary || e.cause.isSome)

theorem convertedCause_eq {e : PyException P}
    (chained : e.cause.isSome → e.suppressContext = true) :
    e.convertedCause = e.effectiveCause.filter e.followed := by
  unfold convertedCause effectiveCause
  cases cause : e.cause with
  | some c =>
    rw [chained (by rw [cause]; rfl), Bool.or_true, if_pos rfl, Option.or_none]
    simp [Option.filter, followed, cause]
  | none =>
    cases e.suppressContext with
    | true => simp
    | false =>
      cases context : e.context <;> cases ordinary : e.isOrdinary <;>
        simp [Option.filter, followed, cause, ordinary]

end PyException

/-- The details that are written, if there are any. -/
def ErrorInfo.written : ErrorInfo → List PyObject
  | applicationError details _ _ | timeoutError _ details | cancelledError details => details
  | _ => []

/-- The payload converter converts the details of an exception and, if they are to
    be encoded, its message and stack trace, as `PayloadConverter.to_payloads`
    documents. -/
structure DefaultFailureConverter.Converts (converter : DefaultFailureConverter)
    (conv : PayloadConverter P) (e : PyException P) : Prop where
  details : ∀ message info failure, e.data = .failureError message info failure →
    info.written ≠ [] → ∃ payloads, conv.toPayloads info.written = .ok payloads
  attributes : converter.encodeCommonAttributes = true → ∀ message, e.str = .ok message →
    ∃ p ps, conv.toPayloads [commonAttributes message (formatTraceback e.traceback)] = .ok (p :: ps)

theorem detailsToPayloads_ok {conv : PayloadConverter P} {details : List PyObject}
    (converts : details ≠ [] → ∃ payloads, conv.toPayloads details = .ok payloads) :
    ∃ payloads, detailsToPayloads conv details = .ok payloads := by
  cases details with
  | nil => exact ⟨none, rfl⟩
  | cons d ds =>
    obtain ⟨payloads, converted⟩ := converts (List.cons_ne_nil d ds)
    refine ⟨some ⟨payloads⟩, ?_⟩
    simp only [detailsToPayloads, PayloadConverter.toPayloadsWrapper, converted]
    rfl

theorem ErrorInfo.toFailureInfo_ok {conv : PayloadConverter P} {info : ErrorInfo}
    (converts : info.written ≠ [] → ∃ payloads, conv.toPayloads info.written = .ok payloads) :
    ∃ failureInfo, info.toFailureInfo conv = .ok failureInfo := by
  cases info with
  | applicationError details type nonRetryable =>
    obtain ⟨payloads, converted⟩ := @detailsToPayloads_ok _ _ details converts
    exact ⟨_, by rw [toFailureInfo, converted]; rfl⟩
  | timeoutError type details =>
    obtain ⟨payloads, converted⟩ := @detailsToPayloads_ok _ _ details converts
    exact ⟨_, by rw [toFailureInfo, converted]; rfl⟩
  | cancelledError details =>
    obtain ⟨payloads, converted⟩ := @detailsToPayloads_ok _ _ details converts
    exact ⟨_, by rw [toFailureInfo, converted]; rfl⟩
  | _ => exact ⟨_, rfl⟩

namespace DefaultFailureConverter

variable (self : DefaultFailureConverter)

theorem nodeOf_ok {conv : PayloadConverter P} {e : PyException P} (converts : self.Converts conv e)
    {message : String} (printed : e.str = .ok message) : ∃ node, self.nodeOf conv e = .ok node := by
  have plain : ∃ node, e.toNode conv = .ok node ∧ node.message = message ∧
      node.stackTrace = formatTraceback e.traceback := by
    unfold PyException.toNode
    cases isError : e.data with
    | failureError text info failure =>
      obtain ⟨failureInfo, converted⟩ :=
        ErrorInfo.toFailureInfo_ok (converts.details text info failure isError)
      have same : text = message := by simpa [PyException.str, isError] using printed
      exact ⟨_, by simp only [errorToNode, converted]; rfl, same, rfl⟩
    | ordinary className text =>
      have same : text = .ok message := by simpa [PyException.str, isError] using printed
      rw [same]
      exact ⟨_, rfl, rfl, rfl⟩
  obtain ⟨node, plain, sameMessage, sameTrace⟩ := plain
  rw [nodeOf, plain]
  change ∃ encoded, self.encodeNode conv node = .ok encoded
  simp only [encodeNode, encodeAttributes, sameMessage, sameTrace]
  cases encodes : self.encodeCommonAttributes with
  | false => exact ⟨node, rfl⟩
  | true =>
    obtain ⟨p, ps, encoded⟩ := converts.attributes encodes message printed
    exact ⟨_, by simp only [if_true, encoded]; rfl⟩

theorem str_of_toNode {conv : PayloadConverter P} {e : PyException P} {node : FailureNode P}
    (written : e.toNode conv = .ok node) : ∃ message, e.str = .ok message := by
  unfold PyException.toNode at written
  unfold PyException.str
  cases isOrdinary : e.data with
  | failureError message info failure => exact ⟨message, rfl⟩
  | ordinary className text =>
    rw [isOrdinary] at written
    obtain ⟨message, printed, -⟩ := bind_eq_ok.mp written
    exact ⟨message, printed⟩

/-- One step of the chain: the node of the exception, then the failure of the
    exception `to_failure` follows. -/
theorem toFailure_ok {conv : PayloadConverter P} {e : PyException P} {node : FailureNode P}
    (fresh : e.preset = none) (converted : self.nodeOf conv e = .ok node) :
    self.toFailure conv e =
      match e.convertedCause with
      | some c => self.toFailure conv c >>= fun cause => .ok ⟨node, some cause⟩
      | none => .ok ⟨node, none⟩ := by
  obtain ⟨plain, written, encoded⟩ := bind_eq_ok.mp converted
  obtain ⟨message, printed⟩ := str_of_toNode written
  rw [toFailure_eq self conv fresh printed]
  have step : ∀ cause, (e.toNode conv >>= fun node =>
      self.encodeAttributes conv ⟨node, cause⟩) = .ok ⟨node, cause⟩ := by
    intro cause
    rw [written]
    change self.encodeAttributes conv ⟨plain, cause⟩ = _
    rw [encodeAttributes_eq, encoded]
    rfl
  cases e.convertedCause with
  | none => exact step none
  | some c => simp only [step]

end DefaultFailureConverter

/-- The failure of an exception has one node for each exception of the effective
    chain, in order. -/
def ChainConverted (self : DefaultFailureConverter) (conv : PayloadConverter P)
    (e : PyException P) : Prop :=
  ∃ f, self.toFailure conv e = .ok f ∧
    List.Forall₂ (fun x node => self.nodeOf conv x = .ok node) e.effectiveChain f.chain

/-- The exception can be turned into text, and its successor is truthy and is its
    explicit cause unless it is itself a `FailureError`. -/
def PyException.Followed (x : PyException P) : Prop :=
  x.printable = true ∧ ∀ y, x.effectiveCause = some y →
    y.truthy = true ∧ (x.isOrdinary = true → x.cause.isSome = true)

/-- `to_failure` makes exactly one node per exception of the effective chain, in
    order, if and only if every exception of the chain can be turned into text and
    every successor in the chain is truthy and is the explicit cause where the
    exception before it is not a `FailureError`. Exceptions carry no proto, and
    `__suppress_context__` is set wherever `__cause__` is. -/
theorem failure_chain_iff (self : DefaultFailureConverter) (conv : PayloadConverter P)
    (e : PyException P) (converts : ∀ x ∈ e.effectiveChain, self.Converts conv x)
    (fresh : ∀ x ∈ e.effectiveChain, x.preset = none)
    (chained : ∀ x ∈ e.effectiveChain, x.cause.isSome → x.suppressContext = true) :
    ChainConverted self conv e ↔ ∀ x ∈ e.effectiveChain, x.Followed := by
  induction e using PyException.effective_induction with
  | step e ih =>
    unfold ChainConverted
    rw [PyException.effectiveChain_eq] at converts fresh chained ⊢
    cases printed : e.str with
    | error err =>
      -- Nothing is converted.
      rw [self.toFailure_unprintable conv printed]
      constructor
      · rintro ⟨f, result, -⟩
        cases result
      · intro condition
        have printable := (condition e List.mem_cons_self).1
        rw [PyException.printable, printed] at printable
        cases printable
    | ok message =>
    have printable : e.printable = true := by rw [PyException.printable, printed]; rfl
    obtain ⟨node, converted⟩ := self.nodeOf_ok (converts e List.mem_cons_self) printed
    have result := self.toFailure_ok (fresh e List.mem_cons_self) converted
    rw [PyException.convertedCause_eq (chained e List.mem_cons_self)] at result
    cases effective : e.effectiveCause with
    | none =>
      -- The end of the chain: one exception, one node.
      rw [effective] at result
      simp [result, Failure.chain, converted, effective, PyException.Followed, printable]
    | some y =>
      simp only [effective, Option.map_some, Option.getD_some] at converts fresh chained ⊢
      have tail := ih y effective (fun x member => converts x (List.mem_cons_of_mem e member))
        (fun x member => fresh x (List.mem_cons_of_mem e member))
        (fun x member => chained x (List.mem_cons_of_mem e member))
      cases followed : e.followed y with
      | true =>
        -- The chain goes on: the rest is the failure of `y`.
        rw [effective, Option.filter_some, if_pos followed] at result
        have here : e.Followed := by
          refine ⟨printable, fun z successor => ?_⟩
          rw [effective] at successor
          cases successor
          simpa [PyException.followed, imp_iff_not_or] using followed
        rw [List.forall_mem_cons, ← tail, result]
        constructor
        · rintro ⟨f, made, corresponding⟩
          obtain ⟨rest, below, same⟩ := bind_eq_ok.mp made
          cases same
          rw [Failure.chain, List.forall₂_cons] at corresponding
          exact ⟨here, rest, below, corresponding.2⟩
        · rintro ⟨-, rest, below, corresponding⟩
          refine ⟨⟨node, some rest⟩, by simp only [below]; rfl, ?_⟩
          rw [Failure.chain, List.forall₂_cons]
          exact ⟨converted, corresponding⟩
      | false =>
        -- The chain is cut off: two exceptions or more, one node.
        rw [effective, Option.filter_some, if_neg (by rw [followed]; decide)] at result
        constructor
        · rintro ⟨f, made, corresponding⟩
          rw [result] at made
          cases made
          rw [PyException.effectiveChain_eq] at corresponding
          cases corresponding with
          | cons _ none => cases none
        · intro condition
          have here := (condition e List.mem_cons_self).2 y effective
          have : e.followed y = true := by
            simpa [PyException.followed, imp_iff_not_or] using here
          rw [this] at followed
          cases followed

/-- A payload converter that makes one payload of each value. -/
def wholeValues : PayloadConverter PyObject where
  toPayloads values := .ok values
  fromPayloads payloads := .ok payloads

theorem wholeValues_converts (self : DefaultFailureConverter) (e : PyException PyObject) :
    self.Converts wholeValues e where
  details := fun _ info _ _ _ => ⟨info.written, rfl⟩
  attributes := fun _ message _ =>
    ⟨commonAttributes message (formatTraceback e.traceback), [], rfl⟩

/-- An activity error raised from a `RuntimeError`, itself raised from a
    `ValueError`: explicit causes throughout. -/
def raisedFrom : PyException PyObject :=
  ⟨.failureError "activity failed" (.activityError 5 6 "worker" "charge" "a1" none) none, none, true,
    some ⟨.ordinary "RuntimeError" (.ok "error2"), none, true,
      some ⟨.ordinary "ValueError" (.ok "error1"), none, true, none, none, false⟩, none, true⟩, none, true⟩

theorem failure_chain_iff_raisedFrom :
    raisedFrom.effectiveChain.length = 3 ∧
      (ChainConverted (DefaultFailureConverter.mk false) wholeValues raisedFrom ↔
        ∀ x ∈ raisedFrom.effectiveChain, x.Followed) := by
  refine ⟨rfl, failure_chain_iff ⟨false⟩ wholeValues raisedFrom
    (fun x _ => wholeValues_converts ⟨false⟩ x) ?_ ?_⟩
  · simp [raisedFrom, PyException.effectiveChain, PyException.preset, PyException.data]
  · simp [raisedFrom, PyException.effectiveChain, PyException.cause, PyException.suppressContext]

/-- `raise RuntimeError("error2")` while a `ValueError("error1")` is handled. -/
def raisedWhileHandling : PyException PyObject :=
  ⟨.ordinary "RuntimeError" (.ok "error2"), none, true, none,
    some ⟨.ordinary "ValueError" (.ok "error1"), none, true, none, none, false⟩, false⟩

/-- Python shows two exceptions; the failure has one node. -/
theorem context_of_ordinary_is_lost :
    raisedWhileHandling.effectiveChain.length = 2 ∧
      (∃ f, (DefaultFailureConverter.mk false).toFailure wholeValues raisedWhileHandling = .ok f ∧
        f.chain.length = 1) ∧
      ¬ChainConverted (DefaultFailureConverter.mk false) wholeValues raisedWhileHandling := by
  refine ⟨rfl, ⟨_, rfl, rfl⟩, ?_⟩
  rintro ⟨f, made, corresponding⟩
  cases made
  exact absurd corresponding.length_eq (by decide)

end TemporalSdk.Converter
