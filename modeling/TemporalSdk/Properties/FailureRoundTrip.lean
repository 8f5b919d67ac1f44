import TemporalSdk.Properties.FailureChains

/-!
# Failures and back

`from_failure` after `to_failure`, and the other way round, for the default
failure converter.

## Main results

- `failure_round_trip`: a chain of failure errors linked by explicit causes
  comes back with the same class, message and attributes at every depth,
  whether or not the common attributes are encoded.
- `encoded_attributes_hidden`: with `encode_common_attributes`, no node at any
  depth shows a message or a stack trace, also when errors that came out of
  `from_failure` are converted again; and `to_failure(from_failure(f)) = f` for
  every failure so produced.

## Proof strategy

Both rest on one fact about a single node, `decodeAttributes_encodeNode`:
restoring the attributes of an encoded node gives the node that was encoded.
The first result is then an induction along the explicit causes. For the second
the converted error short-circuits on its proto, the restored node, and encoding
that one again gives the node it was restored from.
-/
namespace TemporalSdk.Converter

variable {P : Type} {self : DefaultFailureConverter} {conv : PayloadConverter P}

/-- The payload converter gives back the dict of common attributes. -/
def PayloadConverter.RoundTripsAttributes (conv : PayloadConverter P) : Prop :=
  ∀ message stackTrace, ∃ p, conv.toPayloads [commonAttributes message stackTrace] = .ok [p] ∧
    conv.fromPayloads [p] = .ok [commonAttributes message stackTrace]

/-- The payload converter gives back these details. -/
def PayloadConverter.RoundTripsValues (conv : PayloadConverter P) (values : List PyObject) : Prop :=
  values ≠ [] → ∃ p ps, conv.toPayloads values = .ok (p :: ps) ∧
    conv.fromPayloads (p :: ps) = .ok values

theorem optionalEnum_toInt_timeoutType (type : Option TimeoutType) :
    optionalEnum TimeoutType.ofInt ((type.map TimeoutType.toInt).getD 0) = .ok type := by
  cases type with
  | none => rfl
  | some type => cases type <;> rfl

theorem optionalEnum_toInt_retryState (state : Option RetryState) :
    optionalEnum RetryState.ofInt ((state.map RetryState.toInt).getD 0) = .ok state := by
  cases state with
  | none => rfl
  | some state => cases state <;> rfl

/-! ### One node -/

theorem encodeNode_on (encoding : self.encodeCommonAttributes = true)
    (attributes : conv.RoundTripsAttributes) (node : FailureNode P) :
    ∃ p, conv.toPayloads [commonAttributes node.message node.stackTrace] = .ok [p] ∧
      conv.fromPayloads [p] = .ok [commonAttributes node.message node.stackTrace] ∧
      self.encodeNode conv node = .ok { node with
        encodedAttributes := some p, message := "Encoded failure", stackTrace := "" } := by
  obtain ⟨p, encoded, decoded⟩ := attributes node.message node.stackTrace
  refine ⟨p, encoded, decoded, ?_⟩
  simp only [DefaultFailureConverter.encodeNode, DefaultFailureConverter.encodeAttributes,
    encoding, if_true, encoded]
  rfl

variable (self) in
/-- Restoring the common attributes undoes their encoding, but for the encoded
    attributes themselves, which stay. -/
theorem decodeAttributes_encodeNode
    (attributes : self.encodeCommonAttributes = true → conv.RoundTripsAttributes)
    (node : FailureNode P) (plain : node.encodedAttributes = none) :
    ∃ encoded, self.encodeNode conv node = .ok encoded ∧
      decodeAttributes conv encoded =
        { node with encodedAttributes := encoded.encodedAttributes } := by
  cases encoding : self.encodeCommonAttributes with
  | false =>
    refine ⟨node, ?_, ?_⟩
    · simp only [DefaultFailureConverter.encodeNode, DefaultFailureConverter.encodeAttributes,
        encoding]
      rfl
    · obtain ⟨message, source, stackTrace, _, info⟩ := node
      cases plain
      rfl
  | true =>
    obtain ⟨p, -, decoded, encoded⟩ := encodeNode_on encoding (attributes encoding) node
    refine ⟨_, encoded, ?_⟩
    simp only [decodeAttributes, decoded]
    rfl

theorem fromFailure_last {node : FailureNode P} {message : String} {info : ErrorInfo}
    (read : nodeToError conv (decodeAttributes conv node) = .ok (message, info)) :
    fromFailure conv ⟨node, none⟩ = .ok ⟨.failureError message info
      (some ⟨decodeAttributes conv node, none⟩), none, true, none, none, false⟩ := by
  simp only [fromFailure, read]
  rfl

theorem fromFailure_caused {node : FailureNode P} {message : String} {info : ErrorInfo}
    {cause : Failure P} {err : PyException P}
    (read : nodeToError conv (decodeAttributes conv node) = .ok (message, info))
    (rest : fromFailure conv cause = .ok err) :
    fromFailure conv ⟨node, some cause⟩ = .ok ⟨.failureError message info
      (some ⟨decodeAttributes conv node, some cause⟩), none, true, some err, none, true⟩ := by
  simp only [fromFailure, read, rest]
  rfl

/-! ### Failure errors come back -/

/-- An error of one of the classes `from_failure` can make, with details the
    payload converter gives back. -/
def ErrorInfo.Recoverable (conv : PayloadConverter P) : ErrorInfo → Prop
  | applicationError details type _ => conv.RoundTripsValues details ∧ type ≠ some ""
  | timeoutError _ details => conv.RoundTripsValues details
  | cancelledError details => conv.RoundTripsValues details
  | terminatedError details => details = []
  | serverError _ => True
  | activityError _ _ _ _ _ _ => True
  | childWorkflowError _ _ _ _ _ _ _ => True
  | workflowAlreadyStartedError _ _ _ => False
  | failureError => False

theorem details_recovered {details : List PyObject} (trips : conv.RoundTripsValues details) :
    ∃ payloads, detailsToPayloads conv details = .ok payloads ∧
      conv.fromPayloadsWrapper payloads = .ok details := by
  cases details with
  | nil => exact ⟨none, rfl, rfl⟩
  | cons d ds =>
    obtain ⟨p, ps, there, back⟩ := trips (List.cons_ne_nil d ds)
    refine ⟨some ⟨p :: ps⟩, ?_, back⟩
    simp only [detailsToPayloads, PayloadConverter.toPayloadsWrapper, there]
    rfl

theorem orDefault_of_ne {message default : String} (given : message ≠ "") :
    orDefault message default = message := if_neg given

/-- The subclass values written by `_error_to_failure` are read back by
    `from_failure`. -/
theorem info_recovered {info : ErrorInfo} (recoverable : info.Recoverable conv) :
    ∃ failureInfo, info.toFailureInfo conv = .ok failureInfo ∧
      ∀ node : FailureNode P, node.failureInfo = failureInfo → node.message ≠ "" →
        nodeToError conv node = .ok (node.message, info) := by
  cases info with
  | applicationError details type nonRetryable =>
    obtain ⟨trips, named⟩ := recoverable
    obtain ⟨payloads, there, back⟩ := details_recovered trips
    refine ⟨_, by rw [ErrorInfo.toFailureInfo, there]; rfl, fun node written given => ?_⟩
    simp only [nodeToError, written, back, orDefault_of_ne given]
    cases type with
    | none => rfl
    | some type =>
      -- an empty type would be read back as none
      have : type ≠ "" := fun empty => named (by rw [empty])
      simp only [Option.getD_some, if_neg this]
      rfl
  | timeoutError type details =>
    obtain ⟨payloads, there, back⟩ := details_recovered recoverable
    refine ⟨_, by rw [ErrorInfo.toFailureInfo, there]; rfl, fun node written given => ?_⟩
    simp only [nodeToError, written, back, orDefault_of_ne given, optionalEnum_toInt_timeoutType]
    rfl
  | cancelledError details =>
    obtain ⟨payloads, there, back⟩ := details_recovered recoverable
    refine ⟨_, by rw [ErrorInfo.toFailureInfo, there]; rfl, fun node written given => ?_⟩
    simp only [nodeToError, written, back, orDefault_of_ne given]
    rfl
  | terminatedError details =>
    cases recoverable
    refine ⟨_, rfl, fun node written given => ?_⟩
    simp only [nodeToError, written, orDefault_of_ne given]
  | serverError nonRetryable =>
    refine ⟨_, rfl, fun node written given => ?_⟩
    simp only [nodeToError, written, orDefault_of_ne given]
  | activityError =>
    refine ⟨_, rfl, fun node written given => ?_⟩
    simp only [nodeToError, written, orDefault_of_ne given, optionalEnum_toInt_retryState]
    rfl
  | childWorkflowError =>
    refine ⟨_, rfl, fun node written given => ?_⟩
    simp only [nodeToError, written, orDefault_of_ne given, optionalEnum_toInt_retryState]
    rfl
  | workflowAlreadyStartedError => exact recoverable.elim
  | failureError => exact recoverable.elim

namespace PyException

/-- A chain of failure errors linked by explicit causes: non-empty messages, no
    proto, details the payload converter gives back. Instances of these classes
    are truthy; the last error has no context or suppresses it. -/
def Recoverable (conv : PayloadConverter P) : PyException P → Prop
  | ⟨.failureError message info none, _, truthy, some cause, _, _⟩ =>
    truthy = true ∧ message ≠ "" ∧ info.Recoverable conv ∧ Recoverable conv cause
  | ⟨.failureError message info none, _, truthy, none, context, suppress⟩ =>
    truthy = true ∧ message ≠ "" ∧ info.Recoverable conv ∧ (suppress = true ∨ context = none)
  | _ => False

/-- An exception and its explicit causes. -/
def explicitChain : PyException P → List (PyException P)
  | ⟨data, traceback, truthy, some cause, context, suppress⟩ =>
    ⟨data, traceback, truthy, some cause, context, suppress⟩ :: explicitChain cause
  | e => [e]

/-- Message, class and attributes of a failure error. -/
def attributes (e : PyException P) : Option (String × ErrorInfo) :=
  match e.data with
  | .failureError message info _ => some (message, info)
  | .ordinary _ _ => none

end PyException

variable (self) in
/-- One error of the chain: its node is written, and read back as the same error. -/
theorem error_recovered
    (attributes : self.encodeCommonAttributes = true → conv.RoundTripsAttributes)
    {e : PyException P} {message : String} {info : ErrorInfo} {failure : Option (Failure P)}
    (isError : e.data = .failureError message info failure) (given : message ≠ "")
    (recoverable : info.Recoverable conv) :
    ∃ node, self.nodeOf conv e = .ok node ∧
      nodeToError conv (decodeAttributes conv node) = .ok (message, info) := by
  obtain ⟨failureInfo, written, read⟩ := info_recovered recoverable
  have plain : e.toNode conv = .ok
      { message := message, stackTrace := formatTraceback e.traceback,
        failureInfo := failureInfo } := by
    simp only [PyException.toNode, isError, errorToNode, written]
    rfl
  obtain ⟨node, encoded, restored⟩ := decodeAttributes_encodeNode self attributes
    { message := message, stackTrace := formatTraceback e.traceback, failureInfo := failureInfo }
    rfl
  refine ⟨node, by rw [DefaultFailureConverter.nodeOf, plain]; exact encoded, ?_⟩
  rw [restored]
  exact read _ rfl given

theorem PyException.Recoverable.truthy {e : PyException P} (recoverable : e.Recoverable conv) :
    e.truthy = true := by
  obtain ⟨data, traceback, truthy, cause, context, suppress⟩ := e
  rcases data with ⟨message, info, _ | failure⟩ | ⟨className, text⟩
  · rcases cause with _ | cause
    · exact recoverable.1
    · exact recoverable.1
  · exact recoverable.elim
  · exact recoverable.elim

/-- `from_failure(to_failure(e))` has at every depth the class, message and
    attributes of `e`, and the same number of errors. -/
theorem failure_round_trip (self : DefaultFailureConverter) (conv : PayloadConverter P)
    (attributes : self.encodeCommonAttributes = true → conv.RoundTripsAttributes)
    (e : PyException P) (recoverable : e.Recoverable conv) :
    ∃ f err, self.toFailure conv e = .ok f ∧ fromFailure conv f = .ok err ∧
      err.explicitChain.map PyException.attributes =
        e.explicitChain.map PyException.attributes := by
  fun_induction PyException.Recoverable conv e with
  -- with a cause: the cause trips by induction, and the node around it on its own
  | case1 message info traceback truthy cause context suppress ih =>
    obtain ⟨rfl, given, infoRecoverable, causeRecoverable⟩ := recoverable
    obtain ⟨f, err, there, back, same⟩ := ih causeRecoverable
    obtain ⟨node, converted, read⟩ := error_recovered self attributes
      (e := ⟨.failureError message info none, traceback, true, some cause, context, suppress⟩)
      rfl given infoRecoverable
    have followed : PyException.convertedCause
        ⟨.failureError message info none, traceback, true, some cause, context, suppress⟩ =
          some cause := by
      simp [PyException.convertedCause, PyException.cause, Option.filter, causeRecoverable.truthy]
    refine ⟨⟨node, some f⟩, _, ?_, fromFailure_caused read back, ?_⟩
    · rw [self.toFailure_ok rfl converted, followed]
      simp only [there]
      rfl
    · simp only [PyException.explicitChain, List.map_cons, same]
      rfl
  -- the end of the chain: no context is followed either
  | case2 message info traceback truthy context suppress =>
    obtain ⟨rfl, given, infoRecoverable, last⟩ := recoverable
    obtain ⟨node, converted, read⟩ := error_recovered self attributes
      (e := ⟨.failureError message info none, traceback, true, none, context, suppress⟩)
      rfl given infoRecoverable
    have followed : PyException.convertedCause
        ⟨.failureError message info none, traceback, true, none, context, suppress⟩ = none := by
      rcases last with rfl | rfl
      · simp [PyException.convertedCause, PyException.cause, PyException.suppressContext]
      · simp [PyException.convertedCause, PyException.cause, PyException.context]
    refine ⟨⟨node, none⟩, _, ?_, fromFailure_last read, rfl⟩
    rw [self.toFailure_ok rfl converted, followed]
  | case3 => exact recoverable.elim

theorem wholeValues_attributes : wholeValues.RoundTripsAttributes := by
  intro message stackTrace
  exact ⟨_, rfl, rfl⟩

/-- A child workflow that failed because an activity timed out. -/
def childFailed : PyException PyObject :=
  ⟨.failureError "child failed"
      (.childWorkflowError "default" "w1" "r1" "Order" 7 8 (some .nonRetryableFailure)) none,
    some ["File a.py"], true,
    some ⟨.failureError "timed out" (.timeoutError (some .heartbeat) [.str "progress"]) none,
      none, true, none, none, false⟩, none, true⟩

theorem childFailed_recoverable : childFailed.Recoverable wholeValues := by
  refine ⟨rfl, by decide, trivial, rfl, by decide, ?_, Or.inr rfl⟩
  intro _
  exact ⟨_, _, rfl, rfl⟩

theorem failure_round_trip_childFailed :
    childFailed.Recoverable wholeValues ∧
      ∃ f err, (DefaultFailureConverter.mk true).toFailure wholeValues childFailed = .ok f ∧
        fromFailure wholeValues f = .ok err ∧
        err.explicitChain.map PyException.attributes =
          childFailed.explicitChain.map PyException.attributes :=
  ⟨childFailed_recoverable,
    failure_round_trip ⟨true⟩ wholeValues (fun _ => wholeValues_attributes) childFailed
      childFailed_recoverable⟩

/-! ### Encoded attributes -/

/-- The message `to_failure` writes for an exception, if it writes one. -/
def PyException.message (e : PyException P) : String :=
  match e.str with
  | .ok message => message
  | .error _ => ""

/-- Exceptions made of fresh ones and of errors that `from_failure` made of what
    this converter produced, with the messages and stack traces they were first
    converted with. An error from `from_failure` may have been raised again: its
    traceback and its links to other exceptions are arbitrary. -/
inductive Own (self : DefaultFailureConverter) (conv : PayloadConverter P) :
    PyException P → List (String × String) → Prop where
  | last {e : PyException P} {node : FailureNode P} (fresh : e.preset = none)
      (converts : e.toNode conv = .ok node) (noCause : e.convertedCause = none) :
      Own self conv e [(e.message, formatTraceback e.traceback)]
  | caused {e cause : PyException P} {node : FailureNode P} {causes : List (String × String)}
      (fresh : e.preset = none) (converts : e.toNode conv = .ok node)
      (followed : e.convertedCause = some cause) (own : Own self conv cause causes) :
      Own self conv e ((e.message, formatTraceback e.traceback) :: causes)
  | decoded {original e err : PyException P} {f : Failure P} {chain : List (String × String)}
      (own : Own self conv original chain) (produced : self.toFailure conv original = .ok f)
      (restored : fromFailure conv f = .ok err) (same : e.data = err.data) :
      Own self conv e chain

/-- A node that shows neither message nor stack trace, but holds them in its
    encoded attributes. -/
def Hidden (conv : PayloadConverter P) (original : String × String) (node : FailureNode P) : Prop :=
  node.message = "Encoded failure" ∧ node.stackTrace = "" ∧
    ∃ p, node.encodedAttributes = some p ∧
      conv.fromPayloads [p] = .ok [commonAttributes original.1 original.2]

/-- A node as this converter leaves it: hidden, encoded by the payload
    converter, and of an error `from_failure` can make. -/
structure Encoded (conv : PayloadConverter P) (original : String × String)
    (node : FailureNode P) : Prop where
  hidden : Hidden conv original node
  encodes : ∃ p, node.encodedAttributes = some p ∧
    conv.toPayloads [commonAttributes original.1 original.2] = .ok [p]
  readable : ∃ error, nodeToError conv (decodeAttributes conv node) = .ok error

/-- What the payload converter made of values it can read, if not back to the
    same values. -/
def PayloadConverter.Reads (conv : PayloadConverter P) : Prop :=
  ∀ values payloads, conv.toPayloads values = .ok payloads →
    ∃ values', conv.fromPayloads payloads = .ok values'

theorem details_readable (reads : conv.Reads) {details : List PyObject}
    {payloads : Option (Payloads P)} (written : detailsToPayloads conv details = .ok payloads) :
    ∃ values, conv.fromPayloadsWrapper payloads = .ok values := by
  cases details with
  | nil =>
    cases written
    exact ⟨[], rfl⟩
  | cons d ds =>
    simp only [detailsToPayloads, PayloadConverter.toPayloadsWrapper] at written
    obtain ⟨wrapper, wrapped, ⟨⟩⟩ := bind_eq_ok.mp written
    obtain ⟨ps, converted, ⟨⟩⟩ := bind_eq_ok.mp wrapped
    cases ps with
    | nil => exact ⟨[], rfl⟩
    | cons p ps => exact reads _ _ converted

/-- What `_error_to_failure` writes, `from_failure` can read. -/
theorem info_readable (reads : conv.Reads) {info : ErrorInfo} {failureInfo : Option (FailureInfo P)}
    (written : info.toFailureInfo conv = .ok failureInfo) {node : FailureNode P}
    (holds : node.failureInfo = failureInfo) : ∃ error, nodeToError conv node = .ok error := by
  cases info with
  | applicationError details type nonRetryable =>
    obtain ⟨payloads, converted, ⟨⟩⟩ := bind_eq_ok.mp written
    obtain ⟨values, read⟩ := details_readable reads converted
    simp only [nodeToError, holds, read]
    exact ⟨_, rfl⟩
  | timeoutError type details =>
    obtain ⟨payloads, converted, ⟨⟩⟩ := bind_eq_ok.mp written
    obtain ⟨values, read⟩ := details_readable reads converted
    simp only [nodeToError, holds, read, optionalEnum_toInt_timeoutType]
    exact ⟨_, rfl⟩
  | cancelledError details =>
    obtain ⟨payloads, converted, ⟨⟩⟩ := bind_eq_ok.mp written
    obtain ⟨values, read⟩ := details_readable reads converted
    simp only [nodeToError, holds, read]
    exact ⟨_, rfl⟩
  | activityError =>
    cases written
    simp only [nodeToError, holds, optionalEnum_toInt_retryState]
    exact ⟨_, rfl⟩
  | childWorkflowError =>
    cases written
    simp only [nodeToError, holds, optionalEnum_toInt_retryState]
    exact ⟨_, rfl⟩
  | _ =>
    cases written
    simp only [nodeToError, holds]
    exact ⟨_, rfl⟩

section Encoding

variable (encoding : self.encodeCommonAttributes = true) (attributes : conv.RoundTripsAttributes)

include encoding attributes

/-- The node of a fresh exception. -/
theorem fresh_encoded (reads : conv.Reads) {e : PyException P} {plain : FailureNode P}
    (written : e.toNode conv = .ok plain) :
    ∃ node, self.nodeOf conv e = .ok node ∧
      Encoded conv (e.message, formatTraceback e.traceback) node := by
  have inverted : ∃ (info : ErrorInfo) (failureInfo : Option (FailureInfo P)),
      info.toFailureInfo conv = .ok failureInfo ∧
      plain = { message := e.message, stackTrace := formatTraceback e.traceback,
                failureInfo := failureInfo } := by
    simp only [PyException.toNode, PyException.message, PyException.str] at written ⊢
    cases isError : e.data with
    | failureError message info failure =>
      rw [isError] at written
      obtain ⟨failureInfo, converted, ⟨⟩⟩ := bind_eq_ok.mp written
      exact ⟨info, failureInfo, converted, rfl⟩
    | ordinary className text =>
      rw [isError] at written
      obtain ⟨text, printed, written⟩ := bind_eq_ok.mp written
      obtain ⟨failureInfo, converted, ⟨⟩⟩ := bind_eq_ok.mp written
      rw [printed]
      exact ⟨_, failureInfo, converted, rfl⟩
  obtain ⟨info, failureInfo, converted, rfl⟩ := inverted
  obtain ⟨p, encodes, decodes, result⟩ := encodeNode_on encoding attributes
    { message := e.message, stackTrace := formatTraceback e.traceback, failureInfo := failureInfo }
  refine ⟨_, by rw [DefaultFailureConverter.nodeOf, written]; exact result, ?_⟩
  refine ⟨⟨rfl, rfl, p, rfl, decodes⟩, ⟨p, rfl, encodes⟩, ?_⟩
  apply info_readable reads converted
  simp only [decodeAttributes, decodes]

/-- Encoding the node `from_failure` restored gives the node it was given. -/
theorem restored_encoded {original : String × String} {node : FailureNode P}
    (encoded : Encoded conv original node) (cause : Option (Failure P)) :
    self.encodeAttributes conv ⟨decodeAttributes conv node, cause⟩ = .ok ⟨node, cause⟩ := by
  obtain ⟨⟨shown, trace, p, stored, decodes⟩, ⟨p', stored', encodes⟩, -⟩ := encoded
  obtain ⟨message, source, stackTrace, _, info⟩ := node
  cases stored
  cases stored'
  cases shown
  cases trace
  have restored : decodeAttributes conv
      ⟨"Encoded failure", source, "", some p, info⟩ =
        ⟨original.1, source, original.2, some p, info⟩ := by
    simp only [decodeAttributes, decodes]
    rfl
  rw [restored, DefaultFailureConverter.encodeAttributes_eq]
  obtain ⟨q, encodes', -, result⟩ := encodeNode_on encoding attributes
    (⟨original.1, source, original.2, some p, info⟩ : FailureNode P)
  rw [encodes] at encodes'
  cases encodes'
  rw [result]
  rfl

omit encoding attributes in
/-- `from_failure` on a failure this converter produced. -/
theorem fromFailure_encoded {originals : List (String × String)} {f : Failure P}
    (encoded : List.Forall₂ (Encoded conv) originals f.chain) :
    ∃ err, fromFailure conv f = .ok err ∧
      err.preset = some ⟨decodeAttributes conv f.node, f.cause⟩ := by
  fun_induction Failure.chain f generalizing originals with
  | case1 node cause ih =>
    cases encoded with
    | cons head tail =>
      obtain ⟨⟨message, info⟩, read⟩ := head.readable
      obtain ⟨err, rest, -⟩ := ih tail
      exact ⟨_, fromFailure_caused read rest, rfl⟩
  | case2 node =>
    cases encoded with
    | cons head tail =>
      obtain ⟨⟨message, info⟩, read⟩ := head.readable
      exact ⟨_, fromFailure_last read, rfl⟩

/-- Converting the error made of a failure this converter produced gives the
    failure back. -/
theorem toFailure_restored {originals : List (String × String)} {f : Failure P}
    (encoded : List.Forall₂ (Encoded conv) originals f.chain) {e : PyException P}
    (preset : e.preset = some ⟨decodeAttributes conv f.node, f.cause⟩) :
    self.toFailure conv e = .ok f := by
  rw [self.toFailure_preset conv preset]
  obtain ⟨node, cause⟩ := f
  cases cause with
  | none =>
    cases encoded with
    | cons head tail => exact restored_encoded encoding attributes head none
  | some cause =>
    cases encoded with
    | cons head tail => exact restored_encoded encoding attributes head (some cause)

/-- The same for the error raised again: its proto is the restored failure, and
    its own links are not looked at. -/
theorem toFailure_reraised {originals : List (String × String)} {f : Failure P}
    (encoded : List.Forall₂ (Encoded conv) originals f.chain) {e err : PyException P}
    (restored : fromFailure conv f = .ok err) (same : e.data = err.data) :
    self.toFailure conv e = .ok f := by
  obtain ⟨err', restored', preset⟩ := fromFailure_encoded encoded
  rw [restored] at restored'
  cases restored'
  have sameProto : e.preset = err.preset := by simp only [PyException.preset, same]
  exact toFailure_restored encoding attributes encoded (sameProto.trans preset)

/-- The failure of an own exception. -/
theorem own_encoded (reads : conv.Reads) {e : PyException P} {originals : List (String × String)}
    (own : Own self conv e originals) :
    ∃ f, self.toFailure conv e = .ok f ∧ List.Forall₂ (Encoded conv) originals f.chain := by
  induction own with
  | @last e plain fresh converts noCause =>
    obtain ⟨node, converted, encoded⟩ := fresh_encoded encoding attributes reads converts
    refine ⟨⟨node, none⟩, ?_, .cons encoded .nil⟩
    rw [self.toFailure_ok fresh converted, noCause]
  | @caused e cause plain causes fresh converts followed own ih =>
    obtain ⟨node, converted, encoded⟩ := fresh_encoded encoding attributes reads converts
    obtain ⟨f, rest, restEncoded⟩ := ih
    refine ⟨⟨node, some f⟩, ?_, .cons encoded restEncoded⟩
    rw [self.toFailure_ok fresh converted, followed]
    simp only [rest]
    rfl
  | @decoded original e err f chain own produced restored same ih =>
    obtain ⟨f', produced', encoded⟩ := ih
    rw [produced] at produced'
    cases produced'
    exact ⟨f, toFailure_reraised encoding attributes encoded restored same, encoded⟩

/-- The cause of a failure this converter produced is itself one it produced. -/
theorem own_cause (reads : conv.Reads) {e : PyException P} {originals : List (String × String)}
    (own : Own self conv e originals) {node : FailureNode P} {cause : Failure P}
    (produced : self.toFailure conv e = .ok ⟨node, some cause⟩) :
    ∃ e', Own self conv e' originals.tail ∧ self.toFailure conv e' = .ok cause := by
  induction own generalizing node with
  | last fresh converts noCause =>
    obtain ⟨encoded, converted, -⟩ := fresh_encoded encoding attributes reads converts
    rw [self.toFailure_ok fresh converted, noCause] at produced
    cases produced
  | @caused e cause' plain causes fresh converts followed own ih =>
    obtain ⟨encoded, converted, -⟩ := fresh_encoded encoding attributes reads converts
    rw [self.toFailure_ok fresh converted, followed] at produced
    obtain ⟨f, rest, ⟨⟩⟩ := bind_eq_ok.mp produced
    exact ⟨cause', own, rest⟩
  | @decoded original e err f chain own first restored same ih =>
    -- The restored error converts to the failure it was restored from.
    obtain ⟨_, first', encoded⟩ := own_encoded encoding attributes reads own
    rw [first] at first'
    cases first'
    rw [toFailure_reraised encoding attributes encoded restored same] at produced
    cases produced
    exact ih first

/-- So the errors in the cause chain of a restored error are own as well, and
    may be raised or linked again. -/
theorem own_restored_cause (reads : conv.Reads) {e err cause : PyException P} {f : Failure P}
    {originals : List (String × String)} (own : Own self conv e originals)
    (produced : self.toFailure conv e = .ok f) (restored : fromFailure conv f = .ok err)
    (linked : err.cause = some cause) : Own self conv cause originals.tail := by
  obtain ⟨node, _ | g⟩ := f
  · obtain ⟨error, -, ⟨⟩⟩ := bind_eq_ok.mp restored
    cases linked
  · obtain ⟨error, -, rest⟩ := bind_eq_ok.mp restored
    obtain ⟨c, restoredCause, ⟨⟩⟩ := bind_eq_ok.mp rest
    cases linked
    obtain ⟨e', own', produced'⟩ := own_cause encoding attributes reads own produced
    exact Own.decoded own' produced' restoredCause rfl

end Encoding

/-- With `encode_common_attributes`, every node of the failure of an own
    exception shows `"Encoded failure"` and no stack trace, and its encoded
    attributes decode to the message and the stack trace the exception was first
    converted with; and `to_failure(from_failure(f)) = f` for that failure. -/
theorem encoded_attributes_hidden (self : DefaultFailureConverter) (conv : PayloadConverter P)
    (encoding : self.encodeCommonAttributes = true) (attributes : conv.RoundTripsAttributes)
    (reads : conv.Reads) (e : PyException P) (originals : List (String × String))
    (own : Own self conv e originals) :
    ∃ f, self.toFailure conv e = .ok f ∧ List.Forall₂ (Hidden conv) originals f.chain ∧
      ∃ err, fromFailure conv f = .ok err ∧ self.toFailure conv err = .ok f := by
  obtain ⟨f, produced, encoded⟩ := own_encoded encoding attributes reads own
  obtain ⟨err, restored, preset⟩ := fromFailure_encoded encoded
  refine ⟨f, produced, encoded.imp fun _ _ node => node.hidden, err, restored, ?_⟩
  exact toFailure_restored encoding attributes encoded preset

/-- The failure of `childFailed` as an error again, raised anew: its traceback is
    the new one. -/
def childFailedAgain : PyException PyObject :=
  ⟨.failureError "child failed"
      (.childWorkflowError "default" "w1" "r1" "Order" 7 8 (some .nonRetryableFailure))
      (some ⟨{ message := "child failed"
               stackTrace := "File a.py"
               encodedAttributes := some (commonAttributes "child failed" "File a.py")
               failureInfo := some (.childWorkflowExecutionFailureInfo
                { «namespace» := "default"
                  workflowExecution := some { workflowId := "w1", runId := "r1" }
                  workflowType := some "Order"
                  initiatedEventId := 7
                  startedEventId := 8
                  retryState := 2 }) },
        some ⟨{ message := "Encoded failure"
                encodedAttributes := some (commonAttributes "timed out" "")
                failureInfo := some (.timeoutFailureInfo
                  { timeoutType := 4, lastHeartbeatDetails := some ⟨[.str "progress"]⟩ }) },
          none⟩⟩),
    some ["File b.py"], true, none, none, false⟩

/-- An ordinary exception raised from it. -/
def wrappedAgain : PyException PyObject :=
  ⟨.ordinary "RuntimeError" (.ok "order failed"), none, true, some childFailedAgain, none, true⟩

theorem wrappedAgain_own : Own ⟨true⟩ wholeValues wrappedAgain
    [("order failed", ""), ("child failed", "File a.py"), ("timed out", "")] := by
  have timedOut : Own ⟨true⟩ wholeValues
      ⟨.failureError "timed out" (.timeoutError (some .heartbeat) [.str "progress"]) none,
        none, true, none, none, false⟩ [("timed out", "")] := Own.last rfl rfl rfl
  have childFailed : Own ⟨true⟩ wholeValues childFailed
      [("child failed", "File a.py"), ("timed out", "")] := Own.caused rfl rfl rfl timedOut
  exact Own.caused rfl rfl rfl (Own.decoded childFailed rfl rfl rfl)

theorem encoded_attributes_hidden_wrappedAgain :
    ∃ f, (DefaultFailureConverter.mk true).toFailure wholeValues wrappedAgain = .ok f ∧
      List.Forall₂ (Hidden wholeValues)
        [("order failed", ""), ("child failed", "File a.py"), ("timed out", "")] f.chain ∧
      ∃ err, fromFailure wholeValues f = .ok err ∧
        (DefaultFailureConverter.mk true).toFailure wholeValues err = .ok f :=
  encoded_attributes_hidden ⟨true⟩ wholeValues rfl wholeValues_attributes
    (fun _ payloads _ => ⟨payloads, rfl⟩) wrappedAgain _ wrappedAgain_own

end TemporalSdk.Converter
