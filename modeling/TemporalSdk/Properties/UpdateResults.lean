import TemporalSdk.Client.UpdateHandle
import TemporalSdk.Properties.FailureChains

/-!
# The result of an update, more than once

A handle keeps the outcome of its update, and every call of `result` reads it anew.
Reading a failure decodes it in place, so that the next call decodes what is decoded
already.

## Main result

`result_idempotent_iff`: any number of calls on a handle with a known outcome return the
same value, or raise `WorkflowUpdateFailedError` with the same cause, exactly when the
outcome can be decoded and converted at all and, if it is a failure and there is a
codec, each payload collection that has been decoded in place is left as it is when it
is decoded in place again. A codec that answers with the very container it was given
leaves that empty. The condition is met by every success and without a codec, and then
the calls end in the same way also where they raise. `second_result_differs` is a codec
that rejects what is not encoded.

## Proof strategy

Decoding in place is a `Rewrite` of the failure: what has to be repeatable is split into
the nodes of the chain, and a node into its two collections. The cause that is raised
carries the failure as it was decoded, so equal causes mean that decoding again has
changed nothing.
-/
namespace TemporalSdk.Converter

open Rewrite

variable {P T : Type}

namespace PayloadCodec

variable (codec : PayloadCodec P Unit)

/-! ### Codecs that leave decoded payloads as they are -/

/-- What the collection is decoded to is decoded to the same payloads. -/
def Settles (payloads : List P) : Prop :=
  ∀ decoded, (codec.decode payloads ()).1 = .ok decoded →
    (codec.decode decoded ()).1 = .ok decoded

/-- The same for encoded attributes: the first payload of an answer is kept. -/
def SettlesAttributes (attributes : P) : Prop :=
  ∀ first others, (codec.decode [attributes] ()).1 = .ok (first :: others) →
    ∃ others', (codec.decode [first] ()).1 = .ok (first :: others')

def SettlesNode (node : FailureNode P) : Prop :=
  (∀ attributes, node.encodedAttributes = some attributes → codec.SettlesAttributes attributes) ∧
    ∀ details, node.details = some details → codec.Settles details.payloads

/-- At every cause depth. -/
def SettlesFailure (failure : Failure P) : Prop := ∀ node ∈ failure.chain, codec.SettlesNode node

variable {codec}

theorem repeatable_details {details : Payloads P} :
    Repeatable codec.decodeDetailsInPlace details ↔ codec.Settles details.payloads := by
  cases answered : (codec.decode details.payloads ()).1 with
  | error e => simp [Repeatable, decodeDetailsInPlace, Settles, answered]
  | ok decoded =>
    -- The second run is on what the codec returned.
    simp only [Repeatable, decodeDetailsInPlace, Settles, answered, Except.ok.injEq]
    constructor
    · intro same decoded' is
      subst is
      cases again : (codec.decode decoded ()).1 with
      | error e => simp [again] at same
      | ok twice =>
        simp only [again, Prod.mk.injEq, true_and, Payloads.mk.injEq] at same
        rw [same]
    · intro settles
      rw [settles decoded rfl]

theorem repeatable_attributes {attributes : P} :
    Repeatable codec.decodeAttributesInPlace attributes ↔ codec.SettlesAttributes attributes := by
  cases answered : (codec.decode [attributes] ()).1 with
  | error e => simp [Repeatable, decodeAttributesInPlace, SettlesAttributes, answered]
  | ok decoded =>
    cases decoded with
    | nil => simp [Repeatable, decodeAttributesInPlace, SettlesAttributes, answered]
    | cons first others =>
      simp only [Repeatable, decodeAttributesInPlace, SettlesAttributes, answered,
        Except.ok.injEq, List.cons.injEq]
      constructor
      · rintro same first' others' ⟨is, -⟩
        subst is
        cases again : (codec.decode [first] ()).1 with
        | error e => simp [again] at same
        | ok twice =>
          cases twice with
          | nil => simp [again] at same
          | cons first' others' =>
            simp only [again, Prod.mk.injEq, true_and] at same
            exact ⟨others', by rw [same]⟩
      · intro settles
        obtain ⟨others', again⟩ := settles first others ⟨rfl, rfl⟩
        rw [again]

end PayloadCodec

/-- A codec that answers what it has decoded with the container, since there is nothing
    to decode in it, empties the collection the second time. -/
theorem ContainerCodec.not_settles {codec : ContainerCodec P} {payloads decoded : List P}
    (once : (codec.emptying.decode payloads ()).1 = .ok decoded) (nonempty : decoded ≠ [])
    (again : codec.answersContainer decoded = true) : ¬ codec.emptying.Settles payloads := by
  intro settles
  have kept := settles decoded once
  have emptied : (codec.emptying.decode decoded ()).1 = .ok [] := by
    simp [ContainerCodec.emptying, again]
  rw [emptied] at kept
  apply nonempty
  exact (Except.ok.inj kept).symm

/-! ### One node -/

theorem FailureInfo.details_withDetails (info : FailureInfo P) (details : Option (Payloads P))
    (shape : details.isSome = info.details.isSome) :
    (info.withDetails details).details = details := by
  cases info with
  | applicationFailureInfo | timeoutFailureInfo | canceledFailureInfo
  | resetWorkflowFailureInfo => rfl
  | _ =>
    -- No payload collection: there was none to write.
    cases details with
    | none => rfl
    | some payloads => cases shape

theorem FailureInfo.withDetails_withDetails (info : FailureInfo P)
    (details details' : Option (Payloads P)) :
    (info.withDetails details).withDetails details' = info.withDetails details' := by
  cases info <;> rfl

namespace FailureNode

theorem parts_withParts (node : FailureNode P) (parts : Option P × Option (Payloads P))
    (shape : parts.2.isSome = node.details.isSome) : (node.withParts parts).parts = parts := by
  have details : (node.withParts parts).details = parts.2 := by
    cases info : node.failureInfo with
    | none =>
      rw [FailureNode.details, info] at shape
      cases written : parts.2 with
      | none => simp [FailureNode.details, withParts, info]
      | some payloads =>
        rw [written] at shape
        cases shape
    | some info' =>
      simp only [FailureNode.details, info, Option.bind_some] at shape
      simp only [FailureNode.details, withParts, info, Option.map_some, Option.bind_some]
      exact info'.details_withDetails parts.2 shape
  exact Prod.ext rfl details

theorem withParts_withParts (node : FailureNode P)
    (parts parts' : Option P × Option (Payloads P)) :
    (node.withParts parts).withParts parts' = node.withParts parts' := by
  cases info : node.failureInfo with
  | none => simp [withParts, info]
  | some info' => simp [withParts, info, FailureInfo.withDetails_withDetails]

end FailureNode

theorem isSome_pair_onSome {ε α β : Type} (x : Rewrite ε α) (y : Rewrite ε β)
    (m : Option α × Option β) :
    (pair (onSome x) (onSome y) m).2.2.isSome = m.2.isSome := by
  obtain ⟨a, b⟩ := m
  cases first : (onSome x a).1 with
  | error e => rw [pair_of_raises (m := (a, b)) first]
  | ok u =>
    rw [pair_of_returns (m := (a, b)) first]
    cases b <;> rfl

variable {codec : PayloadCodec P Unit}

theorem repeatable_node_parts {node : FailureNode P} :
    Repeatable codec.decodeNodeInPlace node ↔
      Repeatable (pair (onSome codec.decodeAttributesInPlace)
        (onSome codec.decodeDetailsInPlace)) node.parts := by
  apply repeatable_within
  · intro node
    apply node.parts_withParts
    exact isSome_pair_onSome _ _ _
  · exact FailureNode.withParts_withParts

theorem settlesNode_iff {node : FailureNode P} :
    codec.SettlesNode node ↔
      Repeatable (onSome codec.decodeAttributesInPlace) node.encodedAttributes ∧
        Repeatable (onSome codec.decodeDetailsInPlace) node.details := by
  simp only [PayloadCodec.SettlesNode, repeatable_onSome, PayloadCodec.repeatable_attributes,
    PayloadCodec.repeatable_details]

theorem PayloadCodec.SettlesNode.repeatable {node : FailureNode P}
    (settles : codec.SettlesNode node) : Repeatable codec.decodeNodeInPlace node := by
  obtain ⟨attributes, details⟩ := settlesNode_iff.mp settles
  exact repeatable_node_parts.mpr (attributes.pair details)

theorem settlesNode_of_repeatable {node : FailureNode P}
    (returns : Returns codec.decodeNodeInPlace node)
    (repeatable : Repeatable codec.decodeNodeInPlace node) : codec.SettlesNode node := by
  have parts := repeatable_node_parts.mp repeatable
  exact settlesNode_iff.mpr ((repeatable_pair (returns_within.mp returns)).mp parts)

/-! ### The chain -/

theorem decodeFailureInPlace_caused {node : FailureNode P} {cause : Failure P} :
    codec.decodeFailureInPlace ⟨node, some cause⟩ =
      ((pair codec.decodeNodeInPlace codec.decodeFailureInPlace (node, cause)).1,
        ⟨(pair codec.decodeNodeInPlace codec.decodeFailureInPlace (node, cause)).2.1,
          some (pair codec.decodeNodeInPlace codec.decodeFailureInPlace (node, cause)).2.2⟩) := by
  rw [PayloadCodec.decodeFailureInPlace, pair]
  rcases codec.decodeNodeInPlace node with ⟨e | u, node'⟩
  · rfl
  · rfl

theorem returns_caused {node : FailureNode P} {cause : Failure P} :
    Returns codec.decodeFailureInPlace ⟨node, some cause⟩ ↔
      Returns codec.decodeNodeInPlace node ∧ Returns codec.decodeFailureInPlace cause := by
  rw [Returns, decodeFailureInPlace_caused]
  exact returns_pair

theorem repeatable_caused {node : FailureNode P} {cause : Failure P} :
    Repeatable codec.decodeFailureInPlace ⟨node, some cause⟩ ↔
      Repeatable (pair codec.decodeNodeInPlace codec.decodeFailureInPlace) (node, cause) := by
  simp only [Repeatable, decodeFailureInPlace_caused, Prod.ext_iff, Failure.mk.injEq,
    Option.some.injEq]

theorem repeatable_last {node : FailureNode P} :
    Repeatable codec.decodeFailureInPlace ⟨node, none⟩ ↔
      Repeatable codec.decodeNodeInPlace node := by
  simp only [Repeatable, PayloadCodec.decodeFailureInPlace, Prod.ext_iff, Failure.mk.injEq,
    and_true]

theorem settlesFailure_caused {node : FailureNode P} {cause : Failure P} :
    codec.SettlesFailure ⟨node, some cause⟩ ↔
      codec.SettlesNode node ∧ codec.SettlesFailure cause := List.forall_mem_cons

theorem settlesFailure_last {node : FailureNode P} :
    codec.SettlesFailure ⟨node, none⟩ ↔ codec.SettlesNode node := List.forall_mem_singleton

theorem PayloadCodec.SettlesFailure.repeatable {failure : Failure P}
    (settles : codec.SettlesFailure failure) : Repeatable codec.decodeFailureInPlace failure := by
  fun_induction Failure.chain failure with
  | case1 node cause ih =>
    obtain ⟨first, rest⟩ := settlesFailure_caused.mp settles
    apply repeatable_caused.mpr
    exact first.repeatable.pair (ih rest)
  | case2 node =>
    apply repeatable_last.mpr
    exact (settlesFailure_last.mp settles).repeatable

theorem settlesFailure_of_repeatable {failure : Failure P}
    (returns : Returns codec.decodeFailureInPlace failure)
    (repeatable : Repeatable codec.decodeFailureInPlace failure) :
    codec.SettlesFailure failure := by
  fun_induction Failure.chain failure with
  | case1 node cause ih =>
    -- No node raises, so all of them have been visited both times.
    have ends := returns_caused.mp returns
    have parts := (repeatable_pair (returns_pair.mpr ends)).mp (repeatable_caused.mp repeatable)
    apply settlesFailure_caused.mpr
    exact ⟨settlesNode_of_repeatable ends.1 parts.1, ih ends.2 parts.2⟩
  | case2 node =>
    apply settlesFailure_last.mpr
    exact settlesNode_of_repeatable returns (repeatable_last.mp repeatable)

/-! ### What decoding in place returns -/

/-- A rewriting as a program that returns the message. -/
def returned {ε α : Type} (x : Rewrite ε α) (a : α) : Except ε α × Unit :=
  ((x a).1.map fun _ => (x a).2, ())

theorem decodeWrapper_run (details : Payloads P) :
    codec.decodeWrapper details () = returned codec.decodeDetailsInPlace details := by
  rw [PayloadCodec.decodeWrapper, returned, PayloadCodec.decodeDetailsInPlace, Eff.bind_run]
  rcases codec.decode details.payloads () with ⟨e | decoded, u⟩
  · rfl
  · rfl

theorem applyToDetails_run (details : Option (Payloads P)) :
    applyToDetails codec.decodeWrapper details () =
      returned (onSome codec.decodeDetailsInPlace) details := by
  cases details with
  | none => rfl
  | some details =>
    rw [applyToDetails, Eff.bind_run, decodeWrapper_run, returned, returned, onSome]
    cases (codec.decodeDetailsInPlace details).1 <;> rfl

theorem applyToEncodedAttributes_run (attributes : Option P) :
    applyToEncodedAttributes codec.decodeWrapper attributes () =
      returned (onSome codec.decodeAttributesInPlace) attributes := by
  cases attributes with
  | none => rfl
  | some attributes =>
    rw [applyToEncodedAttributes, Eff.bind_run, decodeWrapper_run, returned, returned, onSome,
      PayloadCodec.decodeDetailsInPlace, PayloadCodec.decodeAttributesInPlace]
    rcases (codec.decode [attributes] ()).1 with e | _ | ⟨first, others⟩ <;> rfl

/-- The variants of the info, one by one. -/
theorem applyToFailureInfo_run (info : FailureInfo P) :
    applyToFailureInfo codec.decodeWrapper info () =
      ((returned (onSome codec.decodeDetailsInPlace) info.details).1.map info.withDetails, ()) := by
  cases info with
  | applicationFailureInfo | timeoutFailureInfo | canceledFailureInfo
  | resetWorkflowFailureInfo =>
    simp only [applyToFailureInfo, Eff.bind_run, applyToDetails_run, FailureInfo.details, returned]
    cases (onSome codec.decodeDetailsInPlace _).1 <;> rfl
  | _ => rfl

theorem applyToFailureNode_run (node : FailureNode P) :
    applyToFailureNode codec.decodeWrapper node () = returned codec.decodeNodeInPlace node := by
  rw [applyToFailureNode, Eff.bind_run, applyToEncodedAttributes_run, returned, returned,
    PayloadCodec.decodeNodeInPlace, within]
  -- The attributes come first; if they raise, the details are not visited.
  cases first : (onSome codec.decodeAttributesInPlace node.encodedAttributes).1 with
  | error e =>
    rw [pair_of_raises (m := node.parts) first]
    rfl
  | ok u =>
    rw [pair_of_returns (m := node.parts) first]
    simp only [Except.map, Eff.bind_run, FailureNode.parts, FailureNode.withParts,
      FailureNode.details]
    cases info : node.failureInfo with
    | none => rfl
    | some info' =>
      simp only [applyToOption, Eff.bind_run, applyToFailureInfo_run, returned, Option.bind_some]
      cases (onSome codec.decodeDetailsInPlace info'.details).1 <;> rfl

/-- Where nothing is raised, the failure is left as the failure that `decodeFailure`
    returns. -/
theorem decodeFailure_run (failure : Failure P) :
    codec.decodeFailure failure () = returned codec.decodeFailureInPlace failure := by
  -- Along the chain of causes, node by node.
  rw [PayloadCodec.decodeFailure]
  fun_induction Failure.chain failure with
  | case1 node cause ih =>
    rw [applyToFailurePayloads, Eff.bind_run, applyToFailureNode_run, returned, returned,
      PayloadCodec.decodeFailureInPlace]
    rcases codec.decodeNodeInPlace node with ⟨e | u, node'⟩
    · rfl
    · simp only [Except.map, Eff.bind_run, ih, returned]
      cases (codec.decodeFailureInPlace cause).1 <;> rfl
  | case2 node =>
    rw [applyToFailurePayloads, Eff.bind_run, applyToFailureNode_run, returned, returned,
      PayloadCodec.decodeFailureInPlace]
    cases (codec.decodeNodeInPlace node).1 <;> rfl

end TemporalSdk.Converter

namespace TemporalSdk.Client

open Converter

variable {P T : Type} {converter : Converter.DataConverter P T} {resultType : Option T}

/-! ### Reading an outcome -/

/-- What the payloads of the failure are decoded to: the failure itself without a codec. -/
def DecodesTo (converter : Converter.DataConverter P T) (failure decoded : Failure P) : Prop :=
  match converter.payloadCodec with
  | none => decoded = failure
  | some codec => codec.emptying.decodeFailure failure () = (.ok decoded, ())

namespace UpdateOutcome

/-- The outcome can be decoded and converted. -/
def Readable (converter : Converter.DataConverter P T) (resultType : Option T) :
    UpdateOutcome P → Prop
  | .success payloads => payloads ≠ [] →
      ∃ values, converter.decode payloads (resultType.map fun hint => [hint]) = .ok values
  | .failure tree =>
      ∃ decoded cause, DecodesTo converter tree decoded ∧
        converter.fromFailure decoded = .ok cause
  | .unset => True

/-- A codec leaves the payloads of the failure as it has decoded them. -/
def Settles (converter : Converter.DataConverter P T) : UpdateOutcome P → Prop
  | .success _ => True
  | .failure tree =>
      ∀ codec, converter.payloadCodec = some codec → codec.emptying.SettlesFailure tree
  | .unset => True

end UpdateOutcome

/-- A value, or `WorkflowUpdateFailedError`. -/
def Reported : Except (ClientError P) UpdateValue → Prop
  | .ok _ => True
  | .error (.workflowUpdateFailedError _) => True
  | .error _ => False

theorem decodesTo_codec {codec : ContainerCodec P}
    (given : converter.payloadCodec = some codec) {failure decoded : Failure P} :
    DecodesTo converter failure decoded ↔
      codec.emptying.decodeFailureInPlace failure = (.ok (), decoded) := by
  rw [DecodesTo, given]
  dsimp only
  rw [decodeFailure_run, returned]
  rcases codec.emptying.decodeFailureInPlace failure with ⟨e | u, left⟩
  · constructor <;> nofun
  · simp [Except.map]

/-- A failure is decoded and then converted. -/
theorem decodeFailure_eq_ok {failure decoded : Failure P} {cause : PyException P} :
    converter.decodeFailure failure = (.ok cause, decoded) ↔
      DecodesTo converter failure decoded ∧ converter.fromFailure decoded = .ok cause := by
  cases given : converter.payloadCodec with
  | none =>
    simp only [Converter.DataConverter.decodeFailure, DecodesTo, given, Prod.mk.injEq]
    constructor
    · rintro ⟨converted, rfl⟩
      exact ⟨rfl, converted⟩
    · rintro ⟨rfl, converted⟩
      exact ⟨converted, rfl⟩
  | some codec =>
    rw [decodesTo_codec given, Converter.DataConverter.decodeFailure, given]
    dsimp only
    rcases codec.emptying.decodeFailureInPlace failure with ⟨e | u, left⟩
    · -- The codec has raised: there is nothing to convert.
      constructor <;> simp
    · simp only [Prod.mk.injEq, true_and]
      constructor
      · rintro ⟨converted, rfl⟩
        exact ⟨rfl, converted⟩
      · rintro ⟨rfl, converted⟩
        exact ⟨converted, rfl⟩

theorem reported_iff {outcome : UpdateOutcome P} :
    Reported (WorkflowUpdateHandle.convertOutcome converter resultType outcome).1 ↔
      outcome.Readable converter resultType := by
  cases outcome with
  | unset => exact Iff.rfl
  | success payloads =>
    rw [WorkflowUpdateHandle.convertOutcome, UpdateOutcome.Readable]
    cases payloads with
    | nil => simp [Reported]
    | cons payload others =>
      cases decoded : converter.decode (payload :: others) (resultType.map fun hint => [hint]) with
      | ok values => simp [Reported]
      | error e => cases e <;> simp [Reported, ClientError.ofDecoding]
  | failure failure =>
    rw [WorkflowUpdateHandle.convertOutcome, UpdateOutcome.Readable]
    constructor
    · intro reported
      rcases ran : converter.decodeFailure failure with ⟨e | cause, decoded⟩
      · rw [ran] at reported
        cases e <;> exact reported.elim
      · exact ⟨decoded, cause, decodeFailure_eq_ok.mp ran⟩
    · rintro ⟨decoded, cause, readable⟩
      rw [decodeFailure_eq_ok.mpr readable]
      trivial

/-! ### Reading it again -/

theorem decodeFailure_again {failure : Failure P}
    (settles : ∀ codec, converter.payloadCodec = some codec →
      codec.emptying.SettlesFailure failure) :
    converter.decodeFailure (converter.decodeFailure failure).2 =
      converter.decodeFailure failure := by
  rw [Converter.DataConverter.decodeFailure, Converter.DataConverter.decodeFailure]
  cases given : converter.payloadCodec with
  | none => rfl
  | some codec =>
    have again := (settles codec given).repeatable
    rw [Rewrite.Repeatable] at again
    rcases ran : codec.emptying.decodeFailureInPlace failure with ⟨e | u, left⟩
    · rw [ran] at again
      simp only [ran, again]
    · rw [ran] at again
      simp only [ran, again]

theorem convertOutcome_again {outcome : UpdateOutcome P} (settles : outcome.Settles converter) :
    WorkflowUpdateHandle.convertOutcome converter resultType
        (WorkflowUpdateHandle.convertOutcome converter resultType outcome).2 =
      WorkflowUpdateHandle.convertOutcome converter resultType outcome := by
  cases outcome with
  | unset => rfl
  | success payloads =>
    -- The payloads of a success are decoded into values, and stay.
    have left : (WorkflowUpdateHandle.convertOutcome converter resultType (.success payloads)).2 =
        .success payloads := by
      rw [WorkflowUpdateHandle.convertOutcome]
      split
      · rfl
      · split <;> rfl
    rw [left]
  | failure failure =>
    have again := decodeFailure_again settles
    rw [WorkflowUpdateHandle.convertOutcome]
    rcases ran : converter.decodeFailure failure with ⟨e | cause, left⟩
    · rw [ran] at again
      simp only [WorkflowUpdateHandle.convertOutcome, again]
    · rw [ran] at again
      simp only [WorkflowUpdateHandle.convertOutcome, again]

/-- Only message and stack trace are restored from the encoded attributes. -/
theorem decodeAttributes_eq (conv : PayloadConverter P) (node : FailureNode P) :
    ∃ message stackTrace,
      decodeAttributes conv node = { node with message := message, stackTrace := stackTrace } := by
  rw [decodeAttributes]
  split
  · exact ⟨node.message, node.stackTrace, rfl⟩
  · split
    · exact ⟨_, _, rfl⟩
    · exact ⟨node.message, node.stackTrace, rfl⟩

/-- The error carries the failure it was made of. -/
theorem fromFailure_data {failure : Failure P} {cause : PyException P}
    (converted : converter.fromFailure failure = .ok cause) :
    ∃ message info, cause.data = .failureError message info
      (some ⟨decodeAttributes (converter.payloadConverter none) failure.node, failure.cause⟩) := by
  rw [Converter.DataConverter.fromFailure] at converted
  obtain ⟨node, caused⟩ := failure
  cases made : Converter.fromFailure (converter.payloadConverter none) ⟨node, caused⟩ with
  | error e =>
    rw [made] at converted
    cases converted
  | ok err =>
    rw [made] at converted
    cases converted
    cases caused with
    | none =>
      obtain ⟨⟨message, info⟩, -, made⟩ := bind_eq_ok.mp made
      cases made
      exact ⟨message, info, rfl⟩
    | some causedBy =>
      obtain ⟨⟨message, info⟩, -, made⟩ := bind_eq_ok.mp made
      obtain ⟨causeError, -, made⟩ := bind_eq_ok.mp made
      cases made
      exact ⟨message, info, rfl⟩

/-- Of the outermost node only the payloads are rewritten. -/
theorem decodeFailureInPlace_node (codec : PayloadCodec P Unit) (failure : Failure P) :
    ∃ parts, (codec.decodeFailureInPlace failure).2.node = failure.node.withParts parts := by
  obtain ⟨node, caused⟩ := failure
  cases caused with
  | none => exact ⟨_, rfl⟩
  | some cause =>
    rw [decodeFailureInPlace_caused]
    cases ends : (codec.decodeNodeInPlace node).1 with
    | error e =>
      rw [Rewrite.pair_of_raises (m := (node, cause)) ends]
      exact ⟨_, rfl⟩
    | ok u =>
      rw [Rewrite.pair_of_returns (m := (node, cause)) ends]
      exact ⟨_, rfl⟩

/-- Decoding the failure again raises an equal cause only if it changes nothing. -/
theorem same_of_equal_causes {codec : PayloadCodec P Unit} {failure : Failure P}
    {cause : PyException P} (once : converter.fromFailure failure = .ok cause)
    (again : converter.fromFailure (codec.decodeFailureInPlace failure).2 = .ok cause) :
    (codec.decodeFailureInPlace failure).2 = failure := by
  obtain ⟨message, info, data⟩ := fromFailure_data once
  obtain ⟨message', info', data'⟩ := fromFailure_data again
  obtain ⟨parts, node⟩ := decodeFailureInPlace_node codec failure
  generalize (codec.decodeFailureInPlace failure).2 = left at *
  obtain ⟨node₁, cause₁⟩ := failure
  obtain ⟨node₂, cause₂⟩ := left
  rw [data] at data'
  simp only [ExceptionData.failureError.injEq, Option.some.injEq, Failure.mk.injEq,
    Failure.node, Failure.cause] at data' node
  obtain ⟨-, -, nodes, rfl⟩ := data'
  obtain ⟨m₁, s₁, eq₁⟩ := decodeAttributes_eq (converter.payloadConverter none) node₁
  obtain ⟨m₂, s₂, eq₂⟩ := decodeAttributes_eq (converter.payloadConverter none) node₂
  rw [eq₁, eq₂] at nodes
  rw [FailureNode.mk.injEq] at nodes
  obtain ⟨-, -, -, attributes, info⟩ := nodes
  -- Message and stack trace are not decoded, the rest is in the errors.
  rw [node] at attributes info ⊢
  simp only [FailureNode.withParts] at attributes info ⊢
  rw [← attributes, ← info]

theorem settles_of_equal_results {outcome : UpdateOutcome P}
    (reported : Reported (WorkflowUpdateHandle.convertOutcome converter resultType outcome).1)
    (again : (WorkflowUpdateHandle.convertOutcome converter resultType
        (WorkflowUpdateHandle.convertOutcome converter resultType outcome).2).1 =
      (WorkflowUpdateHandle.convertOutcome converter resultType outcome).1) :
    outcome.Settles converter := by
  cases outcome with
  | success payloads => trivial
  | unset => trivial
  | failure failure =>
    intro codec given
    obtain ⟨decoded, cause, readable⟩ := reported_iff.mp reported
    simp only [WorkflowUpdateHandle.convertOutcome, decodeFailure_eq_ok.mpr readable] at again
    obtain ⟨decodes, converted⟩ := readable
    have first := (decodesTo_codec given).mp decodes
    rcases second : converter.decodeFailure decoded with ⟨e | cause', left⟩
    · rw [second] at again
      cases e <;> cases again
    · rw [second] at again
      cases again
      obtain ⟨decodesAgain, convertedAgain⟩ := decodeFailure_eq_ok.mp second
      have second := (decodesTo_codec given).mp decodesAgain
      -- Both calls raise the same cause, so the failure was left as it was.
      have same : (codec.emptying.decodeFailureInPlace decoded).2 = decoded := by
        apply same_of_equal_causes converted
        rw [second]
        exact convertedAgain
      rw [second] at same
      cases same
      apply settlesFailure_of_repeatable
      · rw [Rewrite.Returns, first]
      · rw [Rewrite.Repeatable, first]
        exact second

/-! ### Successive calls -/

namespace WorkflowUpdateHandle

variable (self : WorkflowUpdateHandle P T)

/-- The handle once it knows the outcome of its update. -/
def knowing (outcome : UpdateOutcome P) : WorkflowUpdateHandle P T :=
  { self with knownOutcome := some outcome }

/-- The outcome is read, and no network call is made. -/
theorem result_knowing (outcome : UpdateOutcome P) (answers : List (Answer (PollResponse P))) :
    (self.knowing outcome).result converter answers =
      some ((convertOutcome converter self.resultType outcome).1,
        self.knowing (convertOutcome converter self.resultType outcome).2) := rfl

theorem results_of_settles {outcome : UpdateOutcome P} (settles : outcome.Settles converter)
    (calls : List (List (Answer (PollResponse P)))) :
    (self.knowing outcome).results converter calls = some (List.replicate calls.length
      (convertOutcome converter self.resultType outcome).1) := by
  have again := @convertOutcome_again _ _ converter self.resultType _ settles
  -- The invariant of the calls: what is read of the outcome.
  suffices ∀ known, convertOutcome converter self.resultType known =
      convertOutcome converter self.resultType outcome →
      (self.knowing known).results converter calls = some (List.replicate calls.length
        (convertOutcome converter self.resultType outcome).1) from this outcome rfl
  induction calls with
  | nil =>
    intro known _
    rfl
  | cons answers calls ih =>
    intro known same
    rw [results, result_knowing, Option.bind_some, same]
    rw [ih _ again]
    rfl

/-- Any number of calls of `result` on a handle that knows the outcome, whatever the
    service would answer: they all end in the same way if the outcome is not a failure,
    or there is no codec, or the codec leaves decoded payloads as they are. With a
    value, or with a `WorkflowUpdateFailedError` and an equal cause, they all end
    exactly if moreover the outcome can be decoded and converted. -/
theorem result_idempotent_iff (converter : Converter.DataConverter P T)
    (self : WorkflowUpdateHandle P T) (outcome : UpdateOutcome P) :
    (outcome.Settles converter →
      ∃ ended, ∀ calls, (self.knowing outcome).results converter calls =
        some (List.replicate calls.length ended)) ∧
    ((∃ ended, Reported ended ∧ ∀ calls, (self.knowing outcome).results converter calls =
        some (List.replicate calls.length ended)) ↔
      outcome.Readable converter self.resultType ∧ outcome.Settles converter) := by
  refine ⟨fun settles => ⟨_, self.results_of_settles settles⟩, ?_, ?_⟩
  · rintro ⟨ended, reported, same⟩
    -- Two calls tell.
    have twice := same [[], []]
    simp only [results, result_knowing, Option.bind_some, Option.map_some, List.length_cons,
      List.length_nil, Option.some.injEq, List.replicate_succ, List.replicate_zero,
      List.cons.injEq, and_true] at twice
    obtain ⟨first, second⟩ := twice
    rw [← first] at reported second
    exact ⟨reported_iff.mp reported, settles_of_equal_results reported second⟩
  · rintro ⟨readable, settles⟩
    exact ⟨_, reported_iff.mpr readable, self.results_of_settles settles⟩

end WorkflowUpdateHandle

/-- Payloads with a flag that says whether they are encoded: the codec rejects those
    that are not. -/
def strictCodec : ContainerCodec (Bool × Nat) where
  encode payloads := pure (payloads.map fun payload => (true, payload.2))
  decode payloads :=
    if payloads.all Prod.fst then pure (payloads.map fun payload => (false, payload.2))
    else Eff.raise (.raised 0)
  answersContainer _ := false
  decode_container _ answered := absurd answered Bool.false_ne_true

def strictConverter : Converter.DataConverter (Bool × Nat) Unit where
  payloadConverter _ :=
    { toPayloads := fun _ => .ok []
      fromPayloads := fun payloads => .ok (payloads.map fun payload => .other payload.2) }
  payloadCodec := some strictCodec

/-- An update that failed with one detail. -/
def failedOutcome : UpdateOutcome (Bool × Nat) :=
  .failure ⟨{ message := "failed", failureInfo := some (.applicationFailureInfo
    { type := "MyError", details := some ⟨[(true, 7)]⟩ }) }, none⟩

def failedUpdate : WorkflowUpdateHandle (Bool × Nat) Unit where
  id := "update-id"
  workflowId := "workflow-id"
  workflowRunId := none
  resultType := none
  knownOutcome := some failedOutcome

/-- The first call raises `WorkflowUpdateFailedError` with the decoded detail, the
    second what the codec raises for a payload that is not encoded. -/
theorem second_result_differs :
    failedUpdate.results strictConverter [[], []] = some [
      .error (.workflowUpdateFailedError ⟨.failureError "failed"
        (.applicationError [.other 7] (some "MyError") false)
        (some ⟨{ message := "failed", failureInfo := some (.applicationFailureInfo
          { type := "MyError", details := some ⟨[(false, 7)]⟩ }) }, none⟩),
        none, true, none, none, false⟩),
      .error (.codecError (.raised 0))] ∧
    ¬ ∃ ended, ∀ calls, failedUpdate.results strictConverter calls =
      some (List.replicate calls.length ended) := by
  refine ⟨rfl, ?_⟩
  rintro ⟨ended, same⟩
  have twice := Option.some.inj (same [[], []])
  obtain ⟨first, second⟩ := List.cons.inj twice
  cases first
  cases List.head_eq_of_cons_eq second

end TemporalSdk.Client
