import TemporalSdk.Converter.Codec

/-!
# Codecs over failures

What `encode_failure` and `decode_failure` do to a failure tree, for codecs
that answer within the contract `PayloadCodec` documents.

## Main result

`failure_codec_round_trip`: for a codec with `decode(encode(ps)) = ps`,
`decode_failure` gives back what `encode_failure` was given. On the way each
payload collection of each node is passed to the codec exactly once, its answer
takes the collection's place, and everything else stays.

## Proof strategy

The visitor is checked from the inside out: one payload collection, one node,
then the chain of causes by induction. `Callee` is what the visitor relies on
of the codec; whether the codec has an inverse is a parameter, so that the same
lemmas serve codecs of which only the contract is known.
-/
namespace TemporalSdk.Converter

open Visitor

variable {P σ : Type} {r : Prop}

/-- The journal of a codec's calls. -/
abbrev Journal (P : Type) : Type := List (List P × Option (List P))

/-- The answer to a call is stored whole; of the answer to a single payload,
    the first payload is. -/
def Stored (call : List P × Option (List P)) (part : List P) : Prop :=
  ∃ answer, call.2 = some answer ∧ (part = answer ∨ call.1.length = 1 ∧ part = answer.take 1)

/-- A journaled callee that answers; when `r` holds, within the contract, and
    `back` undoes it. -/
def Callee (r : Prop) (forth back : List P → Eff (Journal P × σ) CodecError (List P)) : Prop :=
  ∀ ps, Passes (forth ps) fun qs calls =>
    calls = [(ps, some qs)] ∧ (ps ≠ [] → qs ≠ []) ∧
      (r → PayloadCodec.Fits ps qs ∧
        Passes (back qs) fun ps' calls' => ps' = ps ∧ calls'.map Prod.fst = [qs])

theorem stored_whole (ps qs : List P) :
    List.Forall₂ Stored [(ps, some qs)] [qs] := .cons ⟨qs, rfl, Or.inl rfl⟩ .nil

theorem stored_first (p q : P) (qs : List P) :
    List.Forall₂ Stored [([p], some (q :: qs))] [[q]] :=
  .cons ⟨q :: qs, rfl, Or.inr ⟨rfl, rfl⟩⟩ .nil

/-- The codec at its `encode`, with what is known of the way back. -/
theorem PayloadCodec.Encodes.callee {codec : PayloadCodec P σ} (encodes : codec.Encodes) :
    Callee codec.RoundTrips codec.journaled.encode codec.journaled.decode := by
  intro ps
  have returns : ∀ s, ∃ qs s', codec.encode ps s = (.ok qs, s') ∧ (ps ≠ [] → qs ≠ []) ∧
      (codec.RoundTrips → PayloadCodec.Fits ps qs ∧
        ∀ t, ∃ ps' t', codec.decode qs t = (.ok ps', t') ∧ ps' = ps) := by
    intro s
    obtain ⟨qs, s', ran, some⟩ := encodes ps s
    refine ⟨qs, s', ran, some, fun trips => ?_⟩
    obtain ⟨qs', s'', ran', fits, inverse⟩ := trips ps s
    rw [ran] at ran'
    cases ran'
    refine ⟨fits, fun t => ?_⟩
    obtain ⟨t', decoded⟩ := inverse t
    exact ⟨ps, t', decoded, rfl⟩
  apply Passes.mono (Passes.record returns)
  rintro qs calls ⟨rfl, some, inverse⟩
  refine ⟨rfl, some, fun trips => ⟨(inverse trips).1, ?_⟩⟩
  apply Passes.mono (Passes.record (inverse trips).2)
  rintro ps' calls ⟨rfl, rfl⟩
  exact ⟨rfl, rfl⟩

theorem PayloadCodec.RoundTrips.encodes {codec : PayloadCodec P σ} (trips : codec.RoundTrips) :
    codec.Encodes := by
  intro ps s
  obtain ⟨qs, s', ran, fits, -⟩ := trips ps s
  exact ⟨qs, s', ran, fun given => (fits given).1⟩

/-- A collection of one is answered by a collection of one. -/
theorem PayloadCodec.Fits.singleton {p q : P} {qs : List P}
    (fits : PayloadCodec.Fits [p] (q :: qs)) : qs = [] := by
  have few := (fits (List.cons_ne_nil p [])).2
  cases qs with
  | nil => rfl
  | cons q' qs =>
    simp only [List.length_cons, List.length_nil] at few
    omega

section Visit

variable {codec : PayloadCodec P (Journal P × σ)}

/-- The wrapper passes the payloads of a `Payloads` message to the codec. -/
theorem wrapper_carries (callee : Callee r codec.encode codec.decode) (payloads : Payloads P) :
    Carries r Stored codec.encodeWrapper codec.decodeWrapper (fun p => [p.payloads]) (fun _ => ())
      payloads := by
  apply Passes.bind (callee payloads.payloads)
  rintro qs calls ⟨rfl, -, inverse⟩
  apply Passes.pure
  refine ⟨rfl, stored_whole payloads.payloads qs, rfl, fun reversible => ?_⟩
  apply Passes.bind (inverse reversible).2
  rintro ps calls' ⟨rfl, given⟩
  apply Passes.pure
  rw [List.append_nil]
  exact ⟨rfl, given⟩

theorem details_carries (callee : Callee r codec.encode codec.decode)
    (details : Option (Payloads P)) :
    Carries r Stored (applyToDetails codec.encodeWrapper) (applyToDetails codec.decodeWrapper)
      detailsPayloads (Option.map fun _ => ()) details := by
  cases details with
  | none => exact Carries.none rfl rfl rfl
  | some details =>
    apply Carries.map some (wrapper_carries callee details) rfl
    · intro _
      rfl
    · intro _
      rfl
    · intro _ _
      rfl

/-- The encoded attributes are wrapped, and the first payload of the answer is
    copied back. The contract makes it the only one. -/
theorem encodedAttributes_carries (callee : Callee r codec.encode codec.decode)
    (attributes : Option P) :
    Carries r Stored (applyToEncodedAttributes codec.encodeWrapper)
      (applyToEncodedAttributes codec.decodeWrapper)
      (fun attributes => (attributes.map fun p => [p]).toList) (Option.map fun _ => ())
      attributes := by
  cases attributes with
  | none => exact Carries.none rfl rfl rfl
  | some p =>
    simp only [Carries, applyToEncodedAttributes, PayloadCodec.encodeWrapper,
      PayloadCodec.decodeWrapper, Eff.bind_assoc]
    apply Passes.bind (callee [p])
    rintro qs calls ⟨rfl, some, inverse⟩
    obtain ⟨q, qs, rfl⟩ := List.exists_cons_of_ne_nil (some (List.cons_ne_nil p []))
    apply Passes.pure
    refine ⟨rfl, stored_first p q qs, rfl, fun reversible => ?_⟩
    obtain ⟨fits, back⟩ := inverse reversible
    cases fits.singleton
    apply Passes.bind back
    rintro ps calls' ⟨rfl, given⟩
    apply Passes.pure
    rw [List.append_nil]
    exact ⟨rfl, given⟩

/-- One lemma for the info variants: four have a payload collection. -/
theorem failureInfo_carries (callee : Callee r codec.encode codec.decode) (info : FailureInfo P) :
    Carries r Stored (applyToFailureInfo codec.encodeWrapper) (applyToFailureInfo codec.decodeWrapper)
      (fun info => detailsPayloads info.details) FailureInfo.blank info := by
  cases info with
  | applicationFailureInfo info =>
    apply Carries.map (fun details => FailureInfo.applicationFailureInfo { info with details := details })
      (details_carries callee info.details) rfl (fun _ => rfl) (fun _ => rfl)
    intro details same
    simp only [FailureInfo.blank]
    cases details <;> cases given : info.details <;> simp_all
  | timeoutFailureInfo info =>
    apply Carries.map
      (fun details => FailureInfo.timeoutFailureInfo { info with lastHeartbeatDetails := details })
      (details_carries callee info.lastHeartbeatDetails) rfl (fun _ => rfl) (fun _ => rfl)
    intro details same
    simp only [FailureInfo.blank]
    cases details <;> cases given : info.lastHeartbeatDetails <;> simp_all
  | canceledFailureInfo info =>
    apply Carries.map (fun details => FailureInfo.canceledFailureInfo { info with details := details })
      (details_carries callee info.details) rfl (fun _ => rfl) (fun _ => rfl)
    intro details same
    simp only [FailureInfo.blank]
    cases details <;> cases given : info.details <;> simp_all
  | resetWorkflowFailureInfo info =>
    apply Carries.map
      (fun details => FailureInfo.resetWorkflowFailureInfo { info with lastHeartbeatDetails := details })
      (details_carries callee info.lastHeartbeatDetails) rfl (fun _ => rfl) (fun _ => rfl)
    intro details same
    simp only [FailureInfo.blank]
    cases details <;> cases given : info.lastHeartbeatDetails <;> simp_all
  | _ => exact Carries.none rfl rfl rfl

/-- A sub-message that may be absent carries what it carries when present. -/
theorem option_carries {α γ : Type} {forth back : α → Eff (Journal P × σ) CodecError α}
    {parts : α → List (List P)} {blank : α → γ} {a : Option α}
    (present : ∀ x, a = some x → Carries r Stored forth back parts blank x) :
    Carries r Stored (applyToOption forth) (applyToOption back) (fun a => (a.map parts).getD [])
      (Option.map blank) a := by
  cases a with
  | none => exact Carries.none rfl rfl rfl
  | some x =>
    apply Carries.map some (present x rfl) rfl
    · intro _
      rfl
    · intro _
      rfl
    · intro x' same
      rw [Option.map_some, Option.map_some, same]

theorem failureNode_carries (callee : Callee r codec.encode codec.decode) (node : FailureNode P) :
    Carries r Stored (applyToFailureNode codec.encodeWrapper) (applyToFailureNode codec.decodeWrapper)
      FailureNode.collections FailureNode.blank node := by
  apply Carries.map₂
    (fun attributes info =>
      ({ node with encodedAttributes := attributes, failureInfo := info } : FailureNode P))
    (encodedAttributes_carries callee node.encodedAttributes)
    (option_carries (a := node.failureInfo) fun info _ => failureInfo_carries callee info) rfl
    (fun _ _ => rfl) (fun _ _ => rfl)
  intro attributes info sameAttributes sameInfo
  simp only [FailureNode.blank, sameAttributes, sameInfo]

/-- The visitor over a failure and its causes. -/
theorem failure_carries (callee : Callee r codec.encode codec.decode) (failure : Failure P) :
    Carries r Stored codec.encodeFailure codec.decodeFailure Failure.collections Failure.blank
      failure := by
  -- Along the cause: the visitor's own recursion.
  fun_induction Failure.chain failure with
  | case1 node cause ih =>
    apply Carries.map₂ (fun node cause => Failure.mk node (some cause))
      (failureNode_carries callee node) ih rfl
    · intro node' cause'
      rfl
    · intro node' cause'
      exact List.flatMap_cons
    · intro node' cause' sameNode sameCause
      simp only [Failure.blank, Failure.chain, List.map_cons] at sameCause ⊢
      rw [sameNode, sameCause]
  | case2 node =>
    apply Carries.map (fun node => Failure.mk node none) (failureNode_carries callee node) rfl
    · intro node'
      rfl
    · intro node'
      simp only [Failure.collections, Failure.chain, List.flatMap_cons, List.flatMap_nil,
        List.append_nil]
    · intro node' sameNode
      simp only [Failure.blank, Failure.chain, List.map_cons, sameNode]

end Visit

/-- `decode_failure(encode_failure(f)) = f` for every failure tree and every
    codec that keeps the documented contract and decodes what it encoded. The
    journals say which lists the codec was passed: those of `f` while encoding,
    answered by those of `g`, and those of `g` while decoding. -/
theorem failure_codec_round_trip (codec : PayloadCodec P σ) (trips : codec.RoundTrips)
    (f : Failure P) (s : σ) :
    ∃ g calls s', codec.journaled.encodeFailure f ([], s) = (.ok g, (calls, s')) ∧
      calls.map Prod.fst = f.collections ∧ List.Forall₂ Stored calls g.collections ∧
      g.blank = f.blank ∧
      ∀ t, ∃ calls' t', codec.journaled.decodeFailure g ([], t) = (.ok f, (calls', t')) ∧
        calls'.map Prod.fst = g.collections := by
  obtain ⟨g, calls, s', ran, given, answered, same, inverse⟩ :=
    failure_carries trips.encodes.callee f [] s
  refine ⟨g, calls, s', ran, given, answered, same, fun t => ?_⟩
  obtain ⟨f', calls', t', ran', rfl, given'⟩ := inverse trips [] t
  exact ⟨calls', t', ran', given'⟩

/-- Payloads that can hold payloads. -/
inductive Packed where
  | data (bytes : List UInt8)
  | pack (payloads : List Packed)

/-- A codec that merges all payloads it is given into one. -/
def packing : PayloadCodec Packed Unit where
  encode
    | [] => pure []
    | ps => pure [.pack ps]
  decode
    | [.pack (p :: ps)] => pure (p :: ps)
    | ps => pure ps

theorem packing_roundTrips : packing.RoundTrips := by
  intro ps s
  cases ps with
  | nil => exact ⟨[], (), rfl, fun given => absurd rfl given, fun _ => ⟨(), rfl⟩⟩
  | cons p ps =>
    refine ⟨[.pack (p :: ps)], (), rfl, fun _ => ⟨List.cons_ne_nil _ _, ?_⟩, fun _ => ⟨(), rfl⟩⟩
    simp only [List.length_cons, List.length_nil]
    omega

theorem failure_codec_round_trip_packing :
    packing.RoundTrips ∧
      ∃ g calls s', packing.journaled.encodeFailure
          ⟨{ message := "outer", encodedAttributes := some (.data [1]) },
            some ⟨{ failureInfo := some (.timeoutFailureInfo
              { timeoutType := 4, lastHeartbeatDetails := some ⟨[.data [2], .data [3]]⟩ }) },
              none⟩⟩ ([], ()) = (.ok g, (calls, s')) ∧
        calls.map Prod.fst = [[.data [1]], [.data [2], .data [3]]] ∧
        g.collections = [[.pack [.data [1]]], [.pack [.data [2], .data [3]]]] := by
  obtain ⟨g, calls, s', ran, given, answered, -⟩ :=
    failure_codec_round_trip packing packing_roundTrips
      ⟨{ message := "outer", encodedAttributes := some (.data [1]) },
        some ⟨{ failureInfo := some (.timeoutFailureInfo
          { timeoutType := 4, lastHeartbeatDetails := some ⟨[.data [2], .data [3]]⟩ }) },
          none⟩⟩ ()
  refine ⟨packing_roundTrips, g, calls, s', ran, given, ?_⟩
  cases ran
  rfl

end TemporalSdk.Converter
