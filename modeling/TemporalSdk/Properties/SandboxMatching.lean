import TemporalSdk.Sandbox.Restrictions

/-!
# Checking a path at once and step by step

## Main result

`stepwise_iff`: for matchers without `use` sets, checking the members of the object
at a path with the `child_matcher` of that path restricts the same members as
checking whole paths, exactly if it happens at runtime, or the path does not lead
through a runtime-only matcher to one that restricts something at import time.
`proxies_enforce_paths`: at runtime the proxies along an expression, each with the
matcher of its own object, report what the check of the whole path restricts.

## Proof strategy

One induction on the path, with what the loop of `child_matcher` has collected in
its statement: at import time a runtime-only matcher on the way ends the check of
the whole path, but the matcher that `child_matcher` returns does not know of it.
-/

namespace TemporalSdk.Sandbox.SandboxMatcher

/-! ### Specification -/

/-- No matcher of the tree has a `use` set. -/
inductive UseEmpty : SandboxMatcher → Prop where
  | intro {matcher} (own : matcher.use = [])
      (below : ∀ v child, matcher.child v = some child → UseEmpty child) : UseEmpty matcher

/-- Following the mapping of children only, the path leads from the first matcher
    through the matchers `above` to the last one. -/
inductive Leads : SandboxMatcher → List String → List SandboxMatcher → SandboxMatcher → Prop where
  | here (matcher) : Leads matcher [] [] matcher
  | down {matcher v child path above reached} (free : matcher.matchesAccess v = false)
      (found : matcher.child v = some child) (rest : Leads child path above reached) :
      Leads matcher (v :: path) (matcher :: above) reached

/-- Some member below the matcher is restricted at import time. -/
inductive RestrictsAtImport : SandboxMatcher → Prop where
  | self {matcher} (import' : matcher.onlyRuntime = false) (self : matcher.matchSelf = true) :
      RestrictsAtImport matcher
  | access {matcher v} (import' : matcher.onlyRuntime = false) (listed : v ∈ matcher.access) :
      RestrictsAtImport matcher
  | child {matcher v child} (import' : matcher.onlyRuntime = false)
      (found : matcher.child v = some child) (below : RestrictsAtImport child) :
      RestrictsAtImport matcher

/-! ### The two walks, one step at a time -/

variable {matcher c : SandboxMatcher} {context : RestrictionContext} {v : String}

theorem UseEmpty.matchesUse (unused : UseEmpty matcher) (v : String) :
    matcher.matchesUse v = false := by
  obtain ⟨own, -⟩ := unused
  simp [SandboxMatcher.matchesUse, own]

theorem UseEmpty.child (unused : UseEmpty matcher) (found : matcher.child v = some c) :
    UseEmpty c := by
  obtain ⟨-, below⟩ := unused
  exact below v c found

theorem UseEmpty.of_children (own : matcher.use = [])
    (below : ∀ entry ∈ matcher.children, UseEmpty entry.2) : UseEmpty matcher := by
  have got : ∀ {v c}, get matcher.children v = some c → UseEmpty c := by
    intro v c found
    obtain ⟨entry, foundEntry, rfl⟩ := Option.map_eq_some_iff.mp found
    exact below entry (List.mem_of_find?_eq_some foundEntry)
  refine ⟨own, fun v c found => ?_⟩
  rcases Option.or_eq_some_iff.mp found with found | ⟨-, found⟩
  · exact got found
  · exact got found

/-- A matcher that does not count in this context. -/
def Passive (matcher : SandboxMatcher) (context : RestrictionContext) : Bool :=
  !context.isRuntime && matcher.onlyRuntime

theorem matchAccess_passive (passive : matcher.Passive context = true) (path : List String) :
    matcher.matchAccess context path = false := by
  unfold Passive at passive
  cases path <;> simp [matchAccess, accessMatcher, passive]

theorem matchAccess_matched (active : matcher.Passive context = false)
    (matched : matcher.matchesAccess v = true) (rest : List String) :
    matcher.matchAccess context (v :: rest) = true := by
  unfold Passive at active
  simp [matchAccess, accessMatcher, active, matched]

theorem matchAccess_down (active : matcher.Passive context = false)
    (free : matcher.matchesAccess v = false) (found : matcher.child v = some c)
    (rest : List String) :
    matcher.matchAccess context (v :: rest) = c.matchAccess context rest := by
  unfold Passive at active
  simp [matchAccess, accessMatcher, active, free, found]

theorem matchAccess_stop (free : matcher.matchesAccess v = false)
    (absent : matcher.child v = Option.none) (rest : List String) :
    matcher.matchAccess context (v :: rest) = false := by
  simp [matchAccess, accessMatcher, free, absent]

theorem active_of_matchAccess {p : List String}
    (restricted : matcher.matchAccess context p = true) : matcher.Passive context = false := by
  by_contra passive
  rw [matchAccess_passive (by simpa using passive)] at restricted
  cases restricted

/-- What is below a restricted member is restricted. -/
theorem matchAccess_append {p : List String} (restricted : matcher.matchAccess context p = true)
    (q : List String) : matcher.matchAccess context (p ++ q) = true := by
  induction p generalizing matcher with
  | nil =>
    have active := active_of_matchAccess restricted
    have self : matcher.matchSelf = true := by
      unfold Passive at active
      simpa [matchAccess, accessMatcher, active, Option.isSome_iff_exists] using restricted
    cases q with
    | nil => exact restricted
    | cons v q => exact matchAccess_matched active (by simp [matchesAccess, self]) q
  | cons v rest ih =>
    have active := active_of_matchAccess restricted
    rw [List.cons_append]
    cases matched : matcher.matchesAccess v with
    | true => exact matchAccess_matched active matched (rest ++ q)
    | false =>
      cases found : matcher.child v with
      | none =>
        rw [matchAccess_stop matched found] at restricted
        cases restricted
      | some c =>
        rw [matchAccess_down active matched found] at restricted ⊢
        exact ih restricted

theorem childMatcherLoop_matched (matched : matcher.matchesAccess v = true) (onlyRuntime : Bool)
    (rest : List String) :
    matcher.childMatcherLoop onlyRuntime (v :: rest) =
      some (if onlyRuntime then allRuntime else all) := by
  cases onlyRuntime <;> simp [childMatcherLoop, matched]

theorem childMatcherLoop_down (unused : UseEmpty matcher) (free : matcher.matchesAccess v = false)
    (found : matcher.child v = some c) (onlyRuntime : Bool) (rest : List String) :
    matcher.childMatcherLoop onlyRuntime (v :: rest) =
      c.childMatcherLoop (onlyRuntime || c.onlyRuntime) rest := by
  simp [childMatcherLoop, free, unused.matchesUse, found]

theorem childMatcherLoop_stop (unused : UseEmpty matcher) (free : matcher.matchesAccess v = false)
    (absent : matcher.child v = Option.none) (onlyRuntime : Bool) (rest : List String) :
    matcher.childMatcherLoop onlyRuntime (v :: rest) = Option.none := by
  simp [childMatcherLoop, free, unused.matchesUse, absent]

theorem all_matchAccess {q : List String} (nonempty : q ≠ []) :
    all.matchAccess context q = true := by
  obtain ⟨v, rest, rfl⟩ := List.exists_cons_of_ne_nil nonempty
  exact matchAccess_matched (by simp [Passive, all]) (by simp [matchesAccess, all]) rest

theorem allRuntime_matchAccess {q : List String} (nonempty : q ≠ []) :
    allRuntime.matchAccess context q = context.isRuntime := by
  obtain ⟨v, rest, rfl⟩ := List.exists_cons_of_ne_nil nonempty
  cases runtime : context.isRuntime with
  | true =>
    exact matchAccess_matched (by simp [Passive, runtime]) (by simp [matchesAccess, allRuntime]) rest
  | false => exact matchAccess_passive (by simp [Passive, runtime, allRuntime]) (v :: rest)

/-! ### A path that leads to a matcher of the tree -/

section Leads

variable {p : List String} {above : List SandboxMatcher}

theorem Leads.childMatcherLoop (leads : Leads matcher p above c) (unused : UseEmpty matcher)
    (onlyRuntime : Bool) : matcher.childMatcherLoop onlyRuntime p = some c := by
  induction leads generalizing onlyRuntime with
  | here => rfl
  | down free found _ ih =>
    rw [childMatcherLoop_down unused free found]
    exact ih (unused.child found) _

/-- The check of a whole path asks each matcher on the way. -/
theorem Leads.matchAccess (leads : Leads matcher p above c) (q : List String) :
    matcher.matchAccess context (p ++ q) =
      (above.all (fun m => !m.Passive context) && c.matchAccess context q) := by
  induction leads with
  | here => simp
  | @down matcher v _ path _ _ free found _ ih =>
    rw [List.cons_append]
    cases passive : matcher.Passive context with
    | true => simp [matchAccess_passive passive, passive]
    | false => simp [matchAccess_down passive free found, ih, passive]

/-- Where the walk ends at a matched or an absent member, the matcher that is
    returned knows all that the loop has collected. -/
theorem childMatcherLoop_ended (unused : UseEmpty matcher) (onlyRuntime : Bool)
    (own : matcher.onlyRuntime = true → onlyRuntime = true)
    (ended : ∀ above c, ¬ Leads matcher p above c) {q : List String} (nonempty : q ≠ []) :
    (matcher.childMatcherLoop onlyRuntime p).any (·.matchAccess context q) =
      ((context.isRuntime || !onlyRuntime) && matcher.matchAccess context (p ++ q)) := by
  induction p generalizing matcher onlyRuntime with
  | nil => exact absurd (.here matcher) (ended [] matcher)
  | cons v rest ih =>
    have active : (context.isRuntime || !onlyRuntime) = true → matcher.Passive context = false := by
      intro counts
      by_contra passive
      obtain ⟨importTime, only⟩ : context.isRuntime = false ∧ matcher.onlyRuntime = true := by
        simpa [Passive] using passive
      simp [importTime, own only] at counts
    rw [List.cons_append]
    cases matched : matcher.matchesAccess v with
    | true =>
      rw [childMatcherLoop_matched matched]
      cases onlyRuntime with
      | true =>
        cases runtime : context.isRuntime with
        | true =>
          have := matchAccess_matched (active (by simp [runtime])) matched (rest ++ q)
          simp [allRuntime_matchAccess nonempty, runtime, this]
        | false => simp [allRuntime_matchAccess nonempty, runtime]
      | false =>
        have := matchAccess_matched (active (by simp)) matched (rest ++ q)
        simp [all_matchAccess nonempty, this]
    | false =>
      cases found : matcher.child v with
      | none =>
        rw [childMatcherLoop_stop unused matched found, matchAccess_stop matched found]
        simp
      | some c =>
        have endedBelow : ∀ above reached, ¬ Leads c rest above reached := by
          intro above reached leads
          exact ended _ _ (.down matched found leads)
        rw [childMatcherLoop_down unused matched found,
          ih (unused.child found) _ (by simp +contextual) endedBelow]
        cases counts : context.isRuntime || !onlyRuntime with
        | false =>
          -- already switched off above
          have : context.isRuntime = false ∧ onlyRuntime = true := by simpa using counts
          simp [this.1, this.2]
        | true =>
          rw [matchAccess_down (active counts) matched found]
          cases passive : c.Passive context with
          | true => simp [matchAccess_passive passive]
          | false =>
            have still : (context.isRuntime || !(onlyRuntime || c.onlyRuntime)) = true := by
              cases runtime : context.isRuntime with
              | true => rfl
              | false =>
                simp only [Passive, runtime, Bool.not_false, Bool.true_and] at passive
                simpa [runtime, passive] using counts
            rw [still]

end Leads

/-! ### What a matcher restricts at import time -/

theorem matchesAccess_of_mem (listed : v ∈ matcher.access) : matcher.matchesAccess v = true := by
  simp [matchesAccess, listed]

theorem RestrictsAtImport.exists_path (restricts : RestrictsAtImport matcher)
    (context : RestrictionContext) : ∃ q, q ≠ [] ∧ matcher.matchAccess context q = true := by
  induction restricts with
  | @self matcher import' self =>
    exact ⟨["*"], by simp, matchAccess_matched (by simp [Passive, import'])
      (by simp [matchesAccess, self]) []⟩
  | @access matcher v import' listed =>
    exact ⟨[v], by simp, matchAccess_matched (by simp [Passive, import'])
      (matchesAccess_of_mem listed) []⟩
  | @child matcher v child import' found _ ih =>
    obtain ⟨q, -, restricted⟩ := ih
    have active : matcher.Passive context = false := by simp [Passive, import']
    cases matched : matcher.matchesAccess v with
    | true => exact ⟨v :: q, by simp, matchAccess_matched active matched q⟩
    | false =>
      refine ⟨v :: q, by simp, ?_⟩
      rw [matchAccess_down active matched found]
      exact restricted

theorem restrictsAtImport_of_match (importTime : context.isRuntime = false) {q : List String}
    (restricted : matcher.matchAccess context q = true) : RestrictsAtImport matcher := by
  induction q generalizing matcher with
  | nil =>
    have : matcher.onlyRuntime = false ∧ matcher.matchSelf = true := by
      simpa [matchAccess, accessMatcher, importTime, Option.isSome_iff_exists] using restricted
    exact .self this.1 this.2
  | cons v rest ih =>
    have active := active_of_matchAccess restricted
    have import' : matcher.onlyRuntime = false := by simpa [Passive, importTime] using active
    cases matched : matcher.matchesAccess v with
    | true =>
      have : (matcher.matchSelf = true ∨ v ∈ matcher.access) ∨ "*" ∈ matcher.access := by
        simpa [matchesAccess] using matched
      rcases this with (self | listed) | listed
      · exact .self import' self
      · exact .access import' listed
      · exact .access import' listed
    | false =>
      cases found : matcher.child v with
      | none =>
        rw [matchAccess_stop matched found] at restricted
        cases restricted
      | some c =>
        rw [matchAccess_down active matched found] at restricted
        exact .child import' found (ih restricted)

/-! ### Main theorem -/

/-- At runtime always; at import time unless the path leads through a runtime-only
    matcher to one that restricts something at import time. -/
def StepwiseEnforced (matcher : SandboxMatcher) (context : RestrictionContext)
    (p : List String) : Prop :=
  context.isRuntime = true ∨ ∀ above c, Leads matcher p above c →
    (∀ m ∈ above, m.onlyRuntime = false) ∨ ¬ RestrictsAtImport c

theorem StepwiseEnforced.matchAccess {p : List String}
    (enforced : StepwiseEnforced matcher context p) (unused : UseEmpty matcher) {q : List String}
    (nonempty : q ≠ []) :
    (matcher.childMatcher p).any (·.matchAccess context q) =
      matcher.matchAccess context (p ++ q) := by
  by_cases leads : ∃ above c, Leads matcher p above c
  · obtain ⟨above, c, leads⟩ := leads
    have returned : matcher.childMatcher p = some c := leads.childMatcherLoop unused _
    rw [returned, Option.any_some, leads.matchAccess]
    cases restricted : c.matchAccess context q with
    | false => simp
    | true =>
      -- what the child restricts counts only if no matcher above it is passive
      have active : ∀ m ∈ above, m.Passive context = false := by
        rcases enforced with runtime | enforced
        · simp [Passive, runtime]
        · rcases enforced above c leads with active | harmless
          · intro m isAbove
            simp [Passive, active m isAbove]
          · cases runtime : context.isRuntime with
            | true => simp [Passive, runtime]
            | false => exact absurd (restrictsAtImport_of_match runtime restricted) harmless
      simpa using active
  -- the children end on the way: the walk decides at the matcher where it stopped
  · have step : (matcher.childMatcher p).any (·.matchAccess context q) =
        ((context.isRuntime || !matcher.onlyRuntime) && matcher.matchAccess context (p ++ q)) :=
      childMatcherLoop_ended unused matcher.onlyRuntime id
        (fun above c h => leads ⟨above, c, h⟩) nonempty
    rw [step]
    cases passive : matcher.Passive context with
    | true => simp [matchAccess_passive passive]
    | false =>
      have counts : (context.isRuntime || !matcher.onlyRuntime) = true := by
        cases runtime : context.isRuntime <;> simp_all [Passive]
      rw [counts, Bool.true_and]

theorem stepwise_iff (matcher : SandboxMatcher) (unused : UseEmpty matcher)
    (context : RestrictionContext) (p : List String) :
    (∀ q, q ≠ [] → (matcher.matchAccess context (p ++ q) = true ↔
      ∃ c, matcher.childMatcher p = some c ∧ c.matchAccess context q = true)) ↔
    StepwiseEnforced matcher context p := by
  constructor
  · intro agree
    by_cases runtime : context.isRuntime = true
    · exact .inl runtime
    · refine .inr fun above c leads => ?_
      by_cases restricts : RestrictsAtImport c
      · left
        obtain ⟨q, nonempty, restricted⟩ := restricts.exists_path context
        have whole := (agree q nonempty).mpr ⟨c, leads.childMatcherLoop unused _, restricted⟩
        rw [leads.matchAccess, Bool.and_eq_true, List.all_eq_true] at whole
        intro m isAbove
        simpa [Passive, runtime] using whole.1 m isAbove
      · exact .inr restricts
  · intro enforced q nonempty
    rw [← enforced.matchAccess unused nonempty, Option.any_eq_true]

/-! ### Examples -/

/-- A matcher with no message and no warning needs no `match_self`. -/
theorem noLeaf : ((Option.none : Option String).any (· ≠ "") ||
    (Option.none : Option String).isSome) = true → false = true := by decide

/-- `argv` of `sys` is restricted, at runtime only. -/
def sysMembers : SandboxMatcher where
  children := [("sys", { access := ["argv"], onlyRuntime := true, leaf := noLeaf })]
  leaf := noLeaf

theorem sysMembers_useEmpty : UseEmpty sysMembers := by
  refine .of_children rfl fun entry member => ?_
  obtain rfl : entry = ("sys", { access := ["argv"], onlyRuntime := true }) := by
    simpa [sysMembers] using member
  exact .of_children rfl (by simp)

theorem stepwise_iff_sys : sysMembers.matchAccess {} (["sys"] ++ ["argv"]) = true ↔
    ∃ c, sysMembers.childMatcher ["sys"] = some c ∧ c.matchAccess {} ["argv"] = true := by
  have enforced : StepwiseEnforced sysMembers {} ["sys"] := by
    refine .inr fun above c leads => .inl ?_
    cases leads with
    | down _ found rest =>
      cases rest with
      | here => simp [sysMembers]
  exact (stepwise_iff sysMembers sysMembers_useEmpty {} ["sys"]).mpr enforced ["argv"] (by simp)

/-- All of a module counts at runtime only: at import time the path of `b` is free,
    but the object at `a` restricts it. -/
theorem runtime_only_is_lost :
    ¬ ∀ (matcher : SandboxMatcher), UseEmpty matcher →
      ∀ (context : RestrictionContext) (p q : List String), q ≠ [] →
        (matcher.matchAccess context (p ++ q) = true ↔
          ∃ c, matcher.childMatcher p = some c ∧ c.matchAccess context q = true) := by
  intro agree
  let matcher : SandboxMatcher :=
    { children := [("a", { access := ["b"] })], onlyRuntime := true }
  have unused : UseEmpty matcher := by
    refine .of_children rfl fun entry member => ?_
    obtain rfl : entry = ("a", { access := ["b"] }) := by simpa [matcher] using member
    exact .of_children rfl (by simp)
  have whole : matcher.matchAccess {} (["a"] ++ ["b"]) = true :=
    (agree matcher unused {} ["a"] ["b"] (by simp)).mpr ⟨{ access := ["b"] }, rfl, rfl⟩
  cases whole

end SandboxMatcher

/-! ### Proxies -/

open SandboxMatcher

variable {O : Type}

theorem SandboxMatcher.UseEmpty.childMatcherLoop {matcher c : SandboxMatcher}
    (unused : UseEmpty matcher) {onlyRuntime : Bool} {p : List String}
    (returned : matcher.childMatcherLoop onlyRuntime p = some c) : UseEmpty c := by
  induction p generalizing matcher onlyRuntime with
  | nil =>
    cases returned
    exact unused
  | cons v rest ih =>
    cases matched : matcher.matchesAccess v with
    | true =>
      rw [childMatcherLoop_matched matched] at returned
      cases returned
      cases onlyRuntime <;> exact .of_children rfl (by simp [SandboxMatcher.all, allRuntime])
    | false =>
      cases found : matcher.child v with
      | none =>
        rw [childMatcherLoop_stop unused matched found] at returned
        cases returned
      | some child =>
        rw [childMatcherLoop_down unused matched found] at returned
        exact ih (unused.child found) returned

/-- What a workflow sees when it may not access something: an error, or warnings. -/
def Reported : Except GetattrError (List (String × String) × Value O) → Prop
  | .error (.restricted _) => True
  | .error (.attributeError _) => False
  | .ok (warnings, _) => warnings ≠ []

theorem not_reported_plain (objects : Objects O) (obj : O) (names : List String) :
    ¬ Reported (getattrs objects false (.plain obj) names) := by
  induction names generalizing obj with
  | nil => simp [getattrs, Reported]
  | cons name rest ih =>
    cases got : objects.getattr obj name with
    | none => simp [getattrs, got, Reported]
    | some ret => simpa [getattrs, got] using ih ret

theorem assertChildNotRestricted_free {state : RestrictionState O} {name : String}
    (free : state.matcher.matchAccess state.context [name] = false) :
    state.assertChildNotRestricted false name = .ok Option.none := by
  have : state.matcher.accessMatcher state.context false [name] = Option.none := by
    simpa [matchAccess] using free
  simp [RestrictionState.assertChildNotRestricted, this]

theorem assertChildNotRestricted_matched {state : RestrictionState O} {name : String}
    (matched : state.matcher.matchAccess state.context [name] = true) :
    (∃ error, state.assertChildNotRestricted false name = .error error) ∨
      ∃ warning, state.assertChildNotRestricted false name = .ok (some warning) := by
  obtain ⟨matcher, found⟩ := Option.isSome_iff_exists.mp matched
  cases leafWarning : matcher.leafWarning with
  | none =>
    left
    simp [RestrictionState.assertChildNotRestricted, found, leafWarning]
  | some warning =>
    right
    simp [RestrictionState.assertChildNotRestricted, found, leafWarning]

/-- Every attribute exists and can be wrapped. -/
def Objects.Present (objects : Objects O) : Prop :=
  ∀ obj name, ∃ ret, objects.getattr obj name = some ret ∧ objects.isRestrictable ret = true

theorem getattribute_ok {objects : Objects O} (present : objects.Present)
    {state : RestrictionState O} {name : String} {warning : Option (String × String)}
    (asserted : state.assertChildNotRestricted false name = .ok warning) :
    ∃ value, state.getattribute objects false name = .ok (warning, value) := by
  obtain ⟨ret, got, -⟩ := present state.obj name
  simp only [RestrictionState.getattribute, asserted, got]
  split
  · exact ⟨_, rfl⟩
  · split
    · exact ⟨_, rfl⟩
    · split <;> exact ⟨_, rfl⟩

theorem getattrs_ne_attributeError {objects : Objects O} (present : objects.Present)
    (value : Value O) (names : List String) (absent : String) :
    getattrs objects false value names ≠ .error (.attributeError absent) := by
  induction names generalizing value with
  | nil => cases value <;> simp [getattrs]
  | cons name rest ih =>
    cases value with
    | plain obj =>
      obtain ⟨ret, got, -⟩ := present obj name
      simpa [getattrs, got] using ih (.plain ret)
    | proxied state =>
      cases asserted : state.assertChildNotRestricted false name with
      | error error => simp [getattrs, RestrictionState.getattribute, asserted, bind, Except.bind]
      | ok warning =>
        obtain ⟨value, next⟩ := getattribute_ok present asserted
        have := ih value
        cases walked : getattrs objects false value rest <;>
          simp_all [getattrs, bind, Except.bind, pure, Except.pure]

theorem reported_cons {objects : Objects O} (present : objects.Present)
    {state : RestrictionState O} {name : String} {warning : Option (String × String)}
    {value : Value O} (next : state.getattribute objects false name = .ok (warning, value))
    (rest : List String) :
    Reported (getattrs objects false (.proxied state) (name :: rest)) ↔
      warning.isSome = true ∨ Reported (getattrs objects false value rest) := by
  cases walked : getattrs objects false value rest with
  | error error =>
    cases error with
    | restricted error => simp [getattrs, next, walked, bind, Except.bind, Reported]
    | attributeError absent =>
      exact absurd walked (getattrs_ne_attributeError present value rest absent)
  | ok result =>
    cases warning <;> simp [getattrs, next, walked, bind, Except.bind, pure, Except.pure, Reported]

/-- At runtime the proxies along an expression report exactly the members that the
    check of the whole path restricts. -/
theorem proxies_enforce_paths (objects : Objects O) (present : objects.Present)
    (state : RestrictionState O) (unused : UseEmpty state.matcher)
    (runtime : state.context.isRuntime = true) (names : List String) (nonempty : names ≠ [])
    (ordinary : "__spec__" ∉ names) :
    Reported (getattrs objects false (.proxied state) names) ↔
      state.matcher.matchAccess state.context names = true := by
  induction names generalizing state with
  | nil => exact absurd rfl nonempty
  | cons name rest ih =>
    obtain ⟨notSpec, ordinaryRest⟩ : name ≠ "__spec__" ∧ "__spec__" ∉ rest := by
      simpa [eq_comm] using ordinary
    obtain ⟨ret, got, restrictable⟩ := present state.obj name
    cases matched : state.matcher.matchAccess state.context [name] with
    | true =>
      have whole := matchAccess_append matched rest
      rw [List.singleton_append] at whole
      simp only [whole, iff_true]
      rcases assertChildNotRestricted_matched matched with ⟨error, asserted⟩ | ⟨warning, asserted⟩
      · simp [getattrs, RestrictionState.getattribute, asserted, bind, Except.bind, Reported]
      · -- the walk goes on after a warning
        obtain ⟨value, next⟩ := getattribute_ok present asserted
        rw [reported_cons present next]
        exact .inl rfl
    | false =>
      have free := assertChildNotRestricted_free matched
      obtain ⟨value, next⟩ := getattribute_ok present free
      rw [reported_cons present next]
      by_cases last : rest = []
      · subst last
        simp [getattrs, Reported, matched]
      -- the proxy that is returned carries on the rest of the path
      · have whole : (state.matcher.childMatcher [name]).any (·.matchAccess state.context rest) =
            state.matcher.matchAccess state.context (name :: rest) :=
          StepwiseEnforced.matchAccess (.inl runtime) unused last
        rw [← whole]
        cases returned : state.matcher.childMatcher [name] with
        | none =>
          obtain rfl : Value.plain ret = value := by
            simpa [RestrictionState.getattribute, free, got, returned] using next
          simpa using not_reported_plain objects ret rest
        | some c =>
          obtain rfl :
              .proxied ⟨state.name ++ "." ++ name, ret, state.context, c⟩ = value := by
            simpa [RestrictionState.getattribute, free, got, returned, notSpec, restrictable]
              using next
          have unusedBelow : UseEmpty c := unused.childMatcherLoop returned
          simpa using ih ⟨_, ret, state.context, c⟩ unusedBelow runtime last ordinaryRest

end TemporalSdk.Sandbox
