import TemporalSdk.Sandbox.MatcherChanges
import TemporalSdk.Properties.SandboxMatching

/-!
# Combining sandbox matchers

## Main result

`union_iff`: a combined matcher matches a path if and only if one of the two does,
exactly if the path does not get lost on the way. It gets lost where one of two
runtime-only matchers matches by itself, since the result is not runtime-only, and
where only one of them has a child of the name, since that child hides the wildcard
child of the other: `wildcard_hidden`.

## Proof strategy

One induction on the path. A mapping combined of two has under each key what both
have under it.
-/

namespace TemporalSdk.Sandbox.SandboxMatcher

/-- No key twice in the mappings of children, at any depth. -/
inductive Keyed : SandboxMatcher → Prop where
  | intro {matcher} (distinct : (matcher.children.map Prod.fst).Nodup)
      (below : ∀ v child, get matcher.children v = some child → Keyed child) : Keyed matcher

variable {a b ab m : SandboxMatcher} {context : RestrictionContext} {includeUse : Bool}

theorem Keyed.distinct (keyed : Keyed m) : (m.children.map Prod.fst).Nodup := by
  obtain ⟨distinct, -⟩ := keyed
  exact distinct

theorem Keyed.child (keyed : Keyed m) {v : String} {c : SandboxMatcher}
    (found : get m.children v = some c) : Keyed c := by
  obtain ⟨-, below⟩ := keyed
  exact below v c found

/-! ### What is combined -/

theorem get_eq_lookup (children : List (String × SandboxMatcher)) (v : String) :
    get children v = Dict.lookup children v := by
  induction children with
  | nil => rfl
  | cons entry rest ih =>
    obtain ⟨k, c⟩ := entry
    rw [Dict.lookup, ← ih]
    by_cases here : k = v
    · simp [get, here]
    · simp [get, here]

theorem get_insert (children : List (String × SandboxMatcher)) (k v : String)
    (c : SandboxMatcher) :
    get (Dict.insert children k c) v = if v = k then some c else get children v := by
  rw [get_eq_lookup, get_eq_lookup, Dict.lookup_insert]

/-- What is checked before matchers are combined. -/
structure Compatible (a b : SandboxMatcher) : Prop where
  onlyRuntime : a.onlyRuntime = b.onlyRuntime
  leafMessage : a.leafMessage = b.leafMessage
  leafWarning : a.leafWarning = b.leafWarning

theorem Compatible.symm (compatible : Compatible a b) : Compatible b a :=
  ⟨compatible.onlyRuntime.symm, compatible.leafMessage.symm, compatible.leafWarning.symm⟩

/-- Matchers of which one matches by itself are not combined further. -/
theorem or_eq_ok (combined : a.or b = .ok ab) :
    Compatible a b ∧
    (((a.matchSelf || b.matchSelf) = true ∧ ab = all) ∨
      ((a.matchSelf || b.matchSelf) = false ∧ ab.matchSelf = false ∧
        ab.onlyRuntime = a.onlyRuntime ∧ ab.access = a.access ∪ b.access ∧
        ab.use = a.use ∪ b.use ∧ orChildren a.children b.children = .ok ab.children)) := by
  obtain ⟨access, use, children, matchSelf, onlyRuntime, leafMessage, leafWarning, leaf⟩ := b
  rw [or] at combined
  split at combined
  next => cases combined
  next sameRuntime =>
    split at combined
    next => cases combined
    next sameMessage =>
      split at combined
      next => cases combined
      next sameWarning =>
        refine ⟨⟨not_not.mp sameRuntime, not_not.mp sameMessage, not_not.mp sameWarning⟩, ?_⟩
        split at combined
        -- `SandboxMatcher.all`, whatever else the two have
        next matched =>
          cases combined
          exact Or.inl ⟨matched, rfl⟩
        next unmatched =>
          split at combined
          next => cases combined
          next newChildren merged =>
            cases combined
            exact Or.inr ⟨by simpa using unmatched, rfl, rfl, rfl, rfl, merged⟩

theorem or_ok (compatible : Compatible a b)
    (children : (a.matchSelf || b.matchSelf) = false →
      ∃ merged, orChildren a.children b.children = .ok merged) : ∃ ab, a.or b = .ok ab := by
  obtain ⟨access, use, childrenB, matchSelf, onlyRuntime, leafMessage, leafWarning, leaf⟩ := b
  obtain ⟨sameRuntime, sameMessage, sameWarning⟩ := compatible
  rw [or, if_neg (not_not.mpr sameRuntime), if_neg (not_not.mpr sameMessage),
    if_neg (not_not.mpr sameWarning)]
  split
  next => exact ⟨_, rfl⟩
  next unmatched =>
    obtain ⟨merged, combined⟩ := children (by simpa using unmatched)
    rw [combined]
    exact ⟨_, rfl⟩

/-- What is under a key in a mapping that is combined of two. -/
structure Merged (mine others merged : Option SandboxMatcher) : Prop where
  both : ∀ x y, mine = some x → others = some y → ∃ z, x.or y = .ok z ∧ merged = some z
  left : others = Option.none → merged = mine
  right : mine = Option.none → merged = others

theorem orChildren_merged {l others merged : List (String × SandboxMatcher)}
    (distinct : (others.map Prod.fst).Nodup) (combined : orChildren l others = .ok merged)
    (v : String) : Merged (get l v) (get others v) (get merged v) := by
  induction others generalizing l with
  | nil =>
    rw [orChildren] at combined
    cases combined
    exact ⟨nofun, fun _ => rfl, fun none => none⟩
  | cons entry rest ih =>
    obtain ⟨k, other⟩ := entry
    obtain ⟨absent, distinct⟩ := List.nodup_cons.mp distinct
    -- under `k` the loop has done its work after this round
    have later : get rest k = Option.none := by
      rw [get_eq_lookup]
      exact Dict.lookup_eq_none absent
    have here : get ((k, other) :: rest) v = if v = k then some other else get rest v := by
      by_cases same : k = v
      · simp [get, same]
      · simp [get, same, Ne.symm same]
    rw [here]
    rw [orChildren] at combined
    cases found : get l k with
    | none =>
      rw [found] at combined
      have merged := ih distinct combined
      rw [get_insert] at merged
      by_cases same : v = k
      · subst same
        rw [if_pos rfl] at merged ⊢
        rw [found]
        exact ⟨nofun, nofun, fun _ => merged.left later⟩
      · rw [if_neg same] at merged ⊢
        exact merged
    | some mine =>
      rw [found] at combined
      dsimp only at combined
      cases both : mine.or other with
      | error error =>
        rw [both] at combined
        cases combined
      | ok z =>
        rw [both] at combined
        have merged := ih distinct combined
        rw [get_insert] at merged
        by_cases same : v = k
        · subst same
          rw [if_pos rfl] at merged ⊢
          rw [found]
          refine ⟨?_, nofun, nofun⟩
          intro x y isMine isOther
          cases isMine
          cases isOther
          exact ⟨z, both, merged.left later⟩
        · rw [if_neg same] at merged ⊢
          exact merged

/-! ### Matching, one member at a time -/

/-- `v` is in one of the sets that count. -/
def catches (matcher : SandboxMatcher) (includeUse : Bool) (v : String) : Bool :=
  matcher.matchesAccess v || (includeUse && matcher.matchesUse v)

theorem matchAccess_nil (m : SandboxMatcher) :
    m.matchAccess context [] includeUse = (!m.Passive context && m.matchSelf) := by
  unfold Passive
  cases off : !context.isRuntime && m.onlyRuntime with
  | true => simp [matchAccess, accessMatcher, off]
  | false =>
    cases self : m.matchSelf <;> simp [matchAccess, accessMatcher, off, self]

theorem matchAccess_cons (m : SandboxMatcher) (v : String) (rest : List String) :
    m.matchAccess context (v :: rest) includeUse = (!m.Passive context &&
      (m.catches includeUse v || (m.child v).any (·.matchAccess context rest includeUse))) := by
  unfold Passive catches
  cases off : !context.isRuntime && m.onlyRuntime with
  | true => simp [matchAccess, accessMatcher, off]
  | false =>
    -- access, then use, and then the child: the order of the source
    cases access : m.matchesAccess v with
    | true => simp [matchAccess, accessMatcher, off, access]
    | false =>
      cases use : includeUse && m.matchesUse v with
      | true =>
        simp only [matchAccess, accessMatcher, off, access, use]
        rfl
      | false =>
        simp only [matchAccess, accessMatcher, off, access, use]
        cases m.child v with
        | none => rfl
        | some c => rfl

theorem matchAccess_self (active : m.Passive context = false) (self : m.matchSelf = true)
    (path : List String) : m.matchAccess context path includeUse = true := by
  cases path with
  | nil => simp [matchAccess_nil, active, self]
  | cons v rest => simp [matchAccess_cons, active, catches, matchesAccess, self]

theorem matchAccess_off (passive : m.Passive context = true) (path : List String) :
    m.matchAccess context path includeUse = false := by
  cases path with
  | nil => simp [matchAccess_nil, passive]
  | cons v rest => simp [matchAccess_cons, passive]

/-! ### Where a path gets lost -/

/-- The own child of a name hides what the wildcard child of the other matcher matches. -/
def hides (context : RestrictionContext) (includeUse : Bool) (own other : SandboxMatcher)
    (rest : List String) : Bool :=
  (get other.children "*").any (·.matchAccess context rest includeUse) &&
    !own.matchAccess context rest includeUse

/-- On its way through both matchers the path comes to two of which one matches by
    itself, but only at runtime, or to a name that only one has a child for. -/
def loses (context : RestrictionContext) (includeUse : Bool) :
    SandboxMatcher → SandboxMatcher → List String → Bool
  | a, b, [] => (a.matchSelf || b.matchSelf) && a.Passive context
  | a, b, v :: rest =>
    if a.matchSelf || b.matchSelf then a.Passive context
    else if a.Passive context || a.catches includeUse v || b.catches includeUse v then false
    else match get a.children v, get b.children v with
      | some x, some y => loses context includeUse x y rest
      | some x, Option.none => hides context includeUse x b rest
      | Option.none, some y => hides context includeUse y a rest
      | Option.none, Option.none =>
        match get a.children "*", get b.children "*" with
        | some x, some y => loses context includeUse x y rest
        | _, _ => false

/-- Either matcher matches the path. -/
def either (context : RestrictionContext) (includeUse : Bool) (a b : SandboxMatcher)
    (path : List String) : Bool :=
  a.matchAccess context path includeUse || b.matchAccess context path includeUse

theorem passive_congr (same : a.onlyRuntime = b.onlyRuntime) :
    a.Passive context = b.Passive context := by
  rw [Passive, Passive, same]

/-- The result is not runtime-only, whatever the matchers are. -/
theorem all_iff (same : a.onlyRuntime = b.onlyRuntime)
    (matched : (a.matchSelf || b.matchSelf) = true) (path : List String) :
    all.matchAccess context path includeUse = either context includeUse a b path ↔
      a.Passive context = false := by
  have always : all.matchAccess context path includeUse = true :=
    matchAccess_self (by simp [Passive, all]) rfl path
  rw [always]
  cases passive : a.Passive context with
  | true => simp [either, matchAccess_off passive, matchAccess_off (passive_congr same ▸ passive)]
  | false =>
    rcases Bool.or_eq_true_iff.mp matched with self | self
    · simp [either, matchAccess_self passive self]
    · simp [either, matchAccess_self (passive_congr same ▸ passive) self]

theorem catches_or (includeUse : Bool) (unmatched : (a.matchSelf || b.matchSelf) = false)
    (self : ab.matchSelf = false) (access : ab.access = a.access ∪ b.access)
    (use : ab.use = a.use ∪ b.use) (v : String) :
    ab.catches includeUse v = (a.catches includeUse v || b.catches includeUse v) := by
  obtain ⟨selfA, selfB⟩ := Bool.or_eq_false_iff.mp unmatched
  apply Bool.eq_iff_iff.mpr
  simp only [catches, matchesAccess, matchesUse, selfA, selfB, self, access, use,
    Bool.false_or, Bool.or_eq_true, Bool.and_eq_true, List.contains_iff_mem, List.mem_union_iff]
  tauto

/-! ### The union -/

/-- The own child of one matcher is all that the result has of the name. -/
theorem hides_iff {own other : SandboxMatcher} (rest : List String) :
    own.matchAccess context rest includeUse = (own.matchAccess context rest includeUse ||
        (get other.children "*").any (·.matchAccess context rest includeUse)) ↔
      hides context includeUse own other rest = false := by
  unfold hides
  cases own.matchAccess context rest includeUse with
  | true => simp
  | false =>
    rw [Bool.false_or, Bool.not_false, Bool.and_true]
    exact eq_comm

theorem loses_iff (context : RestrictionContext) (includeUse : Bool) (combined : a.or b = .ok ab)
    (keyed : Keyed b) (path : List String) :
    ab.matchAccess context path includeUse = either context includeUse a b path ↔
      loses context includeUse a b path = false := by
  induction path generalizing a b ab with
  | nil =>
    obtain ⟨⟨same, -, -⟩, ⟨matched, rfl⟩ | ⟨unmatched, self, -⟩⟩ := or_eq_ok combined
    · rw [all_iff same matched, loses, matched, Bool.true_and]
    · obtain ⟨selfA, selfB⟩ := Bool.or_eq_false_iff.mp unmatched
      simp [loses, either, matchAccess_nil, self, selfA, selfB]
  | cons v rest ih =>
    obtain ⟨⟨same, -, -⟩, ⟨matched, rfl⟩ |
      ⟨unmatched, self, only, access, use, merged⟩⟩ := or_eq_ok combined
    -- one matches by itself: the result matches everything, also before runtime
    · rw [all_iff same matched, loses, if_pos matched]
    · have caught := catches_or includeUse unmatched self access use v
      have passiveAB : ab.Passive context = a.Passive context := passive_congr only
      have passiveB : b.Passive context = a.Passive context := (passive_congr same).symm
      rw [loses, if_neg (by simp [unmatched])]
      cases passive : a.Passive context with
      | true => simp [either, matchAccess_cons, passiveAB, passiveB, passive]
      | false =>
        cases caughtA : a.catches includeUse v with
        | true => simp [either, matchAccess_cons, passiveAB, passive, caught, caughtA]
        | false =>
          cases caughtB : b.catches includeUse v with
          | true =>
            simp [either, matchAccess_cons, passiveAB, passiveB, passive, caught, caughtB]
          | false =>
            -- the walk goes on below all three matchers
            have atV := orChildren_merged keyed.distinct merged v
            have atStar := orChildren_merged keyed.distinct merged "*"
            simp only [either, matchAccess_cons, passiveAB, passiveB, passive, caught, caughtA,
              caughtB, Bool.or_self, Bool.false_eq_true, if_false, Bool.not_false, Bool.true_and,
              Bool.false_or, child]
            cases foundA : get a.children v with
            | some x =>
              cases foundB : get b.children v with
              | some y =>
                obtain ⟨z, both, isMerged⟩ := atV.both x y foundA foundB
                rw [isMerged]
                exact ih both (keyed.child foundB)
              | none =>
                -- only `a` has a child of the name, and the result has only that
                rw [atV.left foundB, foundA]
                exact hides_iff rest
            | none =>
              rw [atV.right foundA]
              cases foundB : get b.children v with
              | some y =>
                -- the same of `b`
                rw [Bool.or_comm]
                exact hides_iff rest
              | none =>
                -- neither has one, so all three fall back to what they have for `*`
                cases starA : get a.children "*" with
                | some x =>
                  cases starB : get b.children "*" with
                  | some y =>
                    obtain ⟨z, both, isMerged⟩ := atStar.both x y starA starB
                    rw [isMerged]
                    exact ih both (keyed.child starB)
                  | none =>
                    rw [atStar.left starB, starA]
                    simp
                | none =>
                  rw [atStar.right starA]
                  simp

/-! ### What does not raise -/

theorem orChildren_ok {l others : List (String × SandboxMatcher)}
    (distinct : (others.map Prod.fst).Nodup)
    (each : ∀ k x y, get l k = some x → get others k = some y → ∃ z, x.or y = .ok z) :
    ∃ merged, orChildren l others = .ok merged := by
  induction others generalizing l with
  | nil => exact ⟨l, by rw [orChildren]⟩
  | cons entry rest ih =>
    obtain ⟨k, other⟩ := entry
    obtain ⟨absent, distinct⟩ := List.nodup_cons.mp distinct
    -- no later round is about `k`
    have later (c : SandboxMatcher) : ∀ k' x y, get (Dict.insert l k c) k' = some x →
        get rest k' = some y → ∃ z, x.or y = .ok z := by
      intro k' x y mine isOther
      have differs : k' ≠ k := by
        rintro rfl
        rw [get_eq_lookup, Dict.lookup_eq_none absent] at isOther
        cases isOther
      rw [get_insert, if_neg differs] at mine
      apply each k' x y mine
      simpa [get, Ne.symm differs] using isOther
    rw [orChildren]
    cases found : get l k with
    | none => exact ih distinct (later other)
    | some mine =>
      obtain ⟨z, both⟩ := each k mine other found (by simp [get])
      dsimp only
      rw [both]
      exact ih distinct (later z)

/-- If two matchers can be combined, so can they the other way around. -/
theorem or_comm_ok (keyedA : Keyed a) (keyedB : Keyed b) (combined : a.or b = .ok ab) :
    ∃ ba, b.or a = .ok ba := by
  induction keyedB generalizing a ab with
  | @intro b distinct below ih =>
    obtain ⟨compatible, ⟨matched, rfl⟩ | ⟨-, -, -, -, -, merged⟩⟩ := or_eq_ok combined
    · apply or_ok compatible.symm
      intro unmatched
      rw [Bool.or_comm, matched] at unmatched
      cases unmatched
    · refine or_ok compatible.symm fun _ => orChildren_ok keyedA.distinct ?_
      intro k y x isB isA
      obtain ⟨z, both, -⟩ := (orChildren_merged distinct merged k).both x y isA isB
      exact ih k y isB (keyedA.child isA) both

theorem or_self_ok (keyed : Keyed a) : ∃ aa, a.or a = .ok aa := by
  induction keyed with
  | @intro a distinct below ih =>
    refine or_ok ⟨rfl, rfl, rfl⟩ fun _ => orChildren_ok distinct ?_
    intro k x y isX isY
    cases isX.symm.trans isY
    exact ih k x isX

/-- In both orders a path gets lost at the same place. -/
theorem loses_comm (keyed : Keyed b) (combined : a.or b = .ok ab) (path : List String) :
    loses context includeUse b a path = loses context includeUse a b path := by
  induction path generalizing a b ab with
  | nil =>
    obtain ⟨⟨same, -, -⟩, -⟩ := or_eq_ok combined
    rw [loses, loses, Bool.or_comm, passive_congr same]
  | cons v rest ih =>
    obtain ⟨⟨same, -, -⟩, ⟨matched, rfl⟩ | ⟨unmatched, -, -, -, -, merged⟩⟩ := or_eq_ok combined
    · rw [loses, loses, if_pos (Bool.or_comm _ _ ▸ matched), if_pos matched, passive_congr same]
    · have unmatched' : (b.matchSelf || a.matchSelf) = false := by rwa [Bool.or_comm]
      rw [loses, loses, unmatched, unmatched', if_neg Bool.false_ne_true,
        if_neg Bool.false_ne_true, ← passive_congr same]
      have order : (a.Passive context || b.catches includeUse v || a.catches includeUse v) =
          (a.Passive context || a.catches includeUse v || b.catches includeUse v) :=
        Bool.or_right_comm _ _ _
      rw [order]
      split
      next => rfl
      next =>
        have atV := orChildren_merged keyed.distinct merged v
        have atStar := orChildren_merged keyed.distinct merged "*"
        cases foundA : get a.children v with
        | some x =>
          cases foundB : get b.children v with
          | some y =>
            obtain ⟨z, both, -⟩ := atV.both x y foundA foundB
            exact ih (keyed.child foundB) both
          | none => rfl
        | none =>
          cases foundB : get b.children v with
          | some y => rfl
          | none =>
            cases starA : get a.children "*" with
            | some x =>
              cases starB : get b.children "*" with
              | some y =>
                obtain ⟨z, both, -⟩ := atStar.both x y starA starB
                exact ih (keyed.child starB) both
              | none => rfl
            | none =>
              cases starB : get b.children "*" with
              | some y => rfl
              | none => rfl

/-- What is not the one is the other. -/
theorem bool_eq_of_iff {p q r s : Bool} (first : p = r ↔ s = false) (second : q = r ↔ s = false) :
    p = q := by
  cases p <;> cases q <;> cases r <;> cases s <;> simp_all

theorem or_comm (keyedA : Keyed a) (keyedB : Keyed b) (combined : a.or b = .ok ab) :
    ∃ ba, b.or a = .ok ba ∧ ∀ context includeUse path,
      ba.matchAccess context path includeUse = ab.matchAccess context path includeUse := by
  obtain ⟨ba, swapped⟩ := or_comm_ok keyedA keyedB combined
  refine ⟨ba, swapped, fun context includeUse path => ?_⟩
  have there := loses_iff context includeUse combined keyedB path
  have back := loses_iff context includeUse swapped keyedA path
  rw [loses_comm keyedB combined, either, Bool.or_comm] at back
  -- both results differ from the union on the same paths
  exact bool_eq_of_iff back there

/-! ### Combining more than two -/

theorem nodup_orChildren {l others merged : List (String × SandboxMatcher)}
    (distinct : (l.map Prod.fst).Nodup) (combined : orChildren l others = .ok merged) :
    (merged.map Prod.fst).Nodup := by
  induction others generalizing l with
  | nil =>
    rw [orChildren] at combined
    cases combined
    exact distinct
  | cons entry rest ih =>
    obtain ⟨k, other⟩ := entry
    rw [orChildren] at combined
    split at combined
    next mine found =>
      split at combined
      next => cases combined
      next z both => exact ih (Dict.nodup_insert _ _ _ distinct) combined
    next => exact ih (Dict.nodup_insert _ _ _ distinct) combined

theorem keyed_or (keyedA : Keyed a) (keyedB : Keyed b) (combined : a.or b = .ok ab) :
    Keyed ab := by
  induction keyedB generalizing a ab with
  | @intro b distinct below ih =>
    obtain ⟨-, ⟨-, rfl⟩ | ⟨-, -, -, -, -, merged⟩⟩ := or_eq_ok combined
    · exact .intro (by simp [all]) (by simp [all, get])
    · refine .intro (nodup_orChildren keyedA.distinct merged) fun v z found => ?_
      have atV := orChildren_merged distinct merged v
      -- a child of the result is one of the operands', or combined of two
      cases isA : get a.children v with
      | none =>
        rw [atV.right isA] at found
        exact below v z found
      | some x =>
        cases isB : get b.children v with
        | none =>
          rw [atV.left isB] at found
          exact keyedA.child found
        | some y =>
          obtain ⟨z', both, isMerged⟩ := atV.both x y isA isB
          cases isMerged.symm.trans found
          exact ih v y isB (keyedA.child isA) both

/-- Where no path gets lost, it does not matter which two are combined first. -/
theorem or_assoc {c bc left right : SandboxMatcher} (keyedB : Keyed b) (keyedC : Keyed c)
    (ofAB : a.or b = .ok ab) (ofLeft : ab.or c = .ok left) (ofBC : b.or c = .ok bc)
    (ofRight : a.or bc = .ok right) {path : List String}
    (keptAB : loses context includeUse a b path = false)
    (keptLeft : loses context includeUse ab c path = false)
    (keptBC : loses context includeUse b c path = false)
    (keptRight : loses context includeUse a bc path = false) :
    left.matchAccess context path includeUse = right.matchAccess context path includeUse := by
  rw [(loses_iff _ _ ofLeft keyedC path).mpr keptLeft,
    (loses_iff _ _ ofRight (keyed_or keyedB keyedC ofBC) path).mpr keptRight]
  unfold either
  rw [(loses_iff _ _ ofAB keyedB path).mpr keptAB, (loses_iff _ _ ofBC keyedC path).mpr keptBC]
  exact Bool.or_assoc _ _ _

/-- The combined matcher is the union on a path exactly if the path does not get lost.
    So the order of two matchers never matters, combining a matcher with itself changes
    what it does with a path exactly if that gets lost, and if no path gets lost, three
    matchers can be combined in any order. -/
theorem union_iff (a b ab : SandboxMatcher) (keyedA : Keyed a) (keyedB : Keyed b)
    (combined : a.or b = .ok ab) :
    (∀ context includeUse path, ab.matchAccess context path includeUse =
        (a.matchAccess context path includeUse || b.matchAccess context path includeUse) ↔
      loses context includeUse a b path = false) ∧
    (∃ ba, b.or a = .ok ba ∧ ∀ context includeUse path,
      ba.matchAccess context path includeUse = ab.matchAccess context path includeUse) ∧
    (∃ aa, a.or a = .ok aa ∧ ∀ context includeUse path,
      aa.matchAccess context path includeUse = a.matchAccess context path includeUse ↔
        loses context includeUse a a path = false) ∧
    ∀ c bc left right, Keyed c → ab.or c = .ok left → b.or c = .ok bc → a.or bc = .ok right →
      ∀ context includeUse path,
        loses context includeUse a b path = false → loses context includeUse ab c path = false →
        loses context includeUse b c path = false → loses context includeUse a bc path = false →
        left.matchAccess context path includeUse = right.matchAccess context path includeUse := by
  refine ⟨fun _ _ => loses_iff _ _ combined keyedB, or_comm keyedA keyedB combined, ?_, ?_⟩
  · obtain ⟨aa, twice⟩ := or_self_ok keyedA
    refine ⟨aa, twice, fun context includeUse path => ?_⟩
    have union := loses_iff context includeUse twice keyedA path
    rwa [either, Bool.or_self] at union
  · intro c bc left right keyedC ofLeft ofBC ofRight context includeUse path keptAB keptLeft
      keptBC keptRight
    exact or_assoc keyedB keyedC combined ofLeft ofBC ofRight keptAB keptLeft keptBC keptRight

/-- `foo` of the module `x` is restricted. -/
def fooOfX : SandboxMatcher where
  children := [("x", { access := ["foo"], leaf := noLeaf })]
  leaf := noLeaf

/-- `bar` of every module is restricted. -/
def barOfAll : SandboxMatcher where
  children := [("*", { access := ["bar"], leaf := noLeaf })]
  leaf := noLeaf

/-- `fooOfX | barOfAll`. -/
def fooAndBar : SandboxMatcher where
  children :=
    [("x", { access := ["foo"], leaf := noLeaf }), ("*", { access := ["bar"], leaf := noLeaf })]
  leaf := noLeaf

theorem keyed_single {k : String} {c : SandboxMatcher} (none : c.children = []) :
    Keyed { children := [(k, c)] } := by
  refine .intro (by simp) fun v child found => ?_
  have same : k = v ∧ c = child := by simpa [get, Option.map_eq_some_iff] using found
  rw [← same.2]
  exact .intro (by simp [none]) (by simp [none, get])

theorem union_iff_foo : ∃ ab, fooOfX.or barOfAll = .ok ab ∧
    ab.matchAccess {} ["x", "foo"] = (fooOfX.matchAccess {} ["x", "foo"] ||
      barOfAll.matchAccess {} ["x", "foo"]) :=
  ⟨fooAndBar, rfl, ((union_iff fooOfX barOfAll fooAndBar (keyed_single rfl) (keyed_single rfl)
    rfl).1 {} false ["x", "foo"]).mpr rfl⟩

/-- `x.bar` is not restricted any more when `x` has a matcher of its own, and matchers that
    are runtime-only match at import time after they have been combined. -/
theorem wildcard_hidden :
    (fooOfX.or barOfAll = .ok fooAndBar ∧ barOfAll.matchAccess {} ["x", "bar"] = true ∧
      fooAndBar.matchAccess {} ["x", "bar"] = false) ∧
    (allRuntime.or allRuntime = .ok all ∧ allRuntime.matchAccess {} ["x"] = false ∧
      all.matchAccess {} ["x"] = true) ∧
    ¬∀ a b ab, Keyed a → Keyed b → a.or b = .ok ab → ∀ context includeUse path,
      ab.matchAccess context path includeUse =
        (a.matchAccess context path includeUse || b.matchAccess context path includeUse) := by
  refine ⟨⟨rfl, rfl, rfl⟩, ⟨rfl, rfl, rfl⟩, fun union => ?_⟩
  have lost := union fooOfX barOfAll fooAndBar (keyed_single rfl) (keyed_single rfl) rfl
    {} false ["x", "bar"]
  cases lost

end TemporalSdk.Sandbox.SandboxMatcher
