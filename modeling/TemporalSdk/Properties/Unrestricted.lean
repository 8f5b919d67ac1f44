import TemporalSdk.Properties.MatcherUnion

/-!
# Removing a member from a sandbox matcher

## Main results

`lifted_iff`: after `with_child_unrestricted` the member is free exactly if nothing
else on the way restricts it: a set with the name or `"*"` above it, a `"*"` beside
it, or a wildcard child that the walk falls back to. Only the name itself is removed.

`others_unchanged`: every path that does not go through the member is matched as
before, and no object that was there before the call is written to.

## Proof strategy

Both by induction on the path that is removed. Over objects, the call builds the
matcher that `withChildUnrestricted` describes out of copies, which were not in use.
-/

namespace TemporalSdk.Sandbox.SandboxMatcher

variable {m m' : SandboxMatcher} {context : RestrictionContext} {includeUse : Bool}

/-! ### One matcher on the way -/

theorem get_withoutItem (items : List (String × SandboxMatcher)) (v k : String) :
    get (withoutItem items v) k = if k = v then Option.none else get items k := by
  rw [get_eq_lookup, get_eq_lookup]
  exact Dict.lookup_filter items v k

theorem contains_without (names : List String) (v k : String) :
    (without names v).contains k = (decide (k ≠ v) && names.contains k) := by
  apply Bool.eq_iff_iff.mpr
  simp [without, and_comm]

/-- The matcher without a member. -/
def removed (m : SandboxMatcher) (v : String) : SandboxMatcher :=
  { m with
    access := without m.access v
    use := without m.use v
    children := withoutItem m.children v }

/-- The matcher with another child. -/
def withChild (m : SandboxMatcher) (v : String) (child : SandboxMatcher) : SandboxMatcher :=
  { m with children := Dict.insert m.children v child }

theorem withChildUnrestricted_single (m : SandboxMatcher) (v : String) :
    m.withChildUnrestricted [v] = some (m.removed v) := by
  rw [withChildUnrestricted]
  rfl

/-- The recursion: a member of a child that is there is removed from that child. -/
theorem withChildUnrestricted_cons (m : SandboxMatcher) (v w : String) (rest : List String) :
    m.withChildUnrestricted (v :: w :: rest) =
      match get m.children v with
      | Option.none => some m
      | some child => (child.withChildUnrestricted (w :: rest)).map (m.withChild v) := by
  rw [withChildUnrestricted]
  · rfl
  · nofun

theorem passive_removed (v : String) : (m.removed v).Passive context = m.Passive context := rfl

theorem passive_withChild (v : String) (child : SandboxMatcher) :
    (m.withChild v child).Passive context = m.Passive context := rfl

theorem catches_removed {v k : String} (other : k ≠ v) (star : "*" ≠ v) :
    (m.removed v).catches includeUse k = m.catches includeUse k := by
  simp only [catches, matchesAccess, matchesUse, removed, contains_without, other, star, ne_eq,
    not_false_eq_true, decide_true, Bool.true_and]

theorem catches_withChild (v k : String) (child : SandboxMatcher) :
    (m.withChild v child).catches includeUse k = m.catches includeUse k := rfl

theorem child_removed {v k : String} (other : k ≠ v) (star : "*" ≠ v) :
    (m.removed v).child k = m.child k := by
  simp only [child, removed, get_withoutItem, other, star, if_false]

theorem child_withChild {v k : String} (child : SandboxMatcher) (other : k ≠ v) (star : "*" ≠ v) :
    (m.withChild v child).child k = m.child k := by
  simp only [SandboxMatcher.child, withChild, get_insert, other, star, if_false]

theorem child_withChild_self (v : String) (child : SandboxMatcher) :
    (m.withChild v child).child v = some child := by
  simp [SandboxMatcher.child, withChild, get_insert]

theorem exists_unrestricted (m : SandboxMatcher) {p : List String} (nonempty : p ≠ []) :
    ∃ m', m.withChildUnrestricted p = some m' := by
  induction p generalizing m with
  | nil => exact absurd rfl nonempty
  | cons v rest ih =>
    cases rest with
    | nil => exact ⟨_, withChildUnrestricted_single m v⟩
    | cons w rest =>
      rw [withChildUnrestricted_cons]
      cases get m.children v with
      | none => exact ⟨m, rfl⟩
      | some child =>
        obtain ⟨child', made⟩ := ih child (by simp)
        exact ⟨m.withChild v child', by simp [made]⟩

/-! ### The member itself -/

/-- What restricts the path besides the names that are removed. -/
def stillRestricted (context : RestrictionContext) : SandboxMatcher → List String → Bool
  | _, [] => false
  | m, [_] => !m.Passive context &&
      (m.matchSelf || m.access.contains "*" || m.use.contains "*" ||
        (get m.children "*").any (·.matchAccess context [] true))
  | m, v :: rest => !m.Passive context && (m.catches true v ||
      match get m.children v with
      | some child => stillRestricted context child rest
      | Option.none => (get m.children "*").any (·.matchAccess context rest true))

theorem matchAccess_unrestricted {p : List String} (ordinary : "*" ∉ p)
    (made : m.withChildUnrestricted p = some m') :
    m'.matchAccess context p true = stillRestricted context m p := by
  induction p generalizing m m' with
  | nil => cases made
  | cons v rest ih =>
    obtain ⟨star, ordinaryRest⟩ := not_or.mp (List.mem_cons.not.mp ordinary)
    cases rest with
    | nil =>
      rw [withChildUnrestricted_single] at made
      cases made
      -- the name is in no set any more, and has no child of its own
      have caught : (m.removed v).catches true v =
          (m.matchSelf || m.access.contains "*" || m.use.contains "*") := by
        simp only [catches, matchesAccess, matchesUse, removed, contains_without, star, ne_eq,
          not_true_eq_false, not_false_eq_true, decide_true, decide_false, Bool.false_and,
          Bool.or_false, Bool.false_or, Bool.true_and]
      have fallback : (m.removed v).child v = get m.children "*" := by
        simp [child, removed, get_withoutItem, star]
      rw [matchAccess_cons, stillRestricted, passive_removed, caught, fallback]
    | cons w rest =>
      rw [withChildUnrestricted_cons] at made
      rw [matchAccess_cons, stillRestricted]
      · cases found : get m.children v with
        -- no child of the name: nothing is removed, and the walk takes `*`
        | none =>
          rw [found] at made
          cases made
          simp [child, found]
        | some c =>
          rw [found] at made
          obtain ⟨c', madeBelow, rfl⟩ := Option.map_eq_some_iff.mp made
          rw [passive_withChild, catches_withChild, child_withChild_self, Option.any_some,
            ih ordinaryRest madeBelow]
      · exact List.cons_ne_nil w rest

/-- The member is free exactly if nothing besides its own name restricts it. -/
theorem lifted_iff (m : SandboxMatcher) (p : List String) (nonempty : p ≠ [])
    (ordinary : "*" ∉ p) :
    ∃ m', m.withChildUnrestricted p = some m' ∧ ∀ context,
      m'.matchAccess context p true = false ↔ stillRestricted context m p = false := by
  obtain ⟨m', made⟩ := exists_unrestricted m nonempty
  refine ⟨m', made, fun context => ?_⟩
  rw [matchAccess_unrestricted ordinary made]

/-- `foo` of the module `x` is free once it is removed there. -/
theorem lifted_iff_foo : ∃ m', fooOfX.withChildUnrestricted ["x", "foo"] = some m' ∧
    ∀ context, m'.matchAccess context ["x", "foo"] true = false ↔
      stillRestricted context fooOfX ["x", "foo"] = false :=
  lifted_iff fooOfX ["x", "foo"] (by simp) (by decide)

/-- `SandboxMatcher.all_uses`. -/
def allUses : SandboxMatcher where
  use := ["*"]
  leaf := noLeaf

/-- The module `x` next to a matcher for all other modules. -/
def nextToAll : SandboxMatcher where
  children := [("x", { access := ["foo"], leaf := noLeaf }), ("*", all)]
  leaf := noLeaf

/-- The walk falls back to `"*"` when the entry for `x` is gone, and a `"*"` in `use` or
    `access` is not touched. -/
theorem exposed : (nextToAll.withChildUnrestricted ["x"] = some { children := [("*", all)] } ∧
      nextToAll.matchAccess {} ["x"] true = false ∧
      SandboxMatcher.matchAccess { children := [("*", all)] } {} ["x"] true = true) ∧
    (allUses.withChildUnrestricted ["x"] = some allUses ∧
      allUses.matchAccess {} ["x"] true = true) ∧
    ¬∀ (m : SandboxMatcher) (p : List String), p ≠ [] → "*" ∉ p →
      ∃ m', m.withChildUnrestricted p = some m' ∧ ∀ context,
        m'.matchAccess context p true = false := by
  refine ⟨⟨rfl, rfl, rfl⟩, ⟨rfl, rfl⟩, fun lifted => ?_⟩
  obtain ⟨m', made, free⟩ := lifted allUses ["x"] (by simp) (by decide)
  cases made
  have restricted := free {}
  cases restricted

/-! ### Everything else -/

theorem matchAccess_other {p q : List String} (ordinary : "*" ∉ p)
    (made : m.withChildUnrestricted p = some m') (outside : ¬p <+: q) :
    m'.matchAccess context q includeUse = m.matchAccess context q includeUse := by
  induction p generalizing m m' q with
  | nil => exact absurd List.nil_prefix outside
  | cons v rest ih =>
    obtain ⟨star, ordinaryRest⟩ := not_or.mp (List.mem_cons.not.mp ordinary)
    cases rest with
    | nil =>
      rw [withChildUnrestricted_single] at made
      cases made
      cases q with
      | nil =>
        rw [matchAccess_nil, matchAccess_nil, passive_removed]
        rfl
      | cons k q =>
        -- a path through the name would have it as a prefix
        have other : k ≠ v := by
          rintro rfl
          exact outside (by simp)
        rw [matchAccess_cons, matchAccess_cons, passive_removed, catches_removed other star,
          child_removed other star]
    | cons w rest =>
      rw [withChildUnrestricted_cons] at made
      cases found : get m.children v with
      | none =>
        rw [found] at made
        cases made
        rfl
      | some c =>
        rw [found] at made
        obtain ⟨c', madeBelow, rfl⟩ := Option.map_eq_some_iff.mp made
        cases q with
        | nil =>
          rw [matchAccess_nil, matchAccess_nil, passive_withChild]
          rfl
        | cons k q =>
          rw [matchAccess_cons, matchAccess_cons, passive_withChild, catches_withChild]
          by_cases same : k = v
          · subst same
            -- the paths part further down
            have below : ¬(w :: rest) <+: q := fun inside =>
              outside (List.cons_prefix_cons.mpr ⟨rfl, inside⟩)
            have here : m.child k = some c := by simp [child, found]
            rw [child_withChild_self, here, Option.any_some, Option.any_some,
              ih ordinaryRest madeBelow below]
          · rw [child_withChild c' same star]

/-! ### Objects -/

/-- The object at `r` is the matcher `m`, and is made of objects in `P`. -/
inductive Represents (h : Heap Obj) (P : Ref → Prop) : Ref → SandboxMatcher → Prop where
  | intro {r : Ref} {m : SandboxMatcher} {fields : Fields} {items : List (String × Ref)}
      (here : h.read r = some (.matcher fields)) (inside : P r)
      (access : h.read fields.access = some (.set m.access)) (accessInside : P fields.access)
      (use : h.read fields.use = some (.set m.use)) (useInside : P fields.use)
      (children : h.read fields.children = some (.dict items))
      (childrenInside : P fields.children)
      (flags : fields.matchSelf = m.matchSelf ∧ fields.onlyRuntime = m.onlyRuntime ∧
        fields.leafMessage = m.leafMessage ∧ fields.leafWarning = m.leafWarning)
      (keys : items.map Prod.fst = m.children.map Prod.fst)
      (below : ∀ v ref child, Dict.lookup items v = some ref → get m.children v = some child →
        Represents h P ref child) : Represents h P r m

variable {h h' : Heap Obj} {P P' : Ref → Prop} {r : Ref}

/-- Only objects in `P` are read. -/
theorem Represents.transfer (represents : Represents h P r m)
    (same : ∀ r o, P r → h.read r = some o → P' r ∧ h'.read r = some o) :
    Represents h' P' r m := by
  induction represents with
  | intro here inside access accessInside use useInside children childrenInside flags keys _ ih =>
    obtain ⟨inside, here⟩ := same _ _ inside here
    obtain ⟨accessInside, access⟩ := same _ _ accessInside access
    obtain ⟨useInside, use⟩ := same _ _ useInside use
    obtain ⟨childrenInside, children⟩ := same _ _ childrenInside children
    exact .intro here inside access accessInside use useInside children childrenInside flags
      keys ih

theorem Represents.keep (represents : Represents h P r m) (kept : h.Keeps h') :
    Represents h' P r m :=
  represents.transfer fun r o inside found => ⟨inside, kept r o found⟩

/-- An object that has just been allocated is none of those that were there. -/
theorem Represents.apart (represents : Represents h P r m) (o : Obj) :
    Represents (h.alloc o).1 (fun r => P r ∧ r ≠ (h.alloc o).2) r m := by
  refine represents.transfer fun r' o' inside found =>
    ⟨⟨inside, ?_⟩, Heap.keeps_alloc h o _ _ found⟩
  rintro rfl
  rw [Heap.read_fresh] at found
  cases found

/-- Writing to an object that the matcher is not made of. -/
theorem Represents.join {copy : Ref} (represents : Represents h (fun r => P r ∧ r ≠ copy) r m)
    (o : Obj) : Represents (h.write copy o) P r m :=
  represents.transfer fun _ _ inside found =>
    ⟨inside.1, (Heap.read_write_ne inside.2 h o).trans found⟩

/-- Either the name is not there, or it is removed from a copy. -/
theorem removeFromSet_spec {names : List String} (v : String)
    (found : h.read r = some (.set names)) (inside : P r)
    (fresh : ∀ r ≥ h.objects.length, P r) :
    ∃ h' o, removeFromSet h r v = some (h', o) ∧ h.Keeps h' ∧ P (o.getD r) ∧
      h'.read (o.getD r) = some (.set (without names v)) := by
  have isSet : Obj.set? h r = some names := by simp [Obj.set?, found]
  by_cases there : v ∈ names
  -- a copy is made, and the name is removed from the copy
  · have ran : removeFromSet h r v = some
        ((h.alloc (.set names)).1.write (h.alloc (.set names)).2 (.set (without names v)),
          some (h.alloc (.set names)).2) := by
      simp [removeFromSet, isSet, there]
    refine ⟨_, _, ran, ?_, ?_, ?_⟩
    · exact (Heap.keeps_alloc h _).write (Heap.read_fresh h _) _
    · exact fresh _ (Nat.le_refl _)
    · exact Heap.read_write (Heap.read_alloc h _) _
  · have nothing : without names v = names := by
      apply List.filter_eq_self.mpr
      intro k member
      simpa using fun same : k = v => there (same ▸ member)
    refine ⟨h, Option.none, by simp [removeFromSet, isSet, there], .refl h, inside, ?_⟩
    rw [nothing]
    exact found

theorem removeFromDict_spec {items : List (String × Ref)} (v : String)
    (found : h.read r = some (.dict items)) (inside : P r)
    (fresh : ∀ r ≥ h.objects.length, P r) :
    ∃ h' o, removeFromDict h r v = some (h', o) ∧ h.Keeps h' ∧ P (o.getD r) ∧
      h'.read (o.getD r) = some (.dict (withoutItem items v)) := by
  have isDict : Obj.dict? h r = some items := by simp [Obj.dict?, found]
  by_cases there : v ∈ items.map Prod.fst
  · have ran : removeFromDict h r v = some
        ((h.alloc (.dict items)).1.write (h.alloc (.dict items)).2 (.dict (withoutItem items v)),
          some (h.alloc (.dict items)).2) := by
      rw [removeFromDict, isDict, Option.bind_eq_bind, Option.bind_some, if_pos there]
      rfl
    refine ⟨_, _, ran, ?_, ?_, ?_⟩
    · exact (Heap.keeps_alloc h _).write (Heap.read_fresh h _) _
    · exact fresh _ (Nat.le_refl _)
    · exact Heap.read_write (Heap.read_alloc h _) _
  · have nothing : withoutItem items v = items := by
      apply List.filter_eq_self.mpr
      intro item member
      simpa using fun same : item.1 = v => there (same ▸ List.mem_map_of_mem member)
    have ran : removeFromDict h r v = some (h, Option.none) := by
      rw [removeFromDict, isDict, Option.bind_eq_bind, Option.bind_some, if_neg there]
      rfl
    refine ⟨h, Option.none, ran, .refl h, inside, ?_⟩
    rw [nothing]
    exact found

/-- `dataclasses.replace` makes a new object, unless there is nothing to replace. -/
theorem replace_spec {fields : Fields} (found : h.read r = some (.matcher fields)) (inside : P r)
    (fresh : ∀ r ≥ h.objects.length, P r) (access use children : Option Ref) :
    ∃ h' r', replace h r fields access use children = (h', r') ∧ h.Keeps h' ∧ P r' ∧
      h'.read r' = some (.matcher { fields with
        access := access.getD fields.access
        use := use.getD fields.use
        children := children.getD fields.children }) := by
  unfold replace
  split
  next nothing =>
    simp only [Bool.and_eq_true, Option.isNone_iff_eq_none] at nothing
    obtain ⟨⟨rfl, rfl⟩, rfl⟩ := nothing
    exact ⟨h, r, rfl, .refl h, inside, found⟩
  next => exact ⟨_, _, rfl, Heap.keeps_alloc h _, fresh _ (Nat.le_refl _), Heap.read_alloc h _⟩

theorem fresh_of_keeps (fresh : ∀ r ≥ h.objects.length, P r) (kept : h.Keeps h') :
    ∀ r ≥ h'.objects.length, P r :=
  fun r above => fresh r (Nat.le_trans kept.length_le above)

theorem fresh_apart (fresh : ∀ r ≥ h.objects.length, P r) (o : Obj) :
    ∀ r ≥ (h.alloc o).1.objects.length, P r ∧ r ≠ (h.alloc o).2 := by
  intro r above
  have past : h.objects.length + 1 ≤ r := by simpa [Heap.alloc] using above
  exact ⟨fresh r (Nat.le_of_lt past), Nat.ne_of_gt past⟩

theorem keys_withoutItem {α : Type} (items : List (String × α)) (v : String) :
    (withoutItem items v).map Prod.fst = without (items.map Prod.fst) v := by
  rw [withoutItem, without, List.filter_map]
  rfl

/-- Mappings with the same keys have entries for the same names. -/
theorem lookup_of_keys {items : List (String × Ref)} {children : List (String × SandboxMatcher)}
    (keys : items.map Prod.fst = children.map Prod.fst) (v : String) :
    (Dict.lookup items v).isSome = (get children v).isSome := by
  rw [get_eq_lookup]
  induction items generalizing children with
  | nil =>
    cases children with
    | nil => rfl
    | cons => cases keys
  | cons item items ih =>
    cases children with
    | nil => cases keys
    | cons entry children =>
      obtain ⟨k, ref⟩ := item
      obtain ⟨k', child⟩ := entry
      obtain ⟨same, keysRest⟩ := List.cons.inj keys
      obtain rfl : k = k' := same
      rw [Dict.lookup, Dict.lookup]
      split
      · rfl
      · exact ih keysRest

/-- The last step: copies without the name, and a new matcher that has them. -/
theorem removedAt (represents : Represents h P r m) (fresh : ∀ r ≥ h.objects.length, P r)
    (v : String) :
    ∃ h' r', withChildUnrestrictedAt h r [v] = some (h', r') ∧ h.Keeps h' ∧
      Represents h' P r' (m.removed v) := by
  obtain ⟨here, inside, access, accessInside, use, useInside, children, childrenInside, flags,
    keys, below⟩ := represents
  rename_i fields items
  obtain ⟨h₁, newAccess, ran₁, kept₁, inside₁, read₁⟩ :=
    removeFromSet_spec v access accessInside fresh
  have fresh₁ := fresh_of_keeps fresh kept₁
  obtain ⟨h₂, newUse, ran₂, kept₂, inside₂, read₂⟩ :=
    removeFromSet_spec v (kept₁ _ _ use) useInside fresh₁
  have kept₁₂ := kept₁.trans kept₂
  have fresh₂ := fresh_of_keeps fresh₁ kept₂
  obtain ⟨h₃, newChildren, ran₃, kept₃, inside₃, read₃⟩ :=
    removeFromDict_spec v (kept₁₂ _ _ children) childrenInside fresh₂
  have kept₁₃ := kept₁₂.trans kept₃
  obtain ⟨h₄, r', ran₄, kept₄, inside₄, read₄⟩ := replace_spec (kept₁₃ _ _ here) inside
    (fresh_of_keeps fresh₂ kept₃) newAccess newUse newChildren
  have isMatcher : Obj.matcher? h r = some fields := by simp [Obj.matcher?, here]
  -- each of the three copies is still there when the matcher is replaced
  refine ⟨h₄, r', ?_, kept₁₃.trans kept₄, ?_⟩
  · simp [withChildUnrestrictedAt, isMatcher, ran₁, ran₂, ran₃, ran₄]
  · refine .intro read₄ inside₄ (kept₄ _ _ (kept₃ _ _ (kept₂ _ _ read₁))) inside₁
      (kept₄ _ _ (kept₃ _ _ read₂)) inside₂ (kept₄ _ _ read₃) inside₃ flags ?_ ?_
    · change _ = (withoutItem m.children v).map Prod.fst
      rw [keys_withoutItem, keys_withoutItem, keys]
    · intro k ref child found isChild
      change Dict.lookup (items.filter fun item => decide (item.1 ≠ v)) k = some ref at found
      change get (withoutItem m.children v) k = some child at isChild
      rw [Dict.lookup_filter] at found
      rw [get_withoutItem] at isChild
      by_cases same : k = v
      · rw [if_pos same] at found
        cases found
      · rw [if_neg same] at found isChild
        exact (below k ref child found isChild).keep (kept₁₃.trans kept₄)

/-- The call on objects does what `withChildUnrestricted` does, and keeps all objects. -/
theorem unrestrictedAt_spec {p : List String} (represents : Represents h P r m)
    (fresh : ∀ r ≥ h.objects.length, P r) (made : m.withChildUnrestricted p = some m') :
    ∃ h' r', withChildUnrestrictedAt h r p = some (h', r') ∧ h.Keeps h' ∧
      Represents h' P r' m' := by
  induction p generalizing h P r m m' with
  | nil => cases made
  | cons v rest ih =>
    cases rest with
    | nil =>
      rw [withChildUnrestricted_single] at made
      cases made
      exact removedAt represents fresh v
    | cons w rest =>
      rw [withChildUnrestricted_cons] at made
      have again := represents
      obtain ⟨here, inside, access, accessInside, use, useInside, children, childrenInside,
        flags, keys, below⟩ := represents
      rename_i fields items
      have isMatcher : Obj.matcher? h r = some fields := by simp [Obj.matcher?, here]
      have isDict : Obj.dict? h fields.children = some items := by simp [Obj.dict?, children]
      have sameKeys := lookup_of_keys keys v
      cases found : get m.children v with
      | none =>
        rw [found] at made sameKeys
        cases made
        have nothing : Dict.lookup items v = Option.none := by simpa using sameKeys
        exact ⟨h, r, by simp [withChildUnrestrictedAt, isMatcher, isDict, nothing], .refl h, again⟩
      | some c =>
        rw [found] at made sameKeys
        obtain ⟨c', madeBelow, rfl⟩ := Option.map_eq_some_iff.mp made
        obtain ⟨ref, isRef⟩ := Option.isSome_iff_exists.mp sameKeys
        -- the copy is none of the objects that the child is made of, before or after
        have childBelow := (below v ref c isRef found).apart (.dict items)
        have freshBelow := fresh_apart fresh (.dict items)
        obtain ⟨h₂, ref', ran, kept₂, belowAfter⟩ := ih childBelow freshBelow madeBelow
        have copied := kept₂ _ _ (Heap.read_alloc h (.dict items))
        -- the entry is written to the copy, which nobody else knows
        have kept₃ : h.Keeps (h₂.write (h.alloc (.dict items)).2
            (.dict (Dict.insert items v ref'))) :=
          ((Heap.keeps_alloc h _).trans kept₂).write (Heap.read_fresh h _) _
        have belowKept := belowAfter.join (.dict (Dict.insert items v ref'))
        obtain ⟨h₄, r', ran₄, kept₄, inside₄, read₄⟩ := replace_spec (kept₃ _ _ here) inside
          (fresh_of_keeps fresh kept₃) Option.none Option.none (some (h.alloc (.dict items)).2)
        refine ⟨h₄, r', ?_, kept₃.trans kept₄, ?_⟩
        · simp [withChildUnrestrictedAt, isMatcher, isDict, isRef, ran, ran₄]
        · refine .intro read₄ inside₄ (kept₄ _ _ (kept₃ _ _ access)) accessInside
            (kept₄ _ _ (kept₃ _ _ use)) useInside
            (kept₄ _ _ (Heap.read_write copied _)) (fresh _ (Nat.le_refl _)) flags ?_ ?_
          · change _ = (Dict.insert m.children v c').map Prod.fst
            rw [Dict.keys_insert, Dict.keys_insert, keys]
          · intro k ref child isRef isChild
            change Dict.lookup (Dict.insert items v ref') k = some ref at isRef
            change get (Dict.insert m.children v c') k = some child at isChild
            rw [Dict.lookup_insert] at isRef
            rw [get_insert] at isChild
            by_cases same : k = v
            · rw [if_pos same] at isRef isChild
              cases isRef
              cases isChild
              exact belowKept.keep kept₄
            · rw [if_neg same] at isRef isChild
              exact (below k ref child isRef isChild).keep (kept₃.trans kept₄)

/-- Every path that does not go through the member is matched as before, and no object that
    was there before is changed, the matcher itself and all it is made of included. -/
theorem others_unchanged (m : SandboxMatcher) (p : List String) (nonempty : p ≠ [])
    (ordinary : "*" ∉ p) :
    ∃ m', m.withChildUnrestricted p = some m' ∧
      (∀ context includeUse q, ¬p <+: q →
        m'.matchAccess context q includeUse = m.matchAccess context q includeUse) ∧
      ∀ h r, Represents h (fun _ => True) r m →
        ∃ h' r', withChildUnrestrictedAt h r p = some (h', r') ∧ h.Keeps h' ∧
          Represents h' (fun _ => True) r' m' ∧ Represents h' (fun _ => True) r m := by
  obtain ⟨m', made⟩ := exists_unrestricted m nonempty
  refine ⟨m', made, fun _ _ _ => matchAccess_other ordinary made, fun h r represents => ?_⟩
  obtain ⟨h', r', ran, kept, after⟩ :=
    unrestrictedAt_spec represents (fun _ _ => True.intro) made
  exact ⟨h', r', ran, kept, after, represents.keep kept⟩

/-- The objects of `fooOfX`, whose empty sets are one. -/
def heapOfFoo : Heap Obj where
  objects :=
    [.set ["foo"], .set [], .dict [], .matcher ⟨0, 1, 2, false, false, Option.none, Option.none⟩,
      .dict [("x", 3)], .matcher ⟨1, 1, 4, false, false, Option.none, Option.none⟩]

theorem heapOfFoo_represents : Represents heapOfFoo (fun _ => True) 5 fooOfX := by
  apply Represents.intro rfl trivial rfl trivial rfl trivial rfl trivial ⟨rfl, rfl, rfl, rfl⟩ rfl
  intro v ref child found child_found
  by_cases name : v = "x"
  · subst name
    cases found
    cases child_found
    apply Represents.intro rfl trivial rfl trivial rfl trivial rfl trivial ⟨rfl, rfl, rfl, rfl⟩ rfl
    intro v ref child found
    cases found
  · have other : "x" ≠ v := fun same => name same.symm
    simp [Dict.lookup, other] at found

theorem others_unchanged_foo : ∃ m', fooOfX.withChildUnrestricted ["x", "foo"] = some m' ∧
    (∀ context includeUse q, ¬["x", "foo"] <+: q →
      m'.matchAccess context q includeUse = fooOfX.matchAccess context q includeUse) ∧
    ∃ h' r', withChildUnrestrictedAt heapOfFoo 5 ["x", "foo"] = some (h', r') ∧
      heapOfFoo.Keeps h' ∧ Represents h' (fun _ => True) r' m' ∧
        Represents h' (fun _ => True) 5 fooOfX := by
  obtain ⟨m', made, same, objects⟩ := others_unchanged fooOfX ["x", "foo"] (by simp) (by decide)
  exact ⟨m', made, same, objects heapOfFoo 5 heapOfFoo_represents⟩

end TemporalSdk.Sandbox.SandboxMatcher
