import TemporalSdk.Sandbox.Importer
import TemporalSdk.Sandbox.ThreadLocalOverride

/-!
# Passing modules through

## Main result

`passthrough_iff`: a module is imported from the host if imports are passed through or
if an entry of the passthrough set is a prefix of its name that ends at a component
boundary; the search ends after at most one round for each component.

## Proof strategy

The search goes from dot to dot, so its lemma is an induction on the components that
are left behind the last dot found. The prefixes it looks up are those that a dot
follows; the whole name is looked up before.
-/

namespace TemporalSdk.Sandbox

open Segments

variable {V W M X R : Type}

/-! ### Names -/

/-- `name.split(".")`. -/
def components (name : String) : List String := (name.toList.splitOn '.').map String.ofList

/-- `entry` is the whole name or a prefix of it that a dot follows. -/
def EndsAtComponent (entry name : String) : Prop :=
  entry = name ∨ ∃ rest, name = entry ++ "." ++ rest

theorem length_components (name : String) :
    (components name).length = (name.toList.splitOn '.').length := List.length_map _

theorem prefix_dot_iff {entry name : String} :
    entry.toList ++ ['.'] <+: name.toList ↔ ∃ rest, name = entry ++ "." ++ rest := by
  constructor
  · rintro ⟨rest, same⟩
    refine ⟨String.ofList rest, String.toList_injective ?_⟩
    simp [← same]
  · rintro ⟨rest, rfl⟩
    exact ⟨rest.toList, by simp⟩

theorem endsAtComponent_iff {entry name : String} :
    EndsAtComponent entry name ↔ WholePrefix '.' entry.toList name.toList := by
  rw [EndsAtComponent, WholePrefix, prefix_dot_iff, String.toList_inj]

/-- A prefix ends at a component boundary if and only if its components are the first
    components of the name. -/
theorem endsAtComponent_iff_components {entry name : String} :
    EndsAtComponent entry name ↔ components entry <+: components name := by
  rw [endsAtComponent_iff, wholePrefix_iff_splitOn, components, components,
    List.prefix_map_iff_of_injective fun _ _ => String.ofList_injective]

instance (entry name : String) : Decidable (EndsAtComponent entry name) :=
  decidable_of_iff _ endsAtComponent_iff_components.symm

theorem EndsAtComponent.trans {entry parent name : String} (inner : EndsAtComponent entry parent)
    (outer : EndsAtComponent parent name) : EndsAtComponent entry name := by
  rw [endsAtComponent_iff] at inner outer ⊢
  exact inner.trans outer

theorem EndsAtComponent.append {entry name : String} (ends : EndsAtComponent entry name) :
    ∃ rest, name = entry ++ rest := by
  rcases ends with rfl | ⟨rest, rfl⟩
  · exact ⟨"", String.append_empty.symm⟩
  · exact ⟨"." ++ rest, String.append_assoc⟩

/-- What merely begins with an entry: another character follows than a dot. -/
theorem not_endsAtComponent {entry rest : String} {c : Char} (other : c ≠ '.') :
    ¬ EndsAtComponent entry (entry ++ String.singleton c ++ rest) := by
  rw [endsAtComponent_iff]
  have differs : ¬ WholePrefix '.' entry.toList (entry.toList ++ c :: rest.toList) :=
    not_wholePrefix other
  simpa using differs

/-! ### The host -/

/-- The state in which overrides are unapplied, so that the thread sees what is there
    outside of the sandbox. -/
def ImportState.without (s : ImportState V W) (overrides : List Overridden) : ImportState V W :=
  { s with maybeCurrent := fun o => if o ∈ overrides then none else s.maybeCurrent o }

/-- The state in which they are applied again as they were in `before`. -/
def ImportState.restored (s : ImportState V W) (overrides : List Overridden)
    (before : ImportState V W) : ImportState V W :=
  { s with maybeCurrent := fun o =>
      if o ∈ overrides then (before.maybeCurrent o).or (s.maybeCurrent o) else s.maybeCurrent o }

theorem without_cons (o : Overridden) (overrides : List Overridden) (s : ImportState V W) :
    s.without (o :: overrides) = (s.setCurrent o none).without overrides := by
  simp only [ImportState.without, ImportState.setCurrent, ImportState.mk.injEq, and_true]
  funext other
  by_cases same : other = o
  · simp [same]
  · simp [same]

theorem restored_cons (o : Overridden) (overrides : List Overridden) (s before : ImportState V W) :
    s.restored (o :: overrides) before =
      (s.restored overrides (before.setCurrent o none)).setCurrent o
        ((before.maybeCurrent o).or (s.maybeCurrent o)) := by
  simp only [ImportState.restored, ImportState.setCurrent, ImportState.mk.injEq, and_true]
  funext other
  by_cases same : other = o
  · simp [same]
  · simp [same]

/-- The context managers of several overrides, one inside the other. -/
theorem foldr_unapplied (overrides : List Overridden) (body : Body V W R) (s : ImportState V W) :
    overrides.foldr (fun o body => unapplied o body) body s =
      ((body (s.without overrides)).1, (body (s.without overrides)).2.restored overrides s) := by
  induction overrides generalizing s with
  | nil => simp [ImportState.without, ImportState.restored]
  | cons o rest ih =>
    rw [List.foldr_cons, unapplied, ih, without_cons, restored_cons]
    cases current : s.maybeCurrent o with
    | none =>
      -- nothing to unapply: the thread is outside of the sandbox already
      have same : s.setCurrent o none = s := by
        rw [ImportState.setCurrent, ← current, Function.update_eq_self]
      have kept (after : ImportState V W) :
          (after.restored rest s).setCurrent o (after.maybeCurrent o) = after.restored rest s := by
        have held : (after.restored rest s).maybeCurrent o = after.maybeCurrent o := by
          simp [ImportState.restored, current]
        rw [ImportState.setCurrent, ← held, Function.update_eq_self]
      rw [same, Option.none_or, kept]
      rfl
    | some v => rfl

/-! ### The search -/

namespace Importer

variable {modules : List String} {before seg rest : List Char}

theorem find_last (mem : '.' ∉ seg) :
    find (String.ofList (before ++ seg)) '.' before.length = -1 := by
  rw [find, if_neg (by omega), Int.toNat_natCast, String.toList_ofList, indexFrom_last mem]

theorem find_more (mem : '.' ∉ seg) :
    find (String.ofList (before ++ (seg ++ '.' :: rest))) '.' before.length =
      (before ++ seg).length := by
  rw [find, if_neg (by omega), Int.toNat_natCast, String.toList_ofList, indexFrom_more mem,
    List.length_append]

theorem slice_length :
    slice (String.ofList (before ++ rest)) before.length = String.ofList before := by
  rw [slice, if_neg (by omega), Int.toNat_natCast, String.toList_ofList, List.take_left]

theorem round_last (mem : '.' ∉ seg) :
    round modules (String.ofList (before ++ seg)) (before.length - 1) = .returnNone := by
  rw [round, Int.sub_add_cancel, find_last mem]
  rfl

theorem round_more (mem : '.' ∉ seg) :
    round modules (String.ofList (before ++ (seg ++ '.' :: rest))) (before.length - 1) =
      if String.ofList (before ++ seg) ∈ modules then .passThrough
      else .search (before ++ seg).length := by
  rw [round, Int.sub_add_cancel, find_more mem, if_neg (by omega), ← List.append_assoc,
    slice_length]

/-- From behind a dot on, the search ends, and with the `break` if and only if it finds
    a prefix that another dot follows. -/
theorem search_iff (modules : List String) (rest before : List Char) (rounds : Nat)
    (enough : (rest.splitOn '.').length ≤ rounds) :
    ∃ found,
      search modules (String.ofList (before ++ rest)) rounds (before.length - 1) = some found ∧
      (found = true ↔ ∃ p, p ++ ['.'] <+: rest ∧ String.ofList (before ++ p) ∈ modules) := by
  induction rest using segments_induction '.' generalizing before rounds with
  | last seg mem =>
    rw [List.splitOn_eq_singleton mem, List.length_singleton] at enough
    obtain ⟨rounds, rfl⟩ := Nat.exists_eq_add_of_le' enough
    refine ⟨false, ?_, ?_⟩
    · rw [search, round_last mem]
    · have none (p : List Char) : ¬ p ++ ['.'] <+: seg := not_prefix_last mem
      simp [none]
  | more seg rest mem ih =>
    rw [length_splitOn_more mem] at enough
    obtain ⟨rounds, rfl⟩ := Nat.exists_eq_add_of_le' (Nat.le_of_add_left_le enough)
    rw [search, round_more mem]
    by_cases first : String.ofList (before ++ seg) ∈ modules
    · refine ⟨true, by rw [if_pos first], ?_⟩
      rw [exists_prefix_more mem]
      exact iff_of_true rfl (.inl first)
    · -- the next round starts behind this dot
      have behind : ((before ++ seg).length : Int) = (before ++ seg ++ ['.']).length - 1 := by
        rw [@List.length_append _ (before ++ seg) ['.']]
        simp
      have name : before ++ (seg ++ '.' :: rest) = before ++ seg ++ ['.'] ++ rest := by simp
      obtain ⟨found, searched, found_iff⟩ :=
        ih (before ++ seg ++ ['.']) rounds (Nat.le_of_add_le_add_right enough)
      refine ⟨found, ?_, ?_⟩
      · rw [if_neg first, behind, name]
        exact searched
      · rw [found_iff, exists_prefix_more mem, or_iff_right first]
        simp

/-- The search over a whole name. -/
theorem search_name (modules : List String) (name : String) {rounds : Nat}
    (enough : (components name).length ≤ rounds) :
    ∃ found, search modules name rounds (-1) = some found ∧
      (found = true ↔ ∃ entry ∈ modules, ∃ rest, name = entry ++ "." ++ rest) := by
  rw [length_components] at enough
  obtain ⟨found, searched, found_iff⟩ := search_iff modules name.toList [] rounds enough
  rw [List.nil_append, String.ofList_toList] at searched
  refine ⟨found, searched, ?_⟩
  rw [found_iff]
  constructor
  · rintro ⟨p, isPrefix, isIn⟩
    rw [List.nil_append] at isIn
    refine ⟨String.ofList p, isIn, prefix_dot_iff.mp ?_⟩
    rw [String.toList_ofList]
    exact isPrefix
  · rintro ⟨entry, isIn, goesOn⟩
    exact ⟨entry.toList, prefix_dot_iff.mpr goesOn, by simpa using isIn⟩

/-! ### The decision -/

variable (self : Importer) {name : String} {s : ImportState V W} {rounds : Nat}

/-- What passes through: everything if imports are passed through, and otherwise the
    entries of the set and what is below them. -/
def Passes (name : String) (s : ImportState V W) : Prop :=
  s.isImportsPassedThrough = true ∨
    ∃ entry ∈ self.restrictions.passthroughModules, EndsAtComponent entry name

instance (name : String) (s : ImportState V W) : Decidable (self.Passes name s) :=
  inferInstanceAs (Decidable (_ ∨ _))

theorem passesThrough_eq (enough : (components name).length ≤ rounds) :
    self.passesThrough rounds name s = some (decide (self.Passes name s)) := by
  obtain ⟨found, searched, found_iff⟩ :=
    search_name self.restrictions.passthroughModules name enough
  rw [passesThrough, searched]
  cases flag : s.isImportsPassedThrough with
  | true => simp [Passes, flag]
  | false =>
    by_cases whole : name ∈ self.restrictions.passthroughModules
    · have passes : self.Passes name s := .inr ⟨name, whole, .inl rfl⟩
      simp [whole, passes]
    · have passes_iff : self.Passes name s ↔ found = true := by
        rw [found_iff, Passes, flag]
        constructor
        · rintro (never | ⟨entry, isIn, rfl | goesOn⟩)
          · cases never
          · exact absurd isIn whole
          · exact ⟨entry, isIn, goesOn⟩
        · rintro ⟨entry, isIn, goesOn⟩
          exact .inr ⟨entry, isIn, .inr goesOn⟩
      simp [whole, passes_iff]

/-- "Any module listed will apply to all children." -/
theorem Passes.child (passes : self.Passes name s) (child : String) :
    self.Passes (name ++ "." ++ child) s := by
  rcases passes with flag | ⟨entry, isIn, ends⟩
  · exact .inl flag
  · exact .inr ⟨entry, isIn, ends.trans (.inr ⟨child, rfl⟩)⟩

/-- Modules that are added to the set pass through, and nothing else that did not. -/
theorem passes_withPassthroughModules (modules : List String) (name : String)
    (s : ImportState V W) :
    { self with restrictions := self.restrictions.withPassthroughModules modules }.Passes name s ↔
      self.Passes name s ∨ ∃ entry ∈ modules, EndsAtComponent entry name := by
  simp only [Passes, SandboxRestrictions.withPassthroughModules, List.mem_union_iff]
  constructor
  · rintro (flag | ⟨entry, old | new, ends⟩)
    · exact .inl (.inl flag)
    · exact .inl (.inr ⟨entry, old, ends⟩)
    · exact .inr ⟨entry, new, ends⟩
  · rintro ((flag | ⟨entry, old, ends⟩) | ⟨entry, new, ends⟩)
    · exact .inl flag
    · exact .inr ⟨entry, .inl old, ends⟩
    · exact .inr ⟨entry, .inr new, ends⟩

/-- Inside `imports_passed_through` everything passes through, also in a nested block. -/
theorem importsPassedThrough_passes (body : Body V W R) (s : ImportState V W) :
    ∃ inside : ImportState V W, inside.maybeCurrent = s.maybeCurrent ∧ inside.world = s.world ∧
      (importsPassedThrough body s).1 = (body inside).1 ∧
      ∀ (self : Importer) (name : String), self.Passes name inside := by
  cases flag : s.isImportsPassedThrough with
  | true =>
    refine ⟨s, rfl, rfl, ?_, fun self name => .inl flag⟩
    rw [importsPassedThrough, if_pos flag]
  | false =>
    refine ⟨{ s with importsPassedThrough := some true }, rfl, rfl, ?_, fun self name => .inl rfl⟩
    rw [importsPassedThrough, flag]
    rfl

/-! ### The module from the host -/

/-- What `_unapplied` unapplies. -/
def overrides : List Overridden :=
  .sysModules :: .importFunc :: self.restrictedBuiltins.map .builtin

theorem unapplied_eq (body : Body V W R) (s : ImportState V W) :
    self.unapplied body s = ((body (s.without self.overrides)).1,
      (body (s.without self.overrides)).2.restored self.overrides s) := by
  have nested : self.unapplied body =
      self.overrides.foldr (fun o body => Sandbox.unapplied o body) body := by
    rw [unapplied, builtinsUnrestricted, overrides, List.foldr_cons, List.foldr_cons,
      List.foldr_map]
  rw [nested, foldr_unapplied]

/-- The search ends after at most one round for each component of the name, and the
    module is imported from the host, with all overrides unapplied, if and only if the
    flag is set or a non-empty prefix of the name that ends at a component boundary is in
    the set. -/
theorem passthrough_iff (importModule : String → Body V W (Except X M)) (name : String)
    (s : ImportState V W) (named : ∀ entry ∈ self.restrictions.passthroughModules, entry ≠ "") :
    ∃ passes : Bool,
      (passes = true ↔ s.isImportsPassedThrough = true ∨
        ∃ entry ∈ self.restrictions.passthroughModules, entry ≠ "" ∧ EndsAtComponent entry name) ∧
      (∀ rounds, (components name).length ≤ rounds →
        self.maybePassthroughModule importModule rounds name s = some
          (if passes then
            ((importModule name (s.without self.overrides)).1.map some,
              (importModule name (s.without self.overrides)).2.restored self.overrides s)
          else (.ok none, s))) ∧
      (s.isImportsPassedThrough = false →
        (∀ entry ∈ self.restrictions.passthroughModules, ∀ rest, name = entry ++ rest →
          ∃ c more, c ≠ '.' ∧ rest = String.singleton c ++ more) → passes = false) := by
  refine ⟨decide (self.Passes name s), ?_, ?_, ?_⟩
  · rw [decide_eq_true_iff, Passes]
    constructor
    · rintro (flag | ⟨entry, isIn, ends⟩)
      · exact .inl flag
      · exact .inr ⟨entry, isIn, named entry isIn, ends⟩
    · rintro (flag | ⟨entry, isIn, -, ends⟩)
      · exact .inl flag
      · exact .inr ⟨entry, isIn, ends⟩
  · intro rounds enough
    rw [maybePassthroughModule, self.passesThrough_eq enough, Option.map_some, importFromHost,
      unapplied_eq]
  · intro flag shares
    rw [decide_eq_false_iff_not]
    rintro (set | ⟨entry, isIn, ends⟩)
    · rw [flag] at set
      cases set
    · obtain ⟨rest, rfl⟩ := ends.append
      obtain ⟨c, more, other, rfl⟩ := shares entry isIn rest rfl
      rw [← String.append_assoc] at ends
      exact not_endsAtComponent other ends

/-- The importer of a test. -/
def testImporter : Importer where
  restrictions := SandboxRestrictions.withPassthroughModules
    ⟨SandboxRestrictions.passthroughModulesWithTemporal⟩
    ["tests.worker.workflow_sandbox.testmodules.passthrough_module"]
  restrictedBuiltins := ["isinstance", "issubclass"]

/-- An import that notes the name and whether the thread sees the modules of the host. -/
def notedImport (name : String) : Body String (List (String × Bool)) (Except Unit String) :=
  fun s => (.ok name,
    { s with world := s.world ++ [(name, (s.maybeCurrent .sysModules).isNone)] })

/-- A thread in a sandbox. -/
def inSandbox : ImportState String (List (String × Bool)) where
  maybeCurrent _ := some "sandbox"
  importsPassedThrough := none
  world := []

/-- A child of `google.protobuf` is imported from the host, a module whose name merely
    begins like that is not. -/
theorem passthrough_iff_protobuf :
    (testImporter.maybePassthroughModule notedImport 3 "google.protobuf.internal" inSandbox).map
        (fun out => (out.1, out.2.world)) =
      some (.ok (some "google.protobuf.internal"), [("google.protobuf.internal", true)]) ∧
    (testImporter.maybePassthroughModule notedImport 3 "google.protobuf_internal.x" inSandbox).map
        (fun out => (out.1, out.2.world)) = some (.ok none, []) := by
  constructor
  · obtain ⟨passes, passes_iff, ran, -⟩ := passthrough_iff testImporter notedImport
      "google.protobuf.internal" inSandbox (by decide)
    have inSet : passes = true := passes_iff.mpr
      (.inr ⟨"google.protobuf", by decide, by decide, .inr ⟨"internal", by decide⟩⟩)
    rw [ran 3 (by decide), inSet]
    rfl
  · obtain ⟨passes, passes_iff, ran, -⟩ := passthrough_iff testImporter notedImport
      "google.protobuf_internal.x" inSandbox (by decide)
    have notInSet : passes = false := by
      rw [← Bool.not_eq_true, passes_iff]
      decide
    rw [ran 3 (by decide), notInSet]
    rfl

end Importer

/-! ### One override, step by step -/

variable {s : Override V} {i : Nat} {th : Thread V}

theorem enterUnapplied_steps (there : s.threads[i]? = some th) (point : th.point = .body) :
    ∃ s₁, runActions Override.step s [(i, .enterUnapplied), (i, .advance)] = some s₁ ∧
      s₁.threads[i]? = some
        { data := if th.data.isSome then none else th.data
          blocks := .unapplied th.data :: th.blocks
          point := .body } := by
  have inside : i < s.threads.length := (List.getElem?_eq_some_iff.mp there).1
  have entered : Override.step s (i, .enterUnapplied) =
      some (s.setThread i { th with point := .clearing th.data }) := by
    simp only [Override.step, there, point]
  have at_i : (s.setThread i { th with point := .clearing th.data }).threads[i]? =
      some { th with point := .clearing th.data } := List.getElem?_set_self inside
  refine ⟨(s.setThread i { th with point := .clearing th.data }).setThread i _, ?_,
    List.getElem?_set_self ?_⟩
  · rw [runActions, entered, Option.bind_some, runActions, Override.step, at_i]
    rfl
  · rw [Override.setThread, List.length_set]
    exact inside

theorem leaveUnapplied_step (there : s.threads[i]? = some th) (point : th.point = .body)
    {origCurrent : Option V} {rest : List (Block V)}
    (blocks : th.blocks = .unapplied origCurrent :: rest) :
    ∃ s₁, Override.step s (i, .leave) = some s₁ ∧
      s₁.threads[i]? = some
        { data := if origCurrent.isSome then origCurrent else th.data
          blocks := rest
          point := .body } := by
  have inside : i < s.threads.length := (List.getElem?_eq_some_iff.mp there).1
  refine ⟨s.setThread i _, ?_, List.getElem?_set_self inside⟩
  simp only [Override.step, there, point, blocks]

/-- `unapplied` of one override takes the steps of the thread: it enters the block before
    the body and leaves it afterwards, whatever other threads do meanwhile. -/
theorem unapplied_steps (o : Overridden) (body : Body V W R) (state : ImportState V W)
    (there : s.threads[i]? = some th) (point : th.point = .body)
    (held : state.maybeCurrent o = th.data) :
    ∃ inside s₁ th₁, runActions Override.step s [(i, .enterUnapplied), (i, .advance)] = some s₁ ∧
      s₁.threads[i]? = some th₁ ∧ inside.maybeCurrent o = th₁.data ∧
      (unapplied o body state).1 = (body inside).1 ∧
      ∀ s₂ th₂, s₂.threads[i]? = some th₂ → th₂.point = .body → th₂.blocks = th₁.blocks →
        (body inside).2.maybeCurrent o = th₂.data →
        ∃ s₃ th₃, Override.step s₂ (i, .leave) = some s₃ ∧ s₃.threads[i]? = some th₃ ∧
          th₃.blocks = th.blocks ∧ (unapplied o body state).2.maybeCurrent o = th₃.data := by
  obtain ⟨s₁, entered, there₁⟩ := enterUnapplied_steps there point
  refine ⟨if (state.maybeCurrent o).isSome then state.setCurrent o none else state, s₁, _, entered,
    there₁, ?_, rfl, ?_⟩
  · rw [← held]
    split
    · simp [ImportState.setCurrent]
    · rfl
  · intro s₂ th₂ there₂ point₂ blocks₂ held₂
    obtain ⟨s₃, left, there₃⟩ := leaveUnapplied_step there₂ point₂ blocks₂
    refine ⟨s₃, _, left, there₃, rfl, ?_⟩
    rw [← held₂, ← held, unapplied]
    dsimp only
    split
    · simp [ImportState.setCurrent]
    · rfl

end TemporalSdk.Sandbox
