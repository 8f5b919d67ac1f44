import TemporalSdk.Client.HistoryJson
import TemporalSdk.Conversion

/-!
# Importing JSON histories

The fix-ups rewrite strings by their places: `Listed` says which places the source
lists, and for which enum. All fix-ups of one place are for one enum
(`Listed.unique`), and a fixed name has its prefix, so the whole is `mapEntries` of a
rewriting that is the same when done twice.
-/
namespace TemporalSdk.Client.HistoryJson

open Converter.TypedJson

/-! ### Paths -/

/-- Past the index of an item. -/
def intoList : Place → Place
  | .index _ :: place => place
  | place => place

/-- The place is at the path of an enum: `*` stands for any dict of a dict, and a list of
    dicts stands for its items. -/
def onPath : List String → Place → Bool
  | [attr], [.key k] => attr ≠ "*" && k = attr
  | attr :: next :: rest, .key k :: place =>
    if attr = "*" then onPath (next :: rest) place
    else k = attr && onPath (next :: rest) (intoList place)
  | _, _ => false

/-- The rest of a place that goes through the dicts at a path. -/
def below : List String → Place → Option Place
  | [], .key k :: place => some (.key k :: place)
  | attr :: rest, .key k :: place => if attr = "*" ∨ k = attr then below rest place else none
  | _, _ => none

/-- The enums in the failures at a path of dicts. -/
def failureEnums (attrs : List String) : List (String × List String) :=
  [("TIMEOUT_TYPE", attrs ++ ["timeoutFailureInfo", "timeoutType"]),
    ("RETRY_STATE", attrs ++ ["*", "retryState"])]

/-- A place of an enum in the failures at a path, or in their causes. -/
inductive FailureListed : List String → Place → String → Prop where
  | here {attrs path : List String} {place : Place} {p : String}
      (listed : (p, path) ∈ failureEnums attrs) (on : onPath path place) :
      FailureListed attrs place p
  | cause {attrs : List String} {place rest : Place} {p : String}
      (under : below attrs place = some rest) (deeper : FailureListed ["cause"] rest p) :
      FailureListed attrs place p

/-- A place in an event that the source lists, and the prefix of its enum. -/
inductive Listed : Place → String → Prop where
  | ofEvent {path : List String} {place : Place} {p : String}
      (listed : (p, path) ∈ enumPaths) (on : onPath path place) : Listed place p
  | ofFailure {attrs : List String} {place : Place} {p : String}
      (listed : attrs ∈ failurePaths) (on : FailureListed attrs place p) : Listed place p

theorem onPath_key {path : List String} {place : Place} (on : onPath path place) :
    ∃ k rest, place = .key k :: rest := by
  fun_cases onPath path place with
  | case1 attr k => exact ⟨k, [], rfl⟩
  | case2 next rest k place => exact ⟨k, place, rfl⟩
  | case3 attr next rest k place => exact ⟨k, place, rfl⟩
  | case4 => simp [onPath] at on

theorem below_key {attrs : List String} {place rest : Place}
    (under : below attrs place = some rest) : ∃ k back, rest = .key k :: back := by
  fun_induction below attrs place with
  | case1 k place =>
    cases under
    exact ⟨k, place, rfl⟩
  | case2 attr attrs k place through ih => exact ih under
  | case3 => cases under
  | case4 => cases under

theorem below_nil (attrs : List String) : below attrs [] = none := by
  cases attrs <;> rfl

theorem below_suffix {attrs : List String} {place rest : Place}
    (under : below attrs place = some rest) : rest <:+ place := by
  fun_induction below attrs place with
  | case1 k place =>
    cases under
    exact List.suffix_rfl
  | case2 attr attrs k place through ih => exact (ih under).trans (List.suffix_cons _ _)
  | case3 => cases under
  | case4 => cases under

theorem below_shorter {attr : String} {attrs : List String} {place rest : Place}
    (under : below (attr :: attrs) place = some rest) : rest.length < place.length := by
  cases place with
  | nil => simp [below] at under
  | cons step place =>
    cases step with
    | index i => simp [below] at under
    | key k =>
      rw [below] at under
      split at under
      · exact Nat.lt_succ_of_le (below_suffix under).length_le
      · cases under

/-! ### Every place has one enum -/

theorem onPath_getLast {path : List String} {place : Place} (on : onPath path place) :
    place.getLast? = path.getLast?.map .key := by
  fun_induction onPath path place with
  | case1 attr k =>
    simp only [Bool.and_eq_true, decide_eq_true_eq] at on
    rw [on.2]
    rfl
  -- a `*` takes a key of the place, whatever it is
  | case2 next rest k place ih =>
    obtain ⟨k', back, rfl⟩ := onPath_key on
    rw [List.getLast?_cons_cons, ih on, List.getLast?_cons_cons]
  -- a name takes its key, and the index of an item if the child is a list
  | case3 attr next rest k place star ih =>
    simp only [Bool.and_eq_true, decide_eq_true_eq] at on
    obtain ⟨k', back, same⟩ := onPath_key on.2
    have last := ih on.2
    cases place with
    | nil => cases same
    | cons step place =>
      cases step with
      | key k'' => rw [List.getLast?_cons_cons, List.getLast?_cons_cons, ← last, intoList]; simp
      | index i =>
        rw [intoList] at same last
        subst same
        rw [List.getLast?_cons_cons, List.getLast?_cons_cons, List.getLast?_cons_cons, last]
  | case4 => cases on

theorem onPath_head {attr : String} {path : List String} {place : Place} (named : attr ≠ "*")
    (on : onPath (attr :: path) place) : place.head? = some (.key attr) := by
  obtain ⟨k, rest, rfl⟩ := onPath_key on
  cases path with
  | nil =>
    cases rest with
    | nil =>
      simp only [onPath, Bool.and_eq_true, decide_eq_true_eq] at on
      rw [on.2]
      rfl
    | cons step rest => simp [onPath] at on
  | cons next path =>
    rw [onPath, if_neg named, Bool.and_eq_true, decide_eq_true_eq] at on
    rw [on.1]
    rfl

/-- The last key of the place is the one of a path for the enum; the paths to a `cause` begin
    with a key as well. -/
def Named (place : Place) (p : String) : Prop :=
  ∃ path, (p, path) ∈ enumPaths ∧ place.getLast? = path.getLast?.map .key ∧
    (path.getLast? = some "cause" → place.head? = path.head?.map .key)

theorem FailureListed.last {attrs : List String} {place : Place} {p : String}
    (listed : FailureListed attrs place p) :
    p = "TIMEOUT_TYPE" ∧ place.getLast? = some (.key "timeoutType") ∨
      p = "RETRY_STATE" ∧ place.getLast? = some (.key "retryState") := by
  induction listed with
  | @here attrs path place p listed on =>
    have last := onPath_getLast on
    simp only [failureEnums, List.mem_cons, Prod.mk.injEq, List.not_mem_nil, or_false] at listed
    rcases listed with ⟨rfl, rfl⟩ | ⟨rfl, rfl⟩
    · exact .inl ⟨rfl, by simpa using last⟩
    · exact .inr ⟨rfl, by simpa using last⟩
  -- a cause is deeper in the same place, which ends in the same key
  | @cause attrs place rest p under deeper ih =>
    obtain ⟨k, back, rfl⟩ := below_key under
    obtain ⟨front, rfl⟩ := below_suffix under
    rwa [List.getLast?_append_of_ne_nil _ (List.cons_ne_nil _ _)]

theorem Listed.named {place : Place} {p : String} (listed : Listed place p) : Named place p := by
  cases listed with
  | @ofEvent path _ _ listed on =>
    refine ⟨path, listed, onPath_getLast on, fun cause => ?_⟩
    -- no path to a `cause` begins with `*`
    have plain : ∀ entry ∈ enumPaths, entry.2.getLast? = some "cause" →
        entry.2.head? ≠ some "*" := by decide
    cases path with
    | nil => cases cause
    | cons attr path =>
      exact onPath_head (fun star => plain _ listed cause (congrArg some star)) on
  | ofFailure _ on =>
    rcases on.last with ⟨rfl, last⟩ | ⟨rfl, last⟩
    · refine ⟨["workflowTaskTimedOutEventAttributes", "timeoutType"], by decide, last, ?_⟩
      intro cause
      simp at cause
    · refine ⟨["*", "retryState"], by decide, last, ?_⟩
      intro cause
      simp at cause

theorem Listed.unique {place : Place} {p q : String} (one : Listed place p)
    (other : Listed place q) : p = q := by
  obtain ⟨path, listed, last, head⟩ := one.named
  obtain ⟨path', listed', last', head'⟩ := other.named
  -- four of the enums are at a key `cause`: only the keys before it tell them apart
  have apart : ∀ entry ∈ enumPaths, ∀ entry' ∈ enumPaths,
      entry.2.getLast? = entry'.2.getLast? →
      (entry.2.getLast? = some "cause" → entry.2.head? = entry'.2.head?) →
      entry.1 = entry'.1 := by decide
  have keys : Function.Injective (Option.map Step.key) :=
    Option.map_injective fun k k' same => Step.key.inj same
  have sameLast : path.getLast? = path'.getLast? := keys (last.symm.trans last')
  refine apart _ listed _ listed' sameLast fun cause => ?_
  exact keys ((head cause).symm.trans (head' (sameLast.symm.trans cause)))

/-! ### The fix-ups as rewritings -/

variable {special : Char → List Char}

theorem ifDict_id (child : Json) : ifDict (fun entries => entries) child = child := by
  cases child <;> rfl

/-- A rewriting that only changes strings in dicts. -/
theorem ifDict_mapEntries {f : Place → String → String}
    (keyed : ∀ place s, f place s ≠ s → ∃ k rest, place = .key k :: rest) (child : Json) :
    ifDict (Json.mapEntries f) child = Json.mapStrings f child := by
  cases child with
  | object entries => rfl
  | _ =>
    refine (Json.mapStrings_same fun place s found => ?_).symm
    by_contra changes
    obtain ⟨k, rest, rfl⟩ := keyed place s changes
    cases found

/-- A rewriting of the items that does not look at their indices. -/
theorem mapItems_same {f : Place → String → String} {g : Place → String → String}
    (same : ∀ i place, f (.index i :: place) = g place) (i : Nat) (items : List Json) :
    Json.mapItems f i items = items.map (Json.mapStrings g) := by
  induction items generalizing i with
  | nil => rfl
  | cons item rest ih =>
    rw [Json.mapItems, ih, List.map_cons, funext (same i)]

/-- What `_fix_history_enum` does to the string at a place. -/
def fixOn (special : Char → List Char) (p : String) (path : List String) (place : Place)
    (s : String) : String :=
  if onPath path place then fixName special p s else s

theorem fixOn_keyed (p : String) (path : List String) (place : Place) (s : String)
    (changes : fixOn special p path place s ≠ s) : ∃ k rest, place = .key k :: rest := by
  rw [fixOn] at changes
  split at changes
  next on => exact onPath_key on
  next => exact absurd rfl changes

theorem fixOn_star (p : String) (next : String) (rest : List String) (k : String) (place : Place) :
    fixOn special p ("*" :: next :: rest) (.key k :: place) =
      fixOn special p (next :: rest) place := by
  funext s
  rw [fixOn, fixOn, onPath, if_pos rfl]

theorem fixOn_through {attr : String} (p : String) (next : String) (rest : List String)
    (named : attr ≠ "*") (place : Place) :
    fixOn special p (attr :: next :: rest) (.key attr :: place) =
      fixOn special p (next :: rest) (intoList place) := by
  funext s
  rw [fixOn, fixOn, onPath, if_neg named]
  simp

theorem fixOn_elsewhere {attr k : String} (p : String) (rest : List String) (named : attr ≠ "*")
    (other : k ≠ attr) (place : Place) (s : String) :
    fixOn special p (attr :: rest) (.key k :: place) s = s := by
  rw [fixOn, if_neg]
  cases rest with
  | nil => cases place <;> simp [onPath, other]
  | cons next rest => simp [onPath, named, other]

/-- The last step of a path is to a string. -/
theorem fixOn_last (p attr k : String) (step : Step) (place : Place) (s : String) :
    fixOn special p [attr] (.key k :: step :: place) s = s := by
  rw [fixOn, if_neg]
  simp [onPath]

/-- The child a path ends in, which is fixed if it is a string. -/
theorem fixOn_end {attr : String} (p : String) (named : attr ≠ "*") (child : Json) :
    Json.mapStrings (fun place => fixOn special p [attr] (.key attr :: place)) child =
      match child with
      | .str s => .str (fixName special p s)
      | _ => child := by
  cases child with
  | str s => exact congrArg Json.str (if_pos (by simp [onPath, named]))
  | array items =>
    refine Json.mapStrings_same fun place s found => ?_
    cases found
    exact fixOn_last p attr attr _ _ s
  | object entries =>
    refine Json.mapStrings_same fun place s found => ?_
    cases found
    exact fixOn_last p attr attr _ _ s
  | _ => rfl

/-- A child on the way of a path, which may be a dict or a list of dicts. -/
theorem fixOn_child {attr : String} (p : String) (next : String) (rest : List String)
    (named : attr ≠ "*") (child : Json) :
    Json.mapStrings (fun place => fixOn special p (attr :: next :: rest) (.key attr :: place))
        child =
      match child with
      | .array items => .array (items.map (Json.mapStrings (fixOn special p (next :: rest))))
      | _ => Json.mapStrings (fixOn special p (next :: rest)) child := by
  rw [funext (fixOn_through p next rest named)]
  cases child with
  | object entries =>
    rw [Json.mapStrings, Json.mapStrings]
    exact congrArg Json.object (Json.mapEntries_congr entries fun _ _ _ _ _ _ => rfl)
  | array items =>
    rw [Json.mapStrings, mapItems_same fun i place => rfl]
  | _ => rfl

theorem fixHistoryEnum_eq (p : String) (path : List String) (some : path ≠ []) (parent : Entries) :
    fixHistoryEnum special p path parent = Json.mapEntries (fixOn special p path) parent := by
  induction path generalizing parent with
  | nil => exact absurd rfl some
  | cons attr rest ih =>
    rw [fixHistoryEnum, Json.mapEntries_eq]
    refine List.map_congr_left fun entry _ => ?_
    obtain ⟨k, child⟩ := entry
    dsimp only
    cases rest with
    | nil =>
      by_cases star : attr = "*"
      -- `*` at the end of a path leads to no string
      · have off : ∀ place s, fixOn special p [attr] (.key k :: place) s = s := fun place s => by
          rw [fixOn, if_neg]
          cases place <;> simp [onPath, star]
        rw [if_pos star, Json.mapStrings_same fun place s _ => off place s]
        exact congrArg (Prod.mk k) (ifDict_id child)
      · rw [if_neg star]
        by_cases through : k = attr
        · subst through
          rw [if_pos rfl, fixOn_end p star]
          cases child <;> rfl
        · rw [if_neg through,
            Json.mapStrings_same fun place s _ => fixOn_elsewhere p _ star through place s]
    | cons next back =>
      rw [funext (ih (List.cons_ne_nil _ _))]
      by_cases star : attr = "*"
      · rw [if_pos star, star, funext (fixOn_star p next back k),
          ifDict_mapEntries (fixOn_keyed p _)]
      · rw [if_neg star]
        by_cases through : k = attr
        · subst through
          rw [if_pos rfl, fixOn_child p next back star]
          cases child with
          -- each of the items is gone through
          | array items =>
            rw [funext (ifDict_mapEntries (fixOn_keyed p _))]
          | _ => rw [← ifDict_mapEntries (fixOn_keyed p _)]
        · rw [if_neg through,
            Json.mapStrings_same fun place s _ => fixOn_elsewhere p _ star through place s]

/-- A rewriting of the parents at a path of dicts. -/
def fixBelow (f : Place → String → String) (attrs : List String) (place : Place) (s : String) :
    String :=
  match below attrs place with
  | some rest => f rest s
  | none => s

theorem fixBelow_keyed (f : Place → String → String) (attrs : List String) (place : Place)
    (s : String) (changes : fixBelow f attrs place s ≠ s) : ∃ k rest, place = .key k :: rest := by
  rw [fixBelow] at changes
  split at changes
  next rest under =>
    cases place with
    | nil => cases attrs <;> cases under
    | cons step place =>
      cases step with
      | key k => exact ⟨k, place, rfl⟩
      | index i => cases attrs <;> cases under
  next => exact absurd rfl changes

theorem eachParent_eq (f : Place → String → String) (attrs : List String) (parent : Entries) :
    eachParent (Json.mapEntries f) attrs parent = Json.mapEntries (fixBelow f attrs) parent := by
  induction attrs generalizing parent with
  | nil => exact Json.mapEntries_congr parent fun _ _ _ _ _ _ => rfl
  | cons attr rest ih =>
    rw [eachParent, Json.mapEntries_eq]
    refine List.map_congr_left fun entry _ => ?_
    obtain ⟨k, child⟩ := entry
    dsimp only
    rw [funext ih, ifDict_mapEntries (fixBelow_keyed f rest)]
    by_cases through : attr = "*" ∨ k = attr
    -- the child is among the parents, and so is what is under it
    · have same : ∀ place, fixBelow f (attr :: rest) (.key k :: place) = fixBelow f rest place :=
        fun place => by
          funext s
          rw [fixBelow, below, if_pos through, fixBelow]
      rw [if_pos through, funext same]
    · have off : ∀ place s, fixBelow f (attr :: rest) (.key k :: place) s = s := fun place s => by
        rw [fixBelow, below, if_neg through]
      rw [if_neg through, Json.mapStrings_same fun place s _ => off place s]

/-! ### The fix-ups of a place -/

/-- The enums of a list whose path a place is at. -/
def listedIn (enums : List (String × List String)) (place : Place) : List String :=
  enums.flatMap fun (p, path) => if onPath path place then [p] else []

/-- The fix-ups that `_fix_history_failure` makes at a place, with so many levels of causes. -/
def failurePrefixes : Nat → List String → Place → List String
  | causes, attrs, place => listedIn (failureEnums attrs) place ++
    match causes with
    | 0 => []
    | causes + 1 =>
      match below attrs place with
      | some rest => failurePrefixes causes ["cause"] rest
      | none => []

/-- All fix-ups of a place in an event. No place is under more causes than it has steps. -/
def prefixesAt (place : Place) : List String :=
  listedIn enumPaths place ++
    failurePaths.flatMap fun attrs => failurePrefixes place.length attrs place

/-- Fix-ups in a row. -/
def fixAll (special : Char → List Char) (ps : List String) (s : String) : String :=
  ps.foldl (fun s p => fixName special p s) s

theorem fixAll_append (ps qs : List String) (s : String) :
    fixAll special (ps ++ qs) s = fixAll special qs (fixAll special ps s) :=
  List.foldl_append

/-- Fix-ups by rules, one after the other. -/
theorem foldl_mapEntries {α : Type} {step : Entries → α → Entries} {rule : α → Place → List String}
    {l : List α} (one : ∀ a ∈ l, ∀ parent,
      step parent a = Json.mapEntries (fun place => fixAll special (rule a place)) parent)
    (parent : Entries) :
    l.foldl step parent =
      Json.mapEntries (fun place => fixAll special (l.flatMap fun a => rule a place)) parent := by
  induction l generalizing parent with
  | nil => exact (Json.mapEntries_id parent).symm
  | cons a rest ih =>
    rw [List.foldl_cons, ih fun b mem => one b (List.mem_cons_of_mem _ mem),
      one a List.mem_cons_self, Json.mapEntries_comp]
    refine Json.mapEntries_congr _ fun k v place s _ _ => ?_
    rw [List.flatMap_cons, fixAll_append]

theorem enums_eq {enums : List (String × List String)} (some : ∀ entry ∈ enums, entry.2 ≠ [])
    (parent : Entries) :
    enums.foldl (fun parent (p, attrs) => fixHistoryEnum special p attrs parent) parent =
      Json.mapEntries (fun place => fixAll special (listedIn enums place)) parent := by
  refine foldl_mapEntries (fun entry mem parent => ?_) parent
  obtain ⟨p, path⟩ := entry
  refine (fixHistoryEnum_eq p path (some _ mem) parent).trans ?_
  refine Json.mapEntries_congr _ fun k v place s _ _ => ?_
  cases on : onPath path (.key k :: place) <;> simp [fixOn, on, fixAll]

theorem fixHistoryFailure_eq (causes : Nat) (attrs : List String) (parent : Entries) :
    fixHistoryFailure special causes attrs parent =
      Json.mapEntries (fun place => fixAll special (failurePrefixes causes attrs place))
        parent := by
  have paths : ∀ attrs, ∀ entry ∈ failureEnums attrs, entry.2 ≠ [] := fun attrs entry mem => by
    simp only [failureEnums, List.mem_cons, List.not_mem_nil, or_false] at mem
    rcases mem with rfl | rfl <;> simp
  induction causes generalizing attrs parent with
  | zero =>
    refine (enums_eq (paths attrs) parent).trans ?_
    refine Json.mapEntries_congr _ fun k v place s _ _ => ?_
    rw [failurePrefixes, List.append_nil]
  | succ causes ih =>
    -- the enums at this level first, then those of the causes
    refine (congrArg (eachParent _ attrs) (enums_eq (paths attrs) parent)).trans ?_
    rw [funext (ih ["cause"]), eachParent_eq, Json.mapEntries_comp]
    refine Json.mapEntries_congr _ fun k v place s _ _ => ?_
    rw [failurePrefixes, fixAll_append, fixBelow]
    cases below attrs (.key k :: place) with
    | none => rfl
    | some rest => rfl

/-- More levels than the place has steps make no difference. -/
theorem failurePrefixes_enough {n m : Nat} {attr : String} {attrs : List String} {place : Place}
    (enough : place.length ≤ n) (enough' : place.length ≤ m) :
    failurePrefixes n (attr :: attrs) place = failurePrefixes m (attr :: attrs) place := by
  induction n generalizing m attr attrs place with
  | zero =>
    obtain rfl := List.eq_nil_of_length_eq_zero (Nat.le_zero.mp enough)
    cases m with
    | zero => rfl
    | succ m => rw [failurePrefixes, failurePrefixes, below_nil]
  | succ n ih =>
    rw [failurePrefixes]
    cases m with
    | zero =>
      obtain rfl := List.eq_nil_of_length_eq_zero (Nat.le_zero.mp enough')
      rw [failurePrefixes, below_nil]
    | succ m =>
      rw [failurePrefixes]
      cases under : below (attr :: attrs) place with
      | none => rfl
      | some rest =>
        -- a level of causes takes a step of the place at least
        have shorter := below_shorter under
        dsimp only
        rw [ih (m := m) (by omega) (by omega)]

theorem mem_listedIn {enums : List (String × List String)} {place : Place} {p : String} :
    p ∈ listedIn enums place ↔ ∃ path, (p, path) ∈ enums ∧ onPath path place := by
  simp only [listedIn, List.mem_flatMap, Prod.exists]
  constructor
  · rintro ⟨q, path, mem, found⟩
    split at found
    next on =>
      rw [List.mem_singleton] at found
      exact ⟨path, found ▸ mem, on⟩
    next => cases found
  · rintro ⟨path, mem, on⟩
    exact ⟨p, path, mem, by rw [if_pos on]; exact List.mem_singleton_self p⟩

theorem mem_failurePrefixes {n : Nat} {attr : String} {attrs : List String} {place : Place}
    {p : String} (enough : place.length ≤ n) :
    p ∈ failurePrefixes n (attr :: attrs) place ↔ FailureListed (attr :: attrs) place p := by
  constructor
  -- what is fixed is listed, however many levels there are
  · clear enough
    generalize attr :: attrs = path
    intro mem
    induction n generalizing path place with
    | zero =>
      rw [failurePrefixes, List.append_nil, mem_listedIn] at mem
      obtain ⟨_, listed, on⟩ := mem
      exact .here listed on
    | succ n ih =>
      rw [failurePrefixes, List.mem_append, mem_listedIn] at mem
      rcases mem with ⟨_, listed, on⟩ | deeper
      · exact .here listed on
      · cases under : below path place with
        | none => simp [under] at deeper
        | some rest =>
          rw [under] at deeper
          exact .cause under (ih _ deeper)
  -- what is listed is fixed, as there are levels enough
  · intro listed
    induction n generalizing attr attrs place with
    | zero =>
      obtain rfl := List.eq_nil_of_length_eq_zero (Nat.le_zero.mp enough)
      cases listed with
      | here listed on => exact absurd (onPath_key on) (by simp)
      | cause under => rw [below_nil] at under; cases under
    | succ n ih =>
      rw [failurePrefixes, List.mem_append, mem_listedIn]
      cases listed with
      | here listed on => exact .inl ⟨_, listed, on⟩
      | @cause _ _ rest _ under deeper =>
        have shorter := below_shorter under
        refine .inr ?_
        rw [under]
        exact ih (by omega) deeper

theorem mem_prefixesAt {place : Place} {p : String} : p ∈ prefixesAt place ↔ Listed place p := by
  have named : ∀ attrs ∈ failurePaths, attrs ≠ [] := by decide
  rw [prefixesAt, List.mem_append, mem_listedIn, List.mem_flatMap]
  constructor
  · rintro (⟨path, mem, on⟩ | ⟨attrs, mem, found⟩)
    · exact .ofEvent mem on
    · obtain ⟨attr, rest, rfl⟩ := List.exists_cons_of_ne_nil (named attrs mem)
      exact .ofFailure mem ((mem_failurePrefixes (Nat.le_refl _)).mp found)
  · intro listed
    cases listed with
    | ofEvent mem on => exact .inl ⟨_, mem, on⟩
    | @ofFailure attrs _ _ mem found =>
      obtain ⟨attr, rest, rfl⟩ := List.exists_cons_of_ne_nil (named attrs mem)
      exact .inr ⟨_, mem, (mem_failurePrefixes (Nat.le_refl _)).mpr found⟩

/-! ### Names -/

theorem fixName_of_prefix {p s : String} (begins : p.toList <+: s.toList) :
    fixName special p s = s :=
  if_pos (List.isPrefixOf_iff_prefix.mpr begins)

theorem prefix_fixName (p s : String) : p.toList <+: (fixName special p s).toList := by
  rw [fixName]
  split
  next begins => exact List.isPrefixOf_iff_prefix.mp begins
  next =>
    rw [String.toList_ofList]
    exact List.prefix_append _ _

theorem fixAll_of_prefix {p s : String} {ps : List String} (same : ∀ q ∈ ps, q = p)
    (begins : p.toList <+: s.toList) : fixAll special ps s = s := by
  induction ps with
  | nil => rfl
  | cons q rest ih =>
    obtain rfl := same q List.mem_cons_self
    rw [fixAll, List.foldl_cons, fixName_of_prefix begins]
    exact ih fun r mem => same r (List.mem_cons_of_mem _ mem)

/-- What the fix-ups of a place make of a string there. -/
def fixAt (special : Char → List Char) (place : Place) (s : String) : String :=
  fixAll special (prefixesAt place) s

theorem fixAt_listed {place : Place} {p : String} (listed : Listed place p) (s : String) :
    fixAt special place s = fixName special p s := by
  have same : ∀ q ∈ prefixesAt place, q = p := fun q mem => (mem_prefixesAt.mp mem).unique listed
  have mem : p ∈ prefixesAt place := mem_prefixesAt.mpr listed
  -- the first fix-up gives the name its prefix, and then the others leave it
  rw [fixAt]
  cases all : prefixesAt place with
  | nil => rw [all] at mem; cases mem
  | cons q rest =>
    rw [all] at same
    obtain rfl := same q List.mem_cons_self
    rw [fixAll, List.foldl_cons]
    exact fixAll_of_prefix (fun r mem => same r (List.mem_cons_of_mem _ mem)) (prefix_fixName q s)

theorem fixAt_unlisted {place : Place} (unlisted : ∀ p, ¬ Listed place p) (s : String) :
    fixAt special place s = s := by
  have none : prefixesAt place = [] :=
    List.eq_nil_iff_forall_not_mem.mpr fun p mem => unlisted p (mem_prefixesAt.mp mem)
  rw [fixAt, none]
  rfl

theorem fixAt_idem (place : Place) (s : String) :
    fixAt special place (fixAt special place s) = fixAt special place s := by
  by_cases listed : ∃ p, Listed place p
  · obtain ⟨p, listed⟩ := listed
    rw [fixAt_listed listed, fixAt_listed listed, fixName_of_prefix (prefix_fixName p s)]
  · have unlisted := not_exists.mp listed
    rw [fixAt_unlisted unlisted, fixAt_unlisted unlisted]

/-- A word of a name in Pascal case. -/
structure Word where
  capital : Char
  small : List Char
  isUpper : capital.isUpper
  some : small ≠ []
  lower : ∀ c ∈ small, c.isUpper = false

/-- The name of an enum's value in Pascal case. -/
def pascal (words : List Word) : String :=
  String.ofList (words.flatMap fun word => word.capital :: word.small)

/-- The canonical name: the enum's prefix and the words in upper case, with underscores. -/
def canonical (special : Char → List Char) (p : String) (words : List Word) : String :=
  String.ofList (p.toList ++
    words.flatMap fun word => '_' :: word.capital :: upper special word.small)

theorem underscored_small {small : List Char} (lower : ∀ c ∈ small, c.isUpper = false)
    (some : small ≠ []) (inRun : Bool) (rest : List Char) :
    underscored inRun (small ++ rest) = small ++ underscored false rest := by
  induction small generalizing inRun with
  | nil => exact absurd rfl some
  | cons c small ih =>
    rw [List.cons_append, underscored, lower c List.mem_cons_self, if_neg Bool.false_ne_true]
    cases small with
    | nil => rfl
    | cons c' small =>
      -- no capital, no underscore
      rw [ih (fun d mem => lower d (List.mem_cons_of_mem _ mem)) (List.cons_ne_nil _ _)]
      rfl

theorem underscored_pascal (words : List Word) :
    underscored false (words.flatMap fun word => word.capital :: word.small) =
      words.flatMap fun word => '_' :: word.capital :: word.small := by
  induction words with
  | nil => rfl
  | cons word words ih =>
    rw [List.flatMap_cons, List.cons_append, underscored, word.isUpper, if_pos rfl,
      if_neg Bool.false_ne_true, underscored_small word.lower word.some, ih]
    rfl

theorem upper_append (front back : List Char) :
    upper special (front ++ back) = upper special front ++ upper special back :=
  List.flatMap_append

theorem upperChar_capital {c : Char} (capital : c.isUpper) : upperChar special c = [c] := by
  have range : c.val ≥ 'A'.val ∧ c.val ≤ 'Z'.val := of_decide_eq_true capital
  have last : c.val.toNat ≤ 90 := UInt32.le_iff_toNat_le.mp range.2
  have ascii : c.toNat < 128 := Nat.lt_of_le_of_lt last (by decide)
  -- `toUpper` only changes what lies in the range of small letters
  have unchanged : c.toUpper = c := by
    apply dif_neg
    intro lower
    have small := UInt32.le_iff_toNat_le.mp lower.1
    exact absurd (Nat.le_trans small last) (by decide)
  rw [upperChar, if_pos ascii, unchanged]

/-- A capital and the underscore are their own upper case. -/
theorem upper_head {c : Char} (capital : c.isUpper) (text : List Char) :
    upper special ('_' :: c :: text) = '_' :: c :: upper special text := by
  rw [upper, List.flatMap_cons, List.flatMap_cons, upperChar_capital capital]
  rfl

/-- A Pascal-case name does not begin with a prefix of two capitals. -/
theorem pascal_no_prefix {p : String} {first second : Char} {rest : List Char}
    (is : p.toList = first :: second :: rest) (capital : second.isUpper) (words : List Word) :
    ¬ p.toList <+: (pascal words).toList := by
  rw [is, pascal, String.toList_ofList]
  cases words with
  | nil => simp
  | cons word words =>
    cases small : word.small with
    | nil => exact absurd small word.some
    | cons c tail =>
      -- the second character of a name is small, and that of the prefix is not
      have different : c.isUpper = false := word.lower c (small ▸ List.mem_cons_self)
      rw [List.flatMap_cons, small]
      intro begins
      simp only [List.cons_append, List.cons_prefix_cons] at begins
      rw [← begins.2.1, capital] at different
      cases different

theorem fixName_pascal {p : String} {first second : Char} {rest : List Char}
    (is : p.toList = first :: second :: rest) (capital : second.isUpper) (words : List Word) :
    fixName special p (pascal words) = canonical special p words := by
  rw [fixName, if_neg fun begins => pascal_no_prefix is capital words
    (List.isPrefixOf_iff_prefix.mp begins), canonical, pascal, String.toList_ofList,
    underscored_pascal]
  congr 2
  induction words with
  | nil => rfl
  | cons word words ih =>
    rw [List.flatMap_cons, List.flatMap_cons, upper_append, ih]
    congr 1
    exact upper_head word.isUpper word.small

/-! ### Events and histories -/

theorem fixFailures_eq (event : Entries) :
    failurePaths.foldl
        (fun event attrs => fixHistoryFailure special (Json.stepsEntries event) attrs event)
        event =
      Json.mapEntries (fun place => fixAll special
        (failurePaths.flatMap fun attrs => failurePrefixes place.length attrs place)) event := by
  have named : ∀ attrs ∈ failurePaths, attrs ≠ [] := by decide
  refine foldl_mapEntries (fun attrs mem parent => ?_) event
  obtain ⟨attr, rest, rfl⟩ := List.exists_cons_of_ne_nil (named attrs mem)
  rw [fixHistoryFailure_eq]
  refine Json.mapEntries_congr parent fun k v place s entry found => ?_
  -- a string is not deeper than the event, whose depth bounds the causes
  have shallow : (Step.key k :: place).length ≤ Json.stepsEntries parent :=
    (Json.StringAt.entry entry found).length_le
  rw [failurePrefixes_enough shallow (Nat.le_refl _)]

theorem fixEvent_eq (event : Entries) :
    fixEvent special event = Json.mapEntries (fixAt special) event := by
  rw [fixEvent, enums_eq (by decide), fixFailures_eq, Json.mapEntries_comp]
  refine Json.mapEntries_congr event fun k v place s _ _ => ?_
  rw [fixAt, prefixesAt, fixAll_append]

theorem fixItem_ok {item fixed : Json} :
    fixItem special item = .ok fixed ↔
      ∃ event, item = .object event ∧ fixed = .object (Json.mapEntries (fixAt special) event) := by
  constructor
  · intro ok
    cases item with
    | object event =>
      rw [fixItem, fixEvent_eq] at ok
      cases ok
      exact ⟨event, rfl, rfl⟩
    | _ => cases ok
  · rintro ⟨event, rfl, rfl⟩
    rw [fixItem, fixEvent_eq]

theorem fixItems_ok {items fixed : List Json} :
    items.mapM (fixItem special) = .ok fixed ↔
      ∃ events : List Entries, items = events.map .object ∧
        fixed = events.map fun event => .object (Json.mapEntries (fixAt special) event) := by
  induction items generalizing fixed with
  | nil =>
    constructor
    · intro ok
      cases ok
      exact ⟨[], rfl, rfl⟩
    · rintro ⟨events, none, rfl⟩
      obtain rfl := List.map_eq_nil_iff.mp none.symm
      rfl
  | cons item rest ih =>
    simp only [Stable.mapM_cons_ok, fixItem_ok, ih]
    constructor
    · rintro ⟨_, _, ⟨event, rfl, rfl⟩, ⟨events, rfl, rfl⟩, rfl⟩
      exact ⟨event :: events, rfl, rfl⟩
    · rintro ⟨events, is, rfl⟩
      cases events with
      | nil => cases is
      | cons event events =>
        cases is
        exact ⟨_, _, ⟨event, rfl, rfl⟩, ⟨events, rfl, rfl⟩, rfl⟩

/-- What `_history_from_json` makes of a history: its events are rewritten if they are a list
    of dicts, and otherwise there are none. -/
theorem fixHistory_ok {history fixed : Entries}
    (imported : fixHistory special (.object history) = .ok fixed) :
    (∃ events : List Entries,
      Dict.lookup history "events" = some (.array (events.map .object)) ∧
        fixed = Dict.insert history "events"
          (.array (events.map fun event => .object (Json.mapEntries (fixAt special) event)))) ∨
    ((∀ items, Dict.lookup history "events" ≠ some (.array items)) ∧ fixed = history) := by
  rw [fixHistory] at imported
  split at imported
  next items found =>
    obtain ⟨items', ok, same⟩ := Converter.bind_eq_ok.mp imported
    obtain ⟨events, rfl, rfl⟩ := fixItems_ok.mp ok
    cases same
    exact .inl ⟨events, found, rfl⟩
  next other =>
    -- a dict or a string that is empty has no items, which is no error
    refine .inr ⟨other, ?_⟩
    split at imported
    · cases imported
    · cases imported
      rfl
    · cases imported

theorem fixHistory_of_events {history : Entries} {events : List Entries}
    (found : Dict.lookup history "events" = some (.array (events.map .object))) :
    fixHistory special (.object history) =
      .ok (Dict.insert history "events"
        (.array (events.map fun event => .object (Json.mapEntries (fixAt special) event)))) := by
  rw [fixHistory, found]
  exact Converter.bind_eq_ok.mpr ⟨_, fixItems_ok.mpr ⟨events, rfl, rfl⟩, rfl⟩

/-- The place in a history of a place in an event. -/
def inEvent (i : Nat) (place : Place) : Place :=
  .key "events" :: .index i :: place

theorem fixHistory_at {history fixed : Entries}
    (imported : fixHistory special (.object history) = .ok fixed) (i : Nat) (place : Place) :
    (Json.object fixed).at? (inEvent i place) =
      ((Json.object history).at? (inEvent i place)).map
        (Json.mapStrings fun below => fixAt special (place ++ below)) := by
  rcases fixHistory_ok imported with ⟨events, found, rfl⟩ | ⟨other, rfl⟩
  · rw [inEvent, Json.at?, Json.at?, Dict.lookup_insert, if_pos rfl, found, Option.bind_some,
      Option.bind_some, Json.at?, Json.at?, List.getElem?_map, List.getElem?_map]
    cases events[i]? with
    | none => rfl
    | some event => exact Json.at_mapStrings (fixAt special) (.object event) place
  -- there is no list, so there is no place in an event
  · have none : (Json.object fixed).at? (inEvent i place) = none := by
      rw [inEvent, Json.at?]
      cases found : Dict.lookup fixed "events" with
      | none => rfl
      | some j =>
        cases j with
        | array items => exact absurd found (other items)
        | _ => rfl
    rw [none]
    rfl

theorem fixHistory_rest {history fixed : Entries}
    (imported : fixHistory special (.object history) = .ok fixed) {k : String}
    (other : k ≠ "events") (place : Place) :
    (Json.object fixed).at? (.key k :: place) = (Json.object history).at? (.key k :: place) := by
  rcases fixHistory_ok imported with ⟨events, found, rfl⟩ | ⟨-, rfl⟩
  · rw [Json.at?, Json.at?, Dict.lookup_insert, if_neg other]
  · rfl

theorem fixHistory_idem {history fixed : Entries}
    (imported : fixHistory special (.object history) = .ok fixed) :
    fixHistory special (.object fixed) = .ok fixed := by
  rcases fixHistory_ok imported with ⟨events, found, rfl⟩ | ⟨-, rfl⟩
  -- what was fixed is a list of dicts again
  · have again : Dict.lookup (Dict.insert history "events" (.array (events.map fun event =>
          .object (Json.mapEntries (fixAt special) event)))) "events" =
        some (.array ((events.map (Json.mapEntries (fixAt special))).map .object)) := by
      rw [Dict.lookup_insert, if_pos rfl, List.map_map]
      rfl
    have twice : ∀ event, Json.mapEntries (fixAt special) (Json.mapEntries (fixAt special) event) =
        Json.mapEntries (fixAt special) event := fun event => by
      rw [Json.mapEntries_comp]
      exact Json.mapEntries_congr event fun k v place s _ _ => fixAt_idem _ s
    rw [fixHistory_of_events again, Dict.insert_insert, List.map_map]
    congr 4
    funext event
    exact congrArg Json.object (twice event)
  · exact imported

/-! ### Enum fields of failures -/

/-- A field with a timeout type or a retry state; `owner` is the dict that has the retry
    state. -/
inductive EnumField where
  | timeoutType
  | retryState (owner : String)

/-- The prefix of the names of the field's values. -/
def EnumField.enum : EnumField → String
  | .timeoutType => "TIMEOUT_TYPE"
  | .retryState _ => "RETRY_STATE"

/-- A field of an event that has a failure. -/
inductive FailureField where
  /-- `failure` of the attributes of any kind of event. -/
  | failure (attributes : String)
  | lastFailure
  | continuedFailure
  /-- The failure with which an update completed: it is one dict further down than the
      others. -/
  | updateOutcome

def FailureField.place : FailureField → Place
  | .failure attributes => [.key attributes, .key "failure"]
  | .lastFailure => [.key "activityTaskStartedEventAttributes", .key "lastFailure"]
  | .continuedFailure => [.key "workflowExecutionStartedEventAttributes", .key "continuedFailure"]
  | .updateOutcome =>
    [.key "workflowExecutionUpdateCompletedEventAttributes", .key "outcome", .key "failure"]

/-- What has such a field: an event's attributes, or a failure under so many others of which
    it is the cause. -/
inductive Holder where
  | event
  | failure (field : FailureField) (causes : Nat)

def EnumField.inFailure : EnumField → Place
  | .timeoutType => [.key "timeoutFailureInfo", .key "timeoutType"]
  | .retryState owner => [.key owner, .key "retryState"]

/-- The place of the field in an event. -/
def EnumField.place (field : EnumField) : Holder → Place
  | .event =>
    match field with
    | .timeoutType => [.key "workflowTaskTimedOutEventAttributes", .key "timeoutType"]
    | .retryState owner => [.key owner, .key "retryState"]
  | .failure failure causes =>
    failure.place ++ (List.replicate causes (.key "cause") ++ field.inFailure)

/-- The failure is not in the outcome of an update. -/
def Holder.Covered (holder : Holder) : Prop :=
  ∀ causes, holder ≠ .failure .updateOutcome causes

/-- A path of dicts and a place that follows it. -/
def Along (attrs : List String) (base : Place) : Prop :=
  List.Forall₂ (fun attr step => ∃ k, step = .key k ∧ (attr = "*" ∨ k = attr)) attrs base

theorem below_along {attrs : List String} {base : Place} (along : Along attrs base) (k : String)
    (rest : Place) : below attrs (base ++ .key k :: rest) = some (.key k :: rest) := by
  induction along with
  | nil => rfl
  | cons step _ ih =>
    obtain ⟨k', rfl, through⟩ := step
    rw [List.cons_append, below, if_pos through, ih]

theorem intoList_along {attrs : List String} {base : Place} (along : Along attrs base)
    (k : String) (rest : Place) :
    intoList (base ++ .key k :: rest) = base ++ .key k :: rest := by
  cases along with
  | nil => rfl
  | cons step _ =>
    obtain ⟨k', rfl, -⟩ := step
    rfl

theorem onPath_along {attrs path : List String} {base : Place} (along : Along attrs base)
    (k : String) (rest : Place) (on : onPath path (.key k :: rest)) :
    onPath (attrs ++ path) (base ++ .key k :: rest) := by
  induction along with
  | nil => exact on
  | @cons attr step attrs base first along ih =>
    obtain ⟨k', rfl, through⟩ := first
    rw [List.cons_append, List.cons_append]
    cases is : attrs ++ path with
    -- the path that follows is not empty, as the place is on it
    | nil =>
      rw [is] at ih
      exact absurd ih (by simp [onPath])
    | cons next back =>
      rw [is] at ih
      rw [onPath, intoList_along along, ih, Bool.and_true]
      split
      · rfl
      next named => exact decide_eq_true (through.resolve_left named)

theorem failureListed_field {attrs : List String} {base : Place} (along : Along attrs base)
    (field : EnumField) (causes : Nat) :
    FailureListed attrs (base ++ (List.replicate causes (.key "cause") ++ field.inFailure))
      field.enum := by
  induction causes generalizing attrs base with
  | zero =>
    cases field with
    | timeoutType =>
      exact .here List.mem_cons_self (onPath_along along _ _ (by decide))
    | retryState owner =>
      exact .here (List.mem_cons_of_mem _ List.mem_cons_self)
        (onPath_along along _ _ (by simp [onPath]))
  -- one cause more: a step of the path `cause`, below the path so far
  | succ causes ih =>
    have single : Along ["cause"] [.key "cause"] := .cons ⟨_, rfl, .inr rfl⟩ .nil
    exact .cause (below_along along _ _) (ih single)

theorem listed_covered {holder : Holder} (covered : holder.Covered) (field : EnumField) :
    Listed (field.place holder) field.enum := by
  cases holder with
  | event =>
    cases field with
    | timeoutType =>
      have listed : ("TIMEOUT_TYPE", ["workflowTaskTimedOutEventAttributes", "timeoutType"]) ∈
          enumPaths := by decide
      exact .ofEvent listed (by decide)
    | retryState owner =>
      have listed : ("RETRY_STATE", ["*", "retryState"]) ∈ enumPaths := by decide
      exact .ofEvent listed (by simp [onPath, EnumField.place])
  | failure failure causes =>
    cases failure with
    | failure attributes =>
      -- the attributes of any kind of event, by `*`
      have along : Along ["*", "failure"] [.key attributes, .key "failure"] :=
        .cons ⟨_, rfl, .inl rfl⟩ (.cons ⟨_, rfl, .inr rfl⟩ .nil)
      exact .ofFailure (by decide) (failureListed_field along field causes)
    | lastFailure =>
      have along : Along ["activityTaskStartedEventAttributes", "lastFailure"]
          [.key "activityTaskStartedEventAttributes", .key "lastFailure"] :=
        .cons ⟨_, rfl, .inr rfl⟩ (.cons ⟨_, rfl, .inr rfl⟩ .nil)
      exact .ofFailure (by decide) (failureListed_field along field causes)
    | continuedFailure =>
      have along : Along ["workflowExecutionStartedEventAttributes", "continuedFailure"]
          [.key "workflowExecutionStartedEventAttributes", .key "continuedFailure"] :=
        .cons ⟨_, rfl, .inr rfl⟩ (.cons ⟨_, rfl, .inr rfl⟩ .nil)
      exact .ofFailure (by decide) (failureListed_field along field causes)
    | updateOutcome => exact absurd rfl (covered causes)

/-- No path leads into the outcome of an update. -/
theorem updateOutcome_unlisted (step : Step) (rest : Place) (p : String) :
    ¬ Listed (FailureField.updateOutcome.place ++ step :: rest) p := by
  have enums : ∀ entry ∈ enumPaths,
      onPath entry.2 (FailureField.updateOutcome.place ++ step :: rest) = false := by
    simp [enumPaths, onPath, FailureField.place, intoList]
  -- the path `*`, `failure` has the failure directly in the attributes
  have failures : ∀ attrs ∈ failurePaths, (∀ entry ∈ failureEnums attrs,
      onPath entry.2 (FailureField.updateOutcome.place ++ step :: rest) = false) ∧
      below attrs (FailureField.updateOutcome.place ++ step :: rest) = none := by
    simp [failurePaths, failureEnums, onPath, below, FailureField.place, intoList]
  intro listed
  cases listed with
  | ofEvent mem on => exact absurd on (by rw [enums _ mem]; exact Bool.false_ne_true)
  | ofFailure mem found =>
    obtain ⟨off, out⟩ := failures _ mem
    cases found with
    | here mem on => exact absurd on (by rw [off _ mem]; exact Bool.false_ne_true)
    | cause under => rw [out] at under; cases under

theorem uncovered_unlisted {holder : Holder} (uncovered : ¬ holder.Covered) (field : EnumField)
    (p : String) : ¬ Listed (field.place holder) p := by
  rw [Holder.Covered, not_forall] at uncovered
  obtain ⟨causes, is⟩ := uncovered
  obtain rfl := not_not.mp is
  obtain ⟨step, rest, place⟩ : ∃ step rest,
      List.replicate causes (Step.key "cause") ++ field.inFailure = step :: rest := by
    cases causes <;> cases field <;> exact ⟨_, _, rfl⟩
  rw [EnumField.place, place]
  exact updateOutcome_unlisted step rest p

theorem enum_capitals (field : EnumField) :
    ∃ first second rest, field.enum.toList = first :: second :: rest ∧ second.isUpper := by
  cases field with
  | timeoutType => exact ⟨'T', 'I', "MEOUT_TYPE".toList, by decide, by decide⟩
  | retryState =>
    have text : "RETRY_STATE".toList = 'R' :: 'E' :: "TRY_STATE".toList := by decide
    exact ⟨'R', 'E', "TRY_STATE".toList, text, by decide⟩

theorem fixName_field (field : EnumField) (words : List Word) :
    fixName special field.enum (pascal words) = canonical special field.enum words := by
  obtain ⟨first, second, rest, is, capital⟩ := enum_capitals field
  exact fixName_pascal is capital words

theorem pascal_ne_canonical (field : EnumField) (words : List Word) :
    pascal words ≠ canonical special field.enum words := by
  intro same
  obtain ⟨first, second, rest, is, capital⟩ := enum_capitals field
  refine pascal_no_prefix is capital words ?_
  rw [same, canonical, String.toList_ofList]
  exact List.prefix_append _ _

/-- A Pascal-case name becomes the canonical one exactly in the failures that are covered. -/
theorem fixAt_pascal_iff (holder : Holder) (field : EnumField) (words : List Word) :
    fixAt special (field.place holder) (pascal words) = canonical special field.enum words ↔
      holder.Covered := by
  constructor
  · intro same
    by_contra uncovered
    rw [fixAt_unlisted (uncovered_unlisted uncovered field)] at same
    exact pascal_ne_canonical field words same
  · intro covered
    rw [fixAt_listed (listed_covered covered field), fixName_field]

/-! ### Round trips -/

variable {E : Type} {format : JsonFormat E}

/-- What is documented of protobuf's JSON format and `json`, for a history: a repeated field
    is printed as a list and is left out when it is empty, a known value of an enum is
    printed by its name, and what is printed is parsed as what it was. -/
structure JsonFormat.Exact (format : JsonFormat E) (eventToDict : E → Entries)
    (events : List E) : Prop where
  printed : format.messageToDict events =
    if events.isEmpty then []
    else [("events", .array ((events.map eventToDict).map .object))]
  names : ∀ event ∈ events, ∀ place s p, Json.StringAt (.object (eventToDict event)) place s →
    Listed place p → p.toList <+: s.toList
  loads : format.loads (format.messageToJson events) = .ok (.object (format.messageToDict events))
  parses : format.parseDict (format.messageToDict events) = .ok events

variable {eventToDict : E → Entries} {events : List E}

/-- Canonical names are left as they are. -/
theorem fixHistory_printed (exact : format.Exact eventToDict events) (some : events ≠ []) :
    fixHistory special (.object (format.messageToDict events)) =
      .ok (format.messageToDict events) := by
  have printed := exact.printed
  rw [if_neg fun empty => some (List.isEmpty_iff.mp empty)] at printed
  -- what is printed at a listed place has the prefix of its enum
  have unchanged : ∀ event ∈ events,
      Json.mapStrings (fixAt special) (.object (eventToDict event)) =
        .object (eventToDict event) := by
    intro event mem
    refine Json.mapStrings_same fun place s found => ?_
    by_cases listed : ∃ p, Listed place p
    · obtain ⟨p, listed⟩ := listed
      rw [fixAt_listed listed, fixName_of_prefix (exact.names event mem place s p found listed)]
    · exact fixAt_unlisted (not_exists.mp listed) s
  have same : ((events.map eventToDict).map fun event =>
      Json.object (Json.mapEntries (fixAt special) event)) =
      (events.map eventToDict).map .object := by
    rw [List.map_map, List.map_map]
    exact List.map_congr_left unchanged
  rw [printed, fixHistory_of_events rfl, same]
  rfl

theorem fromJson_toJson_iff (exact : format.Exact eventToDict events) :
    (fromJson special format (.text (toJson format events)) = .ok events ↔ events ≠ []) ∧
      (fromJson special format (.parsed (toJsonDict format events)) = .ok events ↔
        events ≠ []) := by
  have same : fromJson special format (.text (toJson format events)) =
      fromJson special format (.parsed (toJsonDict format events)) := by
    rw [fromJson, toJson, exact.loads]
    rfl
  rw [same, and_self]
  constructor
  -- without events there is no key, and `from_json` insists on one
  · rintro imported rfl
    have printed : format.messageToDict [] = [] := exact.printed
    rw [fromJson, toJsonDict, printed] at imported
    cases imported
  · intro some
    rw [fromJson, toJsonDict, fixHistory_printed exact some]
    exact exact.parses

/-- Importing a history: what was exported comes back exactly if there is an event; in any JSON
    history, timeout types and retry states in Pascal case get their canonical names exactly
    outside the outcomes of updates; what has no string at a listed place stays as it is;
    and fixing a fixed history does nothing. -/
theorem history_import_iff {history fixed : Entries}
    (exact : format.Exact eventToDict events)
    (imported : fixHistory special (.object history) = .ok fixed) :
    ((fromJson special format (.text (toJson format events)) = .ok events ↔ events ≠ []) ∧
      (fromJson special format (.parsed (toJsonDict format events)) = .ok events ↔
        events ≠ [])) ∧
    (∀ i holder field words,
      (Json.object history).at? (inEvent i (EnumField.place field holder)) =
          some (.str (pascal words)) →
        ((Json.object fixed).at? (inEvent i (EnumField.place field holder)) =
          some (.str (canonical special field.enum words)) ↔ holder.Covered)) ∧
    (∀ i place, (∀ value, (Json.object history).at? (inEvent i place) = some value →
        ∀ below s, Json.StringAt value below s → ∀ p, ¬ Listed (place ++ below) p) →
      (Json.object fixed).at? (inEvent i place) = (Json.object history).at? (inEvent i place)) ∧
    (∀ k place, k ≠ "events" →
      (Json.object fixed).at? (.key k :: place) = (Json.object history).at? (.key k :: place)) ∧
    fixHistory special (.object fixed) = .ok fixed := by
  refine ⟨fromJson_toJson_iff exact, fun i holder field words found => ?_,
    fun i place unlisted => ?_, fun k place other => fixHistory_rest imported other place,
    fixHistory_idem imported⟩
  · rw [fixHistory_at imported, found, Option.map_some, Option.some.injEq, Json.mapStrings,
      Json.str.injEq, List.append_nil]
    exact fixAt_pascal_iff holder field words
  · rw [fixHistory_at imported]
    cases found : (Json.object history).at? (inEvent i place) with
    | none => rfl
    | some value =>
      rw [Option.map_some, Json.mapStrings_same fun below s here =>
        fixAt_unlisted (unlisted value found below s here) s]

/-- Histories of events that are alike, printed in full only for one event. -/
def startedEvent : Entries :=
  [("eventType", .str "EVENT_TYPE_WORKFLOW_TASK_STARTED")]

def startedText : String :=
  "\x7b\"events\": [\x7b\"eventType\": \"EVENT_TYPE_WORKFLOW_TASK_STARTED\"\x7d]\x7d"

def startedFormat : JsonFormat Unit where
  messageToDict events :=
    if events.isEmpty then []
    else [("events", .array ((events.map fun _ => startedEvent).map .object))]
  messageToJson events := if events.isEmpty then "\x7b\x7d" else startedText
  parseDict history :=
    match Dict.lookup history "events" with
    | some (.array items) => .ok (items.map fun _ => ())
    | _ => .ok []
  loads text :=
    if text = startedText then .ok (.object [("events", .array [.object startedEvent])])
    else if text = "\x7b\x7d" then .ok (.object [])
    else .error .jsonError

theorem startedFormat_exact : startedFormat.Exact (fun _ => startedEvent) [()] where
  printed := rfl
  names event _ place s p found listed := by
    have mem := mem_prefixesAt.mpr listed
    cases found with
    | @entry _ k v below _ found here =>
      obtain ⟨rfl, rfl⟩ := Prod.mk.inj (List.mem_singleton.mp found)
      cases here
      have one : prefixesAt [.key "eventType"] = ["EVENT_TYPE"] := by decide
      rw [one, List.mem_singleton] at mem
      subst mem
      exact List.isPrefixOf_iff_prefix.mp (by decide)
  loads := by simp [startedFormat]
  parses := rfl

/-- An event with a failure whose cause is a timeout. -/
def timedOutEvent : Entries :=
  [("activityTaskFailedEventAttributes", .object [("failure", .object [("cause", .object
    [("timeoutFailureInfo", .object [("timeoutType", .str "StartToClose")])])])])]

def startToClose : List Word :=
  [⟨'S', ['t', 'a', 'r', 't'], rfl, by simp, by simp⟩, ⟨'T', ['o'], rfl, by simp, by simp⟩,
    ⟨'C', ['l', 'o', 's', 'e'], rfl, by simp, by simp⟩]

theorem history_import_iff_timed_out :
    fromJson (fun c => [c]) startedFormat (.text (toJson startedFormat [()])) = .ok [()] ∧
      ∃ fixed, fixHistory (fun c => [c])
          (.object [("events", .array [.object timedOutEvent])]) = .ok fixed ∧
        (Json.object fixed).at? (inEvent 0 (EnumField.place .timeoutType
            (.failure (.failure "activityTaskFailedEventAttributes") 1))) =
          some (.str "TIMEOUT_TYPE_START_TO_CLOSE") := by
  have imported := @fixHistory_of_events (fun c => [c])
    [("events", .array [.object timedOutEvent])] [timedOutEvent] rfl
  have all := history_import_iff startedFormat_exact imported
  refine ⟨all.1.1.mpr (List.cons_ne_nil _ _), _, imported, ?_⟩
  have fixed := all.2.1 0 (.failure (.failure "activityTaskFailedEventAttributes") 1) .timeoutType
    startToClose rfl
  refine (fixed.mpr fun causes same => ?_).trans ?_
  · cases same
  · have name : canonical (fun c => [c]) EnumField.timeoutType.enum startToClose =
        "TIMEOUT_TYPE_START_TO_CLOSE" := by decide
    rw [name]

/-- An event of an update that completed with a timeout. -/
def updateTimedOutEvent : Entries :=
  [("workflowExecutionUpdateCompletedEventAttributes", .object [("outcome", .object
    [("failure", .object [("timeoutFailureInfo", .object
      [("timeoutType", .str "StartToClose")])])])])]

/-- A history without events is exported but not imported, and a failure in the outcome of an
    update is not fixed. -/
theorem empty_history_refused :
    (startedFormat.Exact (fun _ => startedEvent) [] ∧
      fromJson (fun c => [c]) startedFormat (.text (toJson startedFormat [])) =
        .error (.valueError "History does not have iterable 'events'")) ∧
    (Json.object updateTimedOutEvent).at?
        (EnumField.place .timeoutType (.failure .updateOutcome 0)) =
      some (.str (pascal startToClose)) ∧
    fixHistory (fun c => [c]) (.object [("events", .array [.object updateTimedOutEvent])]) =
      .ok [("events", .array [.object updateTimedOutEvent])] := by
  have empty : startedFormat.loads (startedFormat.messageToJson []) = .ok (.object []) := by
    have different : "\x7b\x7d" ≠ startedText := by decide
    simp [startedFormat, different]
  refine ⟨⟨⟨rfl, fun _ mem => (List.not_mem_nil mem).elim, empty, rfl⟩, ?_⟩, ?_, ?_⟩
  · rw [fromJson, toJson, empty]
    rfl
  · rfl
  · rfl

end TemporalSdk.Client.HistoryJson
