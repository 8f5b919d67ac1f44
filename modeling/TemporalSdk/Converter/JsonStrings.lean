import TemporalSdk.Converter.Json
import TemporalSdk.Dict

/-!
# Strings in JSON values, by their places

`mapStrings` rewrites the strings in a JSON value, each by its place, and keeps
everything else. Two rewritings in a row are one (`mapStrings_comp`), only strings
that are there make a difference (`mapStrings_congr`), and what is at a place is
rewritten as the rest of the way to it says (`at_mapStrings`).
-/
namespace TemporalSdk.Converter.TypedJson

/-- A step into a value: to the value of a key, or to an item. -/
inductive Step where
  | key (k : String)
  | index (i : Nat)
  deriving DecidableEq

abbrev Place := List Step

namespace Json

mutual

def mapStrings (f : Place → String → String) : Json → Json
  | .null => .null
  | .bool b => .bool b
  | .int i => .int i
  | .float x => .float x
  | .str s => .str (f [] s)
  | .array items => .array (mapItems f 0 items)
  | .object entries => .object (mapEntries f entries)

def mapItems (f : Place → String → String) : Nat → List Json → List Json
  | _, [] => []
  | i, item :: rest => mapStrings (fun place => f (.index i :: place)) item ::
      mapItems f (i + 1) rest

def mapEntries (f : Place → String → String) : List (String × Json) → List (String × Json)
  | [] => []
  | (k, v) :: rest => (k, mapStrings (fun place => f (.key k :: place)) v) :: mapEntries f rest

end

mutual

/-- How many steps the longest way into the value has. -/
def steps : Json → Nat
  | .null | .bool _ | .int _ | .float _ | .str _ => 0
  | .array items => stepsItems items
  | .object entries => stepsEntries entries

def stepsItems : List Json → Nat
  | [] => 0
  | item :: rest => max (steps item + 1) (stepsItems rest)

def stepsEntries : List (String × Json) → Nat
  | [] => 0
  | (_, v) :: rest => max (steps v + 1) (stepsEntries rest)

end

/-- What is at a place. -/
def at? : Json → Place → Option Json
  | j, [] => some j
  | .object entries, .key k :: place => (Dict.lookup entries k).bind fun v => v.at? place
  | .array items, .index i :: place => items[i]?.bind fun v => v.at? place
  | _, _ :: _ => none

/-- A string is at a place. -/
inductive StringAt : Json → Place → String → Prop where
  | here (s : String) : StringAt (.str s) [] s
  | item {items : List Json} {i : Nat} {v : Json} {place : Place} {s : String}
      (found : items[i]? = some v) (below : StringAt v place s) :
      StringAt (.array items) (.index i :: place) s
  | entry {entries : List (String × Json)} {k : String} {v : Json} {place : Place} {s : String}
      (found : (k, v) ∈ entries) (below : StringAt v place s) :
      StringAt (.object entries) (.key k :: place) s

variable {f g : Place → String → String}

theorem mapEntries_eq (f : Place → String → String) (entries : List (String × Json)) :
    mapEntries f entries =
      entries.map fun entry =>
        (entry.1, mapStrings (fun place => f (.key entry.1 :: place)) entry.2) := by
  induction entries with
  | nil => rfl
  | cons entry rest ih =>
    obtain ⟨k, v⟩ := entry
    rw [mapEntries, ih]
    rfl

theorem getElem?_mapItems (f : Place → String → String) (i n : Nat) (items : List Json) :
    (mapItems f i items)[n]? =
      items[n]?.map (mapStrings fun place => f (.index (i + n) :: place)) := by
  induction items generalizing i n with
  | nil => rfl
  | cons item rest ih =>
    cases n with
    | zero => rfl
    | succ n =>
      rw [mapItems, List.getElem?_cons_succ, List.getElem?_cons_succ, ih, Nat.add_right_comm,
        Nat.add_assoc]

theorem lookup_mapEntries (f : Place → String → String) (entries : List (String × Json))
    (k : String) :
    Dict.lookup (mapEntries f entries) k =
      (Dict.lookup entries k).map (mapStrings fun place => f (.key k :: place)) := by
  induction entries with
  | nil => rfl
  | cons entry rest ih =>
    obtain ⟨k', v⟩ := entry
    rw [mapEntries, Dict.lookup, Dict.lookup]
    by_cases same : k' = k
    · subst same
      simp
    · rw [if_neg same, if_neg same, ih]

/-! ### Rewriting in a row -/

mutual

theorem mapStrings_comp (f g : Place → String → String) : ∀ j : Json,
    mapStrings f (mapStrings g j) = mapStrings (fun place s => f place (g place s)) j
  | .null | .bool _ | .int _ | .float _ | .str _ => rfl
  | .array items => by
    rw [mapStrings, mapStrings, mapStrings, mapItems_comp]
  | .object entries => by
    rw [mapStrings, mapStrings, mapStrings, mapEntries_comp]

theorem mapItems_comp (f g : Place → String → String) : ∀ (i : Nat) (items : List Json),
    mapItems f i (mapItems g i items) = mapItems (fun place s => f place (g place s)) i items
  | _, [] => rfl
  | i, item :: rest => by
    rw [mapItems, mapItems, mapItems, mapItems_comp, mapStrings_comp]

theorem mapEntries_comp (f g : Place → String → String) : ∀ entries : List (String × Json),
    mapEntries f (mapEntries g entries) = mapEntries (fun place s => f place (g place s)) entries
  | [] => rfl
  | (k, v) :: rest => by
    rw [mapEntries, mapEntries, mapEntries, mapEntries_comp, mapStrings_comp]

end

/-! ### Only strings that are there matter -/

mutual

theorem mapStrings_congr {f g : Place → String → String} : ∀ (j : Json),
    (∀ place s, StringAt j place s → f place s = g place s) → mapStrings f j = mapStrings g j
  | .null, _ | .bool _, _ | .int _, _ | .float _, _ => rfl
  | .str s, same => congrArg Json.str (same [] s (.here s))
  | .array items, same => by
    rw [mapStrings, mapStrings, mapItems_congr 0 items fun n v place s found below => ?_]
    rw [Nat.zero_add]
    exact same _ _ (.item found below)
  | .object entries, same => by
    rw [mapStrings, mapStrings, mapEntries_congr entries fun k v place s found below => ?_]
    exact same _ _ (.entry found below)

theorem mapItems_congr {f g : Place → String → String} : ∀ (i : Nat) (items : List Json),
    (∀ n v place s, items[n]? = some v → StringAt v place s →
      f (.index (i + n) :: place) s = g (.index (i + n) :: place) s) →
    mapItems f i items = mapItems g i items
  | _, [], _ => rfl
  | i, item :: rest, same => by
    have first : ∀ place s, StringAt item place s →
        f (.index i :: place) s = g (.index i :: place) s :=
      fun place s below => same 0 item place s rfl below
    rw [mapItems, mapItems, mapStrings_congr item first,
      mapItems_congr (i + 1) rest fun n v place s found below => ?_]
    have later := same (n + 1) v place s found below
    rwa [← Nat.add_assoc, Nat.add_right_comm] at later

theorem mapEntries_congr {f g : Place → String → String} : ∀ entries : List (String × Json),
    (∀ k v place s, (k, v) ∈ entries → StringAt v place s →
      f (.key k :: place) s = g (.key k :: place) s) →
    mapEntries f entries = mapEntries g entries
  | [], _ => rfl
  | (k, v) :: rest, same => by
    rw [mapEntries, mapEntries,
      mapStrings_congr v fun place s below => same k v place s List.mem_cons_self below,
      mapEntries_congr rest fun k' v' place s found below =>
        same k' v' place s (List.mem_cons_of_mem _ found) below]

end

mutual

/-- Rewriting every string to itself. -/
theorem mapStrings_id : ∀ j : Json, mapStrings (fun _ s => s) j = j
  | .null | .bool _ | .int _ | .float _ | .str _ => rfl
  | .array items => by rw [mapStrings, mapItems_id]
  | .object entries => by rw [mapStrings, mapEntries_id]

theorem mapItems_id : ∀ (i : Nat) (items : List Json), mapItems (fun _ s => s) i items = items
  | _, [] => rfl
  | i, item :: rest => by rw [mapItems, mapStrings_id, mapItems_id]

theorem mapEntries_id : ∀ entries : List (String × Json),
    mapEntries (fun _ s => s) entries = entries
  | [] => rfl
  | (k, v) :: rest => by rw [mapEntries, mapStrings_id, mapEntries_id]

end

theorem mapStrings_same {j : Json} (same : ∀ place s, StringAt j place s → f place s = s) :
    mapStrings f j = j :=
  (mapStrings_congr j same).trans (mapStrings_id j)

/-! ### Places -/

theorem at_mapStrings (f : Place → String → String) (j : Json) (place : Place) :
    (mapStrings f j).at? place =
      (j.at? place).map (mapStrings fun below => f (place ++ below)) := by
  induction place generalizing j f with
  | nil => cases j <;> rfl
  | cons step place ih =>
    cases j <;> cases step <;> try rfl
    case array.index items i =>
      rw [mapStrings, at?, at?, getElem?_mapItems, Nat.zero_add]
      cases items[i]? with
      | none => rfl
      | some v => exact ih _ v
    case object.key entries k =>
      rw [mapStrings, at?, at?, lookup_mapEntries]
      cases Dict.lookup entries k with
      | none => rfl
      | some v => exact ih _ v

theorem steps_item {items : List Json} {i : Nat} {v : Json} (found : items[i]? = some v) :
    steps v + 1 ≤ stepsItems items := by
  induction items generalizing i with
  | nil => simp at found
  | cons item rest ih =>
    rw [stepsItems]
    cases i with
    | zero =>
      cases found
      exact Nat.le_max_left _ _
    | succ i => exact Nat.le_trans (ih found) (Nat.le_max_right _ _)

theorem steps_entry {entries : List (String × Json)} {k : String} {v : Json}
    (found : (k, v) ∈ entries) : steps v + 1 ≤ stepsEntries entries := by
  induction entries with
  | nil => cases found
  | cons entry rest ih =>
    obtain ⟨k', v'⟩ := entry
    rw [stepsEntries]
    rcases List.mem_cons.mp found with same | later
    · cases same
      exact Nat.le_max_left _ _
    · exact Nat.le_trans (ih later) (Nat.le_max_right _ _)

/-- No place is deeper than the value. -/
theorem StringAt.length_le {j : Json} {place : Place} {s : String} (found : StringAt j place s) :
    place.length ≤ j.steps := by
  induction found with
  | here => exact Nat.zero_le _
  | item found _ ih => exact Nat.le_trans (Nat.succ_le_succ ih) (steps_item found)
  | entry found _ ih => exact Nat.le_trans (Nat.succ_le_succ ih) (steps_entry found)

end Json

end TemporalSdk.Converter.TypedJson
