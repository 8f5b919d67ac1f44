import TemporalSdk.Converter.JsonStrings

/-!
# Histories as JSON

`WorkflowHistory.from_json` and `to_json`, with the fix-ups of enum names that
`_history_from_json` makes before it leaves the rest to protobuf. Protobuf's JSON
format and `json` are parameters (`JsonFormat`).

Dicts are lists of entries. The fix-ups work on a copy of what is passed, so an error
leaves the caller's history as it was and only the result is modelled.
-/
namespace TemporalSdk.Client.HistoryJson

open Converter.TypedJson

/-- A dict. -/
abbrev Entries := List (String × Json)

/-! ### Names -/

/-- `_pascal_case_match.sub(r"_\1", …)`: an underscore before every run of `[A-Z]`. The flag
    says whether the character before is one. -/
def underscored : Bool → List Char → List Char
  | _, [] => []
  | inRun, c :: rest =>
    if c.isUpper then
      if inRun then c :: underscored true rest else '_' :: c :: underscored true rest
    else c :: underscored false rest

variable (special : Char → List Char)

/-- `str.upper` of one character; what it does beyond ASCII is a parameter. -/
def upperChar (c : Char) : List Char :=
  if c.toNat < 128 then [c.toUpper] else special c

def upper (text : List Char) : List Char :=
  text.flatMap (upperChar special)

/-- The value `_fix_history_enum` leaves where it finds a string: only a string without
    the prefix is fixed. -/
def fixName (p s : String) : String :=
  if p.toList.isPrefixOf s.toList then s
  else String.ofList (p.toList ++ upper special (underscored false s.toList))

/-! ### Fixing a dict -/

/-- Does something to a child that is a dict. -/
def ifDict (f : Entries → Entries) : Json → Json
  | .object entries => .object (f entries)
  | child => child

/-- `_fix_history_enum`. The path is never empty in the source. -/
def fixHistoryEnum (p : String) : List String → Entries → Entries
  | [], parent => parent
  | attr :: rest, parent => parent.map fun (k, child) =>
    if attr = "*" then (k, ifDict (fixHistoryEnum p rest) child)
    else if k = attr then
      match child, rest with
      | .str s, [] => (k, .str (fixName special p s))
      | _, [] => (k, child)
      | .array items, _ :: _ => (k, .array (items.map (ifDict (fixHistoryEnum p rest))))
      | _, _ :: _ => (k, ifDict (fixHistoryEnum p rest) child)
    else (k, child)

/-- Does something to every parent that `_fix_history_failure` collects: to the dicts at
    a path of dicts. -/
def eachParent (f : Entries → Entries) : List String → Entries → Entries
  | [], parent => f parent
  | attr :: rest, parent => parent.map fun (k, child) =>
    if attr = "*" ∨ k = attr then (k, ifDict (eachParent f rest) child) else (k, child)

/-- `_fix_history_failure`, with so many levels of causes under the first. -/
def fixHistoryFailure : Nat → List String → Entries → Entries
  | causes, attrs, parent =>
    let timeouts := fixHistoryEnum special "TIMEOUT_TYPE"
      (attrs ++ ["timeoutFailureInfo", "timeoutType"]) parent
    let retries := fixHistoryEnum special "RETRY_STATE" (attrs ++ ["*", "retryState"]) timeouts
    match causes with
    | 0 => retries
    | causes + 1 => eachParent (fixHistoryFailure causes ["cause"]) attrs retries

/-- The enums that `_history_from_json` fixes in an event, by their paths. -/
def enumPaths : List (String × List String) :=
  [("CANCEL_EXTERNAL_WORKFLOW_EXECUTION_FAILED_CAUSE",
      ["requestCancelExternalWorkflowExecutionFailedEventAttributes", "cause"]),
    ("CONTINUE_AS_NEW_INITIATOR", ["*", "initiator"]),
    ("EVENT_TYPE", ["eventType"]),
    ("PARENT_CLOSE_POLICY",
      ["startChildWorkflowExecutionInitiatedEventAttributes", "parentClosePolicy"]),
    ("RETRY_STATE", ["*", "retryState"]),
    ("SIGNAL_EXTERNAL_WORKFLOW_EXECUTION_FAILED_CAUSE",
      ["signalExternalWorkflowExecutionFailedEventAttributes", "cause"]),
    ("START_CHILD_WORKFLOW_EXECUTION_FAILED_CAUSE",
      ["startChildWorkflowExecutionFailedEventAttributes", "cause"]),
    ("TASK_QUEUE_KIND", ["*", "taskQueue", "kind"]),
    ("TIMEOUT_TYPE", ["workflowTaskTimedOutEventAttributes", "timeoutType"]),
    ("WORKFLOW_ID_REUSE_POLICY",
      ["startChildWorkflowExecutionInitiatedEventAttributes", "workflowIdReusePolicy"]),
    ("WORKFLOW_TASK_FAILED_CAUSE", ["workflowTaskFailedEventAttributes", "cause"])]

/-- The paths of the failures it fixes. -/
def failurePaths : List (List String) :=
  [["*", "failure"], ["activityTaskStartedEventAttributes", "lastFailure"],
    ["workflowExecutionStartedEventAttributes", "continuedFailure"]]

/-- The fix-ups of one event. No failure in it has more causes than the event has levels. -/
def fixEvent (event : Entries) : Entries :=
  failurePaths.foldl
    (fun event attrs => fixHistoryFailure special (Json.stepsEntries event) attrs event)
    (enumPaths.foldl (fun event (p, attrs) => fixHistoryEnum special p attrs event) event)

/-! ### Importing -/

/-- What `from_json` raises: its own `ValueError`s, and what `json` and protobuf raise. -/
inductive ImportError where
  | valueError (message : String)
  | jsonError
  | parseError (message : String)
  deriving DecidableEq

/-- The fix-ups of the items of `events`, which have to be dicts. -/
def fixItem : Json → Except ImportError Json
  | .object event => .ok (.object (fixEvent special event))
  | _ => .error (.valueError "Event not a dictionary")

/-- `_history_from_json` up to `ParseDict`. A dict or a string is iterable too, but its
    items are strings. -/
def fixHistory : Json → Except ImportError Entries
  | .object history =>
    match Dict.lookup history "events" with
    | some (.array events) => do
      let fixed ← events.mapM (fixItem special)
      return Dict.insert history "events" (.array fixed)
    | events =>
      match events.bind Json.iter? with
      | none => .error (.valueError "History does not have iterable 'events'")
      | some [] => .ok history
      | some (_ :: _) => .error (.valueError "Event not a dictionary")
  | _ => .error (.valueError "JSON history not a dictionary")

/-- `json.loads`, and `MessageToDict`, `MessageToJson` and `ParseDict` for histories with
    events of type `E`. -/
structure JsonFormat (E : Type) where
  messageToDict : List E → Entries
  messageToJson : List E → String
  parseDict : Entries → Except ImportError (List E)
  loads : String → Except ImportError Json

/-- `Union[str, Dict[str, Any]]`. -/
inductive Source where
  | text (history : String)
  | parsed (history : Json)

variable {E : Type} (format : JsonFormat E)

/-- The events of `WorkflowHistory.from_json`. -/
def fromJson : Source → Except ImportError (List E)
  | .text history => do
    let history ← format.loads history
    let fixed ← fixHistory special history
    format.parseDict fixed
  | .parsed history => do
    let fixed ← fixHistory special history
    format.parseDict fixed

/-- `WorkflowHistory.to_json` and `to_json_dict`. -/
def toJson (events : List E) : String :=
  format.messageToJson events

def toJsonDict (events : List E) : Json :=
  .object (format.messageToDict events)

end TemporalSdk.Client.HistoryJson
