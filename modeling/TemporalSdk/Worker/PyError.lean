/-!
# Exceptions

What the workers look at in an exception: whether `except Exception` catches it,
the text that `str` of it returns, and the classes that the activity worker
tells apart. Exceptions are true as conditions.
-/
namespace TemporalSdk.Worker

inductive ErrorKind where
  /-- `temporalio.activity._CompleteAsyncError`. -/
  | completeAsync
  /-- `asyncio.CancelledError` or `temporalio.exceptions.CancelledError`. -/
  | cancelled
  /-- `concurrent.futures.BrokenExecutor`. -/
  | brokenExecutor
  | other
  deriving DecidableEq

structure PyError where
  isException : Bool
  /-- The text, unless `__str__` raises. -/
  text : Option String
  kind : ErrorKind := .other
  deriving DecidableEq

/-- What `__str__` of a broken exception class raises. -/
def PyError.unprintable : PyError := ⟨true, none, .other⟩

end TemporalSdk.Worker
