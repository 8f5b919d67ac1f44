import TemporalSdk.Transition
import Mathlib.Data.List.Nodup
import Mathlib.Data.List.Perm.Subperm

/-!
# Unbounded asyncio queues

`asyncio.Queue` without a maximal size, and the coroutines that `get` from it, each of
them once. Putting an item wakes the first getter that still waits, and a coroutine that
was woken looks again whether there is an item: another may have been faster. What an
operation schedules on the loop is returned with the queue.

`Inv` is the invariant: items that lie in the queue while somebody waits have been
announced to as many coroutines.
-/
namespace TemporalSdk

/-- A coroutine that calls `get`. -/
inductive Consumer (α : Type) where
  | created
  /-- In `await getter`. -/
  | waiting
  /-- The getter has its result, and the coroutine is scheduled. A cancellation that comes
      now is raised when it goes on. -/
  | woken (mustCancel : Bool)
  /-- The getter was cancelled, and the coroutine is scheduled. -/
  | cancelling
  | got (item : α)
  | cancelled
  deriving DecidableEq

/-- Whether an item has been announced to the coroutine. -/
def Consumer.announced {α : Type} : Consumer α → Nat
  | .woken _ => 1
  | _ => 0

/-- Whether the coroutine may still take an item. -/
def Consumer.work {α : Type} : Consumer α → Nat
  | .created | .waiting | .woken _ => 1
  | .cancelling | .got _ | .cancelled => 0

/-- Whether the coroutine is scheduled on the loop. -/
def Consumer.Scheduled {α : Type} : Consumer α → Prop
  | .woken _ | .cancelling => True
  | .created | .waiting | .got _ | .cancelled => False

/-- Whether the coroutine has been cancelled. -/
def Consumer.Struck {α : Type} : Consumer α → Prop
  | .woken mustCancel => mustCancel = true
  | .cancelling | .cancelled => True
  | .created | .waiting | .got _ => False

structure AsyncQueue (α : Type) where
  items : List α
  /-- Whose getters are in `_getters`. -/
  getters : List Nat
  consumers : List (Consumer α)
  /-- What has been put into the queue, and who has taken what. -/
  puts : List α
  takes : List (Nat × α)

namespace AsyncQueue

variable {α : Type}

def empty (consumers : Nat) : AsyncQueue α where
  items := []
  getters := []
  consumers := List.replicate consumers .created
  puts := []
  takes := []

def setConsumer (q : AsyncQueue α) (i : Nat) (consumer : Consumer α) : AsyncQueue α :=
  { q with consumers := q.consumers.set i consumer }

def isWaiting : Option (Consumer α) → Bool
  | some .waiting => true
  | _ => false

/-- The first getter that is not done, and those behind it. -/
def nextWaiter (consumers : List (Consumer α)) : List Nat → Option Nat × List Nat
  | [] => (none, [])
  | i :: rest => if isWaiting consumers[i]? then (some i, rest) else nextWaiter consumers rest

/-- `_wakeup_next` of the getters. -/
def wakeupNext (q : AsyncQueue α) : AsyncQueue α × Option Nat :=
  match nextWaiter q.consumers q.getters with
  | (none, rest) => ({ q with getters := rest }, none)
  | (some i, rest) => ({ q.setConsumer i (.woken false) with getters := rest }, some i)

def putNowait (q : AsyncQueue α) (item : α) : AsyncQueue α × Option Nat :=
  wakeupNext { q with items := q.items ++ [item], puts := q.puts ++ [item] }

def waitFor (q : AsyncQueue α) (i : Nat) : AsyncQueue α :=
  { q.setConsumer i .waiting with getters := q.getters ++ [i] }

/-- `get_nowait` of an item before others. -/
def take (q : AsyncQueue α) (i : Nat) (item : α) (rest : List α) : AsyncQueue α :=
  { q.setConsumer i (.got item) with items := rest, takes := q.takes ++ [(i, item)] }

/-- The loop of `get`, up to `await getter`. -/
def getOrWait (q : AsyncQueue α) (i : Nat) : AsyncQueue α :=
  match q.items with
  | [] => q.waitFor i
  | item :: rest => q.take i item rest

/-- A coroutine is awaited. -/
def get? (q : AsyncQueue α) (i : Nat) : Option (AsyncQueue α) :=
  match q.consumers[i]? with
  | some .created => some (q.getOrWait i)
  | _ => none

/-- A coroutine goes on after `await getter`. -/
def resume (q : AsyncQueue α) (i : Nat) : AsyncQueue α × Option Nat :=
  match q.consumers[i]? with
  | some (.woken false) => (q.getOrWait i, none)
  | some (.woken true) =>
    match q.items with
    | [] => (q.setConsumer i .cancelled, none)
    | _ :: _ => (q.setConsumer i .cancelled).wakeupNext
  | some .cancelling =>
    ({ q.setConsumer i .cancelled with getters := q.getters.erase i }, none)
  | _ => (q, none)

/-- A coroutine is cancelled while it is in `get`. -/
def cancel? (q : AsyncQueue α) (i : Nat) : Option (AsyncQueue α × Option Nat) :=
  match q.consumers[i]? with
  | some .waiting => some (q.setConsumer i .cancelling, some i)
  | some (.woken _) => some (q.setConsumer i (.woken true), none)
  | some .cancelling => some (q, none)
  | _ => none

/-! ### The invariant -/

def announced (q : AsyncQueue α) : Nat :=
  (q.consumers.map Consumer.announced).sum

def SomeWaits (q : AsyncQueue α) : Prop :=
  ∃ i : Nat, q.consumers[i]? = some .waiting

/-- The getters are those of the consumers that wait, perhaps of some cancelled ones too;
    what was put has been taken, each item by one consumer, or is there. -/
structure Books (q : AsyncQueue α) : Prop where
  listed : ∀ i, q.consumers[i]? = some .waiting → i ∈ q.getters
  getters : ∀ i ∈ q.getters,
    q.consumers[i]? = some .waiting ∨ q.consumers[i]? = some .cancelling
  distinct : q.getters.Nodup
  logged : q.puts = q.takes.map Prod.snd ++ q.items
  takers : ∀ i item, q.consumers[i]? = some (.got item) ↔ (i, item) ∈ q.takes
  once : (q.takes.map Prod.fst).Nodup

structure Inv (q : AsyncQueue α) : Prop where
  books : q.Books
  served : q.SomeWaits → q.items.length ≤ q.announced

variable {q : AsyncQueue α} {i : Nat} {b c : Consumer α}

theorem getElem?_set_iff {l : List (Consumer α)} (there : l[i]? = some b) {j : Nat}
    {d : Consumer α} :
    (l.set i c)[j]? = some d ↔ (j = i ∧ d = c) ∨ (j ≠ i ∧ l[j]? = some d) := by
  constructor
  · exact getElem?_set_cases
  · obtain ⟨inside, -⟩ := List.getElem?_eq_some_iff.mp there
    rintro (⟨rfl, rfl⟩ | ⟨other, there⟩)
    · exact List.getElem?_set_self inside
    · rwa [List.getElem?_set_ne (Ne.symm other)]

theorem announced_set (there : q.consumers[i]? = some b) (c : Consumer α) :
    (q.setConsumer i c).announced + b.announced = q.announced + c.announced :=
  sum_map_set Consumer.announced there c

/-- Who waits after consumer `i`, which now does not, has changed. -/
theorem waiting_of_set (there : q.consumers[i]? = some b) (other : c ≠ .waiting) {j : Nat}
    (waits : (q.setConsumer i c).consumers[j]? = some .waiting) :
    j ≠ i ∧ q.consumers[j]? = some .waiting := by
  rcases (getElem?_set_iff there).mp waits with ⟨-, same⟩ | old
  · exact absurd same.symm other
  · exact old

theorem got_set (there : q.consumers[i]? = some b) (old : ∀ item, b ≠ .got item)
    (new : ∀ item, c ≠ .got item) (j : Nat) (item : α) :
    (q.setConsumer i c).consumers[j]? = some (.got item) ↔ q.consumers[j]? = some (.got item) := by
  rw [setConsumer, getElem?_set_iff there]
  constructor
  · rintro (⟨-, same⟩ | ⟨-, same⟩)
    · exact absurd same.symm (new item)
    · exact same
  · intro same
    refine .inr ⟨?_, same⟩
    rintro rfl
    rw [there] at same
    exact old item (Option.some.inj same)

theorem isWaiting_iff {o : Option (Consumer α)} : isWaiting o = true ↔ o = some .waiting := by
  rcases o with _ | (_ | _ | _ | _ | _ | _) <;> simp [isWaiting]

theorem nextWaiter_cases (consumers : List (Consumer α)) (getters : List Nat) :
    (nextWaiter consumers getters = (none, []) ∧
      ∀ j ∈ getters, consumers[j]? ≠ some .waiting) ∨
    ∃ skipped i rest, nextWaiter consumers getters = (some i, rest) ∧
      getters = skipped ++ i :: rest ∧ consumers[i]? = some .waiting ∧
      ∀ j ∈ skipped, consumers[j]? ≠ some .waiting := by
  -- a getter that does not wait is dropped, so those before the first that waits are skipped
  induction getters with
  | nil => exact .inl ⟨rfl, fun _ mem => (List.not_mem_nil mem).elim⟩
  | cons i getters ih =>
    rw [nextWaiter]
    by_cases waits : consumers[i]? = some .waiting
    · rw [if_pos (isWaiting_iff.mpr waits)]
      exact .inr ⟨[], i, getters, rfl, rfl, waits, fun _ mem => (List.not_mem_nil mem).elim⟩
    · rw [if_neg fun is => waits (isWaiting_iff.mp is)]
      rcases ih with ⟨none, nobody⟩ | ⟨skipped, j, rest, next, rfl, found, before⟩
      · exact .inl ⟨none, List.forall_mem_cons.mpr ⟨waits, nobody⟩⟩
      · exact .inr ⟨i :: skipped, j, rest, next, rfl, found,
          List.forall_mem_cons.mpr ⟨waits, before⟩⟩

/-- Waking the next getter: nobody waits, or one that waited is woken. -/
theorem wakeupNext_cases (books : q.Books) :
    (q.wakeupNext = ({ q with getters := [] }, none) ∧ ¬ q.SomeWaits) ∨
    ∃ i rest, q.wakeupNext = ({ q.setConsumer i (.woken false) with getters := rest }, some i) ∧
      q.consumers[i]? = some .waiting ∧ i ∉ rest ∧ rest.Sublist q.getters ∧
      ∀ j ∈ q.getters, j ≠ i → q.consumers[j]? = some .waiting → j ∈ rest := by
  rcases nextWaiter_cases q.consumers q.getters with
    ⟨next, nobody⟩ | ⟨skipped, i, rest, next, split, waits, before⟩
  · refine .inl ⟨by rw [wakeupNext, next], ?_⟩
    rintro ⟨j, waits⟩
    exact nobody j (books.listed j waits) waits
  · have distinct := books.distinct
    rw [split] at distinct
    refine .inr ⟨i, rest, by rw [wakeupNext, next], waits, ?_, ?_, fun j mem other waits => ?_⟩
    · exact (List.nodup_cons.mp (List.nodup_append.mp distinct).2.1).1
    · rw [split]
      exact (List.sublist_cons_self _ _).trans (List.sublist_append_right _ _)
    · rw [split, List.mem_append, List.mem_cons] at mem
      rcases mem with mem | mem | mem
      · exact absurd waits (before j mem)
      · exact absurd mem other
      · exact mem

theorem Books.wakeupNext (books : q.Books) : q.wakeupNext.1.Books := by
  rcases wakeupNext_cases books with ⟨is, nobody⟩ | ⟨i, rest, is, there, out, within, kept⟩
  · rw [is]
    exact { books with
      listed := fun j waits => absurd ⟨j, waits⟩ nobody
      getters := fun _ mem => (List.not_mem_nil mem).elim
      distinct := List.nodup_nil }
  · rw [is]
    refine ⟨fun j waits => ?_, fun j mem => ?_, books.distinct.sublist within, books.logged,
      fun j item => ?_, books.once⟩
    · obtain ⟨other, waits⟩ := waiting_of_set there (by simp) waits
      exact kept j (books.listed j waits) other waits
    · have other : j ≠ i := fun same => out (same ▸ mem)
      have old := books.getters j (within.subset mem)
      rwa [setConsumer, List.getElem?_set_ne (Ne.symm other)]
    · exact (got_set there (by simp) (by simp) j item).trans (books.takers j item)

/-- A wake-up serves one item more. -/
theorem Books.wakeupNext_inv (books : q.Books)
    (nearly : q.SomeWaits → q.items.length ≤ q.announced + 1) : q.wakeupNext.1.Inv := by
  refine ⟨books.wakeupNext, fun waits => ?_⟩
  rcases wakeupNext_cases books with ⟨is, nobody⟩ | ⟨i, rest, is, there, -⟩
  · rw [is] at waits
    exact absurd waits nobody
  · rw [is]
    -- whoever is woken counts for the item that was one too many
    have more := announced_set there (.woken false)
    have enough := nearly ⟨i, there⟩
    exact Nat.le_trans enough (Nat.le_of_eq more.symm)

/-! ### What an operation does -/

def work (q : AsyncQueue α) : Nat :=
  (q.consumers.map Consumer.work).sum

def Scheduled (q : AsyncQueue α) (i : Nat) : Prop :=
  ∃ consumer, q.consumers[i]? = some consumer ∧ consumer.Scheduled

/-- An operation other than putting, with what it schedules: every wake-up is paid for by a
    coroutine that is done with the queue. -/
structure Goes (q q' : AsyncQueue α) (woken : Option Nat) : Prop where
  inv : q'.Inv
  size : q'.consumers.length = q.consumers.length
  puts : q'.puts = q.puts
  work : q'.work + woken.toList.length ≤ q.work
  scheduled : ∀ j, q'.Scheduled j → q.Scheduled j ∨ woken = some j
  fresh : ∀ j : Nat, q'.consumers[j]? = some .created → q.consumers[j]? = some .created

theorem fresh_set (there : q.consumers[i]? = some b) (new : c ≠ .created) {j : Nat}
    (created : (q.setConsumer i c).consumers[j]? = some .created) :
    q.consumers[j]? = some .created := by
  rcases (getElem?_set_iff there).mp created with ⟨-, same⟩ | ⟨-, old⟩
  · exact absurd same.symm new
  · exact old

theorem work_set (there : q.consumers[i]? = some b) (c : Consumer α) :
    (q.setConsumer i c).work + b.work = q.work + c.work :=
  sum_map_set Consumer.work there c

theorem scheduled_set (there : q.consumers[i]? = some b) {j : Nat}
    (scheduled : (q.setConsumer i c).Scheduled j) :
    (j = i ∧ c.Scheduled) ∨ (j ≠ i ∧ q.Scheduled j) := by
  obtain ⟨consumer, found, is⟩ := scheduled
  rcases (getElem?_set_iff there).mp found with ⟨rfl, rfl⟩ | ⟨other, old⟩
  · exact .inl ⟨rfl, is⟩
  · exact .inr ⟨other, consumer, old, is⟩

theorem wakeupNext_size (q : AsyncQueue α) :
    q.wakeupNext.1.consumers.length = q.consumers.length := by
  rw [wakeupNext]
  split
  · rfl
  · exact List.length_set

theorem wakeupNext_puts (q : AsyncQueue α) : q.wakeupNext.1.puts = q.puts := by
  rw [wakeupNext]
  split <;> rfl

theorem wakeupNext_work (books : q.Books) : q.wakeupNext.1.work = q.work := by
  rcases wakeupNext_cases books with ⟨is, -⟩ | ⟨i, rest, is, there, -⟩
  · rw [is]
    rfl
  · rw [is]
    exact Nat.add_right_cancel (work_set there (.woken false))

theorem wakeupNext_scheduled (books : q.Books) {j : Nat}
    (scheduled : q.wakeupNext.1.Scheduled j) : q.Scheduled j ∨ q.wakeupNext.2 = some j := by
  rcases wakeupNext_cases books with ⟨is, -⟩ | ⟨i, rest, is, there, -⟩
  · rw [is] at scheduled
    exact .inl scheduled
  · rw [is] at scheduled ⊢
    rcases scheduled_set there scheduled with ⟨rfl, -⟩ | ⟨-, old⟩
    · exact .inr rfl
    · exact .inl old

theorem wakeupNext_fresh (books : q.Books) {j : Nat}
    (created : q.wakeupNext.1.consumers[j]? = some .created) :
    q.consumers[j]? = some .created := by
  rcases wakeupNext_cases books with ⟨is, -⟩ | ⟨i, rest, is, there, -⟩
  · rwa [is] at created
  · rw [is] at created
    exact fresh_set there (by simp) created

theorem putNowait_size (q : AsyncQueue α) (item : α) :
    (q.putNowait item).1.consumers.length = q.consumers.length :=
  wakeupNext_size _

theorem putNowait_puts (q : AsyncQueue α) (item : α) :
    (q.putNowait item).1.puts = q.puts ++ [item] :=
  wakeupNext_puts _

theorem putNowait_books (inv : q.Inv) (item : α) :
    ({ q with items := q.items ++ [item], puts := q.puts ++ [item] } : AsyncQueue α).Books :=
  { inv.books with logged := by rw [inv.books.logged, List.append_assoc] }

theorem Inv.putNowait (inv : q.Inv) (item : α) : (q.putNowait item).1.Inv := by
  refine (putNowait_books inv item).wakeupNext_inv fun waits => ?_
  rw [List.length_append]
  exact Nat.succ_le_succ (inv.served waits)

theorem putNowait_work (inv : q.Inv) (item : α) : (q.putNowait item).1.work = q.work :=
  wakeupNext_work (putNowait_books inv item)

theorem putNowait_scheduled (inv : q.Inv) (item : α) {j : Nat}
    (scheduled : (q.putNowait item).1.Scheduled j) :
    q.Scheduled j ∨ (q.putNowait item).2 = some j :=
  wakeupNext_scheduled (putNowait_books inv item) scheduled

theorem putNowait_fresh (inv : q.Inv) (item : α) {j : Nat}
    (created : (q.putNowait item).1.consumers[j]? = some .created) :
    q.consumers[j]? = some .created :=
  wakeupNext_fresh (putNowait_books inv item) created

/-- A consumer that does not wait and has got nothing. -/
def Open (b : Consumer α) : Prop :=
  b ≠ .waiting ∧ b ≠ .cancelling ∧ ∀ item, b ≠ .got item

theorem not_mem_getters (books : q.Books) (there : q.consumers[i]? = some b) (isOpen : Open b) :
    i ∉ q.getters := by
  intro mem
  rcases books.getters i mem with waits | cancelling
  · rw [there] at waits
    exact isOpen.1 (Option.some.inj waits)
  · rw [there] at cancelling
    exact isOpen.2.1 (Option.some.inj cancelling)

theorem not_taker (books : q.Books) (there : q.consumers[i]? = some b)
    (nothing : ∀ item, b ≠ .got item) : i ∉ q.takes.map Prod.fst := by
  intro mem
  obtain ⟨⟨j, item⟩, taken, rfl⟩ := List.mem_map.mp mem
  have got := (books.takers j item).mpr taken
  rw [there] at got
  exact nothing item (Option.some.inj got)

/-- A getter that is listed is another's. -/
theorem getters_set (books : q.Books) (there : q.consumers[i]? = some b) (isOpen : Open b)
    {j : Nat} (mem : j ∈ q.getters) :
    (q.setConsumer i c).consumers[j]? = some .waiting ∨
      (q.setConsumer i c).consumers[j]? = some .cancelling := by
  have other : j ≠ i := fun same => not_mem_getters books there isOpen (same ▸ mem)
  rw [setConsumer, List.getElem?_set_ne (Ne.symm other)]
  exact books.getters j mem

theorem Books.waitFor (books : q.Books) (there : q.consumers[i]? = some b) (isOpen : Open b) :
    (q.waitFor i).Books where
  listed j waits := by
    rcases (getElem?_set_iff there).mp waits with ⟨rfl, -⟩ | ⟨-, old⟩
    · exact List.mem_append_right _ List.mem_cons_self
    · exact List.mem_append_left _ (books.listed j old)
  getters j mem := by
    rcases List.mem_append.mp mem with mem | mem
    · exact getters_set books there isOpen mem
    · rw [List.mem_singleton] at mem
      exact .inl ((getElem?_set_iff there).mpr (.inl ⟨mem, rfl⟩))
  distinct := books.distinct.append (List.nodup_singleton i)
    (List.disjoint_singleton.mpr (not_mem_getters books there isOpen))
  logged := books.logged
  takers j item := (got_set there isOpen.2.2 (by simp) j item).trans (books.takers j item)
  once := books.once

theorem Books.take (books : q.Books) (there : q.consumers[i]? = some b) (isOpen : Open b)
    {item : α} {rest : List α} (items : q.items = item :: rest) : (q.take i item rest).Books where
  listed j waits := books.listed j (waiting_of_set there (by simp) waits).2
  getters j mem := getters_set books there isOpen mem
  distinct := books.distinct
  logged := by
    rw [AsyncQueue.take, List.map_append, List.append_assoc]
    exact books.logged.trans (congrArg _ items)
  takers j item' := by
    change (q.setConsumer i (.got item)).consumers[j]? = some (.got item') ↔
      (j, item') ∈ q.takes ++ [(i, item)]
    rw [setConsumer, getElem?_set_iff there, List.mem_append, List.mem_singleton,
      books.takers j item', or_comm, Prod.mk.injEq, Consumer.got.injEq]
    refine or_congr_left (and_iff_right_of_imp fun taken same => ?_)
    exact not_taker books there isOpen.2.2 (List.mem_map.mpr ⟨_, taken, same⟩)
  once := by
    rw [AsyncQueue.take, List.map_append]
    exact books.once.append (List.nodup_singleton i)
      (List.disjoint_singleton.mpr (not_taker books there isOpen.2.2))

theorem Inv.getOrWait (inv : q.Inv) (there : q.consumers[i]? = some b) (isOpen : Open b)
    (works : b.work = 1) : q.Goes (q.getOrWait i) none := by
  have scheduled {c : Consumer α} (idle : ¬ c.Scheduled) (j : Nat)
      (is : (q.setConsumer i c).Scheduled j) : q.Scheduled j ∨ none = some j := by
    rcases scheduled_set there is with ⟨-, is⟩ | ⟨-, old⟩
    · exact absurd is idle
    · exact .inl old
  rw [AsyncQueue.getOrWait]
  split
  next items =>
    -- nothing to take: nothing can be announced too little
    refine ⟨⟨inv.books.waitFor there isOpen, fun _ => ?_⟩, List.length_set, rfl, ?_,
      scheduled id, fun _ => fresh_set there (by simp)⟩
    · rw [waitFor, setConsumer, items]
      exact Nat.zero_le _
    · have same := work_set there .waiting
      rw [works] at same
      exact Nat.le_of_eq (Nat.add_right_cancel same)
  next item rest items =>
    -- an item less, and at most one announcement less: that of the taker
    refine ⟨⟨inv.books.take there isOpen items, fun ⟨j, waits⟩ => ?_⟩, List.length_set, rfl, ?_,
      scheduled id, fun _ => fresh_set there (by simp)⟩
    · have enough := inv.served ⟨j, (waiting_of_set there (by simp) waits).2⟩
      have fewer := announced_set there (.got item)
      have one : b.announced ≤ 1 := by cases b <;> simp [Consumer.announced]
      have none : (Consumer.got item).announced = 0 := rfl
      rw [items, List.length_cons] at enough
      change rest.length ≤ (q.setConsumer i (.got item)).announced
      omega
    · have fewer := work_set there (.got item)
      exact Nat.le_of_add_right_le (Nat.le_of_eq fewer)

theorem Inv.get? (inv : q.Inv) {q' : AsyncQueue α} (gets : q.get? i = some q') :
    q.Goes q' none := by
  rw [AsyncQueue.get?] at gets
  split at gets
  next there =>
    cases gets
    exact inv.getOrWait there (by simp [Open]) rfl
  next => cases gets

/-- A consumer outside the queue is changed and stays outside. -/
theorem Books.set (books : q.Books) (there : q.consumers[i]? = some b) (old : Open b)
    (new : Open c) : (q.setConsumer i c).Books :=
  { books with
    listed := fun j waits => books.listed j (waiting_of_set there new.1 waits).2
    getters := fun _ mem => getters_set books there old mem
    takers := fun j item => (got_set there old.2.2 new.2.2 j item).trans (books.takers j item) }

/-- A coroutine that was woken is cancelled and passes the wake-up on. -/
theorem Inv.abandon (inv : q.Inv) (there : q.consumers[i]? = some (.woken true)) :
    q.Goes (q.setConsumer i .cancelled).wakeupNext.1 (q.setConsumer i .cancelled).wakeupNext.2 := by
  have books : (q.setConsumer i .cancelled).Books :=
    inv.books.set there (by simp [Open]) (by simp [Open])
  -- its own announcement is gone, and the next wake-up makes up for it
  refine ⟨books.wakeupNext_inv fun ⟨j, waits⟩ => ?_, (wakeupNext_size _).trans List.length_set,
    wakeupNext_puts _, ?_, fun j scheduled => ?_,
    fun _ created => fresh_set there (by simp) (wakeupNext_fresh books created)⟩
  · have enough := inv.served ⟨j, (waiting_of_set there (by simp) waits).2⟩
    exact Nat.le_trans enough (Nat.le_of_eq (announced_set there .cancelled).symm)
  · rw [wakeupNext_work books]
    have fewer : (q.setConsumer i .cancelled).work + 1 = q.work := work_set there .cancelled
    rw [← fewer]
    exact Nat.add_le_add_left (Option.length_toList_le) _
  · rcases wakeupNext_scheduled books scheduled with old | new
    · rcases scheduled_set there old with ⟨-, is⟩ | ⟨-, old⟩
      · exact is.elim
      · exact .inl old
    · exact .inr new

theorem Inv.resume (inv : q.Inv) (i : Nat) : q.Goes (q.resume i).1 (q.resume i).2 := by
  rw [AsyncQueue.resume]
  split
  -- woken: the loop of `get` looks again
  next there => exact inv.getOrWait there (by simp [Open]) rfl
  next there =>
    split
    next items =>
      -- cancelled after it was woken, but another has taken the item
      refine ⟨⟨inv.books.set there (by simp [Open]) (by simp [Open]), fun _ => ?_⟩,
        List.length_set, rfl, ?_, fun j scheduled => ?_, fun _ => fresh_set there (by simp)⟩
      · rw [setConsumer, items]
        exact Nat.zero_le _
      · exact Nat.le_of_add_right_le (Nat.le_of_eq (work_set there .cancelled))
      · rcases scheduled_set there scheduled with ⟨-, is⟩ | ⟨-, old⟩
        · exact is.elim
        · exact .inl old
    next => exact inv.abandon there
  next there =>
    -- cancelled while it waited: its getter is removed from `_getters`
    have books := inv.books
    refine ⟨⟨⟨fun j waits => ?_, fun j mem => ?_, books.distinct.erase i, books.logged,
      fun j item => ?_, books.once⟩, fun ⟨j, waits⟩ => ?_⟩, List.length_set, rfl, ?_,
      fun j scheduled => ?_, fun _ => fresh_set there (by simp)⟩
    · obtain ⟨other, waits⟩ := waiting_of_set there (by simp) waits
      exact (List.mem_erase_of_ne other).mpr (books.listed j waits)
    · obtain ⟨other, mem⟩ := books.distinct.mem_erase_iff.mp mem
      change (q.consumers.set i .cancelled)[j]? = _ ∨ (q.consumers.set i .cancelled)[j]? = _
      rw [List.getElem?_set_ne (Ne.symm other)]
      exact books.getters j mem
    · exact (got_set there (by simp) (by simp) j item).trans (books.takers j item)
    · have enough := inv.served ⟨j, (waiting_of_set there (by simp) waits).2⟩
      exact Nat.le_trans enough (Nat.le_of_eq (announced_set there .cancelled).symm)
    · exact Nat.le_of_eq (work_set there .cancelled)
    · rcases scheduled_set there scheduled with ⟨-, is⟩ | ⟨-, old⟩
      · exact is.elim
      · exact .inl old
  next => exact ⟨inv, rfl, rfl, Nat.le_refl _, fun _ scheduled => .inl scheduled, fun _ => id⟩

/-- A coroutine that went on is not scheduled, unless it is woken again. -/
theorem Inv.resume_idle (inv : q.Inv) (i : Nat) (scheduled : (q.resume i).1.Scheduled i) :
    (q.resume i).2 = some i := by
  have out {b c : Consumer α} (there : q.consumers[i]? = some b) (idle : ¬ c.Scheduled)
      (is : (q.setConsumer i c).Scheduled i) : False := by
    rcases scheduled_set there is with ⟨-, is⟩ | ⟨other, -⟩
    · exact idle is
    · exact other rfl
  rw [AsyncQueue.resume] at scheduled ⊢
  split at scheduled
  next there =>
    rw [AsyncQueue.getOrWait] at scheduled
    split at scheduled
    · exact (out there id scheduled).elim
    · exact (out there id scheduled).elim
  next there =>
    split at scheduled
    · exact (out there id scheduled).elim
    -- only the wake-up that it passes on could come back to it
    · have books := inv.books.set (c := .cancelled) there (by simp [Open]) (by simp [Open])
      exact (wakeupNext_scheduled books scheduled).resolve_left (out there id)
  next there => exact (out there id scheduled).elim
  next notPlain notCancelled notCancelling =>
    obtain ⟨consumer, there, is⟩ := scheduled
    cases consumer with
    | woken mustCancel =>
      cases mustCancel with
      | false => exact absurd there notPlain
      | true => exact absurd there notCancelled
    | cancelling => exact absurd there notCancelling
    | _ => exact is.elim

theorem Inv.cancel? (inv : q.Inv) {q' : AsyncQueue α} {woken : Option Nat}
    (cancels : q.cancel? i = some (q', woken)) : q.Goes q' woken := by
  have books := inv.books
  rw [AsyncQueue.cancel?] at cancels
  split at cancels
  next there =>
    cases cancels
    -- the getter stays in the queue until the coroutine goes on
    refine ⟨⟨⟨fun j waits => books.listed j (waiting_of_set there (by simp) waits).2,
      fun j mem => ?_, books.distinct, books.logged,
      fun j item => (got_set there (by simp) (by simp) j item).trans (books.takers j item),
      books.once⟩, fun ⟨j, waits⟩ => ?_⟩, List.length_set, rfl, ?_, fun j scheduled => ?_,
      fun _ => fresh_set there (by simp)⟩
    · by_cases same : j = i
      · exact .inr ((getElem?_set_iff there).mpr (.inl ⟨same, rfl⟩))
      · rw [setConsumer, List.getElem?_set_ne (Ne.symm same)]
        exact books.getters j mem
    · have enough := inv.served ⟨j, (waiting_of_set there (by simp) waits).2⟩
      exact Nat.le_trans enough (Nat.le_of_eq (announced_set there .cancelling).symm)
    · exact Nat.le_of_eq (work_set there .cancelling)
    · rcases scheduled_set there scheduled with ⟨rfl, -⟩ | ⟨-, old⟩
      · exact .inr rfl
      · exact .inl old
  next mustCancel there =>
    cases cancels
    -- the getter is done already, so this is raised when the coroutine goes on
    refine ⟨⟨books.set there (by simp [Open]) (by simp [Open]), fun ⟨j, waits⟩ => ?_⟩,
      List.length_set, rfl, ?_, fun j scheduled => ?_, fun _ => fresh_set there (by simp)⟩
    · have enough := inv.served ⟨j, (waiting_of_set there (by simp) waits).2⟩
      have same := announced_set there (.woken true)
      exact Nat.le_trans enough (Nat.le_of_eq (Nat.add_right_cancel same).symm)
    · exact Nat.le_of_eq (Nat.add_right_cancel (work_set there (.woken true)))
    · rcases scheduled_set there scheduled with ⟨rfl, -⟩ | ⟨-, old⟩
      · exact .inl ⟨_, there, trivial⟩
      · exact .inl old
  next =>
    cases cancels
    exact ⟨inv, rfl, rfl, Nat.le_refl _, fun _ scheduled => .inl scheduled, fun _ => id⟩
  next => cases cancels

/-! ### Who is cancelled -/

def Struck (q : AsyncQueue α) (i : Nat) : Prop :=
  ∃ consumer, q.consumers[i]? = some consumer ∧ consumer.Struck

theorem struck_set (there : q.consumers[i]? = some b) {j : Nat}
    (struck : (q.setConsumer i c).Struck j) : (j = i ∧ c.Struck) ∨ q.Struck j := by
  obtain ⟨consumer, found, is⟩ := struck
  rcases (getElem?_set_iff there).mp found with ⟨rfl, rfl⟩ | ⟨-, old⟩
  · exact .inl ⟨rfl, is⟩
  · exact .inr ⟨consumer, old, is⟩

theorem wakeupNext_struck (books : q.Books) {j : Nat} (struck : q.wakeupNext.1.Struck j) :
    q.Struck j := by
  rcases wakeupNext_cases books with ⟨is, -⟩ | ⟨i, rest, is, there, -⟩
  · rwa [is] at struck
  · rw [is] at struck
    exact (struck_set there struck).resolve_left fun new => by cases new.2

theorem putNowait_struck (inv : q.Inv) (item : α) {j : Nat}
    (struck : (q.putNowait item).1.Struck j) : q.Struck j :=
  wakeupNext_struck (putNowait_books inv item) struck

theorem getOrWait_struck (there : q.consumers[i]? = some b) {j : Nat}
    (struck : (q.getOrWait i).Struck j) : q.Struck j := by
  rw [AsyncQueue.getOrWait] at struck
  split at struck
  · exact (struck_set there struck).resolve_left And.right
  · exact (struck_set there struck).resolve_left And.right

theorem get?_struck {q' : AsyncQueue α} (gets : q.get? i = some q') {j : Nat}
    (struck : q'.Struck j) : q.Struck j := by
  rw [AsyncQueue.get?] at gets
  split at gets
  next there =>
    cases gets
    exact getOrWait_struck there struck
  next => cases gets

/-- A coroutine that goes on ends cancelled only if it had been cancelled before. -/
theorem Inv.resume_struck (inv : q.Inv) {j : Nat} (struck : (q.resume i).1.Struck j) :
    q.Struck j := by
  have was {b : Consumer α} (there : q.consumers[i]? = some b) (is : b.Struck)
      (struck : (q.setConsumer i .cancelled).Struck j) : q.Struck j := by
    rcases struck_set there struck with ⟨rfl, -⟩ | old
    · exact ⟨b, there, is⟩
    · exact old
  rw [AsyncQueue.resume] at struck
  split at struck
  next there => exact getOrWait_struck there struck
  next there =>
    split at struck
    · exact was there rfl struck
    · have books := inv.books.set (c := .cancelled) there (by simp [Open]) (by simp [Open])
      exact was there rfl (wakeupNext_struck books struck)
  next there => exact was there trivial struck
  next => exact struck

theorem cancel?_struck {q' : AsyncQueue α} {woken : Option Nat}
    (cancels : q.cancel? i = some (q', woken)) {j : Nat} (struck : q'.Struck j) :
    j = i ∨ q.Struck j := by
  rw [AsyncQueue.cancel?] at cancels
  split at cancels
  next there =>
    cases cancels
    exact (struck_set there struck).imp_left And.left
  next there =>
    cases cancels
    exact (struck_set there struck).imp_left And.left
  next =>
    cases cancels
    exact .inr struck
  next => cases cancels

/-! ### Nobody waits for nothing -/

theorem inv_empty (consumers : Nat) : (empty consumers : AsyncQueue α).Inv := by
  have created : ∀ (i : Nat) consumer,
      (empty consumers : AsyncQueue α).consumers[i]? = some consumer → consumer = .created := by
    intro i consumer found
    exact List.eq_of_mem_replicate (List.mem_of_getElem? found)
  refine ⟨⟨fun i waits => ?_, fun i mem => (List.not_mem_nil mem).elim, List.nodup_nil, rfl,
    fun i item => ?_, List.nodup_nil⟩, fun _ => Nat.zero_le _⟩
  · cases created i _ waits
  · constructor
    · intro got
      cases created i _ got
    · intro mem
      cases mem

/-- When nobody is scheduled and there was an item for everybody, nobody waits. -/
theorem Inv.nobody_waits (inv : q.Inv) (idle : ∀ j, ¬ q.Scheduled j)
    (enough : q.consumers.length ≤ q.puts.length) : ¬ q.SomeWaits := by
  rintro ⟨i, waits⟩
  -- nobody is woken, so no item is there for those who wait
  have none : q.announced = 0 := by
    refine List.sum_eq_zero_iff_forall_eq_nat.mpr fun n mem => ?_
    obtain ⟨consumer, present, rfl⟩ := List.mem_map.mp mem
    obtain ⟨j, there⟩ := List.mem_iff_getElem?.mp present
    cases consumer with
    | woken mustCancel => exact absurd ⟨_, there, trivial⟩ (idle j)
    | _ => rfl
  have taken : q.items = [] := by
    have served := inv.served ⟨i, waits⟩
    rw [none] at served
    exact List.eq_nil_of_length_eq_zero (Nat.le_zero.mp served)
  have all := congrArg List.length inv.books.logged
  rw [taken, List.append_nil, List.length_map] at all
  -- then all items were taken, each by another consumer, and `i` is one more
  have distinct : (i :: q.takes.map Prod.fst).Nodup :=
    List.nodup_cons.mpr ⟨not_taker inv.books waits (by simp), inv.books.once⟩
  have within : i :: q.takes.map Prod.fst ⊆ List.range q.consumers.length := by
    refine List.cons_subset.mpr ⟨?_, fun j mem => ?_⟩
    · exact List.mem_range.mpr (List.getElem?_eq_some_iff.mp waits).1
    · obtain ⟨⟨j, item⟩, taken, rfl⟩ := List.mem_map.mp mem
      have got := (inv.books.takers j item).mpr taken
      exact List.mem_range.mpr (List.getElem?_eq_some_iff.mp got).1
  have fits := (List.subperm_of_subset distinct within).length_le
  rw [List.length_cons, List.length_map, List.length_range] at fits
  omega

end AsyncQueue

end TemporalSdk
