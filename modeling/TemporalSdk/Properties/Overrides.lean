import Mathlib.Algebra.Order.BigOperators.Group.List
import Mathlib.Algebra.Order.Group.Nat
import TemporalSdk.Sandbox.ThreadLocalOverride

/-!
# Nesting of thread-local overrides

## Main result

`override_nesting`: for any number of threads, each in any stack of `applied` and
`unapplied` blocks, and any interleaving: the attribute is the override as long
as some thread is in an `applied` block and the original value when none is; each
thread sees the value of its innermost block, the original one if that is
`unapplied`; and leaving a block brings back what the thread saw before.

## Proof strategy

The counter is the number of `applied` blocks that have been counted, over all
threads, and each block has saved what the blocks around it show. Both are kept
by each step; of the sum, only the part of the thread that takes the step changes.
-/

namespace TemporalSdk.Sandbox

variable {V : Type}

/-! ### One thread -/

def Block.isApplied : Block V → Bool
  | .applied _ _ => true
  | .unapplied _ => false

def Block.origCurrent : Block V → Option V
  | .applied origCurrent _ | .unapplied origCurrent => origCurrent

/-- What a stack of blocks shows: the value of the innermost `applied` block that
    no deeper `unapplied` block masks. -/
def visible : List (Block V) → Option V
  | .applied _ current :: _ => some current
  | .unapplied _ :: _ | [] => none

/-- Each block has saved what the blocks around it show. -/
def Saved : List (Block V) → Prop
  | [] => True
  | b :: rest => b.origCurrent = visible rest ∧ Saved rest

/-- The `applied` blocks of a thread that the counter counts: it is incremented
    before `current` is set and decremented after `current` is back. -/
def Thread.counted (th : Thread V) : Nat :=
  th.blocks.countP Block.isApplied + match th.point with
    | .setting _ _ | .uncounting => 1
    | .body | .counting _ _ | .clearing _ => 0

/-- A value that has been read is still the one of the thread. -/
def Point.Fits (data : Option V) : Point V → Prop
  | .counting origCurrent _ | .setting origCurrent _ | .clearing origCurrent => origCurrent = data
  | .body | .uncounting => True

structure Thread.Coherent (th : Thread V) : Prop where
  data : th.data = visible th.blocks
  saved : Saved th.blocks
  point : th.point.Fits th.data

/-! ### All threads -/

namespace Override

/-- What holds whatever the threads do. -/
structure Inv (orig : V) (s : Override V) : Prop where
  kept : s.orig = orig
  coherent : ∀ th ∈ s.threads, th.Coherent
  counter : s.appliedCounter = ((s.threads.map Thread.counted).sum : Nat)
  attr : s.attr = if s.appliedCounter = 0 then .value orig else .override

theorem initial_inv (orig : V) (n : Nat) : (initial orig n).Inv orig where
  kept := rfl
  coherent := by
    intro th member
    rw [initial, List.mem_replicate] at member
    rw [member.2]
    exact ⟨rfl, trivial, trivial⟩
  counter := by
    have none : ((List.replicate n ({} : Thread V)).map Thread.counted).sum = 0 := by
      rw [List.map_replicate, List.sum_replicate]
      rfl
    rw [initial, none]
    rfl
  attr := rfl

variable {orig : V} {s : Override V} {i : Nat} {th th' : Thread V}

theorem Inv.set_coherent (inv : s.Inv orig) (coherent : th'.Coherent) :
    ∀ b ∈ s.threads.set i th', b.Coherent := by
  intro b member
  rcases List.mem_or_eq_of_mem_set member with old | rfl
  · exact inv.coherent b old
  · exact coherent

/-- A thread goes on without a change of the counter. -/
theorem Inv.setThread (inv : s.Inv orig) (there : s.threads[i]? = some th)
    (coherent : th'.Coherent) (same : th'.counted = th.counted) : (s.setThread i th').Inv orig where
  kept := inv.kept
  coherent := inv.set_coherent coherent
  counter := by
    have sum := sum_map_set Thread.counted there th'
    have counter := inv.counter
    simp only [Override.setThread]
    omega
  attr := inv.attr

/-- A thread counts its block. -/
theorem Inv.count (inv : s.Inv orig) (there : s.threads[i]? = some th)
    (coherent : th'.Coherent) (one : th'.counted = th.counted + 1) :
    (s.count.setThread i th').Inv orig where
  kept := inv.kept
  coherent := inv.set_coherent coherent
  counter := by
    have sum := sum_map_set Thread.counted there th'
    have counter := inv.counter
    simp only [Override.setThread, Override.count]
    omega
  attr := by
    have positive : (s.count.setThread i th').appliedCounter ≠ 0 := by
      have counter := inv.counter
      simp only [Override.setThread, Override.count]
      omega
    rw [if_neg positive]
    simp only [Override.setThread, Override.count]
    split
    next replaced => exact replaced
    next => rfl

/-- A thread takes its block out of the count. -/
theorem Inv.uncount (inv : s.Inv orig) (there : s.threads[i]? = some th)
    (coherent : th'.Coherent) (one : th'.counted + 1 = th.counted) :
    (s.uncount.setThread i th').Inv orig where
  kept := inv.kept
  coherent := inv.set_coherent coherent
  counter := by
    have sum := sum_map_set Thread.counted there th'
    have counter := inv.counter
    simp only [Override.setThread, Override.uncount]
    omega
  attr := by
    have sum := sum_map_set Thread.counted there th'
    have counter := inv.counter
    have positive : s.appliedCounter ≠ 0 := by omega
    simp only [Override.setThread, Override.uncount, inv.kept]
    split
    · rfl
    · rw [inv.attr, if_neg positive]

/-- Each step of a thread keeps the invariant. -/
theorem step_inv {s' : Override V} {op : Op V} (inv : s.Inv orig)
    (stepped : step s (i, op) = some s') : s'.Inv orig := by
  simp only [step] at stepped
  split at stepped
  · cases stepped
  next th there =>
    have coherent := inv.coherent th (List.mem_of_getElem? there)
    obtain ⟨data, saved, point⟩ := coherent
    split at stepped
    next at_body =>
      cases stepped
      exact inv.setThread there ⟨data, saved, rfl⟩ (by simp [Thread.counted, at_body])
    next origCurrent current counting =>
      cases stepped
      rw [counting] at point
      exact inv.count there ⟨data, saved, point⟩ (by simp [Thread.counted, counting])
    next origCurrent current setting =>
      cases stepped
      rw [setting] at point
      have shown : origCurrent = visible th.blocks := Eq.trans point data
      refine inv.setThread there ⟨rfl, ⟨shown, saved⟩, trivial⟩ ?_
      simp [Thread.counted, setting, List.countP_cons, Block.isApplied]
    next at_body =>
      cases stepped
      exact inv.setThread there ⟨data, saved, rfl⟩ (by simp [Thread.counted, at_body])
    next origCurrent clearing =>
      cases stepped
      rw [clearing] at point
      have shown : origCurrent = visible th.blocks := Eq.trans point data
      refine inv.setThread there ⟨?_, ⟨shown, saved⟩, trivial⟩ ?_
      · -- `current` is deleted if it was there
        have point : origCurrent = th.data := point
        rw [← point]
        cases origCurrent <;> rfl
      · simp [Thread.counted, clearing, Block.isApplied]
    next at_body =>
      split at stepped
      · cases stepped
      next origCurrent current rest blocks =>
        cases stepped
        rw [blocks] at saved
        refine inv.setThread there ⟨saved.1, saved.2, trivial⟩ ?_
        simp [Thread.counted, at_body, blocks, List.countP_cons, Block.isApplied]
      next origCurrent rest blocks =>
        cases stepped
        rw [blocks] at saved data
        refine inv.setThread there ⟨?_, saved.2, trivial⟩ ?_
        · have shown : origCurrent = visible rest := saved.1
          rw [← shown, data]
          cases origCurrent <;> rfl
        · simp [Thread.counted, at_body, blocks, Block.isApplied]
    next uncounting =>
      cases stepped
      exact inv.uncount there ⟨data, saved, trivial⟩ (by simp [Thread.counted, uncounting])
    · cases stepped

/-- The state after any steps of any threads. -/
theorem Reaches.inv {n : Nat}
    (run : Reaches step (fun _ _ => True) (initial orig n) s) : s.Inv orig :=
  run.invariant (Inv orig) (initial_inv orig n) fun inv _ stepped => step_inv inv stepped

/-! ### What the threads see -/

theorem mem_of_isApplied {b : Block V} (member : b ∈ th.blocks) (applied : b.isApplied = true) :
    0 < th.counted := by
  have some : 0 < th.blocks.countP Block.isApplied := List.countP_pos_iff.mpr ⟨b, member, applied⟩
  simp only [Thread.counted]
  omega

theorem Inv.attr_override (inv : s.Inv orig) (member : th ∈ s.threads) (counted : 0 < th.counted) :
    s.attr = .override := by
  have part : th.counted ≤ (s.threads.map Thread.counted).sum :=
    List.le_sum_of_mem (List.mem_map_of_mem member)
  have counter := inv.counter
  rw [inv.attr, if_neg (by omega)]

theorem Inv.attr_orig (inv : s.Inv orig) (none : ∀ th ∈ s.threads, th.counted = 0) :
    s.attr = .value orig := by
  have sum : (s.threads.map Thread.counted).sum = 0 := by
    apply List.sum_eq_zero
    intro k member
    obtain ⟨th, inside, rfl⟩ := List.mem_map.mp member
    exact none th inside
  have counter := inv.counter
  rw [inv.attr, if_pos (by omega)]

theorem Inv.current (inv : s.Inv orig) (member : th ∈ s.threads) :
    th.current orig = (visible th.blocks).getD orig := by
  rw [Thread.current, (inv.coherent th member).data]

/-- Leaving a block brings back what its context manager has saved. -/
theorem step_leave {s' : Override V} {b : Block V} {rest : List (Block V)}
    (there : s.threads[i]? = some th) (blocks : th.blocks = b :: rest)
    (stepped : step s (i, .leave) = some s') :
    ∃ th', s'.threads[i]? = some th' ∧ th'.blocks = rest := by
  have inside : i < s.threads.length := (List.getElem?_eq_some_iff.mp there).1
  simp only [step, there] at stepped
  cases point : th.point with
  | body =>
    rw [point, blocks] at stepped
    cases b <;> cases stepped <;> exact ⟨_, List.getElem?_set_self inside, rfl⟩
  | counting | setting | clearing | uncounting =>
    rw [point] at stepped
    cases stepped

/-- The attribute is the override exactly while an `applied` block is counted, as every open
    one is, and else the original value; each thread sees what its own blocks show,
    so it sees the same whenever the same blocks are open; and leaving a block
    brings back what was there on entry. -/
theorem override_nesting (orig : V) (n : Nat)
    (run : Reaches step (fun _ _ => True) (initial orig n) s) :
    (∀ th ∈ s.threads, ∀ b ∈ th.blocks, b.isApplied = true → 0 < th.counted) ∧
    (s.attr = .override ↔ ∃ th ∈ s.threads, 0 < th.counted) ∧
    (s.attr = .value orig ↔ ∀ th ∈ s.threads, th.counted = 0) ∧
    (∀ th ∈ s.threads, th.current orig = (visible th.blocks).getD orig) ∧
    (∀ (s₁ : Override V) (i : Nat) (th th₁ : Thread V), Reaches step (fun _ _ => True) s s₁ → s.threads[i]? = some th →
      s₁.threads[i]? = some th₁ → th₁.blocks = th.blocks → th₁.current orig = th.current orig) ∧
    (∀ i th b rest s', s.threads[i]? = some th → th.blocks = b :: rest →
      step s (i, .leave) = some s' →
      ∃ th', s'.threads[i]? = some th' ∧ th'.blocks = rest ∧
        th'.current orig = b.origCurrent.getD orig) := by
  have inv := Reaches.inv run
  refine ⟨fun th _ b inside applied => mem_of_isApplied inside applied, ⟨?_, ?_⟩,
    ⟨?_, inv.attr_orig⟩, fun th member => inv.current member, ?_, ?_⟩
  · intro override
    by_contra uncounted
    rw [inv.attr_orig fun th member => Nat.eq_zero_of_not_pos fun counted =>
      uncounted ⟨th, member, counted⟩] at override
    cases override
  · rintro ⟨th, member, counted⟩
    exact inv.attr_override member counted
  · intro original th member
    by_contra counted
    rw [inv.attr_override member (Nat.pos_of_ne_zero counted)] at original
    cases original
  · intro s₁ i th th₁ later there there₁ same
    have inv₁ : s₁.Inv orig :=
      later.invariant (Inv orig) inv fun inv _ stepped => step_inv inv stepped
    rw [inv₁.current (List.mem_of_getElem? there₁), inv.current (List.mem_of_getElem? there), same]
  · intro i th b rest s' there blocks stepped
    have after := step_inv inv stepped
    have saved := (inv.coherent th (List.mem_of_getElem? there)).saved
    rw [blocks] at saved
    obtain ⟨th', there', rfl⟩ := step_leave there blocks stepped
    refine ⟨th', there', rfl, ?_⟩
    rw [after.current (List.mem_of_getElem? there'), saved.1]

/-- Thread 0 imports a module through, so it is in `unapplied` inside `applied`,
    while thread 1 has entered `applied` in between. -/
theorem override_nesting_passthrough :
    ∃ s : Override String, Reaches step (fun _ _ => True) (initial "sys.modules" 2) s ∧
      s.attr = .override ∧
      s.threads.map (Thread.current "sys.modules") = ["sys.modules", "workflow 2"] := by
  have ran : runActions step (initial "sys.modules" 2)
      [(0, .enterApplied "workflow 1"), (0, .advance), (1, .enterApplied "workflow 2"),
        (0, .advance), (0, .enterUnapplied), (1, .advance), (0, .advance), (1, .advance)] =
      some _ := rfl
  have run : Reaches step (fun _ _ => True) (initial "sys.modules" 2) _ :=
    Reaches.init.of_runActions (fun _ _ _ => trivial) ran
  obtain ⟨opened, override, -, current, -⟩ := override_nesting "sys.modules" 2 run
  have counted := opened _ List.mem_cons_self _ (List.mem_cons_of_mem _ List.mem_cons_self) rfl
  refine ⟨_, run, override.mpr ⟨_, List.mem_cons_self, counted⟩, ?_⟩
  rw [List.map_congr_left current]
  rfl

end Override

end TemporalSdk.Sandbox
