import DemandPaging.Proofs.FrameLedger

/-! # Bulk requests, frame by frame

A source that says nothing else of bulk requests draws the frames one by one and gives them back if it runs dry
on the way. A device answers bulk requests at once: it grants and refuses what drawing them one by one would,
and is left in the same state. On a stack the frames that go back land on each other in the order in which
they were drawn, so a stack that claims more frames than it has may be left upside down; only a request that
its claim refuses leaves it as it was, whatever it holds.
-/

namespace DemandPaging

namespace FramePool

variable {frames : Nat}

theorem acquireMany?_zero (pool : FramePool frames) : pool.acquireMany? 0 = some ([], pool) := by
  simp [acquireMany?]

theorem freeCount_of_acquire? {pool rest : FramePool frames} {frame : Nat}
    (first : pool.acquire? = some (frame, rest)) : pool.freeCount = rest.freeCount + 1 := by
  rw [← length_free, ← length_free, (acquire?_eq_some first).1, List.length_cons]

/-- Several frames at once are the first one and the others after it. -/
theorem acquireMany?_succ {pool rest : FramePool frames} {frame : Nat} (first : pool.acquire? = some (frame, rest))
    (count : Nat) : pool.acquireMany? (count + 1) =
      (rest.acquireMany? count).map fun others => (frame :: others.1, others.2) := by
  have counts := freeCount_of_acquire? first
  by_cases short : rest.freeCount < count
  · have also : pool.freeCount < count + 1 := by omega
    rw [acquireMany?, acquireMany?, if_pos also, if_pos short, Option.map_none]
  · have enough : ¬ pool.freeCount < count + 1 := by omega
    rw [acquireMany?, acquireMany?, if_neg enough, if_neg short, Option.map_some]
    unfold acquire? at first
    split at first
    · next stack =>
      obtain ⟨rfl, rfl⟩ := Prod.mk.inj (Option.some.inj first)
      simp only [stack, List.take_succ_cons, List.drop_succ_cons, List.length_cons, Nat.add_sub_add_right,
        List.cons_append, Std.ExtTreeSet.insertMany_cons]
    · next stack =>
      rw [Option.ite_none_right_eq_some] at first
      obtain ⟨rfl, rfl⟩ := Prod.mk.inj (Option.some.inj first.2)
      simp only [stack, List.take_nil, List.drop_nil, List.nil_append, List.length_nil, Nat.sub_zero,
        List.range'_succ, Std.ExtTreeSet.insertMany_cons, Nat.add_assoc, Nat.add_comm 1]

end FramePool

namespace Device

open FrameSource

/-- Frames that a device grants at once can be drawn from it one by one. -/
theorem drain_of_acquireMany? {device rest : Device} {count : Nat} {taken : List Nat}
    (granted : device.acquireMany? count = some (taken, rest)) : drain count device = (taken, rest) := by
  induction count generalizing device taken with
  | zero =>
    rw [Device.acquireMany?, FramePool.acquireMany?_zero, Option.map_some, Option.some.injEq] at granted
    exact granted
  | succ count ih =>
    cases first : device.pool.acquire? with
    | none =>
      have empty := FramePool.acquire?_eq_none_iff.mp first
      have few : device.pool.free.length < count + 1 := by
        rw [empty]
        exact Nat.succ_pos count
      rw [Device.acquireMany?, FramePool.acquireMany?_eq_none_iff.mpr few] at granted
      contradiction
    | some pair =>
      obtain ⟨frame, pool⟩ := pair
      rw [Device.acquireMany?, FramePool.acquireMany?_succ first, Option.map_map] at granted
      obtain ⟨⟨others, last⟩, drawn, same⟩ := Option.map_eq_some_iff.mp granted
      obtain ⟨rfl, rfl⟩ := Prod.mk.inj same
      have next : ({ device with pool } : Device).acquireMany? count = some (others, { device with pool := last }) := by
        rw [Device.acquireMany?]
        exact congrArg (Option.map _) drawn
      have acquired : FrameSource.acquire? device = some (frame, { device with pool }) := by
        show device.pool.acquire?.map _ = _
        rw [first, Option.map_some]
      simp only [drain, acquired, ih next]

theorem acquireMany?_eq_none_iff {device : Device} {count : Nat} :
    device.acquireMany? count = none ↔ device.freeCount < count := by
  rw [Device.acquireMany?, Option.map_eq_none_iff, FramePool.acquireMany?_eq_none_iff, FramePool.length_free]
  rfl

theorem length_of_acquireMany? {device rest : Device} {count : Nat} {taken : List Nat}
    (granted : device.acquireMany? count = some (taken, rest)) : taken.length = count := by
  obtain ⟨⟨_, pool⟩, drawn, same⟩ := Option.map_eq_some_iff.mp granted
  obtain ⟨rfl, -⟩ := Prod.mk.inj same
  exact (FramePool.hands_of_acquireMany? drawn).2

/-- Drawing frames one by one grants what a device grants at once, and what it refuses is refused at once too. -/
theorem acquireMany_eq_serve (device : Device) (count : Nat) :
    acquireMany device count =
      match device.acquireMany? count with
      | some (taken, rest) => { answer := .ok taken, source := rest }
      | none => { answer := .error (.insufficient count device.freeCount), source := device } := by
  cases granted : device.acquireMany? count with
  | none =>
    have few : FrameSource.freeCount device < count := acquireMany?_eq_none_iff.mp granted
    rw [acquireMany, if_pos few]
    rfl
  | some pair =>
    obtain ⟨taken, rest⟩ := pair
    have enough : ¬ FrameSource.freeCount device < count := fun few => by
      rw [acquireMany?_eq_none_iff.mpr few] at granted
      contradiction
    simp only [acquireMany, if_neg enough, drain_of_acquireMany? granted, length_of_acquireMany? granted, if_true]

end Device

open FrameSource in
/-- A device of a machine answers a bulk request as if it handed out the frames one by one, and is left as that
would leave it. -/
theorem Machine.acquireMany_frameByFrame {machine : Machine} {id : DeviceId} {device : Device}
    (found : machine.devices.get? id = some device) (count : Nat) :
    (FrameSource.acquireMany device count).lost = [] ∧
    Ends (Machine.acquireMany id count)
      (fun answer next => answer = (FrameSource.acquireMany device count).answer ∧ ∀ other,
        next.devices.get? other =
          if other = id then some (FrameSource.acquireMany device count).source else machine.devices.get? other)
      (fun _ _ => False) machine := by
  rw [Device.acquireMany_eq_serve]
  simp only [Machine.acquireMany, ends_bind, Machine.ends_device found]
  cases device.acquireMany? count with
  | none =>
    refine ⟨rfl, rfl, fun other => ?_⟩
    split
    · next same => rw [same, found]
    · rfl
  | some pair => exact ⟨rfl, rfl, DeviceSet.get?_set found pair.2⟩

/-- A machine whose RAM has the frames 0, 2 and 3 left. -/
def Machine.partlyDrawn : Machine where
  devices := {
    geometry := .standard
    ram := ({ kind := .ram, geometry := .standard, size := 1024 } : Device).afterRequests
      [.acquire, .acquire, .release 0]
    swaps := [] }

open FrameSource in
theorem Machine.acquireMany_frameByFrame_of_drawn :
    partlyDrawn.devices.get? .ram = some partlyDrawn.devices.ram ∧
    (FrameSource.acquireMany partlyDrawn.devices.ram 2).answer = .ok [0, 2] ∧
    (FrameSource.acquireMany partlyDrawn.devices.ram 2).lost = [] ∧
    Ends (Machine.acquireMany .ram 2)
      (fun answer next => answer = (FrameSource.acquireMany partlyDrawn.devices.ram 2).answer ∧ ∀ other,
        next.devices.get? other =
          if other = .ram then some (FrameSource.acquireMany partlyDrawn.devices.ram 2).source
          else partlyDrawn.devices.get? other)
      (fun _ _ => False) partlyDrawn :=
  ⟨rfl, by decide +kernel, acquireMany_frameByFrame rfl 2⟩

namespace FrameSource

variable {S : Type} [FrameSource S] {free : S → List Nat} {source : S} {count : Nat}

/-- The source draws from the top of its free frames, and puts back on top of them what is not free. -/
structure Stacked (free : S → List Nat) : Prop where
  dry : ∀ source, free source = [] → acquire? source = none
  draw : ∀ source frame rest, free source = frame :: rest →
    ∃ next, acquire? source = some (frame, next) ∧ free next = rest
  put : ∀ source frame, frame ∉ free source → ∃ next, release source frame = .ok next ∧ free next = frame :: free source

theorem Stacked.drain_eq (stacked : Stacked free) (count : Nat) (source : S) :
    (drain count source).1 = (free source).take count ∧
      free (drain count source).2 = (free source).drop count := by
  induction count generalizing source with
  | zero => exact ⟨rfl, rfl⟩
  | succ count ih =>
    cases top : free source with
    | nil =>
      simp only [drain, stacked.dry source top, List.take_nil, List.drop_nil]
      exact ⟨trivial, top⟩
    | cons frame rest =>
      obtain ⟨next, drawn, left⟩ := stacked.draw source frame rest top
      obtain ⟨taken, dropped⟩ := ih next
      simp only [drain, drawn, taken, dropped, left, List.take_succ_cons, List.drop_succ_cons, and_self]

/-- Frames that go back one after the other are on the stack in the reverse order. -/
theorem Stacked.giveBack_eq (stacked : Stacked free) {frames : List Nat} (apart : (frames ++ free source).Nodup) :
    (giveBack frames source).1 = [] ∧ free (giveBack frames source).2 = frames.reverse ++ free source := by
  induction frames generalizing source with
  | nil => exact ⟨rfl, rfl⟩
  | cons frame rest ih =>
    rw [List.cons_append, List.nodup_cons, List.mem_append, not_or] at apart
    obtain ⟨next, put, top⟩ := stacked.put source frame apart.1.2
    have apart_now : (rest ++ free next).Nodup := by
      rw [top, List.nodup_middle, List.nodup_cons, List.mem_append, not_or]
      exact apart
    obtain ⟨lost, left⟩ := ih apart_now
    simp only [giveBack, put, lost, left, top, List.reverse_cons, List.append_assoc, List.cons_append,
      List.nil_append, and_self]

/-- How a bulk request to a stack ends. -/
inductive Answered (free : S → List Nat) (source : S) (count : Nat) : Bulk S → Prop where
  /-- The source does not claim to have so many frames. -/
  | refused (few : freeCount source < count) :
    Answered free source count { answer := .error (.insufficient count (freeCount source)), source }
  | granted {rest : S} (claimed : count ≤ freeCount source) (enough : count ≤ (free source).length)
    (left : free rest = (free source).drop count) :
    Answered free source count { answer := .ok ((free source).take count), source := rest }
  /-- The source ran dry, and the frames went back. -/
  | ranDry {rest : S} (claimed : count ≤ freeCount source) (few : (free source).length < count)
    (left : free rest = (free source).reverse) :
    Answered free source count { answer := .error (.insufficient count (free source).length), source := rest }

theorem Stacked.answered (stacked : Stacked free) (nodup : (free source).Nodup) (count : Nat) :
    Answered free source count (acquireMany source count) := by
  by_cases few : freeCount source < count
  · rw [acquireMany, if_pos few]
    exact .refused few
  · have claimed := Nat.le_of_not_lt few
    obtain ⟨taken, left⟩ := stacked.drain_eq count source
    rw [acquireMany, if_neg few]
    generalize drain count source = drawn at taken left
    obtain ⟨frames, drained⟩ := drawn
    obtain rfl : frames = (free source).take count := taken
    by_cases enough : count ≤ (free source).length
    · have length : ((free source).take count).length = count := by
        rw [List.length_take, Nat.min_eq_left enough]
      simp only [if_pos length]
      exact .granted claimed enough left
    · have few := Nat.lt_of_not_le enough
      rw [List.drop_of_length_le few.le] at left
      simp only [List.take_of_length_le few.le, if_neg few.ne]
      have apart : (free source ++ free drained).Nodup := by
        rwa [left, List.append_nil]
      obtain ⟨lost, turned⟩ := stacked.giveBack_eq apart
      rw [left, List.append_nil] at turned
      rw [lost]
      exact .ranDry claimed few turned

/-- A list without duplicates that reads the same both ways has at most one item. -/
private theorem length_le_one_of_reverse {α : Type} {items : List α} (nodup : items.Nodup)
    (same : items.reverse = items) : items.length ≤ 1 := by
  by_contra many
  have first : 0 < items.length := by omega
  have turned : items[0] = items[items.length - 1] := by
    have at_first := List.getElem_reverse (l := items) (i := 0) (by rwa [List.length_reverse])
    simp only [same] at at_first
    exact at_first
  have equal := (nodup.getElem_inj_iff).mp turned
  omega

/-- After a bulk request that was refused, the stack is as before if the claim refused it, and else it is
upside down; that can be told from before unless it has at most one frame. -/
theorem Stacked.free_after_shortage (stacked : Stacked free) (nodup : (free source).Nodup) {requested available : Nat}
    (short : (acquireMany source count).answer = .error (.insufficient requested available)) :
    requested = count ∧ (acquireMany source count).lost = [] ∧
    (freeCount source < count ∧ available = freeCount source ∧ (acquireMany source count).source = source ∨
      count ≤ freeCount source ∧ (free source).length < count ∧ available = (free source).length ∧
        free (acquireMany source count).source = (free source).reverse) ∧
    (free (acquireMany source count).source = free source ↔
      freeCount source < count ∨ (free source).length ≤ 1) := by
  have answered := stacked.answered nodup count
  generalize acquireMany source count = bulk at short answered
  cases answered with
  | refused few =>
    obtain ⟨rfl, rfl⟩ := ShortageError.insufficient.inj (Except.error.inj short)
    exact ⟨rfl, rfl, .inl ⟨few, rfl, rfl⟩, iff_of_true rfl (.inl few)⟩
  | granted => contradiction
  | ranDry claimed few left =>
    obtain ⟨rfl, rfl⟩ := ShortageError.insufficient.inj (Except.error.inj short)
    refine ⟨rfl, rfl, .inr ⟨claimed, few, rfl, left⟩, ?_⟩
    rw [left, or_iff_right (Nat.not_lt.mpr claimed)]
    constructor
    · exact length_le_one_of_reverse nodup
    · intro single
      match free source, single with
      | [], _ => rfl
      | [frame], _ => rfl

end FrameSource

namespace FrameStack

theorem stacked : FrameSource.Stacked FrameStack.frames where
  dry stack empty := by
    show stack.acquire? = none
    rw [acquire?, empty]
  draw stack frame rest top := by
    refine ⟨{ stack with frames := rest }, ?_, rfl⟩
    show stack.acquire? = _
    rw [acquire?, top]
  put stack frame away := by
    refine ⟨{ stack with frames := frame :: stack.frames }, ?_, rfl⟩
    show stack.release frame = _
    rw [release, if_neg]
    rwa [List.contains_iff_mem]

/-- A stack of three frames that claims to have five. -/
def overclaiming : FrameStack := { frames := [2, 1, 0], claim := some 5 }

theorem free_after_shortage_of_overclaiming :
    overclaiming.frames.Nodup ∧
    (FrameSource.acquireMany overclaiming 4).answer = .error (.insufficient 4 3) ∧
    (FrameSource.acquireMany overclaiming 4).lost = [] ∧
    (overclaiming.freeCount < 4 ∧ 3 = overclaiming.freeCount ∧
        (FrameSource.acquireMany overclaiming 4).source = overclaiming ∨
      4 ≤ overclaiming.freeCount ∧ overclaiming.frames.length < 4 ∧ 3 = overclaiming.frames.length ∧
        (FrameSource.acquireMany overclaiming 4).source.frames = overclaiming.frames.reverse) ∧
    ((FrameSource.acquireMany overclaiming 4).source.frames = overclaiming.frames ↔
      overclaiming.freeCount < 4 ∨ overclaiming.frames.length ≤ 1) :=
  have short : (FrameSource.acquireMany overclaiming 4).answer = .error (.insufficient 4 3) := by decide
  ⟨by decide, short, (stacked.free_after_shortage (by decide) short).2⟩

/-- A request that three of five frames were drawn for leaves the stack with its lowest frame on top. -/
theorem frames_turned_by_shortage :
    FrameSource.Stacked frames ∧ overclaiming.frames.Nodup ∧
    (FrameSource.acquireMany overclaiming 5).answer = .error (.insufficient 5 3) ∧
    (FrameSource.acquireMany overclaiming 5).source.frames ≠ overclaiming.frames :=
  ⟨stacked, by decide, by decide, by decide⟩

end FrameStack

end DemandPaging
