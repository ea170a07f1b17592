import DemandPaging.FrameSource
import DemandPaging.Proofs.MachineActions
import DemandPaging.Proofs.PoolLaws
import Mathlib.Data.List.Induction
import Mathlib.Data.Set.Card

/-! # The ledger of a device

A device is asked for one frame, for several at once, and to take one back, by anyone and with any numbers.
Who has a frame is read off the replies alone: a frame is handed out when a reply granted it and no later
reply took it back. After any requests the free frames are those that are not handed out, each listed once,
and the marks of the frames in use say the same; so every frame is either free or handed out, a grant names
frames that nobody has, and a frame can be given back just when it is handed out. A request that fails leaves
the device as it was.
-/

namespace DemandPaging

inductive FrameRequest where
  | acquire
  | acquireMany (count : Nat)
  | release (frame : Nat)
deriving DecidableEq, Repr, Inhabited

inductive FrameReply where
  | granted (frames : List Nat)
  | returned
  /-- There is no free frame. -/
  | exhausted
  /-- There are too few free frames. -/
  | short (reason : ShortageError)
  | refused (reason : DeviceError)
deriving DecidableEq, Repr, Inhabited

def FrameReply.Fails : FrameReply → Prop
  | .granted _ | .returned => False
  | .exhausted | .short _ | .refused _ => True

structure FrameExchange where
  request : FrameRequest
  reply : FrameReply
deriving DecidableEq, Repr, Inhabited

namespace FrameExchange

def Grants (exchange : FrameExchange) (frame : Nat) : Prop :=
  ∃ frames, exchange.reply = .granted frames ∧ frame ∈ frames

def TakesBack (exchange : FrameExchange) (frame : Nat) : Prop :=
  exchange.request = .release frame ∧ exchange.reply = .returned

theorem not_grants_of_fails (exchange : FrameExchange) (fails : exchange.reply.Fails) (frame : Nat) :
    ¬ exchange.Grants frame := by
  rintro ⟨frames, granted, -⟩
  rw [granted] at fails
  exact fails

theorem not_takesBack_of_fails (exchange : FrameExchange) (fails : exchange.reply.Fails) (frame : Nat) :
    ¬ exchange.TakesBack frame := by
  rintro ⟨-, returned⟩
  rw [returned] at fails
  exact fails

end FrameExchange

/-- Some reply granted the frame, and none has taken it back since. -/
def HandedOut (history : List FrameExchange) (frame : Nat) : Prop :=
  ∃ before grant after, history = before ++ grant :: after ∧ grant.Grants frame ∧
    ∀ exchange ∈ after, ¬ exchange.TakesBack frame

theorem not_handedOut_nil (frame : Nat) : ¬ HandedOut [] frame := by
  rintro ⟨before, grant, after, split, -⟩
  simp only [List.nil_eq, List.append_eq_nil_iff, reduceCtorEq, and_false] at split

theorem handedOut_concat (history : List FrameExchange) (exchange : FrameExchange) (frame : Nat) :
    HandedOut (history ++ [exchange]) frame ↔
      exchange.Grants frame ∨ HandedOut history frame ∧ ¬ exchange.TakesBack frame := by
  constructor
  · rintro ⟨before, grant, after, split, grants, kept⟩
    induction after using List.reverseRecOn with
    | nil =>
      obtain ⟨-, same⟩ := List.append_inj' split rfl
      obtain ⟨rfl, -⟩ := List.cons.inj same
      exact .inl grants
    | append_singleton after last _ =>
      rw [← List.cons_append, ← List.append_assoc] at split
      obtain ⟨earlier, same⟩ := List.append_inj' split rfl
      obtain ⟨rfl, -⟩ := List.cons.inj same
      refine .inr ⟨⟨before, grant, after, earlier, grants, fun other member => ?_⟩, ?_⟩
      · exact kept other (List.mem_append_left _ member)
      · exact kept exchange (List.mem_append_right _ (List.mem_singleton_self exchange))
  · rintro (grants | ⟨⟨before, grant, after, rfl, grants, kept⟩, still⟩)
    · exact ⟨history, exchange, [], rfl, grants, fun other member => absurd member List.not_mem_nil⟩
    · refine ⟨before, grant, after ++ [exchange], ?_, grants, fun other member => ?_⟩
      · rw [List.append_assoc, List.cons_append]
      · rcases List.mem_append.mp member with earlier | last
        · exact kept other earlier
        · obtain rfl := List.mem_singleton.mp last
          exact still

/-- A request to a device of a machine. -/
def FrameRequest.perform (id : DeviceId) : FrameRequest → DeviceAction FrameReply
  | .acquire => do
    match ← Machine.acquire id with
    | some frame => return .granted [frame]
    | none => return .exhausted
  | .acquireMany count => do
    match ← Machine.acquireMany id count with
    | .ok frames => return .granted frames
    | .error reason => return .short reason
  | .release frame => do
    match ← attempt (Machine.release id frame) with
    | .ok () => return .returned
    | .error reason => return .refused reason

namespace Device

/-- What a device replies to a request, and the device afterwards. -/
def serve (device : Device) : FrameRequest → FrameReply × Device
  | .acquire =>
    match device.acquire? with
    | some (frame, rest) => (.granted [frame], rest)
    | none => (.exhausted, device)
  | .acquireMany count =>
    match device.acquireMany? count with
    | some (frames, rest) => (.granted frames, rest)
    | none => (.short (.insufficient count device.freeCount), device)
  | .release frame =>
    match device.release frame with
    | .ok next => (.returned, next)
    | .error reason => (.refused reason, device)

def afterRequests (device : Device) (requests : List FrameRequest) : Device :=
  requests.foldl (fun device request => (device.serve request).2) device

/-- The requests with the replies to them, the first one first. -/
def exchanges (device : Device) : List FrameRequest → List FrameExchange
  | [] => []
  | request :: rest => ⟨request, (device.serve request).1⟩ :: (device.serve request).2.exchanges rest

theorem afterRequests_concat (device : Device) (requests : List FrameRequest) (request : FrameRequest) :
    device.afterRequests (requests ++ [request]) = ((device.afterRequests requests).serve request).2 := by
  simp only [afterRequests, List.foldl_append, List.foldl_cons, List.foldl_nil]

theorem exchanges_concat (device : Device) (requests : List FrameRequest) (request : FrameRequest) :
    device.exchanges (requests ++ [request]) =
      device.exchanges requests ++ [⟨request, ((device.afterRequests requests).serve request).1⟩] := by
  induction requests generalizing device with
  | nil => rfl
  | cons first rest ih =>
    simp only [List.cons_append, exchanges, ih]
    rfl

/-- A machine hands a request to the device it is for, and no other device changes. -/
theorem ends_perform {machine : Machine} {id : DeviceId} {device : Device}
    (found : machine.devices.get? id = some device) (request : FrameRequest) :
    Ends (request.perform id)
      (fun reply next => reply = (device.serve request).1 ∧ ∀ other,
        next.devices.get? other = if other = id then some (device.serve request).2 else machine.devices.get? other)
      (fun _ _ => False) machine := by
  have kept (other : DeviceId) : machine.devices.get? other = if other = id then some device
      else machine.devices.get? other := by
    split
    · next same => rw [same, found]
    · rfl
  cases request with
  | acquire =>
    simp only [FrameRequest.perform, Machine.acquire, ends_bind, Machine.ends_device found, serve]
    cases device.acquire? with
    | none => exact ⟨rfl, kept⟩
    | some pair => exact ⟨rfl, DeviceSet.get?_set found pair.2⟩
  | acquireMany count =>
    simp only [FrameRequest.perform, Machine.acquireMany, ends_bind, Machine.ends_device found, serve]
    cases device.acquireMany? count with
    | none => exact ⟨rfl, kept⟩
    | some pair => exact ⟨rfl, DeviceSet.get?_set found pair.2⟩
  | release frame =>
    simp only [FrameRequest.perform, Machine.release, ends_bind, ends_attempt, Machine.ends_device found, ends_settle,
      serve]
    cases released : device.release frame with
    | error reason =>
      refine ⟨nofun, fun refusal same => ?_⟩
      obtain rfl := Except.error.inj same
      exact ⟨rfl, kept⟩
    | ok rest =>
      refine ⟨fun next same => ?_, nofun⟩
      obtain rfl := Except.ok.inj same
      exact ⟨rfl, DeviceSet.get?_set found rest⟩

/-- How requests go: what they find, what they reply and what they leave. -/
inductive Served (device : Device) : FrameRequest → FrameReply → Device → Prop
  | acquired {frame : Nat} {rest : FramePool (device.size >>> device.geometry.shift)}
      (hands : device.pool.Hands [frame] rest) :
      Served device .acquire (.granted [frame]) { device with pool := rest }
  | exhausted (empty : device.pool.free = []) : Served device .acquire .exhausted device
  | acquiredMany {taken : List Nat} {rest : FramePool (device.size >>> device.geometry.shift)}
      (hands : device.pool.Hands taken rest) :
      Served device (.acquireMany taken.length) (.granted taken) { device with pool := rest }
  | short {count : Nat} (few : device.freeCount < count) :
      Served device (.acquireMany count) (.short (.insufficient count device.freeCount)) device
  | returned {frame : Nat} {next : FramePool (device.size >>> device.geometry.shift)}
      (done : device.pool.release frame = .ok next) :
      Served device (.release frame) .returned { device with pool := next }
  | foreign {frame : Nat} (outside : device.frames ≤ frame) :
      Served device (.release frame) (.refused (.invalidFrame frame device.frames)) device
  | doubled {frame : Nat} (within : frame < device.frames) (unused : frame ∉ device.pool.inUse) :
      Served device (.release frame) (.refused (.doubleFree frame)) device

theorem served (device : Device) (request : FrameRequest) :
    device.Served request (device.serve request).1 (device.serve request).2 := by
  cases request with
  | acquire =>
    cases taken : device.pool.acquire? with
    | none =>
      simp only [serve, acquire?, taken, Option.map_none]
      exact .exhausted (FramePool.acquire?_eq_none_iff.mp taken)
    | some pair =>
      simp only [serve, acquire?, taken, Option.map_some]
      exact .acquired (FramePool.hands_of_acquire? taken)
  | acquireMany count =>
    cases drawn : device.pool.acquireMany? count with
    | none =>
      simp only [serve, acquireMany?, drawn, Option.map_none]
      have few := FramePool.acquireMany?_eq_none_iff.mp drawn
      rw [FramePool.length_free] at few
      exact .short few
    | some pair =>
      obtain ⟨hands, rfl⟩ := FramePool.hands_of_acquireMany? drawn
      simp only [serve, acquireMany?, drawn, Option.map_some]
      exact .acquiredMany hands
  | release frame =>
    by_cases outside : device.frames ≤ frame
    · have refused : device.pool.release frame = .error .invalid := if_pos outside
      simp only [serve, release, refused]
      exact .foreign outside
    · by_cases held : device.pool.inUse.contains frame = true
      · have done : device.pool.release frame = .ok { device.pool with
            released := frame :: device.pool.released, inUse := device.pool.inUse.erase frame } :=
          (if_neg outside).trans (if_pos held)
        simp only [serve, release, done]
        exact .returned done
      · have refused : device.pool.release frame = .error .alreadyFree := (if_neg outside).trans (if_neg held)
        simp only [serve, release, refused]
        rw [Std.ExtTreeSet.contains_iff_mem] at held
        exact .doubled (Nat.lt_of_not_le outside) held

namespace Served

variable {device next : Device} {request : FrameRequest} {reply : FrameReply}

theorem eq_of_fails (served : device.Served request reply next) (fails : reply.Fails) : next = device := by
  cases served with
  | exhausted | short | foreign | doubled => rfl
  | acquired | acquiredMany | returned => exact fails.elim

theorem frames_eq (served : device.Served request reply next) : next.frames = device.frames := by
  cases served <;> rfl

theorem acquireMany_fails_iff {count : Nat} (served : device.Served (.acquireMany count) reply next) :
    reply.Fails ↔ device.freeCount < count := by
  cases served with
  | acquiredMany hands =>
    refine iff_of_false id (Nat.not_lt.mpr ?_)
    rw [freeCount, ← FramePool.length_free, hands.free, List.length_append]
    exact Nat.le_add_right _ _
  | short few => exact iff_of_true trivial few

theorem length_eq_one {taken : List Nat} (served : device.Served .acquire (.granted taken) next) :
    taken.length = 1 := by
  cases served with
  | acquired => rfl

theorem length_eq {count : Nat} {taken : List Nat}
    (served : device.Served (.acquireMany count) (.granted taken) next) : taken.length = count := by
  cases served with
  | acquiredMany => rfl

theorem foreign_iff {frame : Nat} (served : device.Served (.release frame) reply next) :
    reply = .refused (.invalidFrame frame device.frames) ↔ device.frames ≤ frame := by
  cases served with
  | returned done => exact iff_of_false nofun (Nat.not_le.mpr (FramePool.release_eq_ok done).2.2.1)
  | foreign outside => exact iff_of_true rfl outside
  | doubled within => exact iff_of_false nofun (Nat.not_le.mpr within)

end Served

theorem frames_afterRequests (device : Device) (requests : List FrameRequest) :
    (device.afterRequests requests).frames = device.frames := by
  induction requests using List.reverseRecOn with
  | nil => rfl
  | append_singleton requests request ih =>
    rw [afterRequests_concat, (served _ request).frames_eq, ih]

/-- The pool is sound, and its frames in use are those that are handed out. -/
structure Accounted (device : Device) (history : List FrameExchange) : Prop where
  sound : device.pool.Sound
  inUse_iff : ∀ frame, frame ∈ device.pool.inUse ↔ HandedOut history frame

namespace Accounted

variable {device next : Device} {history : List FrameExchange} {request : FrameRequest} {reply : FrameReply}

theorem start (kind : DeviceKind) (geometry : Geometry) (size : Nat) :
    Accounted { kind, geometry, size } [] where
  sound := FramePool.sound_default
  inUse_iff frame := by
    refine iff_of_false ?_ (not_handedOut_nil frame)
    intro held
    exact Std.ExtTreeSet.not_mem_empty held

/-- Frames that were taken are handed out by the exchange that granted them. -/
theorem granted (accounted : device.Accounted history) {taken : List Nat}
    {rest : FramePool (device.size >>> device.geometry.shift)} (hands : device.pool.Hands taken rest) :
    Accounted { device with pool := rest } (history ++ [⟨request, .granted taken⟩]) where
  sound := hands.sound accounted.sound
  inUse_iff frame := by
    have grants : FrameExchange.Grants ⟨request, .granted taken⟩ frame ↔ frame ∈ taken := by
      simp only [FrameExchange.Grants, FrameReply.granted.injEq, exists_eq_left']
    have keeps : ¬ FrameExchange.TakesBack ⟨request, .granted taken⟩ frame := fun back => nomatch back.2
    rw [hands.inUse, accounted.inUse_iff, handedOut_concat, grants, and_iff_left keeps]

theorem takenBack (accounted : device.Accounted history) {frame : Nat}
    {next : FramePool (device.size >>> device.geometry.shift)} (done : device.pool.release frame = .ok next) :
    Accounted { device with pool := next } (history ++ [⟨.release frame, .returned⟩]) where
  sound := accounted.sound.release done
  inUse_iff other := by
    have back : FrameExchange.TakesBack ⟨.release frame, .returned⟩ other ↔ other = frame := by
      simp only [FrameExchange.TakesBack, FrameRequest.release.injEq, and_true, eq_comm]
    have silent : ¬ FrameExchange.Grants ⟨.release frame, .returned⟩ other := fun ⟨_, granted, _⟩ => nomatch granted
    rw [FramePool.mem_inUse_release done, accounted.inUse_iff, handedOut_concat, back, or_iff_right silent, and_comm]

theorem failed (accounted : device.Accounted history) (fails : reply.Fails) :
    device.Accounted (history ++ [⟨request, reply⟩]) where
  sound := accounted.sound
  inUse_iff frame := by
    have silent := FrameExchange.not_grants_of_fails ⟨request, reply⟩ fails frame
    have keeps := FrameExchange.not_takesBack_of_fails ⟨request, reply⟩ fails frame
    rw [accounted.inUse_iff, handedOut_concat, or_iff_right silent, and_iff_left keeps]

theorem step (accounted : device.Accounted history) (served : device.Served request reply next) :
    next.Accounted (history ++ [⟨request, reply⟩]) := by
  cases served with
  | acquired hands => exact accounted.granted hands
  | acquiredMany hands => exact accounted.granted hands
  | returned done => exact accounted.takenBack done
  | exhausted | short | foreign | doubled => exact accounted.failed trivial

theorem afterRequests (accounted : device.Accounted []) (requests : List FrameRequest) :
    (device.afterRequests requests).Accounted (device.exchanges requests) := by
  induction requests using List.reverseRecOn with
  | nil => exact accounted
  | append_singleton requests request ih =>
    rw [afterRequests_concat, exchanges_concat]
    exact ih.step (served _ request)

theorem handedOut_lt (accounted : device.Accounted history) {frame : Nat} (out : HandedOut history frame) :
    frame < device.frames :=
  accounted.sound.inUse_lt frame ((accounted.inUse_iff frame).mpr out)

theorem mem_free_iff (accounted : device.Accounted history) (frame : Nat) :
    frame ∈ device.pool.free ↔ frame < device.frames ∧ ¬ HandedOut history frame := by
  rw [accounted.sound.mem_free_iff, accounted.inUse_iff]
  rfl

theorem free_eq_nil_iff (accounted : device.Accounted history) :
    device.pool.free = [] ↔ ∀ frame < device.frames, HandedOut history frame := by
  rw [List.eq_nil_iff_forall_not_mem]
  refine forall_congr' fun frame => ?_
  rw [accounted.mem_free_iff, not_and, not_not]

/-- Every frame is free or handed out. -/
theorem freeCount_add (accounted : device.Accounted history) :
    device.freeCount + {frame | HandedOut history frame}.ncard = device.frames := by
  have out : {frame | HandedOut history frame} = {frame | frame ∈ device.pool.inUse} := by
    ext frame
    exact (accounted.inUse_iff frame).symm
  rw [out]
  exact accounted.sound.freeCount_add_ncard

end Accounted

/-- How the free list, the marks and the replies of a device go together. -/
structure Books (device : Device) (history : List FrameExchange) : Prop where
  free_nodup : device.pool.free.Nodup
  free_lt : ∀ frame ∈ device.pool.free, frame < device.frames
  free_iff : ∀ frame < device.frames, frame ∈ device.pool.free ↔ frame ∉ device.pool.inUse
  inUse_iff : ∀ frame, frame ∈ device.pool.inUse ↔ HandedOut history frame
  handedOut_lt : ∀ frame, HandedOut history frame → frame < device.frames
  count : device.freeCount + {frame | HandedOut history frame}.ncard = device.frames

/-- How a device replies, said by what is handed out. -/
structure Replies (device : Device) (history : List FrameExchange) : Prop where
  granted : ∀ request taken, (device.serve request).1 = .granted taken →
    taken.Nodup ∧ ∀ frame ∈ taken, frame < device.frames ∧ ¬ HandedOut history frame
  acquire : (device.serve .acquire).1.Fails ↔ ∀ frame < device.frames, HandedOut history frame
  acquireMany : ∀ count, (device.serve (.acquireMany count)).1.Fails ↔ device.freeCount < count
  acquired : ∀ taken, (device.serve .acquire).1 = .granted taken → taken.length = 1
  acquiredMany : ∀ count taken, (device.serve (.acquireMany count)).1 = .granted taken → taken.length = count
  returned : ∀ frame, (device.serve (.release frame)).1 = .returned ↔ HandedOut history frame
  foreign : ∀ frame, (device.serve (.release frame)).1 = .refused (.invalidFrame frame device.frames) ↔
    device.frames ≤ frame
  doubled : ∀ frame, (device.serve (.release frame)).1 = .refused (.doubleFree frame) ↔
    frame < device.frames ∧ ¬ HandedOut history frame
  unchanged : ∀ request, (device.serve request).1.Fails → (device.serve request).2 = device
  onMachine : ∀ request machine id, machine.devices.get? id = some device →
    Ends (request.perform id)
      (fun reply next => reply = (device.serve request).1 ∧ ∀ other,
        next.devices.get? other = if other = id then some (device.serve request).2 else machine.devices.get? other)
      (fun _ _ => False) machine

namespace Accounted

variable {device next : Device} {history : List FrameExchange} {request : FrameRequest} {reply : FrameReply}

theorem books (accounted : device.Accounted history) : device.Books history where
  free_nodup := accounted.sound.free_nodup
  free_lt frame member := ((accounted.mem_free_iff frame).mp member).1
  free_iff frame within := by
    rw [accounted.sound.mem_free_iff]
    exact and_iff_right within
  inUse_iff := accounted.inUse_iff
  handedOut_lt _ out := accounted.handedOut_lt out
  count := accounted.freeCount_add

theorem fresh_of_granted (accounted : device.Accounted history) {taken : List Nat}
    (served : device.Served request (.granted taken) next) :
    taken.Nodup ∧ ∀ frame ∈ taken, frame < device.frames ∧ ¬ HandedOut history frame := by
  have fresh {rest : FramePool (device.size >>> device.geometry.shift)} (hands : device.pool.Hands taken rest) :
      taken.Nodup ∧ ∀ frame ∈ taken, frame < device.frames ∧ ¬ HandedOut history frame := by
    refine ⟨hands.nodup accounted.sound, fun frame member => ?_⟩
    rw [← accounted.mem_free_iff, hands.free]
    exact List.mem_append_left _ member
  cases served with
  | acquired hands => exact fresh hands
  | acquiredMany hands => exact fresh hands

theorem acquire_fails_iff (accounted : device.Accounted history) (served : device.Served .acquire reply next) :
    reply.Fails ↔ ∀ frame < device.frames, HandedOut history frame := by
  rw [← accounted.free_eq_nil_iff]
  cases served with
  | acquired hands =>
    refine iff_of_false id ?_
    rw [hands.free]
    exact List.cons_ne_nil _ _
  | exhausted empty => exact iff_of_true trivial empty

theorem returned_iff (accounted : device.Accounted history) {frame : Nat}
    (served : device.Served (.release frame) reply next) : reply = .returned ↔ HandedOut history frame := by
  rw [← accounted.inUse_iff]
  cases served with
  | returned done => exact iff_of_true rfl (FramePool.release_eq_ok done).2.2.2
  | foreign outside =>
    refine iff_of_false nofun fun held => ?_
    exact absurd (accounted.sound.inUse_lt frame held) (Nat.not_lt.mpr outside)
  | doubled _ unused => exact iff_of_false nofun unused

theorem doubled_iff (accounted : device.Accounted history) {frame : Nat}
    (served : device.Served (.release frame) reply next) :
    reply = .refused (.doubleFree frame) ↔ frame < device.frames ∧ ¬ HandedOut history frame := by
  rw [← accounted.inUse_iff]
  cases served with
  | returned done => exact iff_of_false nofun fun unused => unused.2 (FramePool.release_eq_ok done).2.2.2
  | foreign outside => exact iff_of_false nofun fun within => absurd within.1 (Nat.not_lt.mpr outside)
  | doubled within unused => exact iff_of_true rfl ⟨within, unused⟩

theorem replies (accounted : device.Accounted history) : device.Replies history where
  granted request taken granted := by
    have asked := served device request
    rw [granted] at asked
    exact accounted.fresh_of_granted asked
  acquire := accounted.acquire_fails_iff (served device .acquire)
  acquireMany count := (served device (.acquireMany count)).acquireMany_fails_iff
  acquired taken granted := by
    have asked := served device .acquire
    rw [granted] at asked
    exact asked.length_eq_one
  acquiredMany count taken granted := by
    have asked := served device (.acquireMany count)
    rw [granted] at asked
    exact asked.length_eq
  returned frame := accounted.returned_iff (served device (.release frame))
  foreign frame := (served device (.release frame)).foreign_iff
  doubled frame := accounted.doubled_iff (served device (.release frame))
  unchanged request := (served device request).eq_of_fails
  onMachine request _ _ found := ends_perform found request

end Accounted

/-- After any requests to a fresh device, whatever its size and geometry, the free frames are those that no
reply handed out for good, and the next request is answered accordingly. -/
theorem frames_handed_out_once (kind : DeviceKind) (geometry : Geometry) (size : Nat)
    (requests : List FrameRequest) :
    let fresh : Device := { kind, geometry, size }
    let device := fresh.afterRequests requests
    let history := fresh.exchanges requests
    device.frames = size >>> geometry.shift ∧ device.Books history ∧ device.Replies history := by
  have accounted := (Accounted.start kind geometry size).afterRequests requests
  exact ⟨frames_afterRequests _ requests, accounted.books, accounted.replies⟩

end Device

end DemandPaging
