import DemandPaging.Device

/-! # Frame sources

A frame source hands out single frames and takes them back. Taking several frames at once is built
on that: the request is refused when the source claims fewer frames than wanted; else frames are
taken one by one, and if the source runs dry on the way, they are given back in the order in which
they were taken. A device answers bulk requests on its own; a plain stack of frames, which may claim
more frames than it holds, relies on this construction.
-/

namespace DemandPaging

inductive ShortageError where
  | insufficient (requested available : Nat)
deriving DecidableEq, Repr, Inhabited

def ShortageError.message : ShortageError → String
  | .insufficient requested available =>
    s!"insufficient free frames: requested {requested}, available {available}"

def Event.rollbackRefused (frame : Nat) (reason : DeviceError) : Event :=
  ⟨.error, .frameSource, s!"rollback of {Address.frameTag frame} failed: {reason.message}"⟩

class FrameSource (S : Type) where
  acquire? : S → Option (Nat × S)
  release : S → Nat → Except DeviceError S
  /-- Frames that the source claims to have. -/
  freeCount : S → Nat

namespace FrameSource

variable {S : Type} [FrameSource S]

/-- Takes frames one by one until `count` are taken or the source is dry. -/
def drain : Nat → S → List Nat × S
  | 0, source => ([], source)
  | count + 1, source =>
    match acquire? source with
    | none => ([], source)
    | some (frame, source) =>
      let (frames, source) := drain count source
      (frame :: frames, source)

/-- Gives frames back from first to last, and tells which were refused. -/
def giveBack : List Nat → S → List (Nat × DeviceError) × S
  | [], source => ([], source)
  | frame :: rest, source =>
    match release source frame with
    | .ok source => giveBack rest source
    | .error reason =>
      let (refused, source) := giveBack rest source
      ((frame, reason) :: refused, source)

/-- The outcome of a bulk request: the answer, the source afterwards, and the frames lost to it. -/
structure Bulk (S : Type) where
  answer : Except ShortageError (List Nat)
  source : S
  lost : List (Nat × DeviceError) := []

/-- The log of a bulk request, newest event first. -/
def Bulk.log (bulk : Bulk S) : List Event :=
  (bulk.lost.map fun (frame, reason) => Event.rollbackRefused frame reason).reverse

/-- Takes `count` frames one by one, or gives back all it took. -/
def acquireMany (source : S) (count : Nat) : Bulk S :=
  if freeCount source < count then
    { answer := .error (.insufficient count (freeCount source)), source }
  else
    let (frames, drained) := drain count source
    if frames.length = count then { answer := .ok frames, source := drained }
    else
      let (lost, restored) := giveBack frames drained
      { answer := .error (.insufficient count frames.length), source := restored, lost }

end FrameSource

instance : FrameSource Device where
  acquire? := Device.acquire?
  release := Device.release
  freeCount := Device.freeCount

/-- A stack of frames with its top first. It claims its own length unless told otherwise. -/
structure FrameStack where
  frames : List Nat
  claim : Option Nat := none
deriving DecidableEq, Repr, Inhabited

namespace FrameStack

def acquire? (stack : FrameStack) : Option (Nat × FrameStack) :=
  match stack.frames with
  | [] => none
  | frame :: frames => some (frame, { stack with frames })

def release (stack : FrameStack) (frame : Nat) : Except DeviceError FrameStack :=
  if stack.frames.contains frame then .error (.doubleFree frame)
  else .ok { stack with frames := frame :: stack.frames }

def freeCount (stack : FrameStack) : Nat := stack.claim.getD stack.frames.length

instance : FrameSource FrameStack where
  acquire? := acquire?
  release := release
  freeCount := freeCount

end FrameStack

end DemandPaging
