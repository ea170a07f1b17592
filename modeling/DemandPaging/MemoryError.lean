import DemandPaging.FrameSource
import DemandPaging.Table.Basic

/-! # Errors of memory operations

Every way in which an operation on a space can fail is a cause with the numbers that explain it.
Causes fall into five kinds, and the kind alone decides how a failure is reported to a program:
running out of frames, slots or addresses is told apart from everything else.
-/

namespace DemandPaging

/-- The rules that a configuration has to obey. -/
inductive ConfigRule where
  | pageShift
  | swapDevices
  | deviceSize
  | frameNumbers
deriving DecidableEq, Repr, Inhabited

def ConfigRule.text : ConfigRule → String
  | .pageShift => "page shift must be in 1..32"
  | .swapDevices => "too many swap devices"
  | .deviceSize => "device size must be a non-zero multiple of the page size"
  | .frameNumbers => "device has more frames than a PTE can address"

inductive ErrorKind where
  | invalidArgument
  | notFound
  | overlap
  | resourceExhausted
  | ioFailure
deriving DecidableEq, Repr, Inhabited

def ErrorKind.title : ErrorKind → String
  | .invalidArgument => "InvalidArgument"
  | .notFound => "NotFound"
  | .overlap => "Overlap"
  | .resourceExhausted => "ResourceExhausted"
  | .ioFailure => "IoFailure"

inductive MemoryError where
  | invalidRegionId (id : Nat)
  | regionInUse (id : Nat)
  | regionNotLive (id : Nat)
  | zeroSize
  | noSuchArea (id : Nat)
  | offsetOutOfRange (offset size : Nat)
  | misaligned (address : Nat)
  | unmapped (start stop : Nat)
  | overlap (area start stop : Nat)
  | spaceExhausted (stop requested : Nat)
  | frames (reason : ShortageError)
  | noVictim
  | swapExhausted (device : Nat)
  | staleVictim (page : Nat)
  | device (reason : DeviceError)
  | table (reason : TableError)
  | invalidConfig (rule : ConfigRule)
deriving DecidableEq, Repr, Inhabited

namespace MemoryError

def message : MemoryError → String
  | .invalidRegionId id => s!"region id {id} is outside the symbol table"
  | .regionInUse id => s!"region id {id} is already in use"
  | .regionNotLive id => s!"region id {id} does not hold a live region"
  | .zeroSize => "allocation size must be non-zero"
  | .noSuchArea id => s!"no VMA with id {id}"
  | .offsetOutOfRange offset size => s!"offset {offset} outside region of {size} bytes"
  | .misaligned address => s!"address {Address.text address} is not page aligned"
  | .unmapped start stop => s!"range {Address.text start}..{Address.text stop} is not inside a VMA"
  | .overlap area start stop =>
    s!"range {Address.text start}..{Address.text stop} overlaps VMA {area}"
  | .spaceExhausted stop requested =>
    s!"virtual address space exhausted: {requested} bytes past {Address.text stop}"
  | .frames reason => reason.message
  | .noVictim => "no resident page left to evict"
  | .swapExhausted index => s!"swap device {index} has no free slot"
  | .staleVictim page => s!"eviction victim {Address.pageTag page} is not resident"
  | .device reason => reason.message
  | .table reason => reason.message
  | .invalidConfig rule => s!"invalid configuration: {rule.text}"

def kind : MemoryError → ErrorKind
  | .invalidRegionId _ | .regionInUse _ | .zeroSize | .offsetOutOfRange _ _ | .misaligned _
  | .table _ | .invalidConfig _ | .device (.tooManySwapDevices _ _) => .invalidArgument
  | .regionNotLive _ | .noSuchArea _ | .unmapped _ _ | .staleVictim _ => .notFound
  | .overlap _ _ _ => .overlap
  | .spaceExhausted _ _ | .frames _ | .noVictim | .swapExhausted _ => .resourceExhausted
  | .device _ => .ioFailure

end MemoryError

end DemandPaging
