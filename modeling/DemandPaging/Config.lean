import DemandPaging.Machine
import DemandPaging.MemoryError

/-! # Configuration of the memory

Settings give the page size as a number of offset bits, the sizes of the devices, and when frames are
attached to newly reserved addresses. They are valid when pages of this size have a geometry and every
device holds a whole number of frames, at least one, that an entry can number. Validation reports the
first broken rule: the page shift, the count of swap devices, then RAM and each swap device in turn.
What is valid is a configuration; one that is put together from a geometry is validated all the same.
-/

namespace DemandPaging

/-- When frames are attached to newly reserved addresses. -/
inductive Populate where
  /-- Growth maps a frame for every new page, or fails. -/
  | eager
  /-- The first access to a page brings its frame. -/
  | onDemand
deriving DecidableEq, Repr, Inhabited

def Populate.title : Populate → String
  | .eager => "Eager"
  | .onDemand => "OnDemand"

/-- What is asked for, with any number of offset bits. -/
structure MemorySettings where
  pageShift : Nat := Parameters.pageShift
  ramSize : Nat := Parameters.defaultRamSize
  swapSizes : List Nat := [Parameters.defaultSwapSize]
  populate : Populate := .onDemand
deriving DecidableEq, Repr, Inhabited

/-- What is asked for, with pages that have a geometry. -/
structure MemoryConfig where
  geometry : Geometry := .standard
  ramSize : Nat := Parameters.defaultRamSize
  swapSizes : List Nat := [Parameters.defaultSwapSize]
  populate : Populate := .onDemand
deriving DecidableEq, Repr, Inhabited

namespace MemoryConfig

/-- The rule that a device of `size` bytes breaks, if it breaks one. -/
def brokenBySize? (geometry : Geometry) (size : Nat) : Option ConfigRule :=
  if size = 0 ∨ geometry.isAligned size = false then some .deviceSize
  else if Entry.maxFrame + 1 < size >>> geometry.shift then some .frameNumbers
  else none

/-- The first rule that the devices of a configuration break. -/
def broken? (config : MemoryConfig) : Option ConfigRule :=
  if Parameters.swapDeviceCapacity < config.swapSizes.length then some .swapDevices
  else (config.ramSize :: config.swapSizes).findSome? (brokenBySize? config.geometry)

def settings (config : MemoryConfig) : MemorySettings where
  pageShift := config.geometry.shift
  ramSize := config.ramSize
  swapSizes := config.swapSizes
  populate := config.populate

/-- How a configuration is described. -/
def description (config : MemoryConfig) : String :=
  Text.record "MemoryConfig"
    [("geometry", config.geometry.description), ("ram_size", toString config.ramSize),
      ("swap_sizes", Text.sequence (config.swapSizes.map toString)),
      ("populate", config.populate.title)]

/-- A machine with fresh devices of the configured sizes, whether or not the sizes are valid. -/
def assemble (config : MemoryConfig) : Except MemoryError Machine :=
  match Machine.ofSizes config.geometry config.ramSize config.swapSizes with
  | .ok machine => .ok machine
  | .error reason => .error (.device reason)

end MemoryConfig

def Event.machineBuilt (config : MemoryConfig) : Event where
  severity := .info
  source := .config
  message := s!"memory devices: RAM {config.ramSize} bytes, {config.swapSizes.length} swap " ++
    s!"device(s), {config.geometry.pageSize}-byte pages, {config.populate.title} population"

namespace MemorySettings

def withGeometry (settings : MemorySettings) (geometry : Geometry) : MemoryConfig where
  geometry
  ramSize := settings.ramSize
  swapSizes := settings.swapSizes
  populate := settings.populate

/-- The configuration that is asked for, if no rule is broken. -/
def validate (settings : MemorySettings) : Except MemoryError MemoryConfig :=
  match Geometry.ofShift? settings.pageShift with
  | none => .error (.invalidConfig .pageShift)
  | some geometry =>
    match (settings.withGeometry geometry).broken? with
    | some rule => .error (.invalidConfig rule)
    | none => .ok (settings.withGeometry geometry)

/-- A machine with the devices of valid settings. -/
def build (settings : MemorySettings) : Except MemoryError Machine := do
  let config ← settings.validate
  let machine ← config.assemble
  return { machine with log := .machineBuilt config :: machine.log }

end MemorySettings

namespace MemoryConfig

def validate (config : MemoryConfig) : Except MemoryError Unit := config.settings.validate.map fun _ => ()

def build (config : MemoryConfig) : Except MemoryError Machine := config.settings.build

end MemoryConfig

end DemandPaging
