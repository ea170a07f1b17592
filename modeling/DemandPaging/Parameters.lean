/-! # Parameters of the simulated machine

Every size and limit of the paging machine is named here once. Page size, table fan-out and the
reach of both page tables are powers of two given by their exponents; the capacities bound the
region table of a space, the swap devices of a machine and the priority buckets of its scheduler;
the statuses are what an instruction reports when a memory operation fails.
-/

namespace DemandPaging.Parameters

/-- Bits of a virtual address that select the byte inside a page, unless configured otherwise. -/
def pageShift : Nat := 8

def pageSize : Nat := 1 <<< pageShift

/-- Width of the address space that the flat table covers with default pages. -/
def flatAddressBits : Nat := 22

def flatPages : Nat := 1 <<< (flatAddressBits - 8)

def radixLevels : Nat := 5

/-- Bits of a page number consumed by each level of the radix table. -/
def radixIndexBits : Nat := 9

/-- Slots of one node of the radix table. -/
def radixFanout : Nat := 1 <<< radixIndexBits

def radixPages : Nat := 1 <<< (radixIndexBits * radixLevels)

/-- Live regions that one space can name. -/
def regionCapacity : Nat := 30

def swapDeviceCapacity : Nat := 4

/-- Buckets of the multi-level ready queue. -/
def priorityBuckets : Nat := 140

def defaultRamSize : Nat := 0x100000

def defaultSwapSize : Nat := 0x1000000

/-- Word stamped over absent entries by a pattern install. -/
def poisonWord : Nat := 0xDEADBEEF

/-- Number of the memory-map call. -/
def memmapNumber : Nat := 17

/-- Status of an instruction that ran out of frames, swap slots or address space. -/
def statusNoMemory : Int := -3000

/-- Status of an instruction that failed for any other reason. -/
def statusFailure : Int := -1

theorem pageSize_pos : 0 < pageSize := by decide

theorem default_sizes_aligned :
    defaultRamSize % pageSize = 0 ∧ defaultSwapSize % pageSize = 0 := by decide

end DemandPaging.Parameters
