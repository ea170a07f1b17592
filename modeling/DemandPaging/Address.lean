import DemandPaging.Text.Hexadecimal

/-! # Addresses, pages and frames

A virtual address names a byte of one space, a physical address a byte of one device. A page number
counts pages of the former, a frame number frames of the latter. All four are natural numbers that
fit a word, and the name of a variable says which one it holds. Each kind has a tag for the log;
addresses also have a plain text for error messages, at least eight upper-case digits wide.
-/

namespace DemandPaging.Address

open Text

def text (address : Nat) : String := "0x" ++ Hexadecimal.upper 8 address

def virtualTag (address : Nat) : String := "VA(" ++ text address ++ ")"

def physicalTag (address : Nat) : String := "PA(" ++ text address ++ ")"

def pageTag (page : Nat) : String := s!"PGN({page})"

def frameTag (frame : Nat) : String := s!"FPN({frame})"

/-- Bytes from `base` up to `address`, zero when `base` lies above it. -/
def distance (base address : Nat) : Nat := address - base

end DemandPaging.Address
