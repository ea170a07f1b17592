import DemandPaging.Space.Teardown

/-! # Calls on a space

Everything a process can ask of its space is a call, and what it hears is an answer. Performing a
call is running its operation, so a history of a space is a list of calls.
-/

namespace DemandPaging

inductive Call where
  | allocate (area id size : Nat)
  | release (id : Nat)
  | grow (id size : Nat)
  | createArea (start : Nat)
  | resolve (page : Nat)
  | readByte (id offset : Nat)
  | writeByte (id offset : Nat) (value : UInt8)
  | evictPages (start pages : Nat)
  | installPattern (start pages : Nat)
  | usage (id : Nat)
  | region (id : Nat)
  | area (id : Nat)
  | dumpTable (start stop : Nat)
deriving DecidableEq, Repr, Inhabited

inductive Answer where
  | done
  /-- An address, an id, a frame or a count. -/
  | number (value : Nat)
  | byte (value : UInt8)
  | region (region : Region)
  | area (area : Area)
  | usage (usage : AreaUsage)
  | entries (entries : List (Nat × Entry))
deriving DecidableEq, Repr, Inhabited

/-- Runs the operation of a call. -/
def Call.perform {T : Type} [PageTable T] : Call → Paging T Answer
  | .allocate owner id size => .number <$> Space.allocate owner id size
  | .release id => .region <$> Space.release id
  | .grow id size => .number <$> Space.grow id size
  | .createArea start => .number <$> Space.createArea start
  | .resolve page => .number <$> Space.resolve page
  | .readByte id offset => .byte <$> Space.readByte id offset
  | .writeByte id offset value => (fun _ => .done) <$> Space.writeByte id offset value
  | .evictPages start pages => .number <$> Space.evictPages start pages
  | .installPattern start pages => .number <$> Space.installPattern start pages
  | .usage id => do return .usage (← settle ((← Paging.space).usage id))
  | .region id => do return .region (← settle ((← Paging.space).region? id))
  | .area id => do return .area (← settle ((← Paging.space).area? id))
  | .dumpTable start stop => .entries <$> Space.dumpTable start stop

end DemandPaging
