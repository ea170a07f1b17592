import DemandPaging.Call
import DemandPaging.Proofs.Reserving

/-! # How calls end

A call on a space in custody succeeds in the way of its operation: it extends the layout, resolves a page, writes
a byte, evicts or stamps a range, or only looks. It fails before it changed an entry, or after it stamped some
pages. Whatever else is said of all calls follows from the ways in which they end.
-/

namespace DemandPaging.Call

variable {T : Type} [PageTable T]

/-- A call that only looks at its space. -/
def looks : Call → Bool
  | .usage _ | .region _ | .area _ | .dumpTable _ _ => true
  | _ => false

variable [TotalTable T] {stage : Stage T} {reserved : Set Home}

/-- What a call that succeeds has done. -/
inductive Done (before : Stage T) (reserved : Set Home) : Call → Stage T → Prop where
  | allocated {owner id size : Nat} {area shaped : Area} {after : Stage T}
    (regrown : Space.Regrown before reserved owner area shaped after)
    (extended : Space.Extended before reserved
      (before.space.eagerPages before.devices.geometry area.stop shaped.stop) after) :
    Done before reserved (.allocate owner id size) after
  | released {id : Nat} {after : Stage T} (extended : Space.Extended before reserved [] after) :
    Done before reserved (.release id) after
  | grown {id size : Nat} {area shaped : Area} {after : Stage T}
    (regrown : Space.Regrown before reserved id area shaped after)
    (extended : Space.Extended before reserved
      (before.space.eagerPages before.devices.geometry area.stop shaped.stop) after) :
    Done before reserved (.grow id size) after
  | created {start : Nat} {after : Stage T} (extended : Space.Extended before reserved [] after) :
    Done before reserved (.createArea start) after
  | resolved {page frame : Nat} {after : Stage T} (resolved : Space.Resolved before reserved page frame after) :
    Done before reserved (.resolve page) after
  | read {id offset address frame : Nat} {after : Stage T} (named : before.space.address? id offset = some address)
    (resolved : Space.Resolved before reserved (before.devices.geometry.pageOf address) frame after) :
    Done before reserved (.readByte id offset) after
  | written {id offset address : Nat} {value : UInt8} {after : Stage T}
    (named : before.space.address? id offset = some address)
    (written : Space.Written before reserved address value after) :
    Done before reserved (.writeByte id offset value) after
  | evicted {start pages : Nat} {gone : List Nat} {after : Stage T}
    (evicted : Space.RangeEvicted before reserved gone after) : Done before reserved (.evictPages start pages) after
  | stamped {start pages : Nat} {after : Stage T} (stamped : Space.Stamped before reserved after) :
    Done before reserved (.installPattern start pages) after
  | looked {call : Call} {after : Stage T} (looks : call.looks = true) (unmoved : Space.Unmoved before after) :
    Done before reserved call after

/-- What a call that fails has left. -/
inductive Failed (before : Stage T) (reserved : Set Home) : MemoryError → Stage T → Prop where
  | rejected {reason : MemoryError} {after : Stage T} (rejected : Space.Rejected before reason after) :
    Failed before reserved reason after
  | declined {page : Nat} {reason : MemoryError} {after : Stage T}
    (declined : Space.Declined before page reason after) : Failed before reserved reason after
  | stamped {reason : MemoryError} {after : Stage T} (stamped : Space.Stamped before reserved after)
    (notStale : reason.isStale = false) : Failed before reserved reason after

theorem Failed.of_missed {id offset : Nat} {reason : MemoryError} {after : Stage T}
    (missed : Space.Missed stage id offset reason after) : Failed stage reserved reason after := by
  cases missed with
  | unnamed _ notStale => exact .rejected (.refl notStale)
  | declined _ declined => exact .declined declined

/-- A look at the space that is refused changes nothing. -/
private theorem ends_look {α : Type} {call : Call} (looks : call.looks = true) (wrap : α → Answer)
    {outcome : Space T → Except MemoryError α}
    (notStale : ∀ reason, outcome stage.space = .error reason → reason.isStale = false) :
    Ends (do return wrap (← settle (outcome (← Paging.space))) : Paging T Answer)
      (fun _ after => Done stage reserved call after) (fun reason after => Failed stage reserved reason after) stage := by
  simp only [ends_bind, ends_pure, Paging.ends_space, ends_settle]
  exact ⟨fun _ _ => .looked looks ⟨rfl, .refl _, rfl⟩, fun reason failed => .rejected (.refl (notStale reason failed))⟩

theorem ends_done (custody : stage.memory.Custody reserved) (laid : stage.space.Laid stage.devices.geometry)
    (call : Call) :
    Ends call.perform (fun _ after => Done stage reserved call after)
      (fun reason after => Failed stage reserved reason after) stage := by
  cases call with
  | allocate owner id size =>
    rw [perform, ends_map]
    refine (Space.ends_allocate custody laid owner id size).mono ?_ fun _ _ => .rejected
    rintro _ after ⟨_, _, regrown, extended⟩
    exact .allocated regrown extended
  | release id =>
    rw [perform, ends_map]
    exact (Space.ends_releaseRegion custody laid id).mono (fun _ _ => .released) fun _ _ => .rejected
  | grow id size =>
    rw [perform, ends_map]
    refine (Space.ends_grow_extended custody laid id size).mono ?_ fun _ _ => .rejected
    rintro _ after ⟨_, _, regrown, extended⟩
    exact .grown regrown extended
  | createArea start =>
    rw [perform, ends_map]
    exact (Space.ends_createArea custody laid start).mono (fun _ _ => .created) fun _ _ => .rejected
  | resolve page =>
    rw [perform, ends_map]
    exact (Space.ends_resolve custody page).mono (fun _ _ => .resolved) fun _ _ => .declined
  | readByte id offset =>
    rw [perform, ends_map]
    refine (Space.ends_readByte custody id offset).mono ?_ fun _ _ => .of_missed
    rintro _ after ⟨_, _, named, -, resolved⟩
    exact .read named resolved
  | writeByte id offset value =>
    rw [perform, ends_map]
    refine (Space.ends_writeByte custody id offset value).mono ?_ fun _ _ => .of_missed
    rintro _ after ⟨_, named, written⟩
    exact .written named written
  | evictPages start pages =>
    rw [perform, ends_map]
    refine (Space.ends_evictPages custody start pages).mono ?_ fun _ _ => .rejected
    rintro _ after ⟨_, evicted⟩
    exact .evicted evicted
  | installPattern start pages =>
    rw [perform, ends_map]
    exact (Space.ends_installPattern custody start pages).mono (fun _ _ => .stamped)
      fun _ _ failed => .stamped failed.1 failed.2
  | usage id => exact ends_look rfl .usage fun _ => Space.usage_notStale
  | region id => exact ends_look rfl .region fun _ => Space.region?_notStale
  | area id => exact ends_look rfl .area fun _ => Space.area?_notStale
  | dumpTable start stop =>
    simp only [perform, Space.dumpTable, ends_map, ends_bind, ends_pure, Paging.ends_space, Paging.ends_geometry,
      ends_modify]
    exact .looked rfl ⟨rfl, .refl _, rfl⟩

end DemandPaging.Call
