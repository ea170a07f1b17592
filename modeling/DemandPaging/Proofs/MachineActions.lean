import DemandPaging.Proofs.DeviceEffects

/-! # How machine actions end

On a sound device set an action on a home in use cannot fail, and its effect is the one that its name
says. Taking frames fails only for want of a free one, and asking for the device that receives
evictions fails only if there is none.
-/

namespace DemandPaging.Machine

open DeviceSet

variable {machine : Machine} {id : DeviceId} {device : Device}

section Device

variable {ok : Device → Machine → Prop} {done : Unit → Machine → Prop} {fail : DeviceError → Machine → Prop}

theorem ends_device (found : machine.devices.get? id = some device) :
    Ends (Machine.device id) ok fail machine ↔ ok device machine := by
  simp only [Machine.device, ends_bind, ends_get, ends_settle_ok, get_eq_ok_iff.mpr found]

theorem ends_device_of_error {reason : DeviceError} (missing : machine.devices.get id = .error reason) :
    Ends (Machine.device id) ok fail machine ↔ fail reason machine := by
  simp only [Machine.device, ends_bind, ends_get, ends_settle_error, missing]

@[simp] theorem ends_putDevice : Ends (putDevice id device) done fail machine ↔
    done () { machine with devices := machine.devices.set id device } := Iff.rfl

@[simp] theorem ends_emit (event : Event) : Ends (emit event) done fail machine ↔
    done () { machine with log := event :: machine.log } := Iff.rfl

end Device

theorem ends_acquire (sound : machine.devices.Sound) (found : machine.devices.get? id = some device) :
    Ends (acquire id)
      (fun answer after =>
        (answer = none ∧ after = machine ∧ machine.devices.freeOf id = []) ∨
          ∃ frame, answer = some frame ∧ machine.devices.Takes id [frame] after.devices)
      (fun _ _ => False) machine := by
  rw [acquire, ends_bind, ends_device found]
  cases taken : device.pool.acquire? with
  | none =>
    simp only [Device.acquire?, taken, Option.map_none]
    refine .inl ⟨rfl, rfl, ?_⟩
    rw [freeOf_eq found]
    exact FramePool.acquire?_eq_none_iff.mp taken
  | some pair =>
    obtain ⟨frame, rest⟩ := pair
    simp only [Device.acquire?, taken, Option.map_some, ends_bind, ends_putDevice, ends_emit]
    exact .inr ⟨frame, rfl, takes_of_hands sound found (FramePool.hands_of_acquire? taken)⟩

theorem ends_acquireMany (sound : machine.devices.Sound) (found : machine.devices.get? id = some device)
    (count : Nat) :
    Ends (acquireMany id count)
      (fun answer after =>
        (answer = .error (.insufficient count (machine.devices.freeOf id).length) ∧ after = machine ∧
            (machine.devices.freeOf id).length < count) ∨
          ∃ frames, answer = .ok frames ∧ frames.length = count ∧
            machine.devices.Takes id frames after.devices)
      (fun _ _ => False) machine := by
  rw [acquireMany, ends_bind, ends_device found]
  cases drawn : device.pool.acquireMany? count with
  | none =>
    simp only [Device.acquireMany?, drawn, Option.map_none]
    rw [freeOf_eq found]
    refine .inl ⟨?_, rfl, FramePool.acquireMany?_eq_none_iff.mp drawn⟩
    rw [Device.freeCount, FramePool.length_free]
  | some pair =>
    obtain ⟨frames, rest⟩ := pair
    obtain ⟨hands, length⟩ := FramePool.hands_of_acquireMany? drawn
    simp only [Device.acquireMany?, drawn, Option.map_some, ends_bind, ends_putDevice, ends_emit]
    exact .inr ⟨frames, rfl, length, takes_of_hands sound found hands⟩

theorem ends_release (sound : machine.devices.Sound) {frame : Nat} (held : machine.devices.InUse (id, frame)) :
    Ends (release id frame) (fun _ after => machine.devices.Returns (id, frame) after.devices)
      (fun _ _ => False) machine := by
  obtain ⟨device, found, member⟩ := held
  obtain ⟨rest, done⟩ := (sound.pools id device found).release_eq_ok member
  rw [release, ends_bind, ends_device found]
  simp only [Device.release, done, ends_bind, ends_settle_ok, ends_putDevice, ends_emit]
  exact returns_of_release sound found done

theorem ends_writeFrame (sound : machine.devices.Sound) {frame : Nat}
    (held : machine.devices.InUse (id, frame)) (bytes : FrameBytes) :
    Ends (writeFrame id frame bytes)
      (fun _ after => machine.devices.Stores (id, frame) bytes after.devices) (fun _ _ => False) machine := by
  obtain ⟨device, found, within⟩ := sound.lt_frames held
  rw [writeFrame, ends_bind, ends_device found]
  simp only [Device.writeFrame_eq, within, if_true, ends_bind, ends_settle_ok, ends_putDevice]
  exact stores_of_insert sound found frame bytes

theorem ends_copyFrame (sound : machine.devices.Sound) {source target : DeviceId} {frame slot : Nat}
    (held : machine.devices.InUse (source, frame)) (kept : machine.devices.InUse (target, slot)) :
    Ends (copyFrame source frame target slot)
      (fun _ after =>
        machine.devices.Stores (target, slot) (machine.devices.bytesAt (source, frame)) after.devices)
      (fun _ _ => False) machine := by
  obtain ⟨origin, originFound, originFits⟩ := sound.lt_frames held
  obtain ⟨destination, found, within⟩ := sound.lt_frames kept
  have copied : origin.copyFrame frame destination slot = .ok
      { destination with contents := destination.contents.insert slot (origin.frameBytes frame) } := by
    rw [Device.copyFrame_eq, if_pos originFits, Device.writeFrame_eq, if_pos within]
  rw [copyFrame, ends_bind, ends_device originFound, ends_bind, ends_device found]
  simp only [copied, ends_bind, ends_settle_ok, ends_putDevice]
  rw [bytesAt_eq originFound]
  exact stores_of_insert sound found slot _

theorem ends_activeSwap {ok : Nat → Machine → Prop} {fail : DeviceError → Machine → Prop} :
    Ends activeSwap ok fail machine ↔
      match machine.devices.get? (.swap machine.devices.active) with
      | some _ => ok machine.devices.active machine
      | none => fail (.noSuchSwapDevice machine.devices.active) machine := by
  simp only [activeSwap, Machine.device, ends_bind, ends_get, ends_settle, ends_pure, DeviceSet.get, get?]
  cases machine.devices.swaps[machine.devices.active]? <;> simp

/-- Where a byte of a RAM frame in use lies. -/
theorem physical_of_inUse (sound : machine.devices.Sound) {frame offset : Nat}
    (held : machine.devices.InUse (.ram, frame)) (within : offset < machine.devices.geometry.pageSize) :
    machine.devices.geometry.physical frame offset =
        frame * machine.devices.geometry.pageSize + offset ∧
      frame * machine.devices.geometry.pageSize + offset < machine.devices.ram.size := by
  obtain ⟨device, found, fits⟩ := sound.lt_frames held
  have geometry := sound.uniform .ram device found
  cases found
  rw [Device.frames, geometry] at fits
  have bound := Geometry.add_lt_of_lt_shiftRight fits within
  have word := sound.addressed
  exact ⟨Geometry.physical_eq (by omega) within, bound⟩

theorem ends_read (sound : machine.devices.Sound) {frame offset : Nat}
    (held : machine.devices.InUse (.ram, frame)) (within : offset < machine.devices.geometry.pageSize) :
    Ends (read .ram (machine.devices.geometry.physical frame offset))
      (fun value after =>
        after = machine ∧ value = (machine.devices.bytesAt (.ram, frame))[offset]?.getD 0)
      (fun _ _ => False) machine := by
  obtain ⟨address, bound⟩ := physical_of_inUse sound held within
  have found : machine.devices.get? .ram = some machine.devices.ram := rfl
  have geometry := sound.uniform .ram _ found
  rw [read, ends_bind, ends_device found, address]
  simp only [Device.read_eq, bound, if_true, ends_settle_ok, true_and]
  rw [Device.byte, geometry, Geometry.pageOf_add within, Geometry.offsetOf_add within, bytesAt_eq found]

theorem ends_write (sound : machine.devices.Sound) {frame offset : Nat}
    (held : machine.devices.InUse (.ram, frame)) (within : offset < machine.devices.geometry.pageSize)
    (value : UInt8) :
    Ends (write .ram (machine.devices.geometry.physical frame offset) value)
      (fun _ after => machine.devices.Stores (.ram, frame)
        ((machine.devices.bytesAt (.ram, frame)).insert offset value) after.devices)
      (fun _ _ => False) machine := by
  obtain ⟨address, bound⟩ := physical_of_inUse sound held within
  have found : machine.devices.get? .ram = some machine.devices.ram := rfl
  have geometry := sound.uniform .ram _ found
  have page : machine.devices.ram.geometry.pageOf (frame * machine.devices.geometry.pageSize + offset) = frame := by
    rw [geometry, Geometry.pageOf_add within]
  have place : machine.devices.ram.geometry.offsetOf (frame * machine.devices.geometry.pageSize + offset) = offset := by
    rw [geometry, Geometry.offsetOf_add within]
  rw [write, ends_bind, ends_device found, address]
  simp only [Device.write_eq, bound, if_true, page, place, ends_bind, ends_settle_ok, ends_putDevice]
  rw [bytesAt_eq found]
  exact stores_of_insert sound found frame _

end DemandPaging.Machine
