import DemandPaging.Proofs.DeviceEffects
import Mathlib.Data.Set.Insert

/-! # Accounts of frames and slots

Every home in use belongs to somebody: it is reserved, or it is the home of one index. Taking frames
reserves them, entering a reserved home for an index reserves the old home of that index, and a home
that is returned belongs to nobody. The indices are the pages of one space, or the pages of all spaces.
-/

namespace DemandPaging

/-- The homes in use are the reserved ones and those of the indices, each of one index only. -/
structure Accounts {ι : Type} (reserved : Set Home) (devices : DeviceSet) (homeOf : ι → Option Home) :
    Prop where
  inUse_iff : ∀ home, devices.InUse home ↔ home ∈ reserved ∨ ∃ index, homeOf index = some home
  apart : ∀ index home, homeOf index = some home → home ∉ reserved
  unshared : ∀ index other home, homeOf index = some home → homeOf other = some home → index = other

/-- The homes of some frames of one device. -/
def homesOn (id : DeviceId) (frames : List Nat) : Set Home := {home | home.1 = id ∧ home.2 ∈ frames}

theorem mem_homesOn {id : DeviceId} {frames : List Nat} {home : Home} :
    home ∈ homesOn id frames ↔ home.1 = id ∧ home.2 ∈ frames := Iff.rfl

theorem homesOn_nil (id : DeviceId) : homesOn id [] = ∅ := by
  ext home
  simp [mem_homesOn]

theorem homesOn_cons (id : DeviceId) (frame : Nat) (frames : List Nat) :
    homesOn id (frame :: frames) = insert (id, frame) (homesOn id frames) := by
  ext ⟨other, place⟩
  simp only [mem_homesOn, List.mem_cons, Set.mem_insert_iff, Prod.mk.injEq]
  tauto

theorem homesOn_singleton (id : DeviceId) (frame : Nat) : homesOn id [frame] = {(id, frame)} := by
  rw [homesOn_cons, homesOn_nil, insert_empty_eq]

namespace Accounts

variable {ι : Type} {reserved : Set Home} {devices next : DeviceSet} {homeOf moved : ι → Option Home}
  {home : Home} {index : ι}

theorem inUse (accounts : Accounts reserved devices homeOf) (named : homeOf index = some home) :
    devices.InUse home := (accounts.inUse_iff home).mpr (.inr ⟨index, named⟩)

theorem inUse_of_mem (accounts : Accounts reserved devices homeOf) (member : home ∈ reserved) :
    devices.InUse home := (accounts.inUse_iff home).mpr (.inl member)

theorem takes {id : DeviceId} {taken : List Nat} (accounts : Accounts reserved devices homeOf)
    (takes : devices.Takes id taken next) : Accounts (homesOn id taken ∪ reserved) next homeOf where
  inUse_iff home := by
    rw [takes.inUse, accounts.inUse_iff, Set.mem_union, mem_homesOn, or_assoc]
  apart index home named := by
    rintro (⟨rfl, member⟩ | member)
    · exact takes.fresh _ member (accounts.inUse named)
    · exact accounts.apart index home named member
  unshared := accounts.unshared

theorem returns (accounts : Accounts (insert home reserved) devices homeOf) (apart : home ∉ reserved)
    (returns : devices.Returns home next) : Accounts reserved next homeOf where
  inUse_iff other := by
    rw [returns.inUse, accounts.inUse_iff, Set.mem_insert_iff]
    constructor
    · rintro ⟨distinct, (rfl | member) | named⟩
      · exact (distinct rfl).elim
      · exact .inl member
      · exact .inr named
    · rintro (member | ⟨index, named⟩)
      · exact ⟨fun same => apart (same ▸ member), .inl (.inr member)⟩
      · refine ⟨fun same => ?_, .inr ⟨index, named⟩⟩
        exact accounts.apart index other named (same ▸ Set.mem_insert home reserved)
  apart index other named member := accounts.apart index other named (Set.mem_insert_of_mem home member)
  unshared := accounts.unshared

theorem stores {place : Home} {bytes : FrameBytes} (accounts : Accounts reserved devices homeOf)
    (stores : devices.Stores place bytes next) : Accounts reserved next homeOf where
  inUse_iff other := by rw [stores.inUse, accounts.inUse_iff]
  apart := accounts.apart
  unshared := accounts.unshared

variable [DecidableEq ι]

/-- A reserved home becomes that of an index, whose old home is reserved instead. -/
theorem enters (accounts : Accounts (insert home reserved) devices homeOf) (apart : home ∉ reserved)
    (enters : ∀ other, moved other = if other = index then some home else homeOf other) :
    Accounts ({old | homeOf index = some old} ∪ reserved) devices moved where
  inUse_iff place := by
    rw [accounts.inUse_iff, Set.mem_insert_iff, Set.mem_union]
    constructor
    · rintro ((rfl | member) | ⟨other, named⟩)
      · exact .inr ⟨index, by rw [enters, if_pos rfl]⟩
      · exact .inl (.inr member)
      · by_cases same : other = index
        · exact .inl (.inl (same ▸ named))
        · exact .inr ⟨other, by rw [enters, if_neg same, named]⟩
    · rintro ((old | member) | ⟨other, named⟩)
      · exact .inr ⟨index, old⟩
      · exact .inl (.inr member)
      · rw [enters] at named
        split at named
        · exact .inl (.inl (Option.some.inj named).symm)
        · exact .inr ⟨other, named⟩
  apart other place named := by
    rw [enters] at named
    split at named
    · obtain rfl := Option.some.inj named
      rintro (old | member)
      · exact accounts.apart index _ old (Set.mem_insert ..)
      · exact apart member
    · next distinct =>
      rintro (old | member)
      · exact distinct (accounts.unshared other index place named old)
      · exact accounts.apart other place named (Set.mem_insert_of_mem home member)
  unshared one other place first second := by
    rw [enters] at first second
    split at first
    · next same =>
      obtain rfl := Option.some.inj first
      split at second
      · next also => exact same.trans also.symm
      · exact (accounts.apart other _ second (Set.mem_insert ..)).elim
    · split at second
      · obtain rfl := Option.some.inj second
        exact (accounts.apart one _ first (Set.mem_insert ..)).elim
      · exact accounts.unshared one other place first second

/-- The home of an index is returned and the index left without one. -/
theorem leaves (accounts : Accounts reserved devices homeOf) (named : homeOf index = some home)
    (returns : devices.Returns home next)
    (leaves : ∀ other, moved other = if other = index then none else homeOf other) :
    Accounts reserved next moved where
  inUse_iff place := by
    rw [returns.inUse, accounts.inUse_iff]
    constructor
    · rintro ⟨distinct, member | ⟨other, present⟩⟩
      · exact .inl member
      · refine .inr ⟨other, ?_⟩
        rw [leaves, if_neg, present]
        rintro rfl
        exact distinct (Option.some.inj (present.symm.trans named))
    · rintro (member | ⟨other, present⟩)
      · exact ⟨fun same => accounts.apart index home named (same ▸ member), .inl member⟩
      · rw [leaves] at present
        split at present
        · contradiction
        · next distinct =>
          refine ⟨?_, .inr ⟨other, present⟩⟩
          rintro rfl
          exact distinct (accounts.unshared other index _ present named)
  apart other place present := by
    rw [leaves] at present
    split at present
    · contradiction
    · exact accounts.apart other place present
  unshared one other place first second := by
    rw [leaves] at first second
    split at first
    · contradiction
    · split at second
      · contradiction
      · exact accounts.unshared one other place first second

end Accounts

end DemandPaging
