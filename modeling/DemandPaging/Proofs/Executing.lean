import DemandPaging.Processor
import DemandPaging.Proofs.Seats

/-! # Programs on peers

A program only sees of an instruction whether it failed, and what goes into its registers. On peers every
instruction ends with one status, so a program runs to its end with the same counts on both sides; and since
no instruction reads a register, the registers differ only by bytes that were read after a raw write. So the
registers of a program without raw writes are the same on both sides as well.
-/

namespace DemandPaging

/-- From related states both actions give related answers and leave related states. -/
def Agree {σ τ α β : Type} (states : σ → τ → Prop) (answers : α → β → Prop) (one : StateM σ α) (other : StateM τ β) :
    Prop :=
  ∀ state mirror, states state mirror →
    answers (one.run state).1 (other.run mirror).1 ∧ states (one.run state).2 (other.run mirror).2

namespace Agree

variable {σ τ α β γ δ : Type} {states : σ → τ → Prop} {answers : α → β → Prop} {inner : γ → δ → Prop}

theorem pure {answer : α} {other : β} (related : answers answer other) :
    Agree states answers (Pure.pure answer) (Pure.pure other) := fun _ _ states => ⟨related, states⟩

theorem bind {one : StateM σ γ} {other : StateM τ δ} {next : γ → StateM σ α} {rest : δ → StateM τ β}
    (first : Agree states inner one other)
    (follows : ∀ answer mirror, inner answer mirror → Agree states answers (next answer) (rest mirror)) :
    Agree states answers (one >>= next) (other >>= rest) := fun state mirror related =>
  follows _ _ (first state mirror related).1 _ _ (first state mirror related).2

theorem modify {change : σ → σ} {alter : τ → τ}
    (keeps : ∀ state mirror, states state mirror → states (change state) (alter mirror)) :
    Agree states (fun _ _ => True) (modify change) (modify alter) :=
  fun state mirror related => ⟨trivial, keeps state mirror related⟩

end Agree

variable {T α β γ δ : Type} [PageTable T]

/-- Whether an instruction writes a byte of RAM by its physical address. -/
def Instruction.strikesRam : Instruction → Bool
  | .syscall number a1 _ _ => number == Parameters.memmapNumber && a1 == MemoryOperation.ioWrite.selector
  | _ => false

/-- Whether any instruction of a program does. -/
def Program.strikesRam (program : Program) : Bool := program.code.any Instruction.strikesRam

theorem MemoryOperation.selector_of_ofSelector? {selector : Nat} {operation : MemoryOperation}
    (selected : ofSelector? selector = some operation) : operation.selector = selector := by
  have same : (operation.selector == selector) = true :=
    List.find?_some (p := fun operation : MemoryOperation => operation.selector == selector) selected
  exact beq_iff_eq.mp same

variable [TotalTable T] {layout : DeviceSet.Layout} {faithful : Prop} {one other : Seat T}

/-- Calls in lockstep agree as actions that cannot fail. -/
theorem Agree.bind_outcome {answers : α → β → Prop} {inner : γ → δ → Prop} {first : KernelAction T γ}
    {second : KernelAction T δ} {next : Except SyscallError γ → StateM (Kernel T) α}
    {rest : Except SyscallError δ → StateM (Kernel T) β}
    (lockstep : Lockstep (seating layout faithful one other) inner first second)
    (done : ∀ answer mirror, inner answer mirror →
      Agree (Seated layout faithful one other) answers (next (.ok answer)) (rest (.ok mirror)))
    (failed : ∀ reason,
      Agree (Seated layout faithful one other) answers (next (.error reason)) (rest (.error reason))) :
    Agree (Seated layout faithful one other) answers (Kernel.outcome first >>= next)
      (Kernel.outcome second >>= rest) := by
  intro kernel mirror seated
  have paired := lockstep kernel mirror seated
  show answers ((Kernel.outcome first >>= next) kernel).1 ((Kernel.outcome second >>= rest) mirror).1 ∧ _
  simp only [StateT.run, Bind.bind, StateT.bind, Kernel.outcome]
  generalize first kernel = result at paired
  generalize second mirror = reflection at paired
  cases paired with
  | answered ended => exact done _ _ ended.1 _ _ ended.2
  | failed ended =>
    obtain ⟨rfl, seated⟩ := ended
    exact failed _ _ _ seated
  | excused never => exact never.elim
  | excusedOther never => exact never.elim

theorem Kernel.agree_emit (event mirrored : Event) :
    Agree (Seated (T := T) layout faithful one other) (fun _ _ => True) (modify (emit event))
      (modify (emit mirrored)) :=
  .modify fun _ _ seated => seated.emit event mirrored

theorem Kernel.agree_syscall (number : Nat) (registers : Registers)
    (struck : number = Parameters.memmapNumber → registers.a1 = MemoryOperation.ioWrite.selector → ¬ faithful) :
    Agree (Seated (T := T) layout faithful one other) (fun answer mirror => answer.1 = mirror.1)
      (syscall one.pid number registers) (syscall other.pid number registers) := by
  have called : Lockstep (seating (T := T) layout faithful one other) (fun _ _ => True)
      (if number = Parameters.memmapNumber then memmap one.pid registers else throw (.unknownSyscall number))
      (if number = Parameters.memmapNumber then memmap other.pid registers else throw (.unknownSyscall number)) := by
    split
    · next known =>
      exact lockstep_memmap registers fun selected =>
        struck known (MemoryOperation.selector_of_ofSelector? selected).symm
    · exact .throw rfl
  refine .bind_outcome called (fun _ _ _ => .pure rfl) fun reason => ?_
  exact (agree_emit _ _).bind fun _ _ _ => .pure rfl

namespace Processor

/-- The registers agree if the match is faithful. -/
def Alike (faithful : Prop) (processor mirror : Processor) : Prop := faithful → processor.registers = mirror.registers

theorem Alike.set {processor mirror : Processor} (alike : processor.Alike faithful mirror) {value echo : Nat}
    (same : faithful → value = echo) (index : Nat) :
    (processor.set index value).Alike faithful (mirror.set index echo) := by
  intro holds
  rw [Processor.set, Processor.set, alike holds, same holds]

/-- The statuses agree, and the processors are alike. -/
def Level (faithful : Prop) (answer mirror : Int × Processor) : Prop :=
  answer.1 = mirror.1 ∧ answer.2.Alike faithful mirror.2

theorem agree_perform {processor mirror : Processor} (alike : processor.Alike faithful mirror)
    (instruction : Instruction) (struck : instruction.strikesRam = true → ¬ faithful) :
    Agree (Seated (T := T) layout faithful one other) (Level faithful) (perform one.pid processor instruction)
      (perform other.pid mirror instruction) := by
  cases instruction with
  | «calc» => exact .pure ⟨rfl, alike⟩
  | alloc size region =>
    refine .bind_outcome (Kernel.lockstep_onProcess (Space.peering_allocate 0 region size)) ?_
      fun _ => .pure ⟨rfl, alike⟩
    rintro start _ rfl
    exact (Kernel.agree_emit _ _).bind fun _ _ _ => .pure ⟨rfl, alike.set (fun _ => rfl) region⟩
  | free region =>
    refine .bind_outcome (Kernel.lockstep_onProcess (Space.peering_release region)) ?_ fun _ => .pure ⟨rfl, alike⟩
    exact fun _ _ _ => .pure ⟨rfl, alike.set (fun _ => rfl) region⟩
  | read region offset register =>
    refine .bind_outcome (Kernel.lockstep_onProcess (Space.peering_readByte region offset)) ?_
      fun _ => .pure ⟨rfl, alike⟩
    intro value echo same
    refine (Kernel.agree_emit _ _).bind fun _ _ _ => ?_
    split
    · exact .pure ⟨rfl, alike.set (fun holds => congrArg UInt8.toNat (same holds)) register⟩
    · exact .pure ⟨rfl, alike⟩
  | write value region offset =>
    exact .bind_outcome (Kernel.lockstep_onProcess (Space.peering_writeByte region offset (UInt8.ofNat value)))
      (fun _ _ _ => .pure ⟨rfl, alike⟩) fun _ => .pure ⟨rfl, alike⟩
  | syscall number a1 a2 a3 =>
    refine (Kernel.agree_syscall number ⟨a1, a2, a3⟩ fun known selected => struck ?_).bind ?_
    · simp [Instruction.strikesRam, known, show a1 = _ from selected]
    · rintro ⟨status, _⟩ ⟨_, _⟩ rfl
      exact .pure ⟨rfl, alike⟩

theorem agree_advance {processor mirror : Processor} (alike : processor.Alike faithful mirror)
    (instruction : Instruction) (struck : instruction.strikesRam = true → ¬ faithful) :
    Agree (Seated (T := T) layout faithful one other) (Level faithful) (advance one.pid processor instruction)
      (advance other.pid mirror instruction) := by
  have stepped : Processor.Alike faithful { processor with next := processor.next + 1 }
      { mirror with next := mirror.next + 1 } := alike
  refine (agree_perform stepped instruction struck).bind ?_
  rintro ⟨status, after⟩ ⟨_, next⟩ ⟨rfl, alike⟩
  dsimp only
  split
  · exact (Kernel.agree_emit _ _).bind fun _ _ _ => .pure ⟨rfl, alike⟩
  · exact .pure ⟨rfl, alike⟩

/-- Both sides run all instructions, with the same counts. -/
theorem agree_runAll {code : List Instruction} (struck : code.any Instruction.strikesRam = true → ¬ faithful)
    {processor mirror : Processor} (alike : processor.Alike faithful mirror) (summary : RunSummary) :
    Agree (Seated (T := T) layout faithful one other)
      (fun answer echo => answer.2 = echo.2 ∧ answer.1.Alike faithful echo.1)
      (runAll one.pid code (processor, summary)) (runAll other.pid code (mirror, summary)) := by
  induction code generalizing processor mirror summary with
  | nil => exact .pure ⟨rfl, alike⟩
  | cons instruction rest ih =>
    rw [List.any_cons, Bool.or_eq_true] at struck
    refine (agree_advance alike instruction (struck ∘ .inl)).bind ?_
    rintro ⟨status, after⟩ ⟨_, next⟩ ⟨rfl, alike⟩
    exact ih (struck ∘ .inr) alike _

theorem agree_run (program : Program) (struck : program.strikesRam = true → ¬ faithful) :
    Agree (Seated (T := T) layout faithful one other)
      (fun answer echo => answer.2 = echo.2 ∧ answer.1.Alike faithful echo.1)
      (run one.pid {} program) (run other.pid {} program) :=
  agree_runAll struck (fun _ => rfl) {}

omit [TotalTable T] in
/-- A program is run to its end, whatever fails on the way. -/
theorem executed_runAll (pid : Nat) (code : List Instruction) (state : Processor × RunSummary) (kernel : Kernel T) :
    ((runAll pid code state).run kernel).1.2.executed = state.2.executed + code.length := by
  induction code generalizing state kernel with
  | nil => rfl
  | cons instruction rest ih =>
    refine (ih _ _).trans ?_
    simp only [RunSummary.count, List.length_cons]
    omega

end Processor

end DemandPaging
