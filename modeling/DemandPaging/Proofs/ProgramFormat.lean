import DemandPaging.Program.Reader
import DemandPaging.Proofs.TextGrammar

/-! # The format of programs

A text is written for a program when its lines, save blank ones and comments, are a header and one line for
each instruction in order. The header is the priority and the number of instructions; an instruction is its
opcode and its operands, where a system call may leave out operands at the end that are zero. How wide the
blanks are, where the comments stand and in which notation a number is written is up to the writer. The
reader accepts a text exactly when it is written for some program, and gives that program back.
-/

namespace DemandPaging.Program

open Text

/-- The word is a decimal number, or a hexadecimal one behind its prefix. -/
inductive Denotes : List Char → Nat → Prop where
  | decimal {word : List Char} {value : Nat} (numeral : Numeral.Signed 10 word value) (bound : value < Word.limit) :
    Denotes word value
  | hexadecimal {mark : Char} {digits : List Char} {value : Nat} (prefixed : mark = 'x' ∨ mark = 'X')
    (numeral : Numeral.Signed 16 digits value) (bound : value < Word.limit) : Denotes ('0' :: mark :: digits) value

/-- The line is blank, or its first character that is not blank is `#`. -/
inductive Skipped : List Char → Prop where
  | blank {line : List Char} (blank : Blank line) : Skipped line
  | comment {gap rest : List Char} (blank : Blank gap) : Skipped (gap ++ '#' :: rest)

/-- The lines that are left when the skipped ones are dropped. -/
inductive Kept : List (List Char) → List (List Char) → Prop where
  | nil : Kept [] []
  | skip {line : List Char} {rest kept : List (List Char)} (skipped : Skipped line) (others : Kept rest kept) :
    Kept (line :: rest) kept
  | keep {line : List Char} {rest kept : List (List Char)} (counts : ¬ Skipped line) (others : Kept rest kept) :
    Kept (line :: rest) (line :: kept)

/-- What is written behind an opcode: all operands, or those of a system call less some zeros at the end. -/
inductive Given (instruction : Instruction) : List Nat → Prop where
  | full : Given instruction instruction.operands
  | shortened {values : List Nat} (omitted : Nat) (call : instruction.opcode = .syscall) (some : values ≠ [])
    (zeros : instruction.operands = values ++ List.replicate omitted 0) : Given instruction values

/-- The words of a line that stands for an instruction. -/
inductive Spells (instruction : Instruction) : List (List Char) → Prop where
  | words {operands : List (List Char)} {values : List Nat} (given : Given instruction values)
    (denoted : List.Forall₂ Denotes operands values) :
    Spells instruction (instruction.opcode.name.toList :: operands)

/-- A text from which a program can be read. -/
inductive Written (program : Program) : List Char → Prop where
  | lines {text header first second : List Char} {lines body : List (List Char)} (lined : Lined text lines)
    (kept : Kept lines (header :: body)) (spaced : Spaced header [first, second])
    (priority : Denotes first program.priority) (small : program.priority < priorityLimit)
    (count : Denotes second program.code.length)
    (code : List.Forall₂ (fun line instruction => ∃ found, Spaced line found ∧ Spells instruction found) body
      program.code) : Written program text

section Results

variable {α β ε : Type} {result : Except ε α} {next : α → Except ε β}

theorem bind_eq_ok_iff {value : β} :
    (result >>= next) = .ok value ↔ ∃ found, result = .ok found ∧ next found = .ok value := by
  cases result <;> simp [bind, Except.bind]

theorem map_eq_ok_iff {f : α → β} {value : β} :
    result.map f = .ok value ↔ ∃ found, result = .ok found ∧ f found = value := by
  cases result <;> simp [Except.map]

/-- Reading a list succeeds when each of its items can be read. -/
theorem mapM_eq_ok_iff {items : List α} {found : List β} :
    items.mapM next = .ok found ↔ List.Forall₂ (fun item value => next item = .ok value) items found := by
  induction items generalizing found with
  | nil => simp [pure, Except.pure, eq_comm]
  | cons item rest ih =>
    simp only [List.mapM_cons, bind_eq_ok_iff, ih, List.forall₂_cons_left_iff, pure, Except.pure, Except.ok.injEq,
      eq_comm (a := found), exists_and_left]

/-- What holds of an item when it is related to anything holds of each item of related lists. -/
theorem forall_mem_of_forall₂ {related : α → β → Prop} {holds : α → Prop} {items : List α} {found : List β}
    (each : List.Forall₂ related items found) (implied : ∀ item value, related item value → holds item) :
    ∀ item ∈ items, holds item := by
  have both := each.imp fun item value relation => And.intro (implied item value relation) relation
  exact ((List.forall₂_and_left _ _).mp both).1

end Results

section Numbers

variable {word : List Char} {value : Nat}

/-- A prefix is no decimal number. -/
theorem not_signed_prefixed {mark : Char} (prefixed : mark = 'x' ∨ mark = 'X') (digits : List Char) :
    ¬ Numeral.Signed 10 ('0' :: mark :: digits) value := by
  rw [Numeral.signed_iff_digits (by simp)]
  rintro ⟨-, _, each, -⟩
  obtain ⟨_, _, -, others, -⟩ := List.forall₂_cons_left_iff.mp each
  obtain ⟨digit, _, isDigit, -, -⟩ := List.forall₂_cons_left_iff.mp others
  have found := (Numeral.digit?_eq_some_iff (by decide)).mpr isDigit
  rcases prefixed with rfl | rfl <;> contradiction

theorem numeral_eq_ok_iff : numeral word = .ok value ↔ Denotes word value := by
  have hexadecimal {mark : Char} (prefixed : mark = 'x' ∨ mark = 'X') (digits : List Char) :
      Numeral.read 16 Word.limit digits = .ok value ↔ Denotes ('0' :: mark :: digits) value := by
    rw [Numeral.read_eq_ok_iff (by decide) (by decide) (by decide)]
    constructor
    · rintro ⟨numeral, bound⟩
      exact .hexadecimal prefixed numeral bound
    · intro denotes
      cases denotes with
      | decimal numeral bound => exact absurd numeral (not_signed_prefixed prefixed digits)
      | hexadecimal _ numeral bound => exact ⟨numeral, bound⟩
  unfold numeral
  split
  · exact hexadecimal (.inl rfl) _
  · exact hexadecimal (.inr rfl) _
  · next lower upper =>
    rw [Numeral.read_eq_ok_iff (by decide) (by decide) (by decide)]
    constructor
    · rintro ⟨numeral, bound⟩
      exact .decimal numeral bound
    · intro denotes
      cases denotes with
      | decimal numeral bound => exact ⟨numeral, bound⟩
      | hexadecimal prefixed numeral bound =>
        rcases prefixed with rfl | rfl
        · exact absurd rfl (lower _)
        · exact absurd rfl (upper _)

theorem number_eq_ok_iff (line : Nat) : number line word = .ok value ↔ Denotes word value := by
  rw [← numeral_eq_ok_iff, number]
  cases numeral word <;> simp

theorem readPriority_eq_ok_iff (line : Nat) :
    readPriority line word = .ok value ↔ Denotes word value ∧ value < priorityLimit := by
  have checked (priority : Nat) : (if priority < priorityLimit then pure priority
      else throw (.malformed line (.priorityRange (String.ofList word))) : Except LoadError Nat) = .ok value ↔
        priority = value ∧ value < priorityLimit := by
    split
    · next small =>
      simp only [pure, Except.pure, Except.ok.injEq]
      constructor
      · rintro rfl
        exact ⟨rfl, small⟩
      · exact And.left
    · next large =>
      simp only [throw, throwThe, MonadExceptOf.throw, reduceCtorEq, false_iff]
      rintro ⟨rfl, small⟩
      exact large small
  simp only [readPriority, bind_eq_ok_iff, number_eq_ok_iff, checked]
  constructor
  · rintro ⟨_, denotes, rfl, small⟩
    exact ⟨denotes, small⟩
  · rintro ⟨denotes, small⟩
    exact ⟨value, denotes, rfl, small⟩

end Numbers

section Lines

variable {line : List Char}

/-- A line that begins with a character that is no blank begins with a word that does. -/
theorem words_cons_of_solid {c : Char} (solid : isBlank c = false) (rest : List Char) :
    ∃ word others, words (c :: rest) = (c :: word) :: others := by
  obtain ⟨found, spaced⟩ := exists_spaced (c :: rest)
  rw [spaced.words_eq]
  generalize same : c :: rest = line at spaced
  cases spaced with
  | nil blank =>
    subst same
    rw [blank c List.mem_cons_self] at solid
    contradiction
  | @cons gap word _ others blank inside _ _ =>
    cases gap with
    | cons first more =>
      obtain rfl := (List.cons.inj same).1
      rw [blank c List.mem_cons_self] at solid
      contradiction
    | nil =>
      cases word with
      | nil => exact absurd rfl inside.1
      | cons first more =>
        obtain rfl := (List.cons.inj same).1
        exact ⟨more, others, rfl⟩

theorem isComment_words_iff : isComment (words line) = true ↔ Skipped line := by
  constructor
  · intro comment
    have spaced : Spaced line (words line) := spaced_iff.mpr rfl
    generalize words line = found at spaced comment
    cases spaced with
    | nil blank => exact .blank blank
    | @cons gap word rest others blank solid _ _ =>
      unfold isComment at comment
      split at comment
      · contradiction
      · next more _ same =>
        obtain rfl := (List.cons.inj same).1
        rw [List.append_assoc, List.cons_append]
        exact .comment blank
      · contradiction
  · intro skipped
    cases skipped with
    | blank blank =>
      have none := words_of_blank blank []
      rw [List.append_nil] at none
      rw [none]
      rfl
    | @comment gap rest blank =>
      obtain ⟨word, others, found⟩ := words_cons_of_solid (show isBlank '#' = false by decide) rest
      rw [words_of_blank blank, found]
      rfl

theorem kept_iff {all kept : List (List Char)} :
    Kept all kept ↔ all.filter (fun line => !isComment (words line)) = kept := by
  constructor
  · intro keeps
    induction keeps with
    | nil => rfl
    | skip skipped _ ih => rw [List.filter_cons, isComment_words_iff.mpr skipped, ← ih]; rfl
    | keep counts _ ih =>
      rw [← isComment_words_iff, Bool.not_eq_true] at counts
      rw [List.filter_cons, counts, ← ih]
      rfl
  · rintro rfl
    induction all with
    | nil => exact .nil
    | cons line rest ih =>
      rw [List.filter_cons]
      cases comment : isComment (words line) with
      | true => exact .skip (isComment_words_iff.mp comment) ih
      | false =>
        apply Kept.keep _ ih
        rw [← isComment_words_iff, comment]
        exact Bool.false_ne_true

/-- The lines that count with their words, the first of all lines having the number `start`. -/
def numbered (start : Nat) (all : List (List Char)) : List (Nat × List (List Char)) :=
  (all.zipIdx start).filterMap fun (line, number) =>
    let found := words line
    if isComment found then none else some (number, found)

theorem numbered_cons (start : Nat) (line : List Char) (rest : List (List Char)) : numbered start (line :: rest) =
    if isComment (words line) then numbered (start + 1) rest
    else (start, words line) :: numbered (start + 1) rest := by
  cases comment : isComment (words line) <;> simp [numbered, comment]

/-- The lines that count are those that are kept, whatever their numbers. -/
theorem words_numbered (start : Nat) (all : List (List Char)) :
    (numbered start all).map Prod.snd = (all.filter fun line => !isComment (words line)).map words := by
  induction all generalizing start with
  | nil => rfl
  | cons line rest ih =>
    rw [numbered_cons, List.filter_cons]
    cases comment : isComment (words line) with
    | true => simp [ih]
    | false => simp [ih]

theorem words_significantLines (text : List Char) :
    (significantLines text).map Prod.snd = ((lines text).filter fun line => !isComment (words line)).map words :=
  words_numbered 1 (lines text)

end Lines

section Instructions

theorem ofName?_eq_some_iff {name : String} {opcode : Opcode} :
    Opcode.ofName? name = some opcode ↔ name = opcode.name := by
  constructor
  · intro found
    have same := List.find?_some found
    exact (beq_iff_eq.mp same).symm
  · rintro rfl
    cases opcode <;> decide

/-- The operands of an instruction that is read are the values given, and zeros behind them. -/
theorem operands_instruction {opcode : Opcode} {values : List Nat} (most : values.length ≤ opcode.operandRange.2) :
    (opcode.instruction values).operands =
      values ++ List.replicate (opcode.operandRange.2 - values.length) 0 := by
  have listed : (opcode.instruction values).operands =
      (List.range opcode.operandRange.2).map fun index => values[index]?.getD 0 := by
    cases opcode <;> rfl
  rw [listed]
  apply List.ext_getElem
  · simp
    omega
  · intro index _ _
    rw [List.getElem_map, List.getElem_range, List.getElem_append]
    split
    · next inside => simp [inside]
    · next beyond => simp [Nat.le_of_not_lt beyond]

theorem instruction_append_zeros (opcode : Opcode) (values : List Nat) (omitted : Nat) :
    opcode.instruction (values ++ List.replicate omitted 0) = opcode.instruction values := by
  have zeros (index : Nat) :
      (values ++ List.replicate omitted 0)[index]?.getD 0 = values[index]?.getD 0 := by
    rw [List.getElem?_append]
    split
    · rfl
    · next beyond =>
      rw [List.getElem?_eq_none (Nat.le_of_not_lt beyond), List.getElem?_replicate]
      split <;> rfl
  cases opcode <;> simp only [Opcode.instruction, zeros]

theorem opcode_instruction (opcode : Opcode) (values : List Nat) : (opcode.instruction values).opcode = opcode := by
  cases opcode <;> rfl

/-- Values are given for an instruction when their number is in order and they make up that instruction. -/
theorem given_iff {opcode : Opcode} {instruction : Instruction} {values : List Nat} :
    (opcode.operandRange.1 ≤ values.length ∧ values.length ≤ opcode.operandRange.2) ∧
        opcode.instruction values = instruction ↔ instruction.opcode = opcode ∧ Given instruction values := by
  constructor
  · rintro ⟨⟨least, most⟩, rfl⟩
    refine ⟨opcode_instruction opcode values, ?_⟩
    have padded := operands_instruction most
    by_cases full : values.length = opcode.operandRange.2
    · rw [full, Nat.sub_self, List.replicate_zero, List.append_nil] at padded
      have whole : Given (opcode.instruction values) (opcode.instruction values).operands := .full
      rwa [padded] at whole
    · have call : opcode = .syscall := by
        cases opcode <;> simp only [Opcode.operandRange, reduceCtorEq] at least most full ⊢ <;> omega
      subst call
      have some : values ≠ [] := List.ne_nil_of_length_pos least
      exact .shortened _ rfl some padded
  · rintro ⟨rfl, given⟩
    cases given with
    | full =>
      refine ⟨⟨?_, instruction.length_operands.le⟩, instruction.instruction_operands⟩
      rw [instruction.length_operands]
      cases instruction.opcode <;> decide
    | shortened omitted call some zeros =>
      have total := congrArg List.length zeros
      rw [instruction.length_operands, List.length_append, List.length_replicate] at total
      refine ⟨⟨?_, by omega⟩, ?_⟩
      · rw [call]
        exact List.length_pos_of_ne_nil some
      · rw [← instruction_append_zeros _ values omitted, ← zeros]
        exact instruction.instruction_operands

theorem operands_eq_ok_iff {line : Nat} {opcode : Opcode} {found : List (List Char)} {values : List Nat} :
    operands line opcode found = .ok values ↔
      (opcode.operandRange.1 ≤ values.length ∧ values.length ≤ opcode.operandRange.2) ∧
        List.Forall₂ Denotes found values := by
  simp only [operands]
  split
  · next counted =>
    rw [mapM_eq_ok_iff]
    simp only [number_eq_ok_iff]
    constructor
    · intro denoted
      exact ⟨denoted.length_eq ▸ counted, denoted⟩
    · exact And.right
  · next miscounted =>
    simp only [reduceCtorEq, false_iff]
    rintro ⟨counted, denoted⟩
    exact miscounted (denoted.length_eq ▸ counted)

theorem instruction_eq_ok_iff {line : Nat} {found : List (List Char)} {instruction : Instruction} :
    Program.instruction line found = .ok instruction ↔ Spells instruction found := by
  cases found with
  | nil =>
    simp only [Program.instruction, reduceCtorEq, false_iff]
    exact nofun
  | cons word rest =>
    simp only [Program.instruction]
    split
    · next unknown =>
      simp only [reduceCtorEq, false_iff]
      intro spells
      cases spells
      rw [String.ofList_toList, ofName?_eq_some_iff.mpr rfl] at unknown
      contradiction
    · next opcode known =>
      have named : word = opcode.name.toList := by
        rw [← ofName?_eq_some_iff.mp known, String.toList_ofList]
      simp only [map_eq_ok_iff, operands_eq_ok_iff]
      constructor
      · rintro ⟨values, ⟨counted, denoted⟩, same⟩
        obtain ⟨rfl, given⟩ := given_iff.mp ⟨counted, same⟩
        rw [named]
        exact .words given denoted
      · intro spells
        cases spells with
        | @words _ values given denoted =>
          rw [String.ofList_toList, ofName?_eq_some_iff.mpr rfl] at known
          obtain rfl := Option.some.inj known
          obtain ⟨counted, same⟩ := given_iff.mpr ⟨rfl, given⟩
          exact ⟨values, ⟨counted, denoted⟩, same⟩

end Instructions

section Texts

variable {text : List Char} {program : Program}

/-- What is read depends on the words of the lines that count, and not on their numbers. -/
theorem ofText_eq_ok_iff_words : ofText text = .ok program ↔
    ∃ first second rest, (significantLines text).map Prod.snd = [first, second] :: rest ∧
      (Denotes first program.priority ∧ program.priority < priorityLimit) ∧ Denotes second program.code.length ∧
      List.Forall₂ (fun found instruction => Spells instruction found) rest program.code := by
  unfold ofText
  split
  · next line first second rest same =>
    have listed : (significantLines text).map Prod.snd = [first, second] :: rest.map Prod.snd := by
      rw [same, List.map_cons]
    simp only [bind_eq_ok_iff, readPriority_eq_ok_iff, number_eq_ok_iff, mapM_eq_ok_iff, instruction_eq_ok_iff]
    constructor
    · rintro ⟨priority, first_ok, expected, second_ok, code, spelled, counted⟩
      split at counted
      · next same =>
        obtain rfl := Except.ok.inj counted
        exact ⟨first, second, _, listed, first_ok, same ▸ second_ok, List.forall₂_map_left_iff.mpr spelled⟩
      · contradiction
    · rintro ⟨_, _, _, also, first_ok, second_ok, spelled⟩
      obtain ⟨header, rfl⟩ := List.cons.inj (listed.symm.trans also)
      obtain ⟨rfl, others⟩ := List.cons.inj header
      obtain ⟨rfl, -⟩ := List.cons.inj others
      exact ⟨_, first_ok, _, second_ok, program.code, List.forall₂_map_left_iff.mp spelled, if_pos rfl⟩
  · next other =>
    simp only [reduceCtorEq, false_iff]
    rintro ⟨first, second, rest, same, -⟩
    obtain ⟨⟨line, found⟩, others, listed, rfl, -⟩ := List.map_eq_cons_iff.mp same
    exact other _ _ _ _ listed

/-- The reader accepts the texts that are written for a program, and no others, and gives that program. -/
theorem ofText_eq_ok_iff (text : List Char) (program : Program) :
    ofText text = .ok program ↔ Written program text := by
  rw [ofText_eq_ok_iff_words, words_significantLines]
  constructor
  · rintro ⟨first, second, rest, same, ⟨priority, small⟩, count, code⟩
    obtain ⟨header, body, kept, spaced, rfl⟩ := List.map_eq_cons_iff.mp same
    apply Written.lines (lined_iff.mpr rfl) (kept_iff.mpr kept) (spaced_iff.mpr spaced) priority small count
    rw [List.forall₂_map_left_iff] at code
    apply code.imp
    intro line instruction spells
    exact ⟨_, spaced_iff.mpr rfl, spells⟩
  · rintro ⟨lined, kept, spaced, priority, small, count, code⟩
    rw [lined_iff] at lined
    rw [lined, kept_iff.mp kept, List.map_cons, spaced_iff.mp spaced]
    refine ⟨_, _, _, rfl, ⟨priority, small⟩, count, ?_⟩
    rw [List.forall₂_map_left_iff]
    apply code.imp
    rintro line instruction ⟨found, spaced, spells⟩
    rwa [spaced_iff.mp spaced]

end Texts

section Rendering

/-- The numbers of a program fit where they are written. -/
structure InRange (program : Program) : Prop where
  priority : program.priority < priorityLimit
  count : program.code.length < Word.limit
  operands : ∀ instruction ∈ program.code, ∀ value ∈ instruction.operands, value < Word.limit

/-- The words of an instruction, with all operands in decimal. -/
def spelling (instruction : Instruction) : List (List Char) :=
  instruction.opcode.name.toList :: instruction.operands.map Numeral.decimal

/-- The words of a header. -/
def heading (program : Program) : List (List Char) :=
  [Numeral.decimal program.priority, Numeral.decimal program.code.length]

/-- The lines of a program, with one blank behind each word. -/
def renderedLines (program : Program) : List (List Char) :=
  unwords program.heading :: program.code.map fun instruction => unwords (spelling instruction)

/-- A program as a text, with a line feed behind each line. -/
def render (program : Program) : List Char := unlines program.renderedLines

variable {program : Program} {instruction : Instruction} {value : Nat}

theorem denotes_decimal (bound : value < Word.limit) : Denotes (Numeral.decimal value) value :=
  .decimal (.bare (Numeral.digits_decimal value)) bound

/-- A digit is no blank and begins no comment. -/
theorem plain_of_isDigit {c : Char} (digit : Numeral.IsDigit 10 c value) : isBlank c = false ∧ c ≠ '#' := by
  have plain : ∀ value < 10, ∀ c, c = Nat.digitChar value ∨ c = (Nat.digitChar value).toUpper →
      isBlank c = false ∧ c ≠ '#' := by
    simp only [forall_eq_or_imp, forall_eq]
    decide
  exact plain value digit.1 c digit.2

theorem plain_decimal (value : Nat) : ∀ c ∈ Numeral.decimal value, isBlank c = false ∧ c ≠ '#' := by
  obtain ⟨-, digits, each, -⟩ := Numeral.digits_decimal value
  exact forall_mem_of_forall₂ each fun _ _ => plain_of_isDigit

theorem solid_decimal (value : Nat) : Solid (Numeral.decimal value) :=
  ⟨(Numeral.digits_decimal value).1, fun c member => (plain_decimal value c member).1⟩

/-- A line whose first word begins no comment counts. -/
theorem not_skipped_unwords {word : List Char} {others : List (List Char)}
    (solid : ∀ found ∈ word :: others, Solid found) (plain : ∀ c ∈ word, c ≠ '#') :
    ¬ Skipped (unwords (word :: others)) := by
  rw [← isComment_words_iff, (spaced_unwords solid).words_eq]
  cases word with
  | nil => exact absurd rfl (solid [] List.mem_cons_self).1
  | cons c rest =>
    unfold isComment
    split
    · contradiction
    · next same =>
      have first := (List.cons.inj (List.cons.inj same).1).1
      exact absurd first (plain c List.mem_cons_self)
    · exact Bool.false_ne_true

theorem solid_heading (program : Program) : ∀ word ∈ program.heading, Solid word := by
  simp only [heading, List.forall_mem_cons, solid_decimal, true_and]
  exact List.forall_mem_nil _

theorem solid_name (opcode : Opcode) : Solid opcode.name.toList ∧ ∀ c ∈ opcode.name.toList, c ≠ '#' := by
  cases opcode <;> simp [Solid, Opcode.name] <;> decide

theorem solid_spelling (instruction : Instruction) : ∀ word ∈ spelling instruction, Solid word := by
  rw [spelling, List.forall_mem_cons, List.forall_mem_map]
  exact ⟨(solid_name _).1, fun value _ => solid_decimal value⟩

theorem kept_self {lines : List (List Char)} (count : ∀ line ∈ lines, ¬ Skipped line) :
    Kept (lines ++ [[]]) lines := by
  induction lines with
  | nil => exact .skip (.blank (List.forall_mem_nil _)) .nil
  | cons line rest ih =>
    obtain ⟨first, others⟩ := List.forall_mem_cons.mp count
    exact .keep first (ih others)

theorem spells_spelling (bound : ∀ value ∈ instruction.operands, value < Word.limit) :
    Spells instruction (spelling instruction) := by
  apply Spells.words .full
  rw [List.forall₂_map_left_iff, List.forall₂_same]
  intro value member
  exact denotes_decimal (bound value member)

/-- A rendered line consists of words of which the first begins no comment. -/
theorem words_of_mem_renderedLines {line : List Char} (member : line ∈ program.renderedLines) :
    ∃ word others, line = unwords (word :: others) ∧ (∀ found ∈ word :: others, Solid found) ∧
      ∀ c ∈ word, c ≠ '#' := by
  rcases List.mem_cons.mp member with rfl | instructed
  · exact ⟨_, _, rfl, program.solid_heading, fun c digit => (plain_decimal _ c digit).2⟩
  · obtain ⟨instruction, -, rfl⟩ := List.mem_map.mp instructed
    exact ⟨_, _, rfl, solid_spelling instruction, (solid_name instruction.opcode).2⟩

/-- A rendered program is written as it should be. -/
theorem written_render (inRange : program.InRange) : Written program program.render := by
  have whole : ∀ line ∈ program.renderedLines, '\n' ∉ line := by
    intro line member
    obtain ⟨word, others, rfl, solid, -⟩ := words_of_mem_renderedLines member
    exact feed_not_mem_unwords solid
  have count : ∀ line ∈ program.renderedLines, ¬ Skipped line := by
    intro line member
    obtain ⟨word, others, rfl, solid, plain⟩ := words_of_mem_renderedLines member
    exact not_skipped_unwords solid plain
  have priority : program.priority < Word.limit := inRange.priority.trans (by decide)
  apply Written.lines (lined_unlines whole) (kept_self count) (spaced_unwords program.solid_heading)
    (denotes_decimal priority) inRange.priority (denotes_decimal inRange.count)
  rw [List.forall₂_map_left_iff, List.forall₂_same]
  intro instruction member
  exact ⟨_, spaced_unwords (solid_spelling instruction), spells_spelling (inRange.operands instruction member)⟩

theorem Denotes.lt_limit {word : List Char} (denotes : Denotes word value) : value < Word.limit := by
  cases denotes with
  | decimal _ bound => exact bound
  | hexadecimal _ _ bound => exact bound

/-- Only operands in range can be spelled. -/
theorem Spells.lt_limit {found : List (List Char)} (spells : Spells instruction found) :
    ∀ value ∈ instruction.operands, value < Word.limit := by
  cases spells with
  | @words operands values given denoted =>
    have bounded : ∀ value ∈ values, value < Word.limit :=
      forall_mem_of_forall₂ denoted.flip fun _ _ => Denotes.lt_limit
    cases given with
    | full => exact bounded
    | shortened omitted _ _ zeros =>
      rw [zeros]
      intro value member
      rcases List.mem_append.mp member with given | zero
      · exact bounded value given
      · rw [List.eq_of_mem_replicate zero]
        decide

theorem Written.inRange {text : List Char} (written : Written program text) : program.InRange := by
  obtain ⟨-, -, -, -, small, count, code⟩ := written
  constructor
  · exact small
  · exact count.lt_limit
  · refine forall_mem_of_forall₂ code.flip ?_
    rintro instruction line ⟨found, -, spells⟩
    exact spells.lt_limit

/-- Reading is faithful to the format, and the format has a text for each program whose numbers fit. -/
theorem ofText_faithful : (∀ text program, ofText text = .ok program ↔ Written program text) ∧
    ∀ program, (∃ text, Written program text) ↔ program.InRange := by
  constructor
  · exact ofText_eq_ok_iff
  · intro program
    constructor
    · rintro ⟨text, written⟩
      exact written.inRange
    · intro inRange
      exact ⟨program.render, written_render inRange⟩

example : ofText "# one call\r\n\t+1 0X1\r\n\n  syscall 0x0011\u00a04".toList =
    .ok { priority := 1, code := [.syscall 17 4 0 0] } := by decide +kernel

end Rendering

end DemandPaging.Program
