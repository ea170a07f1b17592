import DemandPaging.Proofs.ProgramFormat

/-! # Where a text is refused

A text that is no program has no header of two words, or a first line that is not well formed where it stands,
or well-formed lines that are not as many as announced. The reader tells the three apart, points at that line by
its number among all lines of the text, and gives both numbers of the last case.
-/

namespace DemandPaging

open Text

/-- The line that an error points at. -/
def LoadError.line? : LoadError → Option Nat
  | .malformed line _ | .unknownOpcode line _ => some line
  | .unreadable _ _ | .missingHeader | .countMismatch _ _ => none

namespace Program

/-- The two words of a header that announces a number of instructions. -/
def Announces (first second : List Char) (announced : Nat) : Prop :=
  (∃ priority, Denotes first priority ∧ priority < priorityLimit) ∧ Denotes second announced

/-- The words of some instruction. -/
def Spelled (found : List (List Char)) : Prop := ∃ instruction, Spells instruction found

/-- The line is a header that announces a number of instructions. -/
def Heads (line : List Char) (announced : Nat) : Prop :=
  ∃ first second, Spaced line [first, second] ∧ Announces first second announced

/-- The line stands for an instruction. -/
def Instructs (line : List Char) : Prop := ∃ found, Spaced line found ∧ Spelled found

/-- No line counts, or the first that does has not two words. -/
inductive Headless (text : List Char) : Prop where
  | blank {lines : List (List Char)} (lined : Lined text lines) (kept : Kept lines [])
  | other {lines body : List (List Char)} {header : List Char} {found : List (List Char)} (lined : Lined text lines)
    (kept : Kept lines (header :: body)) (spaced : Spaced header found) (count : found.length ≠ 2)

/-- The first line that is not well formed where it stands, by its number among all lines: a first line of two
words that is no header, or a later one that is no instruction. -/
inductive Offends (text : List Char) : Nat → Prop where
  | header {before behind : List (List Char)} {line first second : List Char}
    (lined : Lined text (before ++ line :: behind)) (kept : Kept before []) (counts : ¬ Skipped line)
    (spaced : Spaced line [first, second]) (broken : ∀ announced, ¬ Heads line announced) :
    Offends text (before.length + 1)
  | body {before behind body : List (List Char)} {line header : List Char} {announced : Nat}
    (lined : Lined text (before ++ line :: behind)) (kept : Kept before (header :: body)) (counts : ¬ Skipped line)
    (heads : Heads header announced) (instructs : ∀ earlier ∈ body, Instructs earlier) (broken : ¬ Instructs line) :
    Offends text (before.length + 1)

/-- All lines are well formed, and there are not as many instructions as announced. -/
inductive Miscounted (text : List Char) (announced : Nat) : Nat → Prop where
  | lines {lines body : List (List Char)} {header : List Char} (lined : Lined text lines)
    (kept : Kept lines (header :: body)) (heads : Heads header announced)
    (instructs : ∀ line ∈ body, Instructs line) (differs : body.length ≠ announced) :
    Miscounted text announced body.length

/-- Reads a header of two words. -/
def readHeader (line : Nat) (first second : List Char) : Except LoadError (Nat × Nat) := do
  let priority ← readPriority line first
  let announced ← number line second
  return (priority, announced)

/-- Reads the lines behind a header. -/
def readBody (priority announced : Nat) (rest : List (Nat × List (List Char))) : Except LoadError Program := do
  let code ← rest.mapM fun (line, found) => instruction line found
  if code.length = announced then return { priority, code }
  else throw (.countMismatch announced code.length)

/-- How the lines that count lead to an error: without a header of two words, at the header, at the first line
behind it that is no instruction, or at the number of the instructions. -/
inductive Fails : List (Nat × List (List Char)) → LoadError → Prop where
  | headless {lines : List (Nat × List (List Char))}
    (other : ∀ line first second rest, lines ≠ (line, [first, second]) :: rest) : Fails lines .missingHeader
  | header {line : Nat} {first second : List Char} {rest : List (Nat × List (List Char))} {reason : LoadError}
    (failed : readHeader line first second = .error reason) : Fails ((line, [first, second]) :: rest) reason
  | body {line number announced : Nat} {first second : List Char} {ahead behind : List (Nat × List (List Char))}
    {found : List (List Char)} {reason : LoadError} (announces : Announces first second announced)
    (spelled : ∀ earlier ∈ ahead, Spelled earlier.2) (failed : instruction number found = .error reason) :
    Fails ((line, [first, second]) :: (ahead ++ (number, found) :: behind)) reason
  | count {line announced : Nat} {first second : List Char} {rest : List (Nat × List (List Char))}
    (announces : Announces first second announced) (spelled : ∀ later ∈ rest, Spelled later.2)
    (differs : rest.length ≠ announced) :
    Fails ((line, [first, second]) :: rest) (.countMismatch announced rest.length)

section Results

variable {α β ε : Type} {result : Except ε α} {next : α → Except ε β} {reason : ε}

theorem bind_eq_error_iff : (result >>= next) = .error reason ↔
    result = .error reason ∨ ∃ found, result = .ok found ∧ next found = .error reason := by
  cases result <;> simp [bind, Except.bind]

theorem map_eq_error_iff {f : α → β} {result : Except ε α} : result.map f = .error reason ↔ result = .error reason := by
  cases result <;> simp [Except.map]

/-- Reading a list fails at its first item that cannot be read. -/
theorem mapM_eq_error_iff {items : List α} : items.mapM next = .error reason ↔
    ∃ before item behind, items = before ++ item :: behind ∧ (∀ earlier ∈ before, ∃ value, next earlier = .ok value) ∧
      next item = .error reason := by
  induction items with
  | nil => simp [pure, Except.pure]
  | cons item rest ih =>
    rw [List.mapM_cons, bind_eq_error_iff]
    simp only [bind_eq_error_iff, ih, pure, Except.pure, reduceCtorEq, and_false, exists_false, or_false]
    constructor
    · rintro (failed | ⟨value, read, before, later, behind, rfl, all, failed⟩)
      · exact ⟨[], item, rest, rfl, List.forall_mem_nil _, failed⟩
      · exact ⟨item :: before, later, behind, rfl, List.forall_mem_cons.mpr ⟨⟨value, read⟩, all⟩, failed⟩
    · rintro ⟨before, later, behind, split, all, failed⟩
      cases before with
      | nil =>
        obtain ⟨rfl, rfl⟩ := List.cons.inj split
        exact .inl failed
      | cons first before =>
        obtain ⟨rfl, rfl⟩ := List.cons.inj split
        obtain ⟨⟨value, read⟩, all⟩ := List.forall_mem_cons.mp all
        exact .inr ⟨value, read, before, later, behind, rfl, all, failed⟩

end Results

section Lines

variable {line : Nat} {word : List Char} {found : List (List Char)} {reason : LoadError}

theorem line?_of_number (failed : number line word = .error reason) : reason.line? = some line := by
  unfold number at failed
  split at failed
  · contradiction
  · obtain rfl := Except.error.inj failed
    rfl

theorem line?_of_readPriority (failed : readPriority line word = .error reason) : reason.line? = some line := by
  rw [readPriority, bind_eq_error_iff] at failed
  rcases failed with failed | ⟨priority, -, failed⟩
  · exact line?_of_number failed
  · split at failed
    · contradiction
    · obtain rfl := Except.error.inj failed
      rfl

theorem line?_of_operands {opcode : Opcode} (failed : operands line opcode found = .error reason) :
    reason.line? = some line := by
  simp only [operands] at failed
  split at failed
  · obtain ⟨_, word, _, -, -, failed⟩ := mapM_eq_error_iff.mp failed
    exact line?_of_number failed
  · obtain rfl := Except.error.inj failed
    rfl

/-- Every error of a line names that line. -/
theorem line?_of_instruction (failed : Program.instruction line found = .error reason) :
    reason.line? = some line := by
  unfold Program.instruction at failed
  split at failed
  · obtain rfl := Except.error.inj failed
    rfl
  · split at failed
    · obtain rfl := Except.error.inj failed
      rfl
    · next opcode _ =>
      rw [map_eq_error_iff] at failed
      exact line?_of_operands failed

variable {first second : List Char} {priority announced : Nat} {rest : List (Nat × List (List Char))}

theorem line?_of_readHeader (failed : readHeader line first second = .error reason) : reason.line? = some line := by
  simp only [readHeader, bind_eq_error_iff, pure, Except.pure, reduceCtorEq, and_false, exists_false, or_false]
    at failed
  rcases failed with failed | ⟨_, -, failed⟩
  · exact line?_of_readPriority failed
  · exact line?_of_number failed

theorem announces_iff : Announces first second announced ↔
    ∃ priority, readHeader line first second = .ok (priority, announced) := by
  simp only [readHeader, bind_eq_ok_iff, readPriority_eq_ok_iff, number_eq_ok_iff, pure, Except.pure, Except.ok.injEq,
    Prod.mk.injEq]
  constructor
  · rintro ⟨⟨priority, denotes, small⟩, count⟩
    exact ⟨priority, priority, ⟨denotes, small⟩, announced, count, rfl, rfl⟩
  · rintro ⟨priority, _, ⟨denotes, small⟩, _, count, rfl, rfl⟩
    exact ⟨⟨_, denotes, small⟩, count⟩

theorem spelled_iff (line : Nat) : Spelled found ↔ ∃ instruction, Program.instruction line found = .ok instruction := by
  simp only [instruction_eq_ok_iff]
  rfl

/-- Lines are read when each of them stands for an instruction. -/
theorem exists_code_iff : (∃ code, (rest.mapM fun (line, found) => Program.instruction line found) = .ok code) ↔
    ∀ later ∈ rest, Spelled later.2 := by
  constructor
  · rintro ⟨code, read⟩
    refine forall_mem_of_forall₂ (mapM_eq_ok_iff.mp read) fun item instruction read => ?_
    exact (spelled_iff item.1).mpr ⟨instruction, read⟩
  · intro spelled
    cases read : rest.mapM fun (line, found) => Program.instruction line found with
    | ok code => exact ⟨code, rfl⟩
    | error reason =>
      obtain ⟨ahead, ⟨line, found⟩, behind, rfl, -, failed⟩ := mapM_eq_error_iff.mp read
      obtain ⟨instruction, read⟩ := (spelled_iff line).mp (spelled _ (List.mem_append_right ahead List.mem_cons_self))
      exact nomatch read.symm.trans failed

/-- Reading the lines behind a header fails at the first that is no instruction, or else at their number. -/
theorem readBody_eq_error_iff : readBody priority announced rest = .error reason ↔
    (∃ ahead line found behind, rest = ahead ++ (line, found) :: behind ∧ (∀ earlier ∈ ahead, Spelled earlier.2) ∧
      Program.instruction line found = .error reason) ∨
    (∀ later ∈ rest, Spelled later.2) ∧ rest.length ≠ announced ∧ reason = .countMismatch announced rest.length := by
  have checked (code : List Instruction) : (if code.length = announced then pure { priority, code }
      else throw (.countMismatch announced code.length) : Except LoadError Program) = .error reason ↔
        code.length ≠ announced ∧ reason = .countMismatch announced code.length := by
    split
    · next same => simp [pure, Except.pure, same]
    · next differs => simp [throw, throwThe, MonadExceptOf.throw, differs, eq_comm]
  simp only [readBody, bind_eq_error_iff, mapM_eq_error_iff, checked]
  apply or_congr
  · constructor
    · rintro ⟨ahead, ⟨line, found⟩, behind, rfl, read, failed⟩
      refine ⟨ahead, line, found, behind, rfl, fun earlier member => ?_, failed⟩
      exact (spelled_iff earlier.1).mpr (read earlier member)
    · rintro ⟨ahead, line, found, behind, rfl, spelled, failed⟩
      refine ⟨ahead, (line, found), behind, rfl, fun earlier member => ?_, failed⟩
      exact (spelled_iff earlier.1).mp (spelled earlier member)
  · rw [← exists_code_iff]
    constructor
    · rintro ⟨code, read, differs, rfl⟩
      rw [← (mapM_eq_ok_iff.mp read).length_eq] at differs ⊢
      exact ⟨⟨code, read⟩, differs, rfl⟩
    · rintro ⟨⟨code, read⟩, differs, rfl⟩
      rw [(mapM_eq_ok_iff.mp read).length_eq] at differs ⊢
      exact ⟨code, read, differs, rfl⟩

theorem fails_iff_of_header : Fails ((line, [first, second]) :: rest) reason ↔
    readHeader line first second = .error reason ∨ ∃ priority announced,
      readHeader line first second = .ok (priority, announced) ∧ readBody priority announced rest = .error reason := by
  simp only [readBody_eq_error_iff]
  constructor
  · intro fails
    cases fails with
    | headless other => exact absurd rfl (other _ _ _ _)
    | header failed => exact .inl failed
    | body announces spelled failed =>
      obtain ⟨priority, read⟩ := announces_iff.mp announces
      exact .inr ⟨priority, _, read, .inl ⟨_, _, _, _, rfl, spelled, failed⟩⟩
    | count announces spelled differs =>
      obtain ⟨priority, read⟩ := announces_iff.mp announces
      exact .inr ⟨priority, _, read, .inr ⟨spelled, differs, rfl⟩⟩
  · rintro (failed | ⟨priority, announced, read, failed⟩)
    · exact .header failed
    · have announces := announces_iff.mpr ⟨priority, read⟩
      rcases failed with ⟨ahead, number, found, behind, rfl, spelled, failed⟩ | ⟨spelled, differs, rfl⟩
      · exact .body announces spelled failed
      · exact .count announces spelled differs

theorem ofText_eq_error_iff {text : List Char} :
    ofText text = .error reason ↔ Fails (significantLines text) reason := by
  unfold ofText
  split
  · next line first second rest same =>
    rw [same, fails_iff_of_header]
    have parts : (do
        let priority ← readPriority line first
        let announced ← number line second
        let code ← rest.mapM fun (line, found) => Program.instruction line found
        if code.length = announced then pure { priority, code } else throw (.countMismatch announced code.length)) =
          readHeader line first second >>= fun header => readBody header.1 header.2 rest := by
      simp only [readHeader, bind_assoc]
      rfl
    rw [parts, bind_eq_error_iff, Prod.exists]
  · next other =>
    constructor
    · intro failed
      obtain rfl := Except.error.inj failed
      exact .headless fun line first second rest same => other _ _ _ _ same
    · intro fails
      generalize significantLines text = lines at other fails
      cases fails with
      | headless _ => rfl
      | header _ => exact absurd rfl (other _ _ _ _)
      | body _ _ _ => exact absurd rfl (other _ _ _ _)
      | count _ _ _ => exact absurd rfl (other _ _ _ _)

end Lines

section Places

variable {text line : List Char} {all before behind kept : List (List Char)} {start number announced count : Nat}
  {found : List (List Char)} {ahead rest : List (Nat × List (List Char))}

theorem exists_kept (all : List (List Char)) : ∃ kept, Kept all kept := ⟨_, kept_iff.mpr rfl⟩

theorem words_of_kept (keeps : Kept all kept) (start : Nat) :
    (numbered start all).map Prod.snd = kept.map words := by
  rw [words_numbered, kept_iff.mp keeps]

theorem numbered_append (start : Nat) (before behind : List (List Char)) : numbered start (before ++ behind) =
    numbered start before ++ numbered (start + before.length) behind := by
  rw [numbered, List.zipIdx_append, List.filterMap_append]
  rfl

theorem numbered_cons_of_counts (counts : ¬ Skipped line) (start : Nat) (rest : List (List Char)) :
    numbered start (line :: rest) = (start, words line) :: numbered (start + 1) rest := by
  rw [numbered_cons, if_neg (mt isComment_words_iff.mp counts)]

/-- A line that counts has all lines before it, whether they count or not, before it in number. -/
theorem split_of_numbered (same : numbered start all = ahead ++ (number, found) :: rest) :
    ∃ before line behind, all = before ++ line :: behind ∧ numbered start before = ahead ∧ ¬ Skipped line ∧
      words line = found ∧ number = start + before.length := by
  induction all generalizing start ahead with
  | nil => exact absurd same.symm (List.append_ne_nil_of_right_ne_nil _ (List.cons_ne_nil _ _))
  | cons first others ih =>
    rw [numbered_cons] at same
    split at same
    · next comment =>
      obtain ⟨before, line, behind, rfl, rfl, counts, words, rfl⟩ := ih same
      refine ⟨first :: before, line, behind, rfl, ?_, counts, words, ?_⟩
      · rw [numbered_cons, if_pos comment]
      · rw [List.length_cons, Nat.add_assoc, Nat.add_comm 1]
    · next counted =>
      cases ahead with
      | nil =>
        obtain ⟨rfl, rfl⟩ := Prod.mk.inj (List.cons.inj same).1
        exact ⟨[], first, others, rfl, rfl, mt isComment_words_iff.mpr counted, rfl, rfl⟩
      | cons item ahead =>
        obtain ⟨rfl, later⟩ := List.cons.inj same
        obtain ⟨before, line, behind, rfl, rfl, counts, words, rfl⟩ := ih later
        refine ⟨first :: before, line, behind, rfl, ?_, counts, words, ?_⟩
        · rw [numbered_cons, if_neg counted]
        · rw [List.length_cons, Nat.add_assoc, Nat.add_comm 1]

/-- The line with a number is the one with as many lines before it, less one. -/
theorem place_of_significant (same : significantLines text = ahead ++ (number, found) :: rest) :
    ∃ before line behind, Lined text (before ++ line :: behind) ∧ numbered 1 before = ahead ∧ ¬ Skipped line ∧
      words line = found ∧ number = before.length + 1 := by
  obtain ⟨before, line, behind, cut, ahead, counts, found, number⟩ := split_of_numbered same
  exact ⟨before, line, behind, lined_iff.mpr cut, ahead, counts, found, number.trans (Nat.add_comm ..)⟩

theorem significant_of_place (lined : Lined text (before ++ line :: behind)) (counts : ¬ Skipped line) :
    ∃ rest, significantLines text = numbered 1 before ++ (before.length + 1, words line) :: rest := by
  refine ⟨numbered (before.length + 1 + 1) behind, ?_⟩
  show numbered 1 (lines text) = _
  rw [lined_iff.mp lined, numbered_append, numbered_cons_of_counts counts, Nat.add_comm 1]

theorem heads_iff : Heads line announced ↔
    ∃ first second, words line = [first, second] ∧ Announces first second announced := by
  simp only [Heads, spaced_iff]

theorem instructs_iff : Instructs line ↔ Spelled (words line) := by
  simp only [Instructs, spaced_iff, exists_eq_left']

/-- The words of the lines that count are those of the lines that are kept. -/
theorem words_of_lined (lined : Lined text all) (keeps : Kept all kept) :
    (significantLines text).map Prod.snd = kept.map words := by
  obtain rfl := lined_iff.mp lined
  exact words_of_kept keeps 1

theorem instructs_all_iff {body : List (List Char)} (same : body.map words = rest.map Prod.snd) :
    (∀ line ∈ body, Instructs line) ↔ ∀ item ∈ rest, Spelled item.2 := by
  simp only [instructs_iff]
  rw [← List.forall_mem_map (P := Spelled), same, List.forall_mem_map]

theorem kept_nil_iff : Kept before [] ↔ numbered 1 before = [] := by
  obtain ⟨kept, keeps⟩ := exists_kept before
  have listed := words_of_kept keeps 1
  constructor
  · intro none
    have same := words_of_kept none 1
    rwa [List.map_nil, List.map_eq_nil_iff] at same
  · intro none
    rw [none, List.map_nil] at listed
    rwa [List.map_eq_nil_iff.mp listed.symm] at keeps

theorem missingHeader_iff : ofText text = .error .missingHeader ↔ Headless text := by
  rw [ofText_eq_error_iff]
  constructor
  · intro fails
    obtain ⟨kept, keeps⟩ := exists_kept (lines text)
    have listed := words_of_lined (lined_iff.mpr rfl) keeps
    cases kept with
    | nil => exact .blank (lined_iff.mpr rfl) keeps
    | cons header body =>
      refine .other (lined_iff.mpr rfl) keeps (spaced_iff.mpr rfl) fun two => ?_
      obtain ⟨first, second, same⟩ := List.length_eq_two.mp two
      rw [List.map_cons, same] at listed
      obtain ⟨⟨line, found⟩, rest, split, rfl, -⟩ := List.map_eq_cons_iff.mp listed
      rw [split] at fails
      cases fails with
      | headless other => exact other _ _ _ _ rfl
      | header failed => exact nomatch line?_of_readHeader failed
      | body _ _ failed => exact nomatch line?_of_instruction failed
  · intro headless
    apply Fails.headless
    intro line first second rest same
    have words : (significantLines text).map Prod.snd = [first, second] :: rest.map Prod.snd := by
      rw [same, List.map_cons]
    cases headless with
    | blank lined kept => exact nomatch words.symm.trans (words_of_lined lined kept)
    | other lined kept spaced count =>
      have listed := words.symm.trans (words_of_lined lined kept)
      rw [List.map_cons, spaced_iff.mp spaced] at listed
      exact count (congrArg List.length (List.cons.inj listed).1).symm

theorem countMismatch_iff :
    ofText text = .error (.countMismatch announced count) ↔ Miscounted text announced count := by
  rw [ofText_eq_error_iff]
  constructor
  · intro fails
    obtain ⟨kept, keeps⟩ := exists_kept (lines text)
    have listed := words_of_lined (lined_iff.mpr rfl) keeps
    generalize significantLines text = counting at fails listed
    cases fails with
    | header failed => exact nomatch line?_of_readHeader failed
    | body _ _ failed => exact nomatch line?_of_instruction failed
    | count announces spelled differs =>
      obtain ⟨header, body, rfl, two, same⟩ := List.map_eq_cons_iff.mp listed.symm
      have counted := congrArg List.length same
      rw [List.length_map, List.length_map] at counted
      rw [← counted] at differs ⊢
      exact .lines (lined_iff.mpr rfl) keeps (heads_iff.mpr ⟨_, _, two, announces⟩)
        ((instructs_all_iff same).mpr spelled) differs
  · rintro ⟨lined, kept, heads, instructs, differs⟩
    obtain ⟨first, second, two, announces⟩ := heads_iff.mp heads
    obtain ⟨⟨line, found⟩, rest, split, rfl, same⟩ := List.map_eq_cons_iff.mp (words_of_lined lined kept)
    have counted := congrArg List.length same
    rw [List.length_map, List.length_map] at counted
    rw [split, two, ← counted]
    exact .count announces ((instructs_all_iff same.symm).mp instructs) (counted ▸ differs)

theorem line?_iff : (∃ reason, ofText text = .error reason ∧ reason.line? = some number) ↔ Offends text number := by
  simp only [ofText_eq_error_iff]
  constructor
  · rintro ⟨reason, fails, pointed⟩
    generalize same : significantLines text = counting at fails
    cases fails with
    | headless _ => contradiction
    | count _ _ _ => contradiction
    | @header line first second rest _ failed =>
      obtain rfl := Option.some.inj ((line?_of_readHeader failed).symm.trans pointed)
      rw [← List.nil_append (_ :: rest)] at same
      obtain ⟨before, line, behind, lined, none, counts, two, rfl⟩ := place_of_significant same
      refine .header lined (kept_nil_iff.mpr none) counts (spaced_iff.mpr two) fun announced heads => ?_
      obtain ⟨_, _, also, announces⟩ := heads_iff.mp heads
      rw [two] at also
      obtain ⟨rfl, rfl⟩ : first = _ ∧ second = _ := by simpa using also
      obtain ⟨priority, read⟩ := announces_iff.mp announces
      exact nomatch read.symm.trans failed
    | @body line other announced first second ahead behind found _ announces spelled failed =>
      obtain rfl := Option.some.inj ((line?_of_instruction failed).symm.trans pointed)
      rw [← List.cons_append] at same
      obtain ⟨before, line, behind, lined, earlier, counts, rfl, rfl⟩ := place_of_significant same
      obtain ⟨kept, keeps⟩ := exists_kept before
      have listed := words_of_kept keeps 1
      rw [earlier, List.map_cons] at listed
      obtain ⟨header, body, rfl, two, same⟩ := List.map_eq_cons_iff.mp listed.symm
      refine .body lined keeps counts (heads_iff.mpr ⟨_, _, two, announces⟩) ((instructs_all_iff same).mpr spelled)
        fun instructs => ?_
      obtain ⟨_, read⟩ := (spelled_iff _).mp (instructs_iff.mp instructs)
      exact nomatch read.symm.trans failed
  · intro offends
    cases offends with
    | @header before behind line first second lined kept counts spaced broken =>
      obtain ⟨rest, same⟩ := significant_of_place lined counts
      rw [kept_nil_iff.mp kept, List.nil_append, spaced_iff.mp spaced] at same
      rw [same]
      cases read : readHeader (before.length + 1) first second with
      | ok header =>
        have announces : Announces first second header.2 := announces_iff.mpr ⟨header.1, read⟩
        exact absurd ⟨first, second, spaced, announces⟩ (broken header.2)
      | error reason => exact ⟨reason, .header read, line?_of_readHeader read⟩
    | @body before behind body line header announced lined kept counts heads instructs broken =>
      obtain ⟨rest, same⟩ := significant_of_place lined counts
      obtain ⟨first, second, two, announces⟩ := heads_iff.mp heads
      obtain ⟨⟨number, found⟩, ahead, split, rfl, listed⟩ := List.map_eq_cons_iff.mp (words_of_kept kept 1)
      rw [same, split, two, List.cons_append]
      cases read : Program.instruction (before.length + 1) (words line) with
      | ok instruction => exact absurd (instructs_iff.mpr ((spelled_iff _).mpr ⟨instruction, read⟩)) broken
      | error reason =>
        exact ⟨reason, .body announces ((instructs_all_iff listed.symm).mp instructs) read, line?_of_instruction read⟩

theorem ofText_ne_unreadable (path reason : String) : ofText text ≠ .error (.unreadable path reason) := by
  intro failed
  rw [ofText_eq_error_iff] at failed
  generalize significantLines text = counting at failed
  cases failed with
  | header failed => exact nomatch line?_of_readHeader failed
  | body _ _ failed => exact nomatch line?_of_instruction failed

/-- A text is refused for want of a header, at its first line that is not well formed, or, when all lines are, for
the number of its instructions; each error is the one for what is wrong. -/
theorem ofText_refused (text : List Char) :
    (ofText text = .error .missingHeader ↔ Headless text) ∧
    (∀ number, (∃ reason, ofText text = .error reason ∧ reason.line? = some number) ↔ Offends text number) ∧
    (∀ announced count, ofText text = .error (.countMismatch announced count) ↔ Miscounted text announced count) ∧
    ∀ path reason, ofText text ≠ .error (.unreadable path reason) :=
  ⟨missingHeader_iff, fun _ => line?_iff, fun _ _ => countMismatch_iff, ofText_ne_unreadable⟩

example : ofText "# three faults\n\n1 9\ncalc\nalloc 3x0 1\njump\n".toList =
    .error (.malformed 5 (.badNumber "3x0" .invalidDigit)) := by decide +kernel

end Places

end Program

end DemandPaging
