import DemandPaging.Text.Numeral
import DemandPaging.Text.Words
import Mathlib.Data.List.Forall2
import Mathlib.Data.Nat.Digits.Defs

/-! # The grammar of lines, words and numerals

Lines, words and numerals are described here by how they are put together, and cutting and reading are
shown to be the way back. A text is its lines with a line feed after each but the last. A line is its words
with blanks around them, where two words have a blank in between; a carriage return is one more blank. A
numeral is at least one digit, in either case, perhaps with a plus sign in front, and it stands for the
number that the digits make up. Each text has one cut into lines, each line has one cut into words, and each
word stands for at most one number.
-/

namespace DemandPaging.Text

section Cutting

variable {separates : Char → Bool} {word line gap : List Char}

theorem segments_of_whole (whole : ∀ c ∈ word, separates c = false) : segments separates word = [word] := by
  induction word with
  | nil => rfl
  | cons c rest ih =>
    obtain ⟨other, others⟩ := List.forall_mem_cons.mp whole
    simp only [segments, other, ih others, Bool.false_eq_true, ↓reduceIte]

theorem segments_append (whole : ∀ c ∈ word, separates c = false) {c : Char} (ends : separates c = true)
    (rest : List Char) : segments separates (word ++ c :: rest) = word :: segments separates rest := by
  induction word with
  | nil => simp only [List.nil_append, segments, ends, ↓reduceIte]
  | cons first others ih =>
    obtain ⟨other, whole⟩ := List.forall_mem_cons.mp whole
    simp only [List.cons_append, segments, other, ih whole, Bool.false_eq_true, ↓reduceIte]

/-- A text consists of lines with a line feed between one and the next. -/
inductive Lined : List Char → List (List Char) → Prop where
  | last {line : List Char} (whole : '\n' ∉ line) : Lined line [line]
  | cons {line rest : List Char} {more : List (List Char)} (whole : '\n' ∉ line) (lined : Lined rest more) :
    Lined (line ++ '\n' :: rest) (line :: more)

theorem Lined.lines_eq {text : List Char} {found : List (List Char)} (lined : Lined text found) :
    lines text = found := by
  have other {line : List Char} (whole : '\n' ∉ line) : ∀ c ∈ line, (c == '\n') = false := by
    intro c member
    rw [beq_eq_false_iff_ne]
    rintro rfl
    exact whole member
  induction lined with
  | last whole => exact segments_of_whole (other whole)
  | cons whole _ ih =>
    rw [lines, segments_append (other whole) rfl, ← lines, ih]

theorem exists_lined (text : List Char) : ∃ found, Lined text found := by
  induction text with
  | nil => exact ⟨_, .last List.not_mem_nil⟩
  | cons c rest ih =>
    obtain ⟨found, lined⟩ := ih
    by_cases ends : c = '\n'
    · subst ends
      exact ⟨_, @Lined.cons [] rest found List.not_mem_nil lined⟩
    · cases lined with
      | last whole => exact ⟨_, .last (List.not_mem_cons_of_ne_of_not_mem (Ne.symm ends) whole)⟩
      | @cons line rest more whole lined =>
        have longer := List.not_mem_cons_of_ne_of_not_mem (Ne.symm ends) whole
        exact ⟨_, @Lined.cons (c :: line) rest more longer lined⟩

/-- A text has one cut into lines. -/
theorem lined_iff {text : List Char} {found : List (List Char)} : Lined text found ↔ lines text = found := by
  constructor
  · exact Lined.lines_eq
  · rintro rfl
    obtain ⟨found, lined⟩ := exists_lined text
    rwa [lined.lines_eq]

/-- Nothing but blanks. -/
def Blank (gap : List Char) : Prop := ∀ c ∈ gap, isBlank c = true

/-- A word of a line. -/
def Solid (word : List Char) : Prop := word ≠ [] ∧ ∀ c ∈ word, isBlank c = false

/-- The line ends here, or a blank comes next. -/
def Breaks : List Char → Prop
  | [] => True
  | c :: _ => isBlank c = true

/-- A line consists of words with blanks around them, at least one between one word and the next. -/
inductive Spaced : List Char → List (List Char) → Prop where
  | nil {gap : List Char} (blank : Blank gap) : Spaced gap []
  | cons {gap word rest : List Char} {others : List (List Char)} (blank : Blank gap) (solid : Solid word)
    (breaks : Breaks rest) (spaced : Spaced rest others) : Spaced (gap ++ word ++ rest) (word :: others)

theorem words_of_blank (blank : Blank gap) (rest : List Char) : words (gap ++ rest) = words rest := by
  induction gap with
  | nil => rfl
  | cons c gap ih =>
    obtain ⟨separates, blank⟩ := List.forall_mem_cons.mp blank
    rw [← ih blank, words, words, List.cons_append, segments, if_pos separates]
    rfl

theorem words_append (solid : Solid word) {rest : List Char} (breaks : Breaks rest) :
    words (word ++ rest) = word :: words rest := by
  have filled : word.isEmpty = false := List.isEmpty_eq_false_iff.mpr solid.1
  cases rest with
  | nil =>
    rw [List.append_nil, words, segments_of_whole solid.2]
    simp only [List.filter_cons, filled, Bool.not_false, ↓reduceIte]
    rfl
  | cons c rest =>
    have gap : Blank [c] := List.forall_mem_singleton.mpr breaks
    have behind : words (c :: rest) = words rest := words_of_blank gap rest
    rw [behind, words, segments_append solid.2 breaks]
    simp only [List.filter_cons, filled, Bool.not_false, ↓reduceIte]
    rfl

theorem Spaced.words_eq {found : List (List Char)} (spaced : Spaced line found) : words line = found := by
  induction spaced with
  | @nil gap blank =>
    have none := words_of_blank blank []
    rwa [List.append_nil] at none
  | cons blank solid breaks _ ih =>
    rw [List.append_assoc, words_of_blank blank, words_append solid breaks, ih]

/-- One more blank in front. -/
theorem Spaced.blank_cons {found : List (List Char)} (spaced : Spaced line found) {c : Char}
    (blank : isBlank c = true) : Spaced (c :: line) found := by
  cases spaced with
  | nil gap => exact .nil (List.forall_mem_cons.mpr ⟨blank, gap⟩)
  | cons gap solid breaks spaced => exact .cons (List.forall_mem_cons.mpr ⟨blank, gap⟩) solid breaks spaced

/-- One more character in front that is no blank: it begins a word, or the first word is longer by it. -/
theorem Spaced.solid_cons {found : List (List Char)} (spaced : Spaced line found) {c : Char}
    (solid : isBlank c = false) : ∃ longer, Spaced (c :: line) longer := by
  have single : Solid [c] := ⟨List.cons_ne_nil c [], List.forall_mem_singleton.mpr solid⟩
  have no_gap : Blank [] := List.forall_mem_nil _
  by_cases breaks : Breaks line
  · exact ⟨_, Spaced.cons no_gap single breaks spaced⟩
  · cases spaced with
    | nil blank =>
      cases line with
      | nil => exact absurd trivial breaks
      | cons first others => exact absurd (blank first List.mem_cons_self) breaks
    | @cons gap word rest others blank inside after spaced =>
      cases gap with
      | nil =>
        have longer : Solid (c :: word) := ⟨List.cons_ne_nil c word, List.forall_mem_cons.mpr ⟨solid, inside.2⟩⟩
        exact ⟨_, Spaced.cons no_gap longer after spaced⟩
      | cons first more => exact absurd (blank first List.mem_cons_self) breaks

theorem exists_spaced (line : List Char) : ∃ found, Spaced line found := by
  induction line with
  | nil => exact ⟨[], .nil (List.forall_mem_nil _)⟩
  | cons c rest ih =>
    obtain ⟨found, spaced⟩ := ih
    cases kind : isBlank c with
    | true => exact ⟨found, spaced.blank_cons kind⟩
    | false => exact spaced.solid_cons kind

/-- A line has one cut into words. -/
theorem spaced_iff {found : List (List Char)} : Spaced line found ↔ words line = found := by
  constructor
  · exact Spaced.words_eq
  · rintro rfl
    obtain ⟨found, spaced⟩ := exists_spaced line
    rwa [spaced.words_eq]

/-- Words with one blank behind each. -/
def unwords : List (List Char) → List Char
  | [] => []
  | word :: rest => word ++ ' ' :: unwords rest

theorem spaced_unwords {found : List (List Char)} (solid : ∀ word ∈ found, Solid word) :
    Spaced (unwords found) found := by
  induction found with
  | nil => exact .nil (List.forall_mem_nil _)
  | cons word rest ih =>
    obtain ⟨first, others⟩ := List.forall_mem_cons.mp solid
    have behind : Spaced (' ' :: unwords rest) rest := (ih others).blank_cons rfl
    exact Spaced.cons (List.forall_mem_nil _) first rfl behind

/-- Lines with a line feed behind each. -/
def unlines : List (List Char) → List Char
  | [] => []
  | line :: rest => line ++ '\n' :: unlines rest

theorem lined_unlines {found : List (List Char)} (whole : ∀ line ∈ found, '\n' ∉ line) :
    Lined (unlines found) (found ++ [[]]) := by
  induction found with
  | nil => exact .last List.not_mem_nil
  | cons line rest ih =>
    obtain ⟨first, others⟩ := List.forall_mem_cons.mp whole
    exact .cons first (ih others)

theorem feed_not_mem_unwords {found : List (List Char)} (solid : ∀ word ∈ found, Solid word) :
    '\n' ∉ unwords found := by
  induction found with
  | nil => exact List.not_mem_nil
  | cons word rest ih =>
    obtain ⟨first, others⟩ := List.forall_mem_cons.mp solid
    intro member
    rcases List.mem_append.mp member with inside | behind
    · have blank := first.2 _ inside
      contradiction
    · rcases List.mem_cons.mp behind with same | later
      · contradiction
      · exact ih others later

end Cutting

namespace Numeral

/-- The character is the digit of a value, in lower or in upper case. -/
def IsDigit (base : Nat) (c : Char) (value : Nat) : Prop :=
  value < base ∧ (c = Nat.digitChar value ∨ c = (Nat.digitChar value).toUpper)

/-- At least one digit, the first one counting most. -/
def Digits (base : Nat) (word : List Char) (value : Nat) : Prop :=
  word ≠ [] ∧ ∃ digits, List.Forall₂ (IsDigit base) word digits ∧ Nat.ofDigits base digits.reverse = value

/-- Digits, perhaps behind a plus sign. -/
inductive Signed (base : Nat) : List Char → Nat → Prop where
  | bare {word : List Char} {value : Nat} (digits : Digits base word value) : Signed base word value
  | plus {word : List Char} {value : Nat} (digits : Digits base word value) : Signed base ('+' :: word) value

section Reading

variable {base limit : Nat} {c : Char} {word : List Char} {value : Nat}

theorem digit?_eq_filter (small : base ≤ 16) (c : Char) : digit? base c = (digit? 16 c).filter (· < base) := by
  have both (value : Nat) : (decide (value < 16) && decide (value < base)) = decide (value < base) := by
    rw [← Bool.decide_and, decide_eq_decide]
    omega
  simp only [digit?, Option.filter_filter, both]

/-- Each digit of base 16 with its value. -/
theorem digit?_digitChar : ∀ value < 16, digit? 16 (Nat.digitChar value) = some value ∧
    digit? 16 (Nat.digitChar value).toUpper = some value := by decide

theorem digitChar_eq : (∀ value < 10, Nat.digitChar value = Char.ofNat (value + 48)) ∧
    (∀ value < 6, Nat.digitChar (value + 10) = Char.ofNat (value + 97)) ∧
    ∀ value < 6, (Nat.digitChar (value + 10)).toUpper = Char.ofNat (value + 65) := by decide

theorem between_iff (first last c : Char) :
    (decide (c.val ≥ first.val) && decide (c.val ≤ last.val)) = true ↔
      first.toNat ≤ c.toNat ∧ c.toNat ≤ last.toNat := by
  rw [Bool.and_eq_true, decide_eq_true_eq, decide_eq_true_eq]
  exact Iff.rfl

/-- Only the digits have a value. -/
theorem eq_digitChar_of_digit? (found : digit? 16 c = some value) :
    c = Nat.digitChar value ∨ c = (Nat.digitChar value).toUpper := by
  have char {code : Nat} (same : c.toNat = code) : c = Char.ofNat code := by
    rw [← same, Char.ofNat_toNat]
  have digits : c.isDigit = true ↔ 48 ≤ c.toNat ∧ c.toNat ≤ 57 := between_iff '0' '9' c
  have lower : c.isLower = true ↔ 97 ≤ c.toNat ∧ c.toNat ≤ 122 := between_iff 'a' 'z' c
  have upper : c.isUpper = true ↔ 65 ≤ c.toNat ∧ c.toNat ≤ 90 := decide_eq_true_iff
  simp only [digit?, Option.filter_eq_some_iff, decide_eq_true_eq, digits, lower, upper, Char.reduceToNat] at found
  obtain ⟨found, small⟩ := found
  split at found
  · next range =>
    obtain rfl := Option.some.inj found
    left
    rw [digitChar_eq.1 _ (by omega)]
    exact char (by omega)
  · split at found
    · next range =>
      obtain rfl := Option.some.inj found
      left
      rw [digitChar_eq.2.1 _ (by omega)]
      exact char (by omega)
    · split at found
      · next range =>
        obtain rfl := Option.some.inj found
        right
        rw [digitChar_eq.2.2 _ (by omega)]
        exact char (by omega)
      · contradiction

theorem digit?_eq_some_iff (small : base ≤ 16) : digit? base c = some value ↔ IsDigit base c value := by
  rw [digit?_eq_filter small, Option.filter_eq_some_iff, decide_eq_true_eq]
  constructor
  · rintro ⟨found, below⟩
    exact ⟨below, eq_digitChar_of_digit? found⟩
  · rintro ⟨below, rfl | rfl⟩
    · exact ⟨(digit?_digitChar value (below.trans_le small)).1, below⟩
    · exact ⟨(digit?_digitChar value (below.trans_le small)).2, below⟩

/-- A digit more shifts what was read and adds the digit. -/
theorem ofDigits_reverse_cons (base start digit : Nat) (digits : List Nat) :
    start * base ^ (digit :: digits).length + Nat.ofDigits base (digit :: digits).reverse =
      (base * start + digit) * base ^ digits.length + Nat.ofDigits base digits.reverse := by
  rw [List.reverse_cons, Nat.ofDigits_append, Nat.ofDigits_singleton, List.length_reverse, List.length_cons, pow_succ]
  ring

/-- Reading on from a number gives that number shifted by the digits, with the digits added. -/
theorem readDigits_eq_ok_iff (positive : 0 < base) (small : base ≤ 16) {start : Nat} (below : start < limit) :
    readDigits base limit start word = .ok value ↔
      ∃ digits, List.Forall₂ (IsDigit base) word digits ∧
        start * base ^ digits.length + Nat.ofDigits base digits.reverse = value ∧ value < limit := by
  induction word generalizing start with
  | nil =>
    simp only [readDigits, Except.ok.injEq, List.forall₂_nil_left_iff, exists_eq_left, List.length_nil, pow_zero,
      mul_one, List.reverse_nil, Nat.ofDigits_nil, add_zero]
    constructor
    · rintro rfl
      exact ⟨rfl, below⟩
    · exact And.left
  | cons c rest ih =>
    simp only [List.forall₂_cons_left_iff]
    cases found : digit? base c with
    | none =>
      simp only [readDigits, found, reduceCtorEq, false_iff]
      rintro ⟨_, ⟨digit, digits, isDigit, -, rfl⟩, -⟩
      rw [(digit?_eq_some_iff small).mpr isDigit] at found
      contradiction
    | some digit =>
      have isDigit := (digit?_eq_some_iff small).mp found
      have unique {other : Nat} (also : IsDigit base c other) : other = digit :=
        Option.some.inj (((digit?_eq_some_iff small).mpr also).symm.trans found)
      simp only [readDigits, found]
      split
      · next fits =>
        rw [ih fits]
        constructor
        · rintro ⟨digits, each, total, bound⟩
          exact ⟨digit :: digits, ⟨digit, digits, isDigit, each, rfl⟩,
            (ofDigits_reverse_cons ..).trans total, bound⟩
        · rintro ⟨_, ⟨other, digits, also, each, rfl⟩, total, bound⟩
          obtain rfl := unique also
          exact ⟨digits, each, (ofDigits_reverse_cons ..).symm.trans total, bound⟩
      · next large =>
        simp only [reduceCtorEq, false_iff]
        rintro ⟨_, ⟨other, digits, also, -, rfl⟩, total, bound⟩
        obtain rfl := unique also
        rw [ofDigits_reverse_cons] at total
        have grows := Nat.le_mul_of_pos_right (base * start + other) (Nat.pow_pos positive (n := digits.length))
        omega

theorem not_digits_cons (small : base ≤ 16) (none : digit? base c = none) : ¬ Digits base (c :: word) value := by
  rintro ⟨-, _, each, -⟩
  obtain ⟨digit, digits, isDigit, -, rfl⟩ := List.forall₂_cons_left_iff.mp each
  rw [(digit?_eq_some_iff small).mpr isDigit] at none
  contradiction

theorem signed_plus_iff (small : base ≤ 16) : Signed base ('+' :: word) value ↔ Digits base word value := by
  constructor
  · intro signed
    cases signed with
    | bare digits => exact absurd digits (not_digits_cons small rfl)
    | plus digits => exact digits
  · exact .plus

theorem signed_iff_digits (bare : word.head? ≠ some '+') : Signed base word value ↔ Digits base word value := by
  constructor
  · intro signed
    cases signed with
    | bare digits => exact digits
    | plus digits => exact absurd rfl bare
  · exact .bare

/-- Reading accepts exactly the numerals below the limit. -/
theorem read_eq_ok_iff (positive : 0 < base) (small : base ≤ 16) (bounded : 0 < limit) :
    read base limit word = .ok value ↔ Signed base word value ∧ value < limit := by
  have digits_iff (word : List Char) (filled : word ≠ []) :
      readDigits base limit 0 word = .ok value ↔ Digits base word value ∧ value < limit := by
    rw [readDigits_eq_ok_iff positive small bounded]
    simp only [Digits, zero_mul, zero_add, filled, ne_eq, not_false_eq_true, true_and]
    constructor
    · rintro ⟨digits, each, total, bound⟩
      exact ⟨⟨digits, each, total⟩, bound⟩
    · rintro ⟨⟨digits, each, total⟩, bound⟩
      exact ⟨digits, each, total, bound⟩
  unfold read
  split
  · rw [signed_iff_digits (by simp)]
    simp [Digits]
  · rw [signed_plus_iff small]
    simp [Digits]
  · next digits filled =>
    rw [signed_plus_iff small]
    exact digits_iff digits filled
  · next filled _ bare =>
    have head : word.head? ≠ some '+' := by
      intro plus
      obtain ⟨rest, same⟩ := List.head?_eq_some_iff.mp plus
      exact bare rest same
    rw [signed_iff_digits head]
    exact digits_iff word filled

end Reading

/-- A number in decimal digits, the first one other than zero unless it is the only one. -/
def decimal (value : Nat) : List Char :=
  if value = 0 then ['0'] else (Nat.digits 10 value).reverse.map Nat.digitChar

theorem digits_decimal (value : Nat) : Digits 10 (decimal value) value := by
  unfold decimal
  split
  · next zero =>
    subst zero
    exact ⟨List.cons_ne_nil _ _, [0], .cons ⟨by decide, .inl rfl⟩ .nil, rfl⟩
  · next nonzero =>
    constructor
    · rw [ne_eq, List.map_eq_nil_iff, List.reverse_eq_nil_iff]
      exact Nat.digits_ne_nil_iff_ne_zero.mpr nonzero
    · refine ⟨(Nat.digits 10 value).reverse, ?_, ?_⟩
      · rw [List.forall₂_map_left_iff, List.forall₂_same]
        intro digit member
        exact ⟨Nat.digits_lt_base (by decide) (List.mem_reverse.mp member), .inl rfl⟩
      · rw [List.reverse_reverse, Nat.ofDigits_digits]

end Numeral

end DemandPaging.Text
