import DemandPaging.Text.Blank

/-! # Lines and words

A text is cut into segments at every separator, so there is one segment more than there are
separators. Lines are the segments between line feeds. Words are the segments between blanks that
are not empty; a carriage return is blank, so it makes no difference at the end of a line. Printed
text is shown line by line, and there a carriage return right before a line feed is part of the end.
-/

namespace DemandPaging.Text

/-- The segments between separators; at least one. -/
def segments (separates : Char → Bool) : List Char → List (List Char)
  | [] => [[]]
  | c :: rest =>
    if separates c then [] :: segments separates rest
    else
      match segments separates rest with
      | [] => [[c]]
      | segment :: others => (c :: segment) :: others

def lines (text : List Char) : List (List Char) := segments (· == '\n') text

def words (text : List Char) : List (List Char) :=
  (segments isBlank text).filter fun word => !word.isEmpty

/-- A line less the carriage return that ends it, if one does. -/
def withoutReturn (line : List Char) : List Char :=
  if line.getLast? = some '\r' then line.dropLast else line

/-- The lines that show when a text is printed with a line feed behind it. -/
def printedLines (text : String) : List String :=
  (lines text.toList).map fun line => String.ofList (withoutReturn line)

theorem segments_ne_nil (separates : Char → Bool) (text : List Char) :
    segments separates text ≠ [] := by
  cases text with
  | nil => simp [segments]
  | cons c rest =>
    unfold segments
    split
    · simp
    · split <;> simp

theorem segments_length (separates : Char → Bool) (text : List Char) :
    (segments separates text).length = text.countP separates + 1 := by
  induction text with
  | nil => rfl
  | cons c rest ih =>
    unfold segments
    split
    · next sep => simp [ih, sep]
    · next sep =>
      have other : separates c = false := by simpa using sep
      cases found : segments separates rest with
      | nil => exact absurd found (segments_ne_nil _ _)
      | cons segment others => simpa [found, other] using ih

theorem not_separates_of_mem_segments {separates : Char → Bool} {text segment : List Char}
    (member : segment ∈ segments separates text) : ∀ c ∈ segment, separates c = false := by
  induction text generalizing segment with
  | nil => simp_all [segments]
  | cons c rest ih =>
    unfold segments at member
    split at member
    · rcases List.mem_cons.mp member with rfl | member
      · simp
      · exact ih member
    · next sep =>
      have other : separates c = false := by simpa using sep
      cases found : segments separates rest with
      | nil => exact absurd found (segments_ne_nil _ _)
      | cons first others =>
        simp only [found, List.mem_cons] at member ih
        rcases member with rfl | member
        · simpa [other] using ih (Or.inl rfl)
        · exact ih (Or.inr member)

theorem not_blank_of_mem_words {text word : List Char} (member : word ∈ words text) :
    word ≠ [] ∧ ∀ c ∈ word, isBlank c = false := by
  obtain ⟨inside, filled⟩ := List.mem_filter.mp member
  exact ⟨by simpa using filled, not_separates_of_mem_segments inside⟩

end DemandPaging.Text
