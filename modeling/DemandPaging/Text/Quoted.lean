import DemandPaging.Text.Category
import DemandPaging.Text.Hexadecimal
import DemandPaging.Text.Mark

/-! # Quoted names

A name is shown between double quotes with its special characters escaped: quotes and backslashes
behind a backslash, the common controls by a letter, and every other character that would not show,
or would join the one before it, by its code point in braces.
-/

namespace DemandPaging.Text.Quoted

/-- The voiced and the semi-voiced sound mark of half width. They fill a cell of their own, although
they have the property `Grapheme_Extend`. -/
def cellMarks : CodeRanges := [(0xFF9E, 0xFF9F)]

/-- Whether a character joins the one before it. -/
def joins (c : Char) : Bool := extenderRanges.holds c && !cellMarks.holds c

/-- Whether a character leaves nothing to see. The space is the one separator that shows. -/
def isInvisible (c : Char) : Bool :=
  otherRanges.holds c || ignorableRanges.holds c || (separatorRanges.holds c && c != ' ')

def escape (c : Char) : String :=
  if c = '\x00' then "\\0"
  else if c = '\t' then "\\t"
  else if c = '\r' then "\\r"
  else if c = '\n' then "\\n"
  else if c = '\\' ∨ c = '"' then "\\" ++ c.toString
  else if joins c ∨ isInvisible c then "\\u\x7b" ++ Hexadecimal.lower 1 c.toNat ++ "\x7d"
  else c.toString

/-- A name between quotes. -/
def quote (name : String) : String := "\"" ++ String.join (name.toList.map escape) ++ "\""

end DemandPaging.Text.Quoted
