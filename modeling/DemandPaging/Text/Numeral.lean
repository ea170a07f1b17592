/-! # Numerals

A numeral is a word of digits in a base, with at most one plus sign in front, that stands for a
number below a limit. Digits are read from left to right, and the first thing wrong is reported: a
character that is no digit, or the digit whose value leaves the limit. A lone sign is a missing digit,
and the empty word is told apart.
-/

namespace DemandPaging.Text

inductive NumeralError where
  | empty
  | invalidDigit
  | overflow
deriving DecidableEq, Repr, Inhabited

def NumeralError.message : NumeralError → String
  | .empty => "cannot parse integer from empty string"
  | .invalidDigit => "invalid digit found in string"
  | .overflow => "number too large to fit in target type"

namespace Numeral

/-- The value of a character as a digit; letters of either case follow nine. -/
def digit? (base : Nat) (c : Char) : Option Nat :=
  let value :=
    if c.isDigit then some (c.toNat - '0'.toNat)
    else if c.isLower then some (c.toNat - 'a'.toNat + 10)
    else if c.isUpper then some (c.toNat - 'A'.toNat + 10)
    else none
  value.filter (· < base)

/-- Continues a number below the limit with further digits. -/
def readDigits (base limit : Nat) : Nat → List Char → Except NumeralError Nat
  | value, [] => .ok value
  | value, c :: rest =>
    match digit? base c with
    | none => .error .invalidDigit
    | some digit =>
      if base * value + digit < limit then readDigits base limit (base * value + digit) rest
      else .error .overflow

/-- Reads a word as a numeral. -/
def read (base limit : Nat) : List Char → Except NumeralError Nat
  | [] => .error .empty
  | ['+'] => .error .invalidDigit
  | '+' :: digits => readDigits base limit 0 digits
  | digits => readDigits base limit 0 digits

theorem readDigits_lt {base limit value result : Nat} {digits : List Char} (small : value < limit)
    (done : readDigits base limit value digits = .ok result) : result < limit := by
  induction digits generalizing value with
  | nil => cases done; exact small
  | cons c rest ih =>
    unfold readDigits at done
    split at done
    · contradiction
    · split at done
      · next fits => exact ih fits done
      · contradiction

theorem read_lt {base limit result : Nat} {word : List Char} (positive : 0 < limit)
    (done : read base limit word = .ok result) : result < limit := by
  unfold read at done
  split at done
  · contradiction
  · contradiction
  · exact readDigits_lt positive done
  · exact readDigits_lt positive done

end Numeral

end DemandPaging.Text
