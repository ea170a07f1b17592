/-! # Hexadecimal text

Numbers in addresses and dumps are written in base sixteen, padded with zeros on the left to a least
number of digits and never cut.
-/

namespace DemandPaging.Text.Hexadecimal

/-- Puts zeros in front until the text has `width` digits. -/
def pad (width : Nat) (digits : List Char) : List Char :=
  List.replicate (width - digits.length) '0' ++ digits

/-- Lower-case digits of `n`, at least `width` of them. -/
def lower (width n : Nat) : String :=
  String.ofList (pad width (Nat.toDigits 16 n))

/-- Upper-case digits of `n`, at least `width` of them. -/
def upper (width n : Nat) : String :=
  String.ofList (pad width ((Nat.toDigits 16 n).map Char.toUpper))

/-- Lower-case digits behind `0x`, with no padding. -/
def short (n : Nat) : String := "0x" ++ lower 1 n

theorem pad_length (width : Nat) (digits : List Char) :
    (pad width digits).length = max width digits.length := by
  simp only [pad, List.length_append, List.length_replicate]
  omega

end DemandPaging.Text.Hexadecimal
