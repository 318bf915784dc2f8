/-! Decimal numerals: how a number is written, and the number that digits denote. -/

namespace BuildOptions.Text

/-- A number in decimal digits, without leading zeros. -/
def decimal (n : Nat) : String := String.ofList (Nat.toDigits 10 n)

/-- A number in decimal digits, with a minus sign if it is negative. -/
def decimalInt : Int → String
  | .ofNat n => decimal n
  | .negSucc n => "-" ++ decimal (n + 1)

/-- The number that decimal digits denote. -/
def decimalValue (digits : List Char) : Nat := Nat.ofDigitChars 10 digits 0

/-- The digits of a number denote it. -/
theorem decimalValue_decimal (n : Nat) : decimalValue (decimal n).toList = n := by
  simp [decimal, decimalValue, Nat.ofDigitChars_toDigits]

end BuildOptions.Text
