import BuildOptions.Text.Unprintable

/-! A single character shown between quotes, so that every character can be told apart in a
message: the usual short escapes, the code point in braces for what cannot be seen, and the
character itself otherwise. -/

namespace BuildOptions.Text

/-- The lower-case hexadecimal digits of a number, without leading zeros. -/
def hexDigits (n : Nat) : List Char := Nat.toDigits 16 n

/-- The character as it stands between the quotes. -/
def escapedChar (c : Char) : List Char :=
  if c = '\x00' then ['\\', '0']
  else if c = '\t' then ['\\', 't']
  else if c = '\r' then ['\\', 'r']
  else if c = '\n' then ['\\', 'n']
  else if c = '\'' || c = '\\' then ['\\', c]
  else if isUnprintable c then '\\' :: 'u' :: '\x7b' :: (hexDigits c.toNat ++ ['\x7d'])
  else [c]

/-- The character between single quotes. -/
def quotedChar (c : Char) : String := String.ofList ('\'' :: (escapedChar c ++ ['\'']))

end BuildOptions.Text
