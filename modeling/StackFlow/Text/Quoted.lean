import StackFlow.Text.Printable

/-!
# Quoted text

The quoted form of a text stands between double quotes and is written so that it can be told apart
from every other quoted text: the quote and the backslash are escaped by a backslash, the four
control characters with a letter of their own are written by it, and every other character that
cannot be shown is written as its code point in hexadecimal. Which characters can be shown is a
parameter, so that what is known about the quoted form does not hang on a table of characters.
-/

namespace StackFlow

namespace Text

/-- The lowercase hexadecimal digits of a number, without leading zeros. -/
def hexadecimal (n : Nat) : List Char := Nat.toDigits 16 n

/-- A byte as exactly two lowercase hexadecimal digits. -/
def hexByte (byte : UInt8) : String :=
  String.ofList [Nat.digitChar (byte.toNat / 16), Nat.digitChar (byte.toNat % 16)]

/-- How one character is written inside quotes. -/
def escape (printable : Char → Bool) (c : Char) : List Char :=
  if c = '"' then ['\\', '"']
  else if c = '\\' then ['\\', '\\']
  else if c = '\t' then ['\\', 't']
  else if c = '\r' then ['\\', 'r']
  else if c = '\n' then ['\\', 'n']
  else if c = '\x00' then ['\\', '0']
  else if printable c then [c]
  else ['\\', 'u', '\x7b'] ++ hexadecimal c.toNat ++ ['\x7d']

/-- The characters of a quoted text: the escaped characters between two quotes. -/
def quoteChars (printable : Char → Bool) (cs : List Char) : List Char :=
  '"' :: cs.flatMap (escape printable) ++ ['"']

/-- The quoted form of a text, given which characters can be shown. -/
def quotedWith (printable : Char → Bool) (text : String) : String :=
  String.ofList (quoteChars printable text.toList)

/-- The quoted form of a text. -/
def quoted (text : String) : String := quotedWith isPrintable text

end Text

end StackFlow
