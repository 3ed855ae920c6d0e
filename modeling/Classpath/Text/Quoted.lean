import Classpath.Text.Basic
import Classpath.Unicode.Property

/-!
# Quoted text

The way a diagnostic shows a text: between quotes, on one line, and with everything written
out that could not be seen. A character stands for itself when it is printable and does not
combine with the one before it; a quote that would end the text and the backslash are
escaped, and so are the usual controls; all else is written as its code point.

## Main definitions

* `text`, `path`, `character`: the three kinds of quoted things, which differ in the quotes
  they escape.
-/

namespace Classpath.Text.Quoted

open Unicode

/-- Whether a character has a shape of its own or is the blank: a letter, mark, number,
punctuation or symbol. -/
def isPrintable (c : Char) : Bool :=
  c == ' ' || Category.letter.contains c.toNat || Category.mark.contains c.toNat ||
    Category.number.contains c.toNat || Category.punctuation.contains c.toNat ||
    Category.symbol.contains c.toNat

/-- Whether a character is shown as it is: a printable one that extends no other. -/
def isPlain (c : Char) : Bool :=
  if c.toNat < 127 then 32 ≤ c.toNat
  else isPrintable c && !Property.graphemeExtend.contains c.toNat

/-- The lower-case hexadecimal digits of a code point, without leading zeros. -/
def hexDigits (n : Nat) : List Char := Nat.toDigits 16 n

/-- How a character is shown where some quotes have to be escaped. -/
def escape (quotes : List Char) (c : Char) : List Char :=
  if c = '\x00' then ['\\', '0']
  else if c = '\t' then ['\\', 't']
  else if c = '\r' then ['\\', 'r']
  else if c = '\n' then ['\\', 'n']
  else if c = '\\' || quotes.contains c then ['\\', c]
  else if isPlain c then [c]
  else '\\' :: 'u' :: '\x7b' :: (hexDigits c.toNat ++ ['\x7d'])

/-- The character that opens and closes a quoted text. -/
def doubleQuote : Char := '\x22'

/-- The character that opens and closes a quoted character. -/
def singleQuote : Char := '\x27'

/-- A text between double quotes; single quotes stay. -/
def text (s : String) : String :=
  String.ofList (doubleQuote :: s.toList.flatMap (escape [doubleQuote]) ++ [doubleQuote])

/-- A path between double quotes; both quotes are escaped. -/
def path (s : String) : String :=
  String.ofList
    (doubleQuote :: s.toList.flatMap (escape [doubleQuote, singleQuote]) ++ [doubleQuote])

/-- A character between single quotes; the double quote stays. -/
def character (c : Char) : String :=
  String.ofList (singleQuote :: escape [singleQuote] c ++ [singleQuote])

end Classpath.Text.Quoted
