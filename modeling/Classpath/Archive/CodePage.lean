import Classpath.Text.Utf8

/-!
# Names in archives

An archive says of each name whether it is in UTF-8. Names that are not are in the character
set of the first personal computers, in which the upper half of the bytes stands for letters,
box drawing and signs.

## Main definitions

* `nameOf`: the name that some bytes stand for.
-/

namespace Classpath.Archive

/-- The characters of the upper half of the bytes. -/
def upperHalf : Array Char := #[
  'Ç', 'ü', 'é', 'â', 'ä', 'à', 'å', 'ç', 'ê', 'ë', 'è', 'ï', 'î', 'ì', 'Ä', 'Å',
  'É', 'æ', 'Æ', 'ô', 'ö', 'ò', 'û', 'ù', 'ÿ', 'Ö', 'Ü', '¢', '£', '¥', '₧', 'ƒ',
  'á', 'í', 'ó', 'ú', 'ñ', 'Ñ', 'ª', 'º', '¿', '⌐', '¬', '½', '¼', '¡', '«', '»',
  '░', '▒', '▓', '│', '┤', '╡', '╢', '╖', '╕', '╣', '║', '╗', '╝', '╜', '╛', '┐',
  '└', '┴', '┬', '├', '─', '┼', '╞', '╟', '╚', '╔', '╩', '╦', '╠', '═', '╬', '╧',
  '╨', '╤', '╥', '╙', '╘', '╒', '╓', '╫', '╪', '┘', '┌', '█', '▄', '▌', '▐', '▀',
  'α', 'ß', 'Γ', 'π', 'Σ', 'σ', 'µ', 'τ', 'Φ', 'Θ', 'Ω', 'δ', '∞', 'φ', 'ε', '∩',
  '≡', '±', '≥', '≤', '⌠', '⌡', '÷', '≈', '°', '∙', '·', '√', 'ⁿ', '²', '■', '\u00a0']

/-- The character of a byte. -/
def characterOf (b : UInt8) : Char :=
  if b < 128 then Char.ofNat b.toNat else upperHalf.getD (b.toNat - 128) '\ufffd'

/-- The name that some bytes stand for. Bytes that are no UTF-8, although they should be,
stand for U+FFFD. -/
def nameOf (isUtf8 : Bool) (bytes : Bytes) : String :=
  if isUtf8 then Text.Utf8.decodeLossy bytes else String.ofList (bytes.map characterOf)

end Classpath.Archive
