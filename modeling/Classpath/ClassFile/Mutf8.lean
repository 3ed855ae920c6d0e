import Classpath.Text.Utf8

/-!
# Modified UTF-8

The encoding of text inside class files: NUL is written with two bytes, and a character
above U+FFFF as two surrogates of three bytes each. The bytes are turned into UTF-8 first and
that is read then, so every fault of the second step is counted in bytes of UTF-8.

## Main definitions

* `toUtf8`: the first step.
* `decode`: the text.
-/

namespace Classpath.ClassFile.Mutf8

open Text

/-- Why some bytes are no text of a class file. -/
inductive DecodeError where
  /-- The bytes end inside a sequence. -/
  | truncated
  /-- A byte that leads no sequence, or a sequence of four bytes. -/
  | unsupportedLead
  /-- What the bytes were turned into is no UTF-8. -/
  | utf8 (e : Utf8.DecodeError)
  deriving DecidableEq, Repr

/-- The wording of a decoding error. -/
def DecodeError.message : DecodeError → String
  | .truncated => "Invalid MUTF-8 byte sequence"
  | .unsupportedLead => "MUTF-8 does not use 4-byte sequences"
  | .utf8 e => e.message

/-- Whether a byte leads a sequence of three. -/
def leadsThree (b : UInt8) : Bool := 0xE0 ≤ b && b ≤ 0xEF

/-- The number in a sequence of three bytes. -/
def threeByteValue (a b c : UInt8) : Nat :=
  4096 * (a.toNat % 16) + 64 * (b.toNat % 64) + c.toNat % 64

/-- The first half of a character beyond U+FFFF. -/
def isHighSurrogate (n : Nat) : Bool := 0xD800 ≤ n && n ≤ 0xDBFF

/-- Its second half. -/
def isLowSurrogate (n : Nat) : Bool := 0xDC00 ≤ n && n ≤ 0xDFFF

/-- The low surrogate at the front, if three bytes spell one. -/
def lowSurrogate? : Bytes → Option Nat
  | a :: b :: c :: _ =>
    let n := threeByteValue a b c
    if leadsThree a && isLowSurrogate n then some n else none
  | _ => none

/-- The character of a pair of surrogates. -/
def pairValue (high low : Nat) : Nat :=
  0x10000 + 1024 * (high - 0xD800) + (low - 0xDC00)

/-- The bytes turned into UTF-8. Only NUL, pairs of surrogates and lone surrogates change;
the last become U+FFFD. -/
def toUtf8 : Bytes → Except DecodeError Bytes
  | [] => .ok []
  | a :: rest =>
    if a < 0x80 then (toUtf8 rest).map (a :: ·)
    else if 0xC0 ≤ a && a ≤ 0xDF then
      match rest with
      | [] => .error .truncated
      | b :: rest =>
        let bytes := if a = 0xC0 && b = 0x80 then [0] else [a, b]
        (toUtf8 rest).map (bytes ++ ·)
    else if leadsThree a then
      match rest with
      | b :: c :: rest =>
        let n := threeByteValue a b c
        if isHighSurrogate n then
          match lowSurrogate? rest with
          | some low =>
            (toUtf8 (rest.drop 3)).map
              (String.utf8EncodeChar (Char.ofNat (pairValue n low)) ++ ·)
          | none => (toUtf8 rest).map (String.utf8EncodeChar '\ufffd' ++ ·)
        else if isLowSurrogate n then
          (toUtf8 rest).map (String.utf8EncodeChar '\ufffd' ++ ·)
        else (toUtf8 rest).map ([a, b, c] ++ ·)
      | _ => .error .truncated
    else .error .unsupportedLead
  termination_by bytes => bytes.length
  decreasing_by
    all_goals (simp only [List.length_cons, List.length_drop]; omega)

/-- The text of some bytes. Bytes of ASCII alone, a NUL among them, are read as they are. -/
def decode (bytes : Bytes) : Except DecodeError String := do
  let converted ← toUtf8 bytes
  (Utf8.decode converted).mapError .utf8

end Classpath.ClassFile.Mutf8
