import Classpath.Bytes

/-!
# UTF-8

Text as bytes and bytes as text. Reading is exact about failure: the error names the
index of the first byte that belongs to no character, and how many bytes from there on
could still have begun one, so that a lenient reader knows what to replace.

## Main definitions

* `encode`: the bytes of a text.
* `decode`: the text of the bytes, or the first error in them.
* `decodeLossy`: the text of the bytes, U+FFFD standing for each run that is no character.
-/

namespace Classpath.Text.Utf8

/-- Why some bytes are no text. -/
inductive DecodeError where
  /-- From `index` on, `length` bytes begin like a character and go on like none. -/
  | invalid (length index : Nat)
  /-- The bytes end inside the character that begins at `index`. -/
  | incomplete (index : Nat)
  deriving DecidableEq, Repr

/-- The wording of a decoding error. -/
def DecodeError.message : DecodeError → String
  | .invalid length index =>
    "invalid utf-8 sequence of " ++ toString length ++ " bytes from index " ++ toString index
  | .incomplete index => "incomplete utf-8 byte sequence from index " ++ toString index

/-! ### Writing -/

/-- The bytes of a text. -/
def encode (s : String) : Bytes :=
  s.toList.flatMap String.utf8EncodeChar

/-! ### Reading -/

/-- How many bytes follow a leading byte above ASCII, and the bounds of the first of them.
The bounds rule out surrogates, code points above U+10FFFF and spellings that are longer
than needed. -/
def following (lead : UInt8) : Option (Nat × UInt8 × UInt8) :=
  if 0xC2 ≤ lead && lead ≤ 0xDF then some (1, 0x80, 0xBF)
  else if lead = 0xE0 then some (2, 0xA0, 0xBF)
  else if lead = 0xED then some (2, 0x80, 0x9F)
  else if 0xE1 ≤ lead && lead ≤ 0xEF then some (2, 0x80, 0xBF)
  else if lead = 0xF0 then some (3, 0x90, 0xBF)
  else if 0xF1 ≤ lead && lead ≤ 0xF3 then some (3, 0x80, 0xBF)
  else if lead = 0xF4 then some (3, 0x80, 0x8F)
  else none

/-- What stands at the front of some bytes. -/
inductive Front where
  /-- A character, of one byte and `more` others. -/
  | char (c : Char) (more : Nat)
  /-- `length` bytes that belong to no character. -/
  | invalid (length : Nat)
  /-- The beginning of a character, and nothing after it. -/
  | incomplete

/-- The rest of a character: `left` further bytes, after `taken` bytes with the value `n`. -/
def frontTail : Nat → Nat → Nat → Bytes → Front
  | 0, taken, n, _ => .char (Char.ofNat n) (taken - 1)
  | _ + 1, _, _, [] => .incomplete
  | left + 1, taken, n, b :: rest =>
    if 0x80 ≤ b && b ≤ 0xBF then frontTail left (taken + 1) (64 * n + b.toNat % 64) rest
    else .invalid taken

/-- What stands at the front of the bytes `lead :: rest`. -/
def front (lead : UInt8) (rest : Bytes) : Front :=
  if lead < 0x80 then .char (Char.ofNat lead.toNat) 0
  else
    match following lead with
    | none => .invalid 1
    | some (count, low, high) =>
      match rest with
      | [] => .incomplete
      | b :: rest =>
        if low ≤ b && b ≤ high then
          let bits := lead.toNat % (1 <<< (6 - count))
          frontTail (count - 1) 2 (64 * bits + b.toNat % 64) rest
        else .invalid 1

/-- The characters of some bytes that begin at `index` of a longer run. -/
def decodeFrom (index : Nat) : Bytes → Except DecodeError (List Char)
  | [] => .ok []
  | lead :: rest =>
    match front lead rest with
    | .char c more => (decodeFrom (index + more + 1) (rest.drop more)).map (c :: ·)
    | .invalid length => .error (.invalid length index)
    | .incomplete => .error (.incomplete index)
  termination_by bytes => bytes.length
  decreasing_by simp only [List.length_cons, List.length_drop]; omega

/-- The text of the bytes, or the first error in them. -/
def decode (bytes : Bytes) : Except DecodeError String :=
  (decodeFrom 0 bytes).map String.ofList

/-- The characters of some bytes, U+FFFD standing for each run that is no character. -/
def decodeLossyChars : Bytes → List Char
  | [] => []
  | lead :: rest =>
    match front lead rest with
    | .char c more => c :: decodeLossyChars (rest.drop more)
    | .invalid length => '\ufffd' :: decodeLossyChars (rest.drop (length - 1))
    | .incomplete => ['\ufffd']
  termination_by bytes => bytes.length
  decreasing_by all_goals (simp only [List.length_cons, List.length_drop]; omega)

/-- The text of the bytes, U+FFFD standing for each run that is no character. -/
def decodeLossy (bytes : Bytes) : String :=
  String.ofList (decodeLossyChars bytes)

end Classpath.Text.Utf8
