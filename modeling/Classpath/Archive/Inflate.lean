import Classpath.Bytes

/-!
# Deflated data

Deflated data is a row of blocks: stored bytes, or symbols in a prefix code that stand for
bytes and for repetitions of what came before. The codes are fixed, or described at the
beginning of the block by the lengths of their words.

Data that ends early yields what could be read of it; data that breaks the rules yields
nothing.

## Main definitions

* `inflate`.
-/

namespace Classpath.Archive

/-! ### Bits -/

/-- The bits of some bytes, the lowest of each byte first. -/
def bitsOf (bytes : Bytes) : List Bool :=
  bytes.flatMap fun b => (List.range 8).map fun i => b.toNat.testBit i

/-- The number in some bits, the lowest first. -/
def bitNumber (bits : List Bool) : Nat :=
  bits.foldr (fun b n => 2 * n + b.toNat) 0

/-- Why reading stops before the last block is complete. -/
inductive InflateStop where
  | truncated
  | corrupt
  deriving DecidableEq, Repr

/-- A reader of some bits. -/
abbrev BitReader (α : Type) := StateT (List Bool) (Except InflateStop) α

/-- The number in the next bits. -/
def nextBits (count : Nat) : BitReader Nat := fun bits =>
  let front := bits.take count
  if front.length = count then .ok (bitNumber front, bits.drop count) else .error .truncated

/-- Stop, since a rule is broken. -/
def corrupt {α : Type} : BitReader α := fun _ => .error .corrupt

/-! ### Prefix codes -/

/-- A code in which shorter words come before longer ones, and words of one length are
numbered in the order of their symbols: how many words there are of each length, beginning
with length one, and the symbols in the order of their words. -/
structure PrefixCode where
  counts : List Nat
  symbols : Array Nat

/-- How long a word may be. -/
def wordLimit : Nat := 15

/-- The code in which every symbol has a word of the given length; symbols of length zero
have none. -/
def PrefixCode.ofLengths (lengths : List Nat) : PrefixCode where
  counts := (List.range wordLimit).map fun i => lengths.count (i + 1)
  symbols :=
    ((List.range wordLimit).flatMap fun i =>
      (lengths.zipIdx.filter fun p => p.1 = i + 1).map (·.2)).toArray

/-- How many words of the greatest length a code leaves free, or nothing if it has more words
than there can be. -/
def PrefixCode.free? (c : PrefixCode) : Option Nat :=
  c.counts.foldlM (fun free count => if count ≤ 2 * free then some (2 * free - count) else none) 1

/-- Whether a code can be used: it leaves no word free, or, where that is allowed, it has at
most one word, of length one. -/
def PrefixCode.isUsable (c : PrefixCode) (mayBeSparse : Bool) : Bool :=
  match c.free? with
  | none => false
  | some free => free == 0 || (mayBeSparse && c.symbols.size ≤ c.counts.headD 0 && c.symbols.size ≤ 1)

/-- The symbol of the next word. `first` is the first word of the current length and `index`
the number of its symbol. -/
def readSymbol (symbols : Array Nat) :
    (counts : List Nat) → (word first index : Nat) → BitReader Nat
  | [], _, _, _ => corrupt
  | count :: counts, word, first, index => do
    let word := 2 * word + (← nextBits 1)
    if word < first + count then
      match symbols[index + (word - first)]? with
      | some s => return s
      | none => corrupt
    else readSymbol symbols counts word (2 * (first + count)) (index + count)

/-- The symbol of the next word of a code. -/
def PrefixCode.read (c : PrefixCode) : BitReader Nat :=
  readSymbol c.symbols c.counts 0 0 0

/-! ### Symbols -/

/-- The shortest repetition of each symbol from 257 on, and the bits that lengthen it. -/
def lengthBases : Array (Nat × Nat) :=
  #[(3, 0), (4, 0), (5, 0), (6, 0), (7, 0), (8, 0), (9, 0), (10, 0), (11, 1), (13, 1), (15, 1),
    (17, 1), (19, 2), (23, 2), (27, 2), (31, 2), (35, 3), (43, 3), (51, 3), (59, 3), (67, 4),
    (83, 4), (99, 4), (115, 4), (131, 5), (163, 5), (195, 5), (227, 5), (258, 0)]

/-- The least distance of each symbol for distances, and the bits that add to it. -/
def distanceBases : Array (Nat × Nat) :=
  #[(1, 0), (2, 0), (3, 0), (4, 0), (5, 1), (7, 1), (9, 2), (13, 2), (17, 3), (25, 3), (33, 4),
    (49, 4), (65, 5), (97, 5), (129, 6), (193, 6), (257, 7), (385, 7), (513, 8), (769, 8),
    (1025, 9), (1537, 9), (2049, 10), (3073, 10), (4097, 11), (6145, 11), (8193, 12),
    (12289, 12), (16385, 13), (24577, 13)]

/-- A base from a table, with the bits that add to it. -/
def readBase (table : Array (Nat × Nat)) (symbol : Nat) : BitReader Nat :=
  match table[symbol]? with
  | some (base, extra) => return base + (← nextBits extra)
  | none => corrupt

/-- Some bytes and a repetition of the ones at a distance from their end; the repetition may
reach into itself. -/
def repeatBack (distance : Nat) : (length : Nat) → Array UInt8 → Array UInt8
  | 0, out => out
  | n + 1, out => repeatBack distance n (out.push (out.getD (out.size - distance) 0))

/-- What became of a block: the data goes on, or stops behind what was read so far. -/
inductive BlockResult where
  | next (out : Array UInt8) (bits : List Bool)
  | stop (out : Array UInt8) (why : InflateStop)

/-- What one symbol adds, or nothing for the symbol that ends a block. -/
def readItem (lengths distances : PrefixCode) (out : Array UInt8) :
    BitReader (Option (Array UInt8)) := do
  let symbol ← lengths.read
  if symbol < 256 then return some (out.push (UInt8.ofNat symbol))
  else if symbol = 256 then return none
  else
    let length ← readBase lengthBases (symbol - 257)
    let distance ← readBase distanceBases (← distances.read)
    if out.size < distance then corrupt else return some (repeatBack distance length out)

/-- The symbols of a block. Each takes a bit, so there are no more than bits. -/
def readItems (lengths distances : PrefixCode) :
    (steps : Nat) → Array UInt8 → List Bool → BlockResult
  | 0, out, _ => .stop out .truncated
  | steps + 1, out, bits =>
    match readItem lengths distances out bits with
    | .error why => .stop out why
    | .ok (none, bits) => .next out bits
    | .ok (some out, bits) => readItems lengths distances steps out bits

/-! ### Codes of blocks -/

/-- The code for bytes and lengths that needs no description. -/
def fixedLengths : PrefixCode :=
  .ofLengths (List.replicate 144 8 ++ List.replicate 112 9 ++ List.replicate 24 7 ++
    List.replicate 8 8)

/-- The code for distances that needs no description. -/
def fixedDistances : PrefixCode := .ofLengths (List.replicate 30 5)

/-- The order in which the lengths for the code of lengths are given. -/
def lengthOrder : List Nat :=
  [16, 17, 18, 0, 8, 7, 9, 6, 10, 5, 11, 4, 12, 3, 13, 2, 14, 1, 15]

/-- So many lengths, in the code of lengths. Three symbols repeat the last length or zero. -/
def readLengths (code : PrefixCode) (count : Nat) :
    (steps : Nat) → (lengths : List Nat) → BitReader (List Nat)
  | 0, lengths => if lengths.length = count then return lengths else corrupt
  | steps + 1, lengths => do
    if count ≤ lengths.length then
      if lengths.length = count then return lengths else corrupt
    else
      let symbol ← code.read
      if symbol < 16 then readLengths code count steps (lengths ++ [symbol])
      else if symbol = 16 then
        match lengths.getLast? with
        | none => corrupt
        | some last =>
          let n ← nextBits 2
          readLengths code count steps (lengths ++ List.replicate (3 + n) last)
      else if symbol = 17 then
        let n ← nextBits 3
        readLengths code count steps (lengths ++ List.replicate (3 + n) 0)
      else
        let n ← nextBits 7
        readLengths code count steps (lengths ++ List.replicate (11 + n) 0)

/-- So many numbers of three bits. -/
def readThrees : Nat → BitReader (List Nat)
  | 0 => return []
  | n + 1 => do
    let a ← nextBits 3
    return a :: (← readThrees n)

/-- The two codes that a block describes. -/
def readCodes : BitReader (PrefixCode × PrefixCode) := do
  let lengthCount := 257 + (← nextBits 5)
  let distanceCount := 1 + (← nextBits 5)
  let given ← readThrees (4 + (← nextBits 4))
  if 286 < lengthCount || 30 < distanceCount then corrupt
  else
    let table := lengthOrder.zip given
    let code := PrefixCode.ofLengths ((List.range 19).map fun s => (table.lookup s).getD 0)
    if !code.isUsable false then corrupt
    else
      let total := lengthCount + distanceCount
      let all ← readLengths code total total []
      let lengths := PrefixCode.ofLengths (all.take lengthCount)
      let distances := PrefixCode.ofLengths (all.drop lengthCount)
      if all.getD 256 0 = 0 || !lengths.isUsable true || !distances.isUsable true then corrupt
      else return (lengths, distances)

/-! ### Blocks -/

/-- A block of stored bytes, which begins with the next whole byte. -/
def readStored (out : Array UInt8) (bits : List Bool) : BlockResult :=
  let bits := bits.drop (bits.length % 8)
  let header : BitReader Nat := do
    let length ← nextBits 16
    let check ← nextBits 16
    if length + check = 65535 then return length else corrupt
  match header bits with
  | .error why => .stop out why
  | .ok (length, bits) =>
    let rec bytes : Nat → Array UInt8 → List Bool → BlockResult
      | 0, out, bits => .next out bits
      | n + 1, out, bits =>
        match nextBits 8 bits with
        | .error why => .stop out why
        | .ok (b, bits) => bytes n (out.push (UInt8.ofNat b)) bits
    bytes length out bits

/-- A block of the given kind. -/
def readBlock (kind : Nat) (out : Array UInt8) (bits : List Bool) : BlockResult :=
  match kind with
  | 0 => readStored out bits
  | 1 => readItems fixedLengths fixedDistances (bits.length + 1) out bits
  | 2 =>
    match readCodes bits with
    | .error why => .stop out why
    | .ok ((lengths, distances), bits) => readItems lengths distances (bits.length + 1) out bits
  | _ => .stop out .corrupt

/-- The blocks up to the last one. Each takes three bits, so there are no more than bits. -/
def readBlocks : (steps : Nat) → Array UInt8 → List Bool → Array UInt8 × Option InflateStop
  | 0, out, _ => (out, some .truncated)
  | steps + 1, out, bits =>
    let header : BitReader (Nat × Nat) := do return (← nextBits 1, ← nextBits 2)
    match header bits with
    | .error why => (out, some why)
    | .ok ((isLast, kind), bits) =>
      match readBlock kind out bits with
      | .stop out why => (out, some why)
      | .next out bits => if isLast = 1 then (out, none) else readBlocks steps out bits

/-- The bytes that some data was deflated from: all that could be read if the data ends
early, and nothing if it breaks a rule. -/
def inflate (data : Bytes) : Option Bytes :=
  let bits := bitsOf data
  match readBlocks (bits.length + 1) #[] bits with
  | (_, some .corrupt) => none
  | (out, _) => some out.toList

end Classpath.Archive
