import Classpath.Bytes

/-!
# Checksums

The checksum that archives keep of every entry: the remainder of the content, read as a
polynomial over two elements, by the polynomial of CRC-32.

## Main definitions

* `crc32`.
-/

namespace Classpath.Archive

/-- The polynomial of CRC-32, its lowest coefficients in the highest bits. -/
def crcPolynomial : UInt32 := 0xEDB88320

/-- A remainder with one bit taken in. -/
def crcBit (r : UInt32) : UInt32 :=
  if r &&& 1 = 1 then (r >>> 1) ^^^ crcPolynomial else r >>> 1

/-- A remainder with eight bits taken in. -/
def crcEight (r : UInt32) : UInt32 :=
  crcBit (crcBit (crcBit (crcBit (crcBit (crcBit (crcBit (crcBit r)))))))

/-- The checksum of some bytes. -/
def crc32 (bytes : Bytes) : UInt32 :=
  ~~~ (bytes.foldl (fun r b => crcEight ((r ^^^ b.toUInt32) &&& 0xFF) ^^^ (r >>> 8)) (~~~ 0))

end Classpath.Archive
