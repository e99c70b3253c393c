/-!
# The checksum of gzip

The remainder of the bytes, taken as a polynomial over two elements, by the polynomial of CRC-32.
Bits are counted from the lowest of each byte.
-/

namespace RecordQuery.Gzip

/-- The polynomial, its highest coefficients in the lowest bits. -/
def polynomial : UInt32 := 0xedb88320

/-- The remainder after one more bit, which is already mixed into the lowest bit. -/
def shiftRemainder (remainder : UInt32) : UInt32 :=
  if remainder &&& 1 == 1 then (remainder >>> 1) ^^^ polynomial else remainder >>> 1

/-- The remainder after one more byte. -/
def addByte (remainder : UInt32) (byte : UInt8) : UInt32 :=
  (List.range 8).foldl (fun remainder _ => shiftRemainder remainder) (remainder ^^^ byte.toUInt32)

/-- The checksum of some bytes. -/
def checksum (bytes : List UInt8) : UInt32 :=
  ~~~ bytes.foldl addByte 0xffffffff

end RecordQuery.Gzip
