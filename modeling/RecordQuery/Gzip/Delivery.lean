import RecordQuery.Gzip.Inflate

/-!
# What a reader is given of damaged data

Data is handed over in answer to requests. For one request the unpacker works ahead until its
window is full, until the portion of the file that it has loaded is used up, or until it meets
damage; what the window holds then answers this request and the next ones. Damage fails the request
that meets it: the bytes found for this request are never handed over.
-/

namespace RecordQuery.Gzip

/-- The number of bytes in the window. -/
def windowSize : Nat := 0x8000

/-- The greatest number of bytes that a request asks for. -/
def requestSize : Nat := 0x2000

/-- The number of bits in a portion of a file. -/
def portionBits : Nat := 8 * 0x8000

/-- How far the reading of a file has come. -/
structure Delivery where
  /-- The bytes that were found. -/
  found : Nat
  /-- The bytes of them that belong to earlier requests. -/
  given : Nat
  /-- The bytes that had been found when the unpacker last began to work. -/
  start : Nat
  /-- The bits of the file behind the portion that is loaded. -/
  unloaded : Nat
  /-- Whether a request has found the file at its end. -/
  closing : Bool

namespace Delivery

/-- Loads portions until no more than so many bits are unloaded. The bytes found before belong to
earlier requests. -/
def load (delivery : Delivery) (left : Nat) : Delivery :=
  if left < delivery.unloaded then
    let missing := delivery.unloaded - left
    let portions := (missing + portionBits - 1) / portionBits
    { delivery with
      given := delivery.found
      start := delivery.found
      unloaded := delivery.unloaded - portions * portionBits }
  else delivery

/-- The window is full with the given number of bytes found. A request that has been answered with
less than it asks for goes on if bytes of the portion are unread; else a new one begins. -/
def fill (delivery : Delivery) (full waiting : Nat) : Delivery :=
  let unread := 8 ≤ waiting - delivery.unloaded
  let delivery :=
    if full - delivery.given < requestSize && (unread || delivery.closing) then delivery
    else { delivery with given := full }
  { delivery with
    start := full
    unloaded := if unread then delivery.unloaded else delivery.unloaded - portionBits
    closing := delivery.closing || (!unread && delivery.unloaded == 0) }

/-- What one more piece changes. -/
def add (delivery : Delivery) (piece : Piece) : Delivery :=
  let delivery := delivery.load piece.left
  let full := (delivery.start / windowSize + 1) * windowSize
  let delivery :=
    if full < delivery.found + piece.count then delivery.fill full piece.waiting else delivery
  { delivery with found := delivery.found + piece.count }

/-- The number of bytes that are handed over before the fault that stops the reading. The file has
`total` bits, and its data begins with so many left. -/
def beforeStop (total left : Nat) (pieces : Array Piece) (stop : Stop) : Nat :=
  let loaded := ((total - left) / portionBits + 1) * portionBits
  let delivery := pieces.foldl add ⟨0, 0, 0, total - loaded, false⟩
  match stop with
  | .malformed => delivery.given
  | .endsEarly => if delivery.closing then delivery.given else delivery.found

end Delivery

end RecordQuery.Gzip
