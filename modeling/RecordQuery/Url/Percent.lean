import RecordQuery.Text.Utf8

/-!
# Percent-encoded text

In a URL a percent sign and two hexadecimal digits stand for one byte.
-/

namespace RecordQuery.Url

/-- The value of a hexadecimal digit. -/
def hexDigit? (byte : UInt8) : Option UInt8 :=
  if 0x30 ≤ byte && byte ≤ 0x39 then some (byte - 0x30)
  else if 0x41 ≤ byte && byte ≤ 0x46 then some (byte - 0x37)
  else if 0x61 ≤ byte && byte ≤ 0x66 then some (byte - 0x57)
  else none

/-- The bytes that percent-encoded bytes stand for. A percent sign without two digits stands for
itself. -/
def percentDecode : List UInt8 → List UInt8
  | [] => []
  | [byte] => [byte]
  | [byte, next] => [byte, next]
  | byte :: high :: low :: rest =>
      match if byte == 0x25 then hexDigit? high else none, hexDigit? low with
      | some h, some l => (h * 16 + l) :: percentDecode rest
      | _, _ => byte :: percentDecode (high :: low :: rest)

/-- The text that percent-encoded text stands for. -/
def percentDecodeText (text : List Char) : List Char :=
  Text.ofBytesLenient (percentDecode (Text.toBytes text))

end RecordQuery.Url
