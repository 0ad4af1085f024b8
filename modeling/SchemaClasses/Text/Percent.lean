import SchemaClasses.Text.Digit
import SchemaClasses.Text.Utf8

/-!
# Percent-decoding

In a reference, a percent sign and two hexadecimal digits write a byte. The bytes of each run of
ASCII characters are decoded as UTF-8; a percent sign that writes no byte stands for itself, and so
does every character beyond ASCII.
-/

namespace SchemaClasses.Text

/-- The bytes of an ASCII text, each percent sign with two hexadecimal digits being one byte. -/
def percentBytes : List Char → List Nat
  | [] => []
  | [c] => [c.toNat]
  | [c, d] => [c.toNat, d.toNat]
  | c :: high :: low :: rest =>
    match c == '%', hexValue? high, hexValue? low with
    | true, some h, some l => (16 * h + l) :: percentBytes rest
    | _, _, _ => c.toNat :: percentBytes (high :: low :: rest)

/-- Decodes a text; `run` holds the unfinished run of ASCII characters, last one first. -/
def percentDecodeFrom (run : List Char) : List Char → List Char
  | [] => decodeUtf8Lossy (percentBytes run.reverse)
  | c :: rest =>
    if c.toNat < 128 then percentDecodeFrom (c :: run) rest
    else decodeUtf8Lossy (percentBytes run.reverse) ++ c :: percentDecodeFrom [] rest

def percentDecode (text : List Char) : List Char := percentDecodeFrom [] text

end SchemaClasses.Text
