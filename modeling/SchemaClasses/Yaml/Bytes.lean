import SchemaClasses.Text.Digit

/-!
# Bytes

Bytes are written in base 64: each character stands for six bits, an equals sign fills up the last
group, and other characters are passed over. In messages bytes are quoted like texts.

## Main definitions

* `readBase64`: the bytes of a text in base 64.
* `quoteBytes`: bytes as they are quoted.
-/

namespace SchemaClasses.Yaml

def base64Value? (c : Char) : Option Nat :=
  if c.isUpper then some (c.toNat - 'A'.toNat)
  else if c.isLower then some (c.toNat - 'a'.toNat + 26)
  else if c.isDigit then some (c.toNat - '0'.toNat + 52)
  else if c = '+' then some 62
  else if c = '/' then some 63
  else none

/-- The bytes of a text in base 64. `bits` are those of an unfinished group, `count` is the count of
its characters, and `pads` the count of equals signs since the last of them. A group that is filled
up ends the text. -/
def readBase64From (bits count pads : Nat) : List Char → Option (List Nat)
  | [] => if count = 0 then some [] else none
  | c :: rest =>
    if c = '=' then
      if count < 2 then readBase64From bits count pads rest
      else if 4 ≤ count + pads + 1 then some []
      else readBase64From bits count (pads + 1) rest
    else match base64Value? c with
      | none => readBase64From bits count pads rest
      | some value =>
        match count with
        | 0 => readBase64From value 1 0 rest
        | 1 => (readBase64From (value % 16) 2 0 rest).map ((bits * 4 + value / 16) :: ·)
        | 2 => (readBase64From (value % 4) 3 0 rest).map ((bits * 16 + value / 4) :: ·)
        | _ => (readBase64From 0 0 0 rest).map ((bits * 64 + value) :: ·)

def readBase64 (text : List Char) : Option (List Nat) := readBase64From 0 0 0 text

def quotedByte (mark : Char) (byte : Nat) : List Char :=
  let c := Char.ofNat byte
  if c = mark || c = '\\' then ['\\', c]
  else if c = '\t' then ['\\', 't']
  else if c = '\n' then ['\\', 'n']
  else if c = '\r' then ['\\', 'r']
  else if 0x20 ≤ byte && byte < 0x7F then [c]
  else '\\' :: 'x' :: Text.hexDigits 2 byte

def quoteBytes (bytes : List Nat) : String :=
  let mark := if bytes.contains '\''.toNat && !bytes.contains '"'.toNat then '"' else '\''
  String.ofList ('b' :: mark :: (bytes.flatMap (quotedByte mark) ++ [mark]))

end SchemaClasses.Yaml
