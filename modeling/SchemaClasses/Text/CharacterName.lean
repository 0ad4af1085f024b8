import SchemaClasses.Text.CharacterName.Alias
import SchemaClasses.Text.CharacterName.Ancient
import SchemaClasses.Text.CharacterName.Asian
import SchemaClasses.Text.CharacterName.European
import SchemaClasses.Text.CharacterName.Local
import SchemaClasses.Text.CharacterName.Logogram
import SchemaClasses.Text.CharacterName.Notation
import SchemaClasses.Text.CharacterName.Pictograph
import SchemaClasses.Text.CharacterName.Presentation
import SchemaClasses.Text.CharacterName.Regional
import SchemaClasses.Text.CharacterName.Syllabary
import SchemaClasses.Text.CharacterName.Symbol
import SchemaClasses.Text.Digit

/-!
# Names of characters

Every character of Unicode 14 that is no private one has a name or an alias. Most names are listed;
those of ideographs hold their code point, and those of syllables their parts. A syllable of Hangul
has an initial consonant, a vowel and a final consonant, of which the consonants may be absent.

## Main definitions

* `Text.characterNamed?`: the code point of the character with a name.
-/

namespace SchemaClasses.Text

open CharacterName

/-! ## Syllables -/

def CharacterName.initials : String := "G,GG,N,D,DD,R,M,B,BB,S,SS,,J,JJ,C,K,T,P,H"

def CharacterName.vowels : String :=
  "A,AE,YA,YAE,EO,E,YEO,YE,O,WA,WAE,OE,YO,U,WEO,WE,WI,YU,EU,YI,I"

def CharacterName.finals : String :=
  ",G,GG,GS,N,NJ,NH,D,L,LG,LM,LB,LS,LT,LP,LH,M,B,BS,S,SS,NG,J,C,K,T,P,H"

/-- The longest of some names that a text begins with: its place among them, and what follows it. -/
def CharacterName.longestPart? (names : String) (text : List Char) : Option (Nat × List Char) :=
  ((splitAt ',' names.toList).zipIdx.foldl (fun best (name, place) =>
    match List.isPrefixOf? name text, best with
    | none, _ => best
    | some rest, none => some (place, rest)
    | some rest, some (_, shortest) =>
      if rest.length < shortest.length then some (place, rest) else best) none)

def CharacterName.syllableCode? (name : List Char) : Option Nat := do
  let (initial, afterInitial) ← longestPart? initials name
  let (vowel, afterVowel) ← longestPart? vowels afterInitial
  let (final, rest) ← longestPart? finals afterVowel
  if rest.isEmpty then some (0xAC00 + (initial * 21 + vowel) * 28 + final) else none

/-! ## Names -/

def CharacterName.runs : List (List NameRun) := [
  europeanNames, nearEasternNames, indicNames, regionalNames, phoneticNames, symbolNames,
  eastAsianNames, localScriptNames, presentationNames, ancientNames, cuneiformNames,
  hieroglyphNames, syllabaryNames, writtenNotationNames, pictographNames]

def CharacterName.unifiedIdeographs : List (Nat × Nat) := [
  (0x3400, 0x4DBF), (0x4E00, 0x9FFF), (0x20000, 0x2A6DF), (0x2A700, 0x2B738), (0x2B740, 0x2B81D),
  (0x2B820, 0x2CEA1), (0x2CEB0, 0x2EBE0), (0x30000, 0x3134A)]

/-- The other characters that are named by their code point, with what stands before it. -/
def CharacterName.numbered : List (String × List (Nat × Nat)) := [
  ("CJK COMPATIBILITY IDEOGRAPH-", [(0xF900, 0xFA6D), (0xFA70, 0xFAD9), (0x2F800, 0x2FA1D)]),
  ("KHITAN SMALL SCRIPT CHARACTER-", [(0x18B00, 0x18CD5)]),
  ("NUSHU CHARACTER-", [(0x1B170, 0x1B2FB)])]

/-- The number that four or five hexadecimal digits in capitals write, if it lies in one of the
ranges. -/
def CharacterName.codeWithin? (ranges : List (Nat × Nat)) (digits : List Char) : Option Nat :=
  if (digits.length = 4 || digits.length = 5) && digits.all (fun c => !c.isLower) then
    (hexNumber? digits).filter fun code =>
      ranges.any fun (first, last) => first ≤ code && code ≤ last
  else none

/-- The code point of a character whose name holds it, without leading zeros. -/
def CharacterName.numberedCode? (name : List Char) : Option Nat :=
  numbered.findSome? fun (lead, ranges) =>
    (List.isPrefixOf? lead.toList name).bind fun digits =>
      if digits.head? = some '0' then none else codeWithin? ranges digits

def CharacterName.aliasCode? (name : List Char) : Option Nat :=
  (aliases.find? fun (_, names) => (splitAt ',' names.toList).contains name).map (·.1)

/-- The code point of the character with a name or an alias. Small letters of ASCII stand for the
capitals, except in the names of syllables and of unified ideographs. -/
def characterNamed? (name : List Char) : Option Nat :=
  match List.isPrefixOf? "HANGUL SYLLABLE ".toList name with
  | some parts => syllableCode? parts
  | none =>
    match List.isPrefixOf? "CJK UNIFIED IDEOGRAPH-".toList name with
    | some digits => codeWithin? unifiedIdeographs digits
    | none =>
      let capitals := name.map (·.toUpper)
      let listed := runs.findSome? fun part => part.findSome? (·.code? capitals)
      (listed.or (numberedCode? capitals)).or (aliasCode? capitals)

end SchemaClasses.Text
