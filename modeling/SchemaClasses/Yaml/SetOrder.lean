import SchemaClasses.Yaml.Scalar

/-!
# The order of a set

The members of a set stand in a table, at places told by their hashes, and are shown in the order of
the table. Numbers that are equal have the same hash, whatever their type. The hashes of other
values differ from run to run, so that a set that holds one is shown in the order in which its
members are given.

## Main definitions

* `Scalar.hash?`: the hash of a number or a boolean.
* `freePlace`: where a member goes in a table.
* `inTableOrder`: the members of a set in the order in which they are shown.
-/

namespace SchemaClasses.Yaml

/-- The prime number modulo which numbers are hashed; it is one less than a power of two, so that
the powers of two have few residues. -/
def hashPrime : Nat := 2305843009213693951

/-- The hash of a whole number, or of a fraction brought to a whole number modulo the prime. The
hash -1 is kept for failures. -/
def hashOf (negative : Bool) (magnitude : Nat) : Int :=
  let residue : Int := (magnitude % hashPrime : Nat)
  let hash := if negative then -residue else residue
  if hash = -1 then -2 else hash

def Scalar.hash? : Scalar → Option Int
  | .bool b => some (if b then 1 else 0)
  | .int n => some (hashOf (n < 0) n.natAbs)
  | .float (.finite negative mantissa exponent) =>
    some (hashOf negative (mantissa * Binary64.powerOfTwo (exponent % 61).toNat))
  | .float (.infinite negative) => some (if negative then -314159 else 314159)
  | _ => none

/-- The size of the table of a set: a power of two, eight for up to four members, and beyond that
more than twice their count. -/
def tableSize (count : Nat) : Nat :=
  if count < 5 then 8 else Binary64.powerOfTwo ((2 * count).log2 + 1)

/-- How many places next to the one that a hash tells are tried before another one. -/
def neighbours (size place : Nat) : Nat := if place + 9 < size then 9 else 0

/-- The first free place for a hash in a table: the place it tells or one next to it, or else in the
same way at a further place, which depends on the higher digits of the hash at first. `fuel` bounds
the number of places told. -/
def freePlace (table : Array (Option Scalar)) : Nat → Nat → Nat → Nat
  | 0, place, _ => place
  | fuel + 1, place, rest =>
    let tried := (List.range (neighbours table.size place + 1)).map (place + ·)
    match tried.find? fun next => (table[next]?.join).isNone with
    | some free => free
    | none =>
      let rest := rest / 32
      freePlace table fuel ((place * 5 + 1 + rest) % table.size) rest

def putMember (table : Array (Option Scalar)) (hash : Int) (member : Scalar) :
    Array (Option Scalar) :=
  let digits := (hash % 18446744073709551616).toNat
  let place := freePlace table (table.size + 16) (digits % table.size) digits
  table.setIfInBounds place (some member)

def inTableOrder (members : List Scalar) : List Scalar :=
  match members.mapM Scalar.hash? with
  | none => members
  | some hashes =>
    let table := (hashes.zip members).foldl (fun table (hash, member) => putMember table hash member)
      (Array.replicate (tableSize members.length) none)
    table.toList.filterMap id

end SchemaClasses.Yaml
