/-!
# Parts of a regular expression

Of a regular expression that has been read, only what later checks need is kept: the kind of each
part, how many characters it can match, and what remains to be checked once the whole expression has
been read.

## Main definitions

* `Width`: the least and the greatest count of characters that a part matches.
* `Item`: a part.
* `Item.repeated`, `Item.branch`: parts made of parts.
-/

namespace SchemaClasses.Regex

def unlimited : Nat := 4294967295

structure Width where
  low : Nat
  high : Nat

/-- A width whose least count stays below the unlimited one and whose greatest count does not
exceed it. -/
def Width.limited (low high : Nat) : Width := ⟨min low (unlimited - 1), min high unlimited⟩

/-- The kinds of parts that differ in what may be repeated. -/
inductive ItemKind where
  /-- A position, such as the start of a line. -/
  | anchor
  | repetition
  | other
deriving DecidableEq

/-- What remains to be checked after the whole expression has been read. -/
inductive Check where
  /-- A part looks behind over this width, which must be fixed. -/
  | lookBehind (width : Width)
  /-- A repetition, which template mode forbids. -/
  | repetition (name : String)

structure Item where
  kind : ItemKind := .other
  width : Width := ⟨0, 0⟩
  checks : List Check := []

def Item.character : Item := { width := ⟨1, 1⟩ }

def Item.anchor : Item := { kind := .anchor }

def sequenceWidth (items : List Item) : Width :=
  let low := items.foldl (fun total item => total + item.width.low) 0
  let high := items.foldl (fun total item => total + item.width.high) 0
  .limited low high

def sequenceChecks (items : List Item) : List Check := items.flatMap (·.checks)

def Item.group (items : List Item) : Item :=
  { width := sequenceWidth items, checks := sequenceChecks items }

/-- A part repeated from `least` to `most` times; `name` tells how the count is chosen. -/
def Item.repeated (item : Item) (least most : Nat) (name : String) : Item :=
  let width := sequenceWidth [item]
  { kind := .repetition
    width := ⟨width.low * least, width.high * most⟩
    checks := .repetition name :: item.checks }

def Item.branch (alternatives : List (List Item)) : Item :=
  let widths := alternatives.map sequenceWidth
  { width :=
      ⟨widths.foldl (fun least width => min least width.low) (unlimited - 1),
        widths.foldl (fun most width => max most width.high) 0⟩
    checks := alternatives.flatMap sequenceChecks }

/-- A part that is passed over without matching characters: what stands ahead, or behind. -/
def Item.assertion (behind : Bool) (items : List Item) : Item :=
  let inner := sequenceChecks items
  { checks := if behind then .lookBehind (sequenceWidth items) :: inner else inner }

def Item.conditional (yes : List Item) (no : Option (List Item)) : Item :=
  let width := sequenceWidth yes
  let other := match no with
    | some items => sequenceWidth items
    | none => ⟨0, 0⟩
  { width := ⟨min width.low other.low, max width.high other.high⟩
    checks := sequenceChecks yes ++ sequenceChecks (no.getD []) }

end SchemaClasses.Regex
