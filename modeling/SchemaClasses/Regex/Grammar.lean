import SchemaClasses.Number.Decimal
import SchemaClasses.Regex.Item
import SchemaClasses.Regex.Source
import SchemaClasses.Text.CharacterName
import SchemaClasses.Text.Digit
import SchemaClasses.Text.Letter

/-!
# The grammar of regular expressions

A pattern is accepted when it is a regular expression with groups, look-around, back references,
inline flags and possessive repetition. Otherwise the first fault is reported, as it is met when the
pattern is read from left to right.

## Main definitions

* `Reader`: a step of reading a pattern.
* `alternatives`, `sequence`: the parts of a pattern.
* `check`: whether a pattern is a regular expression, and its fault if not.
-/

namespace SchemaClasses.Regex

structure ReaderState where
  source : Source
  /-- The letters of the flags that hold for the whole pattern. -/
  flags : List Char := []
  /-- The number of each named group. -/
  groupNames : List (List Char × Nat) := []
  /-- The width of each group, none while it is open; the whole pattern is group zero. -/
  groupWidths : Array (Option Width) := #[none]
  /-- While a look-behind is read: the number of groups before it. -/
  lookBehindGroups : Option Nat := none
  /-- The groups that conditions refer to by number, with the first place of each. -/
  conditionGroups : List (Nat × Nat) := []

abbrev Reader := StateT ReaderState (Except Fault)

/-- A fault some characters before the next token. -/
def fail {α : Type} (problem : String) (back : Nat := 0) : Reader α := do
  (← get).source.fault problem back

def peek : Reader (Option (List Char)) := return (← get).source.next

def position : Reader Nat := return (← get).source.position

def advance : Reader Unit := do
  let state ← get
  set { state with source := ← state.source.advance }

def take : Reader (Option (List Char)) := do
  let token ← peek
  advance
  return token

def accept (c : Char) : Reader Bool := do
  if (← peek) = some [c] then
    advance
    return true
  else return false

/-- Takes tokens that are characters of a class, at most `count` of them. -/
def takeClass (allowed : Char → Bool) : Nat → Reader (List Char)
  | 0 => return []
  | count + 1 => do
    match ← peek with
    | some [c] =>
      if allowed c then
        advance
        return c :: (← takeClass allowed count)
      else return []
    | _ => return []

/-- The characters up to a closing mark, of what is called `what`; `fuel` bounds their count. -/
def takeUntil (mark : Char) (what : String) (read : List Char) : Nat → Reader (List Char)
  | 0 => fail ("missing " ++ what)
  | fuel + 1 => do
    match ← take with
    | none =>
      if read.isEmpty then fail ("missing " ++ what)
      else fail ("missing " ++ String.singleton mark ++ ", unterminated name") read.length
    | some token =>
      if token = [mark] then
        if read.isEmpty then fail ("missing " ++ what) 1 else return read
      else takeUntil mark what (read ++ token) fuel

def takeName (mark : Char) : Reader (List Char) := do
  let size := (← get).source.pattern.size
  takeUntil mark "group name" [] (size + 1)

def shown (token : List Char) : String := String.ofList token

def quotedName (name : List Char) : String := String.ofList (Text.quoted name)

def isClosed (group : Nat) : Reader Bool :=
  return ((← get).groupWidths[group]?.getD none).isSome

/-- Checks a reference to a group from inside a look-behind: the group must be complete, and begin
before the look-behind does. -/
def checkLookBehindGroup (group : Nat) : Reader Unit := do
  match (← get).lookBehindGroups with
  | none => return
  | some before =>
    if !(← isClosed group) then fail "cannot refer to an open group"
    else if before ≤ group then
      fail "cannot refer to group defined in the same lookbehind subpattern"
    else return

def groupItem (group : Nat) : Reader Item :=
  return { width := ((← get).groupWidths[group]?.getD none).getD ⟨0, 0⟩ }

/-- What an escape stands for: a character by its code point, a class of characters, or a
position. -/
inductive Escape where
  | literal (code : Nat)
  | category
  | anchor
  | group (group : Nat)

def controlEscape? (c : Char) : Option Nat :=
  match c with
  | 'a' => some 7
  | 'b' => some 8
  | 'f' => some 12
  | 'n' => some 10
  | 'r' => some 13
  | 't' => some 9
  | 'v' => some 11
  | '\\' => some 92
  | _ => none

/-- Whether a letter after a backslash stands for a class of characters. -/
def isCategory (c : Char) : Bool := "dDsSwW".toList.contains c

/-- Whether a letter after a backslash stands for a position. -/
def isAnchor (c : Char) : Bool := "AbBZ".toList.contains c

def isOctal (c : Char) : Bool := '0' ≤ c && c ≤ '7'

def octalValue (digits : List Char) : Nat :=
  digits.foldl (fun number c => 8 * number + (c.toNat - '0'.toNat)) 0

/-- The character of an escape by a fixed count of hexadecimal digits. -/
def hexEscape (letter : Char) (count : Nat) : Reader Escape := do
  let digits ← takeClass (fun c => (Text.hexValue? c).isSome) count
  let written := '\\' :: letter :: digits
  let code := (Text.hexNumber? digits).getD 0
  if digits.length < count then fail ("incomplete escape " ++ shown written) written.length
  else if 0x7FFFFFFF < code then throw (.failure .numberTooLarge)
  else if 0x10FFFF < code then fail ("bad escape " ++ shown written) written.length
  else return .literal code

def octalFault (written : List Char) : Reader Escape :=
  fail ("octal escape value " ++ shown written ++ " outside of range 0-0o377") written.length

def namedEscape : Reader Escape := do
  if !(← accept '\x7b') then fail "missing \x7b"
  else
    let size := (← get).source.pattern.size
    let name ← takeUntil '\x7d' "character name" [] (size + 1)
    match Text.characterNamed? name with
    | some code => return .literal code
    | none => fail ("undefined character name " ++ quotedName name) (name.length + 4)

/-- An escape that is read alike inside and outside a set of characters, given the character after
the backslash. -/
def plainEscape (c : Char) : Reader Escape := do
  if c = 'x' then hexEscape c 2
  else if c = 'u' then hexEscape c 4
  else if c = 'U' then hexEscape c 8
  else if c = 'N' then namedEscape
  else if c.isAlphanum then fail ("bad escape " ++ shown ['\\', c]) 2
  else return .literal c.toNat

def setEscape (c : Char) : Reader Escape := do
  match controlEscape? c with
  | some code => return .literal code
  | none =>
    if isCategory c then return .category
    else if isOctal c then
      let written := '\\' :: c :: (← takeClass isOctal 2)
      let code := octalValue (written.drop 1)
      if 0o377 < code then octalFault written else return .literal code
    else plainEscape c

/-- An escape by decimal digits: a character by three octal digits, or a group by its number. -/
def numberedEscape (c : Char) : Reader Escape := do
  let digits ← takeClass Char.isDigit 1
  let octal ←
    if isOctal c && digits.all isOctal && !digits.isEmpty then takeClass isOctal 1 else pure []
  let written := '\\' :: c :: (digits ++ octal)
  if !octal.isEmpty then
    let code := octalValue (written.drop 1)
    if 0o377 < code then octalFault written else return .literal code
  else
    let group := digitsValue (c :: digits)
    if group < (← get).groupWidths.size then
      if !(← isClosed group) then fail "cannot refer to an open group" written.length
      else
        checkLookBehindGroup group
        return .group group
    else fail ("invalid group reference " ++ toString group) (written.length - 1)

def escape (c : Char) : Reader Escape := do
  if isAnchor c then return .anchor
  else if isCategory c then return .category
  else match controlEscape? c with
    | some code => return .literal code
    | none =>
      if c = '0' then
        let digits ← takeClass isOctal 2
        return .literal (octalValue (c :: digits))
      else if c.isDigit then numberedEscape c
      else plainEscape c

def setMember (token : List Char) : Reader Escape :=
  match token with
  | ['\\', c] => setEscape c
  | c :: _ => return .literal c.toNat
  | [] => return .literal 0

def Escape.code? : Escape → Option Nat
  | .literal code => some code
  | _ => none

/-- The members of a set of characters up to its closing bracket. `here` is the place of the opening
bracket, and `first` tells whether the set is still empty. -/
def setMembers (here : Nat) (first : Bool) : Nat → Reader Unit
  | 0 => return
  | fuel + 1 => do
    let unterminated : Reader Unit := do
      fail "unterminated character set" ((← position) - here)
    match ← take with
    | none => unterminated
    | some token =>
      if token = [']'] && !first then return
      else
        let low ← setMember token
        if ← accept '-' then
          match ← take with
          | none => unterminated
          | some [']'] => return
          | some last =>
            let high ← setMember last
            let inverted : Bool := match low.code?, high.code? with
              | some a, some b => decide (b < a)
              | _, _ => true
            if inverted then
              fail ("bad character range " ++ shown token ++ "-" ++ shown last)
                (token.length + 1 + last.length)
            else setMembers here false fuel
        else setMembers here false fuel

/-- The numbers of a repetition in braces, after the opening one; none if these are no braces of a
repetition, and then nothing has been taken. -/
def repetitionCounts : Reader (Option (Nat × Nat)) := do
  let here ← position
  let size := (← get).source.pattern.size
  let low ← takeClass Char.isDigit size
  let ranged ← accept ','
  let high ← if ranged then takeClass Char.isDigit size else pure low
  if !(← accept '\x7d') then
    let state ← get
    set { state with source := ← state.source.seek here }
    return none
  else
    let count (digits : List Char) (absent : Nat) : Reader Nat := do
      if digits.isEmpty then return absent
      else match readDigits digits with
        | .error failure => throw (.failure failure)
        | .ok number =>
          if unlimited ≤ number then throw (.failure .numberTooLarge) else return number
    let least ← count low 0
    let most ← count high unlimited
    if !high.isEmpty && most < least then
      fail "min repeat greater than max repeat" ((← position) - here)
    else return some (least, most)

def flagLetters : List Char := "iLmsxatu".toList

def isFlag (token : List Char) : Bool :=
  match token with
  | [c] => flagLetters.contains c
  | _ => false

def flagFault {α : Type} (token : List Char) (otherwise : String) : Reader α :=
  let letters := match token with
    | [c] => Text.isLetter c
    | _ => false
  fail (if letters then "unknown flag" else otherwise) token.length

/-- The flags that are switched on, and the token after them, given the first of them. -/
def flagsOn (read : List Char) (token : List Char) : Nat → Reader (List Char × List Char)
  | 0 => return (read, token)
  | fuel + 1 => do
    let flag := token.headD ' '
    if flag = 'L' then fail "bad inline flags: cannot use 'L' flag with a str pattern"
    else
      let read := read ++ [flag]
      if (flag = 'a' || flag = 'u') && read.contains 'a' && read.contains 'u' then
        fail "bad inline flags: flags 'a', 'u' and 'L' are incompatible"
      else match ← take with
        | none => fail "missing -, : or )"
        | some next =>
          if next = [')'] || next = ['-'] || next = [':'] then return (read, next)
          else if isFlag next then flagsOn read next fuel
          else flagFault next "missing -, : or )"

/-- The flags that are switched off, up to the colon, given the first of them. -/
def flagsOff (read : List Char) (token : List Char) : Nat → Reader (List Char)
  | 0 => return read
  | fuel + 1 => do
    let flag := token.headD ' '
    if flag = 'a' || flag = 'u' || flag = 'L' then
      fail "bad inline flags: cannot turn off flags 'a', 'u' and 'L'"
    else
      let read := read ++ [flag]
      match ← take with
      | none => fail "missing :"
      | some next =>
        if next = [':'] then return read
        else if isFlag next then flagsOff read next fuel
        else flagFault next "missing :"

/-- The flags of a group, on and off, given their first token; none when they hold for the whole
pattern, which has then been noted. -/
def groupFlags (token : List Char) : Reader (Option (List Char × List Char)) := do
  let size := (← get).source.pattern.size
  let (on, mark) ← if token = ['-'] then pure ([], token) else flagsOn [] token (size + 1)
  if mark = [')'] then
    modify fun state => { state with flags := state.flags ++ on }
    return none
  else if on.contains 't' then fail "bad inline flags: cannot turn on global flag" 1
  else
    let off ←
      if mark = ['-'] then
        match ← take with
        | none => fail "missing flag"
        | some first =>
          if isFlag first then flagsOff [] first (size + 1) else flagFault first "missing flag"
      else pure []
    if off.contains 't' then fail "bad inline flags: cannot turn off global flag" 1
    else if on.any off.contains then fail "bad inline flags: flag turned on and off" 1
    else return some (on, off)

def openGroup (name? : Option (List Char)) : Reader Nat := do
  let state ← get
  let group := state.groupWidths.size
  match name? with
  | none => set { state with groupWidths := state.groupWidths.push none }
  | some name =>
    match state.groupNames.lookup name with
    | some earlier =>
      fail ("redefinition of group name " ++ quotedName name ++ " as group " ++ toString group ++
        "; was group " ++ toString earlier) (name.length + 1)
    | none =>
      set { state with
        groupWidths := state.groupWidths.push none
        groupNames := state.groupNames ++ [(name, group)] }
  return group

def closeGroup (group : Nat) (items : List Item) : Reader Unit :=
  modify fun state =>
    { state with groupWidths := state.groupWidths.setIfInBounds group (sequenceWidth items) }

/-- Checks the name of a group, which has been taken with its closing mark. -/
def checkName (name : List Char) : Reader Unit := do
  if Text.isWord name then return
  else fail ("bad character in group name " ++ quotedName name) (name.length + 1)

def namedReference : Reader Item := do
  let name ← takeName ')'
  checkName name
  match (← get).groupNames.lookup name with
  | none => fail ("unknown group name " ++ quotedName name) (name.length + 1)
  | some group =>
    if !(← isClosed group) then fail "cannot refer to an open group" (name.length + 1)
    else
      checkLookBehindGroup group
      groupItem group

/-- The group that a condition asks for, by name or by number. -/
def conditionGroup : Reader Nat := do
  let name ← takeName ')'
  if Text.isWord name then
    match (← get).groupNames.lookup name with
    | some group => return group
    | none => fail ("unknown group name " ++ quotedName name) (name.length + 1)
  else
    let badName : Reader Nat :=
      fail ("bad character in group name " ++ quotedName name) (name.length + 1)
    match readInteger 10 name with
    | .error _ => badName
    | .ok number =>
      if number < 0 then badName
      else
        let group := number.toNat
        if group = 0 then fail "bad group number" (name.length + 1)
        else if 1073741823 ≤ group then
          fail ("invalid group reference " ++ toString group) (name.length + 1)
        else
          let place := (← position) - name.length - 1
          modify fun state =>
            if (state.conditionGroups.lookup group).isSome then state
            else { state with conditionGroups := state.conditionGroups ++ [(group, place)] }
          return group

/-- What a group is, after its opening parenthesis and the marks that follow it. -/
inductive GroupKind where
  /-- A group whose match is kept, with its name if it has one. -/
  | capturing (name? : Option (List Char))
  /-- A group whose match is not kept, with the flags switched on and off in it; `atomic` ones are
  never reconsidered. -/
  | plain (atomic : Bool) (on off : List Char)
  | assertion (behind : Bool)
  | conditional
  /-- A complete part by itself. -/
  | item (item : Item)
  /-- Something that matches nothing: a comment. -/
  | nothing
  /-- Flags for the whole pattern. -/
  | flags

def skipComment (start : Nat) : Nat → Reader Unit
  | 0 => return
  | fuel + 1 => do
    match ← peek with
    | none => fail "missing ), unterminated comment" ((← position) - start)
    | some token =>
      advance
      if token = [')'] then return else skipComment start fuel

/-- The kind of a group, after its opening parenthesis; `start` is the place of that. -/
def groupKind (start : Nat) : Reader GroupKind := do
  if !(← accept '?') then return .capturing none
  else
    let ended {α : Type} : Reader α := fail "unexpected end of pattern"
    match ← take with
    | none => ended
    | some ['P'] =>
      let opens ← accept '<'
      if opens then
        let name ← takeName '>'
        checkName name
        return .capturing (some name)
      let refers ← accept '='
      if refers then return .item (← namedReference)
      match ← take with
      | none => ended
      | some token => fail ("unknown extension ?P" ++ shown token) (token.length + 2)
    | some [':'] => return .plain false [] []
    | some ['#'] =>
      let size := (← get).source.pattern.size
      skipComment start (size + 1)
      return .nothing
    | some ['='] | some ['!'] => return .assertion false
    | some ['<'] =>
      match ← take with
      | none => ended
      | some token =>
        if token = ['='] || token = ['!'] then return .assertion true
        else fail ("unknown extension ?<" ++ shown token) (token.length + 2)
    | some ['('] => return .conditional
    | some ['>'] => return .plain true [] []
    | some token =>
      if isFlag token || token = ['-'] then
        match ← groupFlags token with
        | none => return .flags
        | some (on, off) => return .plain false on off
      else fail ("unknown extension ?" ++ shown token) (token.length + 1)

def isVerboseSpace (c : Char) : Bool := [9, 10, 11, 12, 13, 32].contains c.toNat

def skipLine : Nat → Reader Unit
  | 0 => return
  | fuel + 1 => do
    match ← take with
    | none | some ['\n'] => return
    | some _ => skipLine fuel

def closeParenthesis (start : Nat) : Reader Unit := do
  if !(← accept ')') then
    fail "missing ), unterminated subpattern" ((← position) - start)

/-- The name of a repetition by the mark after it: a question mark makes it as short as possible, a
plus sign makes it final. -/
def repetitionName : Reader String := do
  let shortest ← accept '?'
  if shortest then return "MIN_REPEAT"
  let final ← accept '+'
  return if final then "POSSESSIVE_REPEAT" else "MAX_REPEAT"

/-- The item that a repetition applies to, replaced by the repetition. -/
def repeatLast (items : List Item) (mark : List Char) (here least most : Nat) :
    Reader (List Item) := do
  let back := (← position) - here + mark.length
  match items.getLast? with
  | none => fail "nothing to repeat" back
  | some item =>
    if item.kind = .anchor then fail "nothing to repeat" back
    else if item.kind = .repetition then fail "multiple repeat" back
    else
      let name ← repetitionName
      return items.dropLast ++ [item.repeated least most name]

mutual

/-- Alternatives separated by bars. `outermost` tells whether this is the whole pattern. -/
def alternatives (verbose outermost : Bool) (read : List (List Item)) :
    Nat → Reader (List Item)
  | 0 => return []
  | fuel + 1 => do
    let items ← sequence verbose outermost (outermost && read.isEmpty) [] fuel
    let read := read ++ [items]
    if ← accept '|' then
      let flags := (← get).flags
      let verbose := if outermost then flags.contains 'x' else verbose
      alternatives verbose outermost read fuel
    else match read with
      | [only] => return only
      | _ => return [Item.branch read]

/-- Parts in sequence, up to a bar, a closing parenthesis or the end. `first` tells whether nothing
but flags stands before. -/
def sequence (verbose outermost first : Bool) (items : List Item) : Nat → Reader (List Item)
  | 0 => return items
  | fuel + 1 => do
    match ← peek with
    | none | some ['|'] | some [')'] => return items
    | some token =>
      advance
      let here ← position
      let goOn (items : List Item) : Reader (List Item) :=
        sequence verbose outermost first items fuel
      match token with
      | [] => return items
      | [c] =>
        if verbose && isVerboseSpace c then goOn items
        else if verbose && c = '#' then
          let size := (← get).source.pattern.size
          skipLine (size + 1)
          goOn items
        else if c = '[' then
          let _ ← accept '^'
          let size := (← get).source.pattern.size
          setMembers (here - 1) true (size + 1)
          goOn (items ++ [.character])
        else if c = '?' then goOn (← repeatLast items token here 0 1)
        else if c = '*' then goOn (← repeatLast items token here 0 unlimited)
        else if c = '+' then goOn (← repeatLast items token here 1 unlimited)
        else if c = '\x7b' then
          if (← peek) = some ['\x7d'] then goOn (items ++ [.character])
          else match ← repetitionCounts with
            | none => goOn (items ++ [.character])
            | some (least, most) => goOn (← repeatLast items token here least most)
        else if c = '^' || c = '$' then goOn (items ++ [.anchor])
        else if c = '(' then
          match ← groupKind (here - 1) with
          | .flags =>
            if !first || !items.isEmpty then
              fail "global flags not at the start of the expression" ((← position) - (here - 1))
            else
              let flags := (← get).flags
              sequence (flags.contains 'x') outermost first items fuel
          | .nothing => goOn items
          | .item item => goOn (items ++ [item])
          | kind => goOn (items ++ [← groupBody (here - 1) verbose kind fuel])
        else goOn (items ++ [.character])
      | _ :: c :: _ =>
        match ← escape c with
        | .anchor => goOn (items ++ [.anchor])
        | .group group => goOn (items ++ [← groupItem group])
        | _ => goOn (items ++ [.character])

/-- The rest of a group of the given kind, up to its closing parenthesis. -/
def groupBody (start : Nat) (verbose : Bool) (kind : GroupKind) : Nat → Reader Item
  | 0 => return {}
  | fuel + 1 => do
    match kind with
    | .capturing name? =>
      let group ← openGroup name?
      let items ← alternatives verbose false [] fuel
      closeParenthesis start
      closeGroup group items
      return .group items
    | .plain _ on off =>
      let inner := (verbose || on.contains 'x') && !off.contains 'x'
      let items ← alternatives inner false [] fuel
      closeParenthesis start
      return .group items
    | .assertion behind =>
      let outer := (← get).lookBehindGroups
      if behind && outer.isNone then
        modify fun state => { state with lookBehindGroups := some state.groupWidths.size }
      let items ← alternatives verbose false [] fuel
      if behind && outer.isNone then
        modify fun state => { state with lookBehindGroups := none }
      closeParenthesis start
      return .assertion behind items
    | .conditional =>
      let group ← conditionGroup
      checkLookBehindGroup group
      let yes ← sequence verbose false false [] fuel
      if ← accept '|' then
        let no ← sequence verbose false false [] fuel
        if (← peek) = some ['|'] then
          fail "conditional backref with more than two branches"
        else
          closeParenthesis start
          return .conditional yes (some no)
      else
        closeParenthesis start
        return .conditional yes none
    | .item item => return item
    | .nothing | .flags => return {}

end

def runChecks (template : Bool) : List Check → Except Fault Unit
  | [] => .ok ()
  | .lookBehind width :: rest =>
    if width.low ≠ width.high then
      .error (.invalid "look-behind requires fixed-width pattern" none)
    else runChecks template rest
  | .repetition name :: rest =>
    if template then
      .error (.invalid ("internal: unsupported template operator " ++ name) none)
    else runChecks template rest

/-- Whether a part looks behind over more characters than a matcher can go back. -/
def Check.isOutOfReach : Check → Bool
  | .lookBehind width => 0x7FFFFFFF < width.low
  | .repetition _ => false

def wholePattern (fuel : Nat) : Reader Unit := do
  let items ← alternatives false true [] fuel
  let state ← get
  if state.flags.contains 'a' && state.flags.contains 'u' then
    throw (.failure (.invalidValue .incompatibleRegexFlags))
  if state.source.next.isSome then fail "unbalanced parenthesis"
  match state.conditionGroups.find? fun (group, _) => state.groupWidths.size ≤ group with
  | some (group, place) =>
    throw (.invalid ("invalid group reference " ++ toString group) (some place))
  | none =>
    let checks := sequenceChecks items
    runChecks (state.flags.contains 't') checks
    if checks.any (·.isOutOfReach) then throw (.failure .patternOutOfReach)

/-- Whether a pattern is a regular expression, and its fault if it is none. -/
def check (pattern : List Char) : Except Fault Unit := do
  let source ← Source.ofPattern pattern
  let ((), _) ← (wholePattern (4 * pattern.length + 8)).run { source }
  return ()

end SchemaClasses.Regex
