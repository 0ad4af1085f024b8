import SchemaClasses.Regex.Grammar
import SchemaClasses.Proofs.Outcome

/-!
# The faults of regular expressions

A text that is checked as a regular expression has a fault of its own, or a number in it is out of
range. It never fails in another way.

## Main definitions

* `Fault.IsExpected`: a fault of a pattern, or a number out of range.
* `Reader.Faults`: a step of reading that has such faults only.

## Main statements

* `check_faults`: the faults of a text that is no regular expression.
-/

namespace SchemaClasses.Regex

/-- A fault of a pattern, a value that does not denote what it should, or a number that is too
large. -/
inductive Fault.IsExpected : Fault → Prop
  | invalid (problem : String) (position : Option Nat) : IsExpected (.invalid problem position)
  | invalidValue (problem : InvalidValue) : IsExpected (.failure (.invalidValue problem))
  | numberTooLarge : IsExpected (.failure .numberTooLarge)
  | patternOutOfReach : IsExpected (.failure .patternOutOfReach)

/-! ## Steps -/

def Reader.Faults {α : Type} (step : Reader α) : Prop :=
  ∀ s fault, step s = .error fault → fault.IsExpected

namespace Reader.Faults

variable {α β : Type} {step : Reader α} {next : α → Reader β}

theorem pure (x : α) : Faults (Pure.pure x) := by
  intro s fault run
  cases run

theorem bind (h : Faults step) (k : ∀ x, Faults (next x)) : Faults (step >>= next) := by
  intro s fault run
  rcases Except.bind_eq_error_iff.1 run with run | ⟨⟨x, s'⟩, -, run⟩
  · exact h s fault run
  · exact k x s' fault run

theorem ite {p : Prop} [Decidable p] {step' : Reader α} (h : Faults step) (h' : Faults step') :
    Faults (if p then step else step') := by
  split
  · exact h
  · exact h'

theorem throw {fault : Fault} (h : fault.IsExpected) : Faults (throw fault : Reader α) := by
  intro s fault' run
  cases run
  exact h

theorem fail (problem : String) (back : Nat) : Faults (fail problem back : Reader α) := by
  intro s fault run
  cases run
  exact .invalid _ _

theorem lift {e : Except Fault α} (h : ∀ fault, e = .error fault → fault.IsExpected) :
    Faults (liftM e : Reader α) := by
  intro s fault run
  cases e with
  | ok x => cases run
  | error fault' =>
    cases run
    exact h _ rfl

theorem get : Faults (get : Reader ReaderState) := by
  intro s fault run
  cases run

theorem set (s : ReaderState) : Faults (set s : Reader PUnit) := by
  intro s' fault run
  cases run

theorem modify (f : ReaderState → ReaderState) : Faults (modify f : Reader PUnit) := by
  intro s fault run
  cases run

end Reader.Faults

open Reader

/-! ## Tokens -/

theorem seek_faults (source : Source) (place : Nat) :
    ∀ fault, source.seek place = .error fault → fault.IsExpected := by
  intro fault fails
  unfold Source.seek at fails
  split at fails
  · cases fails
  · split at fails
    · cases fails
    · cases fails
      exact .invalid _ _
  · cases fails

theorem advance_faults : Faults advance := by
  apply Faults.bind .get
  intro state
  apply Faults.bind (.lift (seek_faults _ _))
  intro source
  exact .set _

theorem peek_faults : Faults peek := .bind .get fun _ => .pure _

theorem position_faults : Faults position := .bind .get fun _ => .pure _

theorem take_faults : Faults take := by
  apply Faults.bind peek_faults
  intro token
  exact .bind advance_faults fun _ => .pure _

theorem accept_faults (c : Char) : Faults (accept c) := by
  apply Faults.bind peek_faults
  intro token
  split
  · exact .bind advance_faults fun _ => .pure _
  · exact .pure _

theorem takeClass_faults (allowed : Char → Bool) (count : Nat) :
    Faults (takeClass allowed count) := by
  induction count with
  | zero => exact .pure _
  | succ count ih =>
    apply Faults.bind peek_faults
    intro token
    split
    · split
      · apply Faults.bind advance_faults
        intro _
        exact .bind ih fun _ => .pure _
      · exact .pure _
    · exact .pure _

theorem takeUntil_faults (mark : Char) (what : String) (read : List Char) (fuel : Nat) :
    Faults (takeUntil mark what read fuel) := by
  induction fuel generalizing read with
  | zero => exact .fail _ _
  | succ fuel ih =>
    apply Faults.bind take_faults
    intro token
    split
    · split
      · exact .fail _ _
      · exact .fail _ _
    · split
      · split
        · exact .fail _ _
        · exact .pure _
      · exact ih _

theorem takeName_faults (mark : Char) : Faults (takeName mark) := by
  apply Faults.bind .get
  intro state
  exact takeUntil_faults _ _ _ _

/-! ## Escapes -/

theorem isClosed_faults (group : Nat) : Faults (isClosed group) := .bind .get fun _ => .pure _

theorem checkLookBehindGroup_faults (group : Nat) : Faults (checkLookBehindGroup group) := by
  apply Faults.bind .get
  intro state
  split
  · exact .pure _
  · apply Faults.bind (isClosed_faults group)
    intro closed
    split
    · exact .fail _ _
    · split
      · exact .fail _ _
      · exact .pure _

theorem groupItem_faults (group : Nat) : Faults (groupItem group) := .bind .get fun _ => .pure _

theorem hexEscape_faults (letter : Char) (count : Nat) : Faults (hexEscape letter count) := by
  apply Faults.bind (takeClass_faults _ _)
  intro digits
  extract_lets written code
  split
  · exact .fail _ _
  · split
    · exact .throw .numberTooLarge
    · split
      · exact .fail _ _
      · exact .pure _

theorem namedEscape_faults : Faults namedEscape := by
  apply Faults.bind (accept_faults _)
  intro opened
  split
  · exact .fail _ _
  · apply Faults.bind .get
    intro state
    apply Faults.bind (takeUntil_faults _ _ _ _)
    intro name
    split
    · exact .pure _
    · exact .fail _ _

theorem plainEscape_faults (c : Char) : Faults (plainEscape c) := by
  unfold plainEscape
  split
  · exact hexEscape_faults _ _
  · split
    · exact hexEscape_faults _ _
    · split
      · exact hexEscape_faults _ _
      · split
        · exact namedEscape_faults
        · split
          · exact .fail _ _
          · exact .pure _

theorem setEscape_faults (c : Char) : Faults (setEscape c) := by
  unfold setEscape
  split
  · exact .pure _
  · split
    · exact .pure _
    · split
      · apply Faults.bind (takeClass_faults _ _)
        intro digits
        extract_lets written code
        split
        · exact .fail _ _
        · exact .pure _
      · exact plainEscape_faults c

theorem numberedEscape_faults (c : Char) : Faults (numberedEscape c) := by
  apply Faults.bind (takeClass_faults _ _)
  intro digits
  extract_lets group finish
  have finishes (octal : List Char) : Faults (finish octal) := by
    unfold finish
    split
    · simp only
      split
      · exact .fail _ _
      · exact .pure _
    · apply Faults.bind .get
      intro state
      split
      · apply Faults.bind (isClosed_faults _)
        intro closed
        split
        · exact .fail _ _
        · exact .bind (checkLookBehindGroup_faults _) fun _ => .pure _
      · exact .fail _ _
  split
  · exact .bind (takeClass_faults _ _) finishes
  · exact .bind (.pure _) finishes

theorem escape_faults (c : Char) : Faults (escape c) := by
  unfold escape
  split
  · exact .pure _
  · split
    · exact .pure _
    · split
      · exact .pure _
      · split
        · exact .bind (takeClass_faults _ _) fun _ => .pure _
        · split
          · exact numberedEscape_faults c
          · exact plainEscape_faults c

theorem setMember_faults (token : List Char) : Faults (setMember token) := by
  unfold setMember
  split
  · exact setEscape_faults _
  · exact .pure _
  · exact .pure _

/-- By induction on the fuel, which bounds the members of the set. -/
theorem setMembers_faults (here : Nat) (first : Bool) (fuel : Nat) :
    Faults (setMembers here first fuel) := by
  induction fuel generalizing first with
  | zero => exact .pure _
  | succ fuel ih =>
    have unterminated : Faults (do
        fail "unterminated character set" ((← position) - here) : Reader Unit) :=
      .bind position_faults fun _ => .fail _ _
    apply Faults.bind take_faults
    intro token
    split
    · exact unterminated
    · split
      · exact .pure _
      · apply Faults.bind (setMember_faults _)
        intro low
        apply Faults.bind (accept_faults _)
        intro ranged
        split
        · apply Faults.bind take_faults
          intro last
          split
          · exact unterminated
          · exact .pure _
          · apply Faults.bind (setMember_faults _)
            intro high
            extract_lets inverted
            clear_value inverted
            split
            · exact .fail _ _
            · exact ih _
        · exact ih _

/-! ## Repetitions and flags -/

theorem readDigits_error {digits : List Char} {failure : Failure}
    (fails : readDigits digits = .error failure) : ∃ problem, failure = .invalidValue problem := by
  unfold readDigits at fails
  split at fails
  · cases fails
    exact ⟨_, rfl⟩
  · cases fails

theorem repetitionCounts_faults : Faults repetitionCounts := by
  apply Faults.bind position_faults
  intro here
  apply Faults.bind .get
  intro state
  extract_lets size count
  have counted (digits : List Char) (absent : Nat) : Faults (count digits absent) := by
    unfold count
    split
    · exact .pure _
    · split
      · next failure read =>
        obtain ⟨problem, rfl⟩ := readDigits_error read
        exact .throw (.invalidValue problem)
      · split
        · exact .throw .numberTooLarge
        · exact .pure _
  apply Faults.bind (takeClass_faults _ _)
  intro low
  apply Faults.bind (accept_faults _)
  intro ranged
  extract_lets finish
  have finishes (high : List Char) : Faults (finish high) := by
    apply Faults.bind (accept_faults _)
    intro closed
    split
    · apply Faults.bind .get
      intro state
      apply Faults.bind (.lift (seek_faults _ _))
      intro source
      exact .bind (.set _) fun _ => .pure _
    · apply Faults.bind (counted _ _)
      intro least
      apply Faults.bind (counted _ _)
      intro most
      split
      · exact .bind position_faults fun _ => .fail _ _
      · exact .pure _
  split
  · exact .bind (takeClass_faults _ _) finishes
  · exact .bind (.pure _) finishes

theorem flagFault_faults {α : Type} (token : List Char) (otherwise : String) :
    Faults (flagFault token otherwise : Reader α) := .fail _ _

theorem flagsOn_faults (read token : List Char) (fuel : Nat) :
    Faults (flagsOn read token fuel) := by
  induction fuel generalizing read token with
  | zero => exact .pure _
  | succ fuel ih =>
    unfold flagsOn
    extract_lets flag shown
    split
    · exact .fail _ _
    · split
      · exact .fail _ _
      · apply Faults.bind take_faults
        intro next
        split
        · exact .fail _ _
        · split
          · exact .pure _
          · split
            · exact ih _ _
            · exact flagFault_faults _ _

theorem flagsOff_faults (read token : List Char) (fuel : Nat) :
    Faults (flagsOff read token fuel) := by
  induction fuel generalizing read token with
  | zero => exact .pure _
  | succ fuel ih =>
    unfold flagsOff
    extract_lets flag shown
    split
    · exact .fail _ _
    · apply Faults.bind take_faults
      intro next
      split
      · exact .fail _ _
      · split
        · exact .pure _
        · split
          · exact ih _ _
          · exact flagFault_faults _ _

theorem groupFlags_faults (token : List Char) : Faults (groupFlags token) := by
  apply Faults.bind .get
  intro state
  extract_lets size finish
  have finishes (on mark : List Char) : Faults (finish (on, mark)) := by
    unfold finish
    simp -zeta only
    split
    · exact .bind (.modify _) fun _ => .pure _
    · split
      · exact .fail _ _
      · extract_lets check
        have checks (off : List Char) : Faults (check off) := by
          unfold check
          split
          · exact .fail _ _
          · split
            · exact .fail _ _
            · exact .pure _
        split
        · apply Faults.bind take_faults
          intro first
          split
          · exact .bind (.fail _ _) checks
          · split
            · exact .bind (flagsOff_faults _ _ _) checks
            · exact .bind (flagFault_faults _ _) checks
        · exact .bind (.pure _) checks
  split
  · exact .bind (.pure _) fun _ => finishes _ _
  · exact .bind (flagsOn_faults _ _ _) fun _ => finishes _ _

/-! ## Groups -/

theorem openGroup_faults (name? : Option (List Char)) : Faults (openGroup name?) := by
  apply Faults.bind .get
  intro state
  extract_lets group finish
  have finishes (u : PUnit) : Faults (finish u) := .pure _
  split
  · exact .bind (.set _) finishes
  · split
    · exact .bind (.fail _ _) finishes
    · exact .bind (.set _) finishes

theorem closeGroup_faults (group : Nat) (items : List Item) : Faults (closeGroup group items) :=
  .modify _

theorem checkName_faults (name : List Char) : Faults (checkName name) := by
  unfold checkName
  split
  · exact .pure _
  · exact .fail _ _

theorem namedReference_faults : Faults namedReference := by
  apply Faults.bind (takeName_faults _)
  intro name
  apply Faults.bind (checkName_faults _)
  intro _
  apply Faults.bind .get
  intro state
  split
  · exact .fail _ _
  · apply Faults.bind (isClosed_faults _)
    intro closed
    split
    · exact .fail _ _
    · exact .bind (checkLookBehindGroup_faults _) fun _ => groupItem_faults _

theorem conditionGroup_faults : Faults conditionGroup := by
  apply Faults.bind (takeName_faults _)
  intro name
  split
  · apply Faults.bind .get
    intro state
    split
    · exact .pure _
    · exact .fail _ _
  · extract_lets badName
    split
    · exact .fail _ _
    · split
      · exact .fail _ _
      · extract_lets group
        split
        · exact .fail _ _
        · split
          · exact .fail _ _
          · apply Faults.bind position_faults
            intro here
            exact .bind (.modify _) fun _ => .pure _

theorem skipComment_faults (start fuel : Nat) : Faults (skipComment start fuel) := by
  induction fuel with
  | zero => exact .pure _
  | succ fuel ih =>
    apply Faults.bind peek_faults
    intro token
    split
    · exact .bind position_faults fun _ => .fail _ _
    · apply Faults.bind advance_faults
      intro _
      split
      · exact .pure _
      · exact ih

theorem groupKind_faults (start : Nat) : Faults (groupKind start) := by
  apply Faults.bind (accept_faults _)
  intro opened
  split
  · exact .pure _
  · apply Faults.bind take_faults
    intro token
    split
    · exact .fail _ _
    · apply Faults.bind (accept_faults _)
      intro opens
      split
      · apply Faults.bind (takeName_faults _)
        intro name
        exact .bind (checkName_faults _) fun _ => .pure _
      · apply Faults.bind (accept_faults _)
        intro refers
        split
        · exact .bind namedReference_faults fun _ => .pure _
        · apply Faults.bind take_faults
          intro token
          split
          · exact .fail _ _
          · exact .fail _ _
    · exact .pure _
    · apply Faults.bind .get
      intro state
      exact .bind (skipComment_faults _ _) fun _ => .pure _
    · exact .pure _
    · exact .pure _
    · apply Faults.bind take_faults
      intro token
      split
      · exact .fail _ _
      · split
        · exact .pure _
        · exact .fail _ _
    · exact .pure _
    · exact .pure _
    · split
      · apply Faults.bind (groupFlags_faults _)
        intro flags
        split
        · exact .pure _
        · exact .pure _
      · exact .fail _ _

theorem skipLine_faults (fuel : Nat) : Faults (skipLine fuel) := by
  induction fuel with
  | zero => exact .pure _
  | succ fuel ih =>
    apply Faults.bind take_faults
    intro token
    split
    · exact .pure _
    · exact .pure _
    · exact ih

theorem closeParenthesis_faults (start : Nat) : Faults (closeParenthesis start) := by
  apply Faults.bind (accept_faults _)
  intro closed
  split
  · exact .bind position_faults fun _ => .fail _ _
  · exact .pure _

theorem repetitionName_faults : Faults repetitionName := by
  apply Faults.bind (accept_faults _)
  intro shortest
  split
  · exact .pure _
  · exact .bind (accept_faults _) fun _ => .pure _

theorem repeatLast_faults (items : List Item) (mark : List Char) (here least most : Nat) :
    Faults (repeatLast items mark here least most) := by
  apply Faults.bind position_faults
  intro place
  split
  · exact .fail _ _
  · split
    · exact .fail _ _
    · split
      · exact .fail _ _
      · exact .bind repetitionName_faults fun _ => .pure _

/-! ## Patterns -/

/-- The three parts of the grammar read on with one fuel, which each of them passes on. -/
structure GrammarFaults (fuel : Nat) : Prop where
  alternatives (verbose outermost : Bool) (read : List (List Item)) :
    Faults (alternatives verbose outermost read fuel)
  sequence (verbose outermost first : Bool) (items : List Item) :
    Faults (sequence verbose outermost first items fuel)
  groupBody (start : Nat) (verbose : Bool) (kind : GroupKind) :
    Faults (groupBody start verbose kind fuel)

namespace GrammarFaults

variable {fuel : Nat}

/-- Given the grammar for less fuel: one more alternative. -/
theorem alternatives_succ (h : GrammarFaults fuel) (verbose outermost : Bool)
    (read : List (List Item)) :
    Faults (Regex.alternatives verbose outermost read (fuel + 1)) := by
  unfold Regex.alternatives
  apply Faults.bind (h.sequence _ _ _ _)
  intro items
  apply Faults.bind (accept_faults _)
  intro more
  split
  · exact .bind .get fun _ => h.alternatives _ _ _
  · split
    · exact .pure _
    · exact .pure _

/-- Given the grammar for less fuel: the body of a group of any kind. -/
theorem groupBody_succ (h : GrammarFaults fuel) (start : Nat) (verbose : Bool) (kind : GroupKind) :
    Faults (Regex.groupBody start verbose kind (fuel + 1)) := by
  unfold Regex.groupBody
  split
  · apply Faults.bind (openGroup_faults _)
    intro group
    apply Faults.bind (h.alternatives _ _ _)
    intro items
    apply Faults.bind (closeParenthesis_faults _)
    intro _
    exact .bind (closeGroup_faults _ _) fun _ => .pure _
  · apply Faults.bind (h.alternatives _ _ _)
    intro items
    exact .bind (closeParenthesis_faults _) fun _ => .pure _
  · apply Faults.bind .get
    intro state
    extract_lets outer inside
    have insides (u : PUnit) : Faults (inside u) := by
      apply Faults.bind (h.alternatives _ _ _)
      intro items
      extract_lets after
      have afters (u : PUnit) : Faults (after u) :=
        .bind (closeParenthesis_faults _) fun _ => .pure _
      split
      · exact .bind (.modify _) afters
      · exact afters ()
    split
    · exact .bind (.modify _) insides
    · exact insides ()
  · apply Faults.bind conditionGroup_faults
    intro group
    apply Faults.bind (checkLookBehindGroup_faults _)
    intro _
    apply Faults.bind (h.sequence _ _ _ _)
    intro yes
    apply Faults.bind (accept_faults _)
    intro more
    split
    · apply Faults.bind (h.sequence _ _ _ _)
      intro no
      apply Faults.bind peek_faults
      intro token
      split
      · exact .fail _ _
      · exact .bind (closeParenthesis_faults _) fun _ => .pure _
    · exact .bind (closeParenthesis_faults _) fun _ => .pure _
  · exact .pure _
  · exact .pure _
  · exact .pure _

/-- Given the grammar for less fuel: one more part of a sequence. -/
theorem sequence_succ (h : GrammarFaults fuel) (verbose outermost first : Bool)
    (items : List Item) :
    Faults (Regex.sequence verbose outermost first items (fuel + 1)) := by
  unfold Regex.sequence
  apply Faults.bind peek_faults
  intro token
  split
  · exact .pure _
  · exact .pure _
  · exact .pure _
  · apply Faults.bind advance_faults
    intro _
    apply Faults.bind position_faults
    intro here
    extract_lets goOn
    have goesOn (items : List Item) : Faults (goOn items) := h.sequence _ _ _ _
    have repeats (mark : List Char) (least most : Nat) :
        Faults (repeatLast items mark here least most >>= goOn) :=
      .bind (repeatLast_faults _ _ _ _ _) goesOn
    clear_value goOn
    split
    · exact .pure _
    · -- the characters with a meaning of their own, in the order in which they are tried
      refine .ite (goesOn _) (.ite ?_ (.ite ?_ (.ite (repeats _ _ _) (.ite (repeats _ _ _)
        (.ite (repeats _ _ _) (.ite ?_ (.ite (goesOn _) (.ite ?_ (goesOn _)))))))))
      · apply Faults.bind .get
        intro state
        exact .bind (skipLine_faults _) fun _ => goesOn _
      · apply Faults.bind (accept_faults _)
        intro _
        apply Faults.bind .get
        intro state
        exact .bind (setMembers_faults _ _ _) fun _ => goesOn _
      · apply Faults.bind peek_faults
        intro token
        refine .ite (goesOn _) ?_
        apply Faults.bind repetitionCounts_faults
        intro counts
        split
        · exact goesOn _
        · exact repeats _ _ _
      · apply Faults.bind (groupKind_faults _)
        intro kind
        split
        · refine .ite (.bind position_faults fun _ => .fail _ _) ?_
          exact .bind .get fun _ => h.sequence _ _ _ _
        · exact goesOn _
        · exact goesOn _
        · exact .bind (h.groupBody _ _ _) fun _ => goesOn _
    · apply Faults.bind (escape_faults _)
      intro escape
      split
      · exact goesOn _
      · exact .bind (groupItem_faults _) fun _ => goesOn _
      · exact goesOn _

/-- By induction on the fuel: the three parts of the grammar have expected faults only. -/
theorem of_fuel (fuel : Nat) : GrammarFaults fuel := by
  induction fuel with
  | zero =>
    constructor
    · intro verbose outermost read
      unfold Regex.alternatives
      exact .pure _
    · intro verbose outermost first items
      unfold Regex.sequence
      exact .pure _
    · intro start verbose kind
      unfold Regex.groupBody
      exact .pure _
  | succ fuel ih => exact ⟨ih.alternatives_succ, ih.sequence_succ, ih.groupBody_succ⟩

end GrammarFaults

theorem runChecks_faults {template : Bool} {checks : List Check} {fault : Fault}
    (fails : runChecks template checks = .error fault) : fault.IsExpected := by
  induction checks with
  | nil => cases fails
  | cons check rest ih =>
    cases check with
    | lookBehind width =>
      unfold runChecks at fails
      split at fails
      · cases fails
        exact .invalid _ _
      · exact ih fails
    | repetition name =>
      unfold runChecks at fails
      split at fails
      · cases fails
        exact .invalid _ _
      · exact ih fails

theorem wholePattern_faults (fuel : Nat) : Faults (wholePattern fuel) := by
  apply Faults.bind ((GrammarFaults.of_fuel fuel).alternatives _ _ _)
  intro items
  apply Faults.bind .get
  intro state
  extract_lets checks finish atEnd
  have finishes (u : Unit) : Faults (finish u) := by
    unfold finish
    split
    · exact .throw (.invalid _ _)
    · apply Faults.bind (.lift fun fault => runChecks_faults)
      intro _
      split
      · exact .throw .patternOutOfReach
      · exact .pure _
  have ends (u : Unit) : Faults (atEnd u) := by
    unfold atEnd
    split
    · exact .bind (.fail _ _) finishes
    · exact finishes ()
  split
  · exact .bind (.throw (.invalidValue _)) ends
  · exact ends ()

/-- A text is a regular expression, or has a fault of a pattern, or a number in it is out of
range. -/
theorem check_faults {pattern : List Char} {fault : Fault} (fails : check pattern = .error fault) :
    fault.IsExpected := by
  rcases Except.bind_eq_error_iff.1 fails with fails | ⟨source, -, fails⟩
  · exact seek_faults _ _ fault fails
  · rcases Except.bind_eq_error_iff.1 fails with fails | ⟨⟨_, state⟩, -, fails⟩
    · exact wholePattern_faults _ _ fault fails
    · cases fails

end SchemaClasses.Regex
