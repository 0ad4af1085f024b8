import SchemaClasses.Emit.Check
import SchemaClasses.Proofs.Outcome
import SchemaClasses.Proofs.Text.Split

/-!
# The templates of guards

Every language has the templates that a guard needs, and a template gets a value for each of its
fields, so that writing a guard never fails.

## Main definitions

* `templateAt`: the entry under a key.
* `takesLine`, `takesBlock`: an entry is a line or a block that takes no fields but the given ones.

## Main statements

* `conditionKey_mem`: the condition of a guard has a template.
* `exists_statementLines`: the lines of a guard can be written.
-/

namespace SchemaClasses

/-! ## Filling -/

/-- Whether a template has no fields but the given ones. -/
def Template.takes (fields : List String) (template : Template) : Bool :=
  template.all fun
    | .text _ => true
    | .field name => fields.contains name

def templateAt (language : TargetLanguage) (key : String) : Except Failure TemplateEntry :=
  (TemplateEntry.table (guardTemplates language)).descend
    (.missingKey ("No guard template " ++ Text.quote key ++ " for " ++ language.name))
    ((Text.splitAt '.' key.toList).map String.ofList)

/-- Whether a key leads to a line that has no fields but the given ones. -/
def takesLine (language : TargetLanguage) (key : String) (fields : List String) : Bool :=
  match templateAt language key with
  | .ok (.line template) => template.takes fields
  | _ => false

def takesBlock (language : TargetLanguage) (key : String) (fields : List String) : Bool :=
  match templateAt language key with
  | .ok (.block lines) => lines.all (·.takes fields)
  | _ => false

theorem filledEntry_eq (language : TargetLanguage) (key : String)
    (values : List (String × String)) :
    filledEntry language key values = templateAt language key >>= (·.fill values) := rfl

theorem Except.exists_bind {ε α β : Type} {x : Except ε α} {f : α → Except ε β}
    (h : ∃ a, x = .ok a) (k : ∀ a, ∃ b, f a = .ok b) : ∃ b, x >>= f = .ok b := by
  obtain ⟨a, rfl⟩ := h
  exact k a

theorem Except.exists_ite_bind {ε α β : Type} {c : Prop} [Decidable c] {x y : Except ε α}
    {f : α → Except ε β} (then_ : c → ∃ a, x = .ok a) (else_ : ∃ a, y = .ok a)
    (k : ∀ a, ∃ b, f a = .ok b) : ∃ b, (if c then x >>= f else y >>= f) = .ok b := by
  split
  · rename_i h
    exact exists_bind (then_ h) k
  · exact exists_bind else_ k

section

variable {fields : List String} {values : List (String × String)} {language : TargetLanguage}
  {key : String}

/-- A template whose fields are all given can be filled. -/
theorem Template.exists_fill {template : Template} (takes : template.takes fields)
    (given : ∀ name ∈ fields, (values.lookup name).isSome) :
    ∃ line, template.fill values = .ok line := by
  have filled : ∀ piece ∈ template, ∃ text, Template.fillPiece values piece = .ok text := by
    intro piece mem
    have taken := List.all_eq_true.1 takes piece mem
    cases piece with
    | text text => exact ⟨text, rfl⟩
    | field name =>
      obtain ⟨value, found⟩ := Option.isSome_iff_exists.1 (given name (by simpa using taken))
      exact ⟨value, by simp [Template.fillPiece, found]⟩
  obtain ⟨texts, filled⟩ := Except.exists_mapM_iff.2 filled
  exact ⟨String.join texts, by rw [Template.fill, filled]; rfl⟩

theorem exists_filledLine (takes : takesLine language key fields)
    (given : ∀ name ∈ fields, (values.lookup name).isSome) :
    ∃ line, filledLine language key values = .ok line := by
  unfold takesLine at takes
  split at takes
  · rename_i template found
    obtain ⟨line, filled⟩ := Template.exists_fill takes given
    refine ⟨line, ?_⟩
    simp only [filledLine, filledEntry_eq, found]
    simp [bind, Except.bind, TemplateEntry.fill, filled, pure, Except.pure]
  · cases takes

/-- The lines of a block can be filled when its fields are given. -/
theorem exists_filledBlock (takes : takesBlock language key fields)
    (given : ∀ name ∈ fields, (values.lookup name).isSome) :
    ∃ lines, filledBlock language key values = .ok lines := by
  unfold takesBlock at takes
  split at takes
  · rename_i templates found
    have each : ∀ template ∈ templates, ∃ line, template.fill values = .ok line :=
      fun template mem => Template.exists_fill (List.all_eq_true.1 takes template mem) given
    obtain ⟨lines, filled⟩ := Except.exists_mapM_iff.2 each
    refine ⟨(lines.map Value.string).filterMap (·.string?), ?_⟩
    simp only [filledBlock, filledEntry_eq, found]
    simp [bind, Except.bind, TemplateEntry.fill, filled, pure, Except.pure]
  · cases takes

end

/-! ## The tables -/

theorem takesLine_condition (language : TargetLanguage) :
    ∀ entry ∈ conditionTemplates language, takesLine language entry.1 ["value", "operand"] := by
  cases language <;> decide

theorem takesLine_report (language : TargetLanguage) (reported : Reported)
    (reports : reported ≠ .nothing) : takesLine language ("_actual." ++ reported.label) ["value"] := by
  cases reported <;> cases language <;> first | contradiction | decide

theorem takesLine_nullCheck (language : TargetLanguage)
    (has : hasTemplate language "_template.null_check") :
    takesLine language "_template.null_check" ["value", "condition"] := by
  revert has
  cases language <;> decide

theorem takesLine_nullBlock (language : TargetLanguage) :
    takesLine language "_template.null_block" ["value"] := by
  cases language <;> decide

theorem takesLine_loop (language : TargetLanguage) :
    takesLine language "_template.loop" ["value", "item_type"] := by
  cases language <;> decide

theorem takesBlock_guard (language : TargetLanguage) :
    takesBlock language "_template.guard" ["condition", "message"] := by
  cases language <;> decide

/-- Every kind of guard has a condition. -/
theorem keyword_mem_conditionTemplates (language : TargetLanguage) (kind : ConstraintKind) :
    kind.keyword ∈ (conditionTemplates language).map (·.1) := by
  cases language <;> cases kind <;> decide

/-! ## The condition of a guard -/

theorem dot_notMem_toString (n : Int) : '.' ∉ (toString n).toList := by
  have digits (k : Nat) : '.' ∉ (toString k).toList := by
    intro mem
    have written : (toString k).toList = Nat.toDigits 10 k := by simp [Nat.toList_repr]
    have digit := Nat.isDigit_of_mem_toDigits (by decide) (by decide) (written ▸ mem)
    exact absurd digit (by decide)
  cases n with
  | ofNat k => exact digits k
  | negSucc k =>
    have written : (toString (Int.negSucc k)).toList = '-' :: (toString (k + 1)).toList := by
      simp [toString, Int.repr]
    rw [written, List.mem_cons, not_or]
    exact ⟨by decide, digits (k + 1)⟩

theorem dot_notMem_keyword (kind : ConstraintKind) : '.' ∉ kind.keyword.toList := by
  cases kind <;> decide

/-- A key without dots is the name of an entry. -/
theorem hasTemplate_eq {language : TargetLanguage} {key : String} (plain : '.' ∉ key.toList) :
    hasTemplate language key = (guardTemplates language).any (·.1 = key) := by
  simp [hasTemplate, Text.splitAt_of_notMem plain]

/-- The condition of a guard has a template. -/
theorem conditionKey_mem (language : TargetLanguage) (guard : Guard) :
    conditionKey language guard ∈ (conditionTemplates language).map (·.1) := by
  unfold conditionKey
  split
  · rename_i n _
    simp only
    split
    · rename_i has
      have plain : '.' ∉ (guard.kind.keyword ++ "_" ++ toString n).toList := by
        simpa [dot_notMem_keyword] using dot_notMem_toString n
      rw [hasTemplate_eq plain] at has
      -- The names of the other entries begin with an underscore, and no keyword does.
      have begins : (guard.kind.keyword ++ "_" ++ toString n).toList.head? ≠ some '_' := by
        cases guard.kind <;> simp [ConstraintKind.keyword]
      obtain ⟨entry, mem, eq⟩ := List.any_eq_true.1 has
      rw [← of_decide_eq_true eq] at begins ⊢
      rcases List.mem_append.1 mem with table | condition
      · have underscore : entry.1.toList.head? = some '_' := by
          rcases List.mem_cons.1 table with rfl | table
          · simp
          · rcases List.mem_cons.1 table with rfl | table
            · simp
            · simp [List.mem_singleton.1 table]
        exact absurd underscore begins
      · obtain ⟨named, hnamed, rfl⟩ := List.mem_map.1 condition
        exact List.mem_map_of_mem hnamed
    · exact keyword_mem_conditionTemplates language guard.kind
  · exact keyword_mem_conditionTemplates language guard.kind

/-! ## The lines of a guard -/

/-- Every condition has a template in every language, with the value and the operand as its
fields. -/
theorem exists_guardCondition (language : TargetLanguage) (guard : Guard) (value : String)
    {key? : Option String} (isKey : ∀ key ∈ key?, key ∈ (conditionTemplates language).map (·.1)) :
    ∃ condition, guardCondition language guard value key? = .ok condition := by
  have mem : key?.getD (conditionKey language guard) ∈ (conditionTemplates language).map (·.1) := by
    cases key? with
    | none => exact conditionKey_mem language guard
    | some key => exact isKey key rfl
  obtain ⟨entry, hentry, eq⟩ := List.mem_map.1 mem
  have takes := takesLine_condition language entry hentry
  rw [eq] at takes
  exact exists_filledLine takes (by simp [List.lookup_cons])

theorem exists_reportedExpression (language : TargetLanguage) (guard : Guard) (value : String) :
    ∃ expression?, reportedExpression language guard value = .ok expression? := by
  unfold reportedExpression
  split
  · exact ⟨none, rfl⟩
  · rename_i reports
    obtain ⟨expression, filled⟩ : ∃ expression, filledLine language
        ("_actual." ++ guard.reported.label) [("value", value)] = .ok expression :=
      exists_filledLine (takesLine_report language guard.reported reports) (by simp [List.lookup_cons])
    exact ⟨some expression, by rw [filled]; rfl⟩

/-- The lines of a guard can be written. -/
theorem exists_statementLines (language : TargetLanguage) (guard : Guard) (value itemType : String)
    {key? : Option String} (isKey : ∀ key ∈ key?, key ∈ (conditionTemplates language).map (·.1)) :
    ∃ lines, statementLines language guard value itemType key? = .ok lines := by
  have block : ∃ line, filledLine language "_template.null_block" [("value", value)] = .ok line :=
    exists_filledLine (takesLine_nullBlock language) (by simp [List.lookup_cons])
  have finish (inBlock : Bool) (looped : List String) : ∃ lines, (do
      if inBlock then
        let present ← filledLine language "_template.null_block" [("value", value)]
        return present :: Text.indent looped
      else return looped : Except Failure (List String)) = .ok lines := by
    split
    · exact Except.exists_bind block fun _ => ⟨_, rfl⟩
    · exact ⟨looped, rfl⟩
  unfold statementLines
  apply Except.exists_bind (exists_guardCondition language guard _ isKey)
  intro test
  simp only
  apply Except.exists_ite_bind
  · intro inline
    have has := (Bool.and_eq_true _ _).mp inline |>.2
    exact exists_filledLine (takesLine_nullCheck language has) (by simp [List.lookup_cons])
  · exact ⟨test, rfl⟩
  · intro condition
    apply Except.exists_bind (exists_reportedExpression language guard _)
    intro actual?
    apply Except.exists_bind
      (exists_filledBlock (takesBlock_guard language) (by simp [List.lookup_cons]))
    intro statement
    split
    · apply Except.exists_bind (exists_filledLine (takesLine_loop language) (by simp [List.lookup_cons]))
      intro loop
      exact finish _ _
    · exact finish _ _

end SchemaClasses
