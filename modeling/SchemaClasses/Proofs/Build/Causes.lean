import SchemaClasses.Proofs.Build.Form
import SchemaClasses.Proofs.Build.Schemas
import SchemaClasses.Proofs.Document.Cycles

/-!
# Causes of failures

When the classes of a document cannot be built or written, something in the document accounts for it.
Most failures report a schema that has no class, a reference that designates nothing or a name that
has no form in a language. A cycle is reported where a class extends another one, or for a schema that
is referred to, is no class and is met again while it is built. A class on the way back stops this
only if it has been begun before, on the way there. What is left are failures of other kinds, each of
which comes from one value of the document.

## Main definitions

* `Node.IsAlias`: a schema that is referred to and is no class.
* `Node.Cuts`: the classes that are begun once, so that cycles are cut there.
* `Node.Revisits`: a schema that a build can meet again while it is built.
* `Pointer.HasBadIndex`: a segment of digits in a pointer is no index.
* `Node.Causes`: the failures that something in a document accounts for.
* `Node.BuildCauses`: those of a build, which may also meet a schema again.
* `Node.Accounts`: a document accounts for every failure of a result.

## Main statements

* `Node.follow_error`: what following a chain of references fails with.
* `Node.form_accounts`, `Node.constraintsFor_accounts`: what telling the form of a schema and
  collecting its constraints fail with.
-/

namespace SchemaClasses

def Pointer.HasBadIndex (pointer : String) (failure : Failure) : Prop :=
  ∃ segment ∈ Pointer.segments (Pointer.canonical pointer),
    segment.toList.all Text.isDigit ∧ readIndex segment.toList = .error failure

namespace Node

/-- A schema that is referred to and is no class. -/
structure IsAlias (root target : Node) : Prop where
  noClass : isClassSchema target true = .ok false
  referred : ∃ node reference, root.Within node ∧
    node.value.member? "$ref" = some (.string reference) ∧ resolve root reference = .ok target

/-- A class that a build begins wherever it meets it first. Only the alternatives of a choice are
built without a look at the classes that there are. -/
structure Cuts (root node : Node) : Prop where
  isClass : isClassSchema node false = .ok true
  noAlternative : ∀ choice alternative resolved, root.HasAlternative choice alternative →
    follow root alternative = .ok resolved → resolved.target ≠ node

/-- A schema uses another one, and satisfies `via` if cycles are cut at it. -/
def UsesVia (root : Node) (via : Node → Prop) (a b : Node) : Prop :=
  root.Uses a b ∧ (root.Cuts a → via a)

/-- A schema that a build may meet again while it is built: one of the classes that the build begins
with leads to it, and it leads back to itself by way of classes other than those on the way and those
that the build began with earlier. -/
def Revisits (root : Node) (starts : List Node) (target : Node) : Prop :=
  ∃ earlier start later via, starts = earlier ++ start :: later ∧
    (∀ node ∈ earlier, root.Cuts node → via node) ∧
    Relation.ReflTransGen (root.UsesVia via) start target ∧
    Relation.TransGen (root.UsesVia (¬via ·)) target target

/-- The failures that something in a document accounts for. -/
inductive Causes (root : Node) : Failure → Prop
  | unresolved (pointer reason : String) : Causes root (.unresolvedReference pointer reason)
  | unsupported (path construct : String) : Causes root (.unsupportedSchema path construct)
  /-- A class extends another one, which may not be complete. -/
  | extension {node : Node} (pointer reason : String) (within : root.Within node)
      (isExtension : node.has "allOf") : Causes root (.cyclicReference pointer reason)
  /-- A reference is written in an unusual form, so that another one may be taken for it. -/
  | unusual {node : Node} {reference : String} (pointer reason : String)
      (within : root.Within node) (link : node.value.member? "$ref" = some (.string reference))
      (unusual : ¬Pointer.isPlain reference) : Causes root (.cyclicReference pointer reason)
  /-- A reference, or the plain pointer of one, goes to an item of an array by digits that are no
  index. -/
  | index {node : Node} {reference pointer : String} {failure : Failure} (within : root.Within node)
      (link : node.value.member? "$ref" = some (.string reference))
      (goes : pointer = reference ∨ pointer = Pointer.canonical reference)
      (bad : Pointer.HasBadIndex pointer failure) : Causes root failure
  /-- The format of a text has parts. -/
  | format {node : Node} {others : List String} (within : root.Within node)
      (isText : typeNames node = .ok ("string" :: others))
      (parts : (node.valueOf "format").isArray ∨ (node.valueOf "format").isObject) :
      Causes root .wrongType
  /-- A pattern can be read, but not by every matcher. -/
  | pattern {node : Node} {pattern : String} {failure : Failure} (within : root.Within node)
      (given : node.valueOf "pattern" = .string pattern)
      (fault : Regex.check pattern.toList = .error (.failure failure)) : Causes root failure
  /-- A value that is to be shown has an integer in it that has too many digits. -/
  | unwritable {node : Node} (within : root.Within node) (long : ¬node.value.isWritable) :
      Causes root (.invalidValue .unwritableInteger)
  /-- A count is a floating-point number that is an integer of too many digits. -/
  | longCount {node : Node} {key : String} {count : Binary64} {n : Int} (within : root.Within node)
      (given : node.valueOf key = .float count) (whole : count.toInt? = some n)
      (long : ¬isWritableInteger n) : Causes root (.invalidValue .unwritableInteger)
  /-- The default of a number is an integer that is too large to be a floating-point number. -/
  | largeDefault {node : Node} {n : Int} (within : root.Within node)
      (given : node.valueOf "default" = .int n) (large : Binary64.ofInt? n = none) :
      Causes root .numberTooLarge
  /-- Something has no form in a language, other than a type that has not been determined. -/
  | target {construct : String} (language : String) (noType : construct ≠ "type None") :
      Causes root (.unsupportedTarget language construct)

/-- The failures that a document accounts for when a build begins with some of its classes, one after
another. -/
inductive BuildCauses (root : Node) (starts : List Node) : Failure → Prop
  | ofCauses {failure : Failure} (cause : root.Causes failure) : BuildCauses root starts failure
  | cycle {target : Node} (pointer reason : String) (isAlias : root.IsAlias target)
      (revisits : root.Revisits starts target) :
      BuildCauses root starts (.cyclicReference pointer reason)

def Accounts {α : Type} (root : Node) (result : Except Failure α) : Prop :=
  ∀ failure, result = .error failure → root.Causes failure

namespace Accounts

variable {α β : Type} {root : Node} {result : Except Failure α}

theorem ok (a : α) : root.Accounts (.ok a : Except Failure α) := by
  intro failure h
  cases h

theorem error {failure : Failure} (h : root.Causes failure) :
    root.Accounts (.error failure : Except Failure α) := by
  intro failure' eq
  cases eq
  exact h

theorem unsupported (path construct : String) :
    root.Accounts (SchemaClasses.unsupported path construct : Except Failure α) :=
  error (.unsupported path construct)

theorem bind {next : α → Except Failure β} (h : root.Accounts result)
    (k : ∀ a, result = .ok a → root.Accounts (next a)) : root.Accounts (result >>= next) := by
  intro failure fails
  rcases Except.bind_eq_error_iff.1 fails with fails | ⟨a, succeeds, fails⟩
  · exact h failure fails
  · exact k a succeeds failure fails

theorem mapM {f : α → Except Failure β} {as : List α} (h : ∀ a ∈ as, root.Accounts (f a)) :
    root.Accounts (as.mapM f) := by
  induction as with
  | nil => exact ok []
  | cons a rest ih =>
    rw [List.mapM_cons]
    apply bind (h a List.mem_cons_self)
    intro b _
    apply bind (ih fun a' mem => h a' (List.mem_cons_of_mem a mem))
    intro bs _
    exact ok (b :: bs)

theorem forM {f : α → Except Failure Unit} {as : List α} (h : ∀ a ∈ as, root.Accounts (f a)) :
    root.Accounts (as.forM f) := by
  induction as with
  | nil => exact ok ()
  | cons a rest ih =>
    unfold List.forM
    apply bind (h a List.mem_cons_self)
    intro _ _
    exact ih fun a' mem => h a' (List.mem_cons_of_mem a mem)

end Accounts

section

variable {root node : Node}

/-! ## References -/

/-- A walk fails only at a segment of digits that cannot be read as an index. -/
theorem walk?_bad {segments : List String} {failure : Failure}
    (h : node.walk? segments = .error failure) :
    ∃ segment ∈ segments, segment.toList.all Text.isDigit ∧
      readIndex segment.toList = .error failure := by
  induction segments generalizing node with
  | nil => cases h
  | cons segment rest ih =>
    rcases Except.bind_eq_error_iff.1 h with h | ⟨next?, -, h⟩
    · refine ⟨segment, List.mem_cons_self, ?_⟩
      unfold Node.child? at h
      split at h
      · cases h
      · simp only at h
        split at h
        · rename_i digits
          rcases Except.bind_eq_error_iff.1 h with h | ⟨_, -, h⟩
          · exact ⟨(Bool.and_eq_true _ _).mp digits |>.2, h⟩
          · cases h
        · cases h
      · cases h
    · cases next? with
      | none => cases h
      | some next =>
        obtain ⟨segment, mem, bad⟩ := ih h
        exact ⟨segment, List.mem_cons_of_mem _ mem, bad⟩

/-- A pointer that cannot be resolved designates nothing, or has a bad index. -/
theorem resolve_error {pointer : String} {failure : Failure}
    (h : resolve root pointer = .error failure) :
    root.Causes failure ∨ Pointer.HasBadIndex pointer failure := by
  unfold resolve at h
  split at h
  · rcases Except.bind_eq_error_iff.1 h with h | ⟨target?, -, h⟩
    · exact .inr (walk?_bad h)
    · cases target? with
      | none =>
        cases h
        exact .inl (.unresolved _ _)
      | some target => cases h
  · cases h
    exact .inl (.unresolved _ _)

/-- A reference that is not resolved is one of the document. -/
theorem resolve_accounts {reference pointer : String} (h : root.Within node)
    (link : node.value.member? "$ref" = some (.string reference))
    (goes : pointer = reference ∨ pointer = Pointer.canonical reference) :
    root.Accounts (resolve root pointer) := by
  intro failure fails
  rcases resolve_error fails with cause | bad
  · exact cause
  · exact .index h link goes bad

/-- Only an integer in the document that is too long to be written can fail here. -/
theorem writable_accounts (h : root.Within node) (key : String) :
    root.Accounts (node.valueOf key).writable := by
  unfold valueOf
  cases found : node.value.member? key with
  | none => exact .ok _
  | some value =>
    unfold Value.writable
    split
    · exact .ok _
    · rename_i long
      have member : node.member? key = some ⟨node.memberPath key, value⟩ := by
        simp [member?, found]
      have within := h.member? member
      exact .error (.unwritable within (by simpa using long))

/-- A chain of references that begins with a node comes to one of its references again. -/
def Loops (root node : Node) : Prop :=
  ∃ target, root.IsAlias target ∧ Relation.ReflTransGen root.Refers node target ∧
    Relation.TransGen root.Refers target target

/-- The references met on the way from one node to another: the target of each is the node, or a
reference that leads to it. -/
structure Passed (root origin : Node) (seen : List String) (node : Node) : Prop where
  leads : Relation.ReflTransGen root.Refers origin node
  met : ∀ pointer ∈ seen, ∃ source reference target, root.Within source ∧
    source.value.member? "$ref" = some (.string reference) ∧
    resolve root reference = .ok target ∧ Pointer.canonical reference = pointer ∧
    Relation.ReflTransGen root.Refers origin target ∧ Relation.ReflTransGen root.Refers target node

variable {origin : Node}

/-- One more reference has been met, and it leads to its target. -/
theorem Passed.next {seen : List String} {reference : String} {target : Node}
    (passed : root.Passed origin seen node) (h : root.Within node)
    (link : node.value.member? "$ref" = some (.string reference))
    (found : resolve root reference = .ok target) :
    root.Passed origin (seen ++ [Pointer.canonical reference]) target where
  leads := passed.leads.tail (.of_resolve link found)
  met pointer mem := by
    rcases List.mem_append.1 mem with mem | mem
    · obtain ⟨source, reference', target', within, link', found', same, there, leads⟩ :=
        passed.met pointer mem
      exact ⟨source, reference', target', within, link', found', same, there,
        leads.tail (.of_resolve link found)⟩
    · obtain rfl := List.mem_singleton.1 mem
      exact ⟨node, reference, target, h, link, found, rfl,
        passed.leads.tail (.of_resolve link found), .refl⟩

/-- A chain of references that comes to a pointer for the second time goes round in a loop, unless
the pointer is that of an unusual reference. -/
theorem Passed.causes {seen : List String} {reference : String}
    (passed : root.Passed origin seen node) (h : root.Within node)
    (link : node.value.member? "$ref" = some (.string reference))
    (again : referencePointer reference ∈ seen) (pointer reason : String) :
    root.Causes (.cyclicReference pointer reason) ∨ root.Loops origin := by
  obtain ⟨source, reference', target, within, link', found, same, there, leads⟩ :=
    passed.met _ again
  by_cases isLocal : Pointer.isLocal reference
  · rw [referencePointer, if_pos isLocal] at same
    have back : root.Refers node target :=
      .of_resolve link (resolve_congr (isLocal_of_resolve found) isLocal same found)
    have returns := Relation.TransGen.tail' leads back
    obtain ⟨_, ⟨isReference, -⟩, -⟩ := Relation.TransGen.head'_iff.1 returns
    exact .inr ⟨target, ⟨not_isClass_of_reference isReference true, source, reference', within,
      link', found⟩, there, returns⟩
  · -- A plain pointer that is no pointer into the document is that of an unusual reference.
    rw [referencePointer, if_neg isLocal] at same
    by_cases plain : Pointer.isPlain reference
    · refine .inl (.unusual pointer reason within link' fun plain' => isLocal ?_)
      have begins : (Pointer.canonical reference').toList.head?.all (· = '/') := by
        simpa [Pointer.isPlain, isLocal_of_resolve found] using
          (Bool.and_eq_true _ _).mp plain' |>.2
      have visible : reference ≠ "" := by
        rintro rfl
        simp [Pointer.isPlain] at plain
      rw [same] at begins
      unfold Pointer.isLocal
      cases chars : reference.toList with
      | nil => exact absurd (String.toList_eq_nil_iff.1 chars) visible
      | cons first rest =>
        obtain rfl : first = '/' := by simpa [chars] using begins
        rfl
    · exact .inl (.unusual pointer reason h link plain)

/-- By induction on the fuel: a chain breaks at a node of the document, or comes back to a pointer
that it has met. -/
theorem followFrom_error {fuel : Nat} {pointer : String} {seen : List String} {failure : Failure}
    (h : root.Within node) (passed : root.Passed origin seen node)
    (fails : followFrom root fuel pointer seen node = .error failure) :
    failure.isExhausted ∨ root.Causes failure ∨
      (∃ pointer reason, failure = .cyclicReference pointer reason) ∧ root.Loops origin := by
  induction fuel generalizing pointer seen node with
  | zero =>
    cases fails
    exact .inl rfl
  | succ fuel ih =>
    unfold followFrom at fails
    split at fails
    · cases fails
    · rename_i reference link
      simp only at fails
      split at fails
      · rename_i again
        cases fails
        exact .inr ((passed.causes h link again _ _).imp_right fun loops => ⟨⟨_, _, rfl⟩, loops⟩)
      · rcases Except.bind_eq_error_iff.1 fails with fails | ⟨target, found, fails⟩
        · exact .inr (.inl (resolve_accounts h link (.inl rfl) failure fails))
        · have next : referencePointer reference = Pointer.canonical reference :=
            if_pos (isLocal_of_resolve found)
          rw [next] at fails
          exact ih (.resolve found) (passed.next h link found) fails
    · rename_i other _ link
      rcases Except.bind_eq_error_iff.1 fails with fails | ⟨_, -, fails⟩
      · have given : node.valueOf "$ref" = other := by simp [valueOf, link]
        exact .inr (.inl (writable_accounts h "$ref" failure (given ▸ fails)))
      · cases fails
        exact .inr (.inl (.unresolved _ _))

/-- A chain of references that cannot be followed designates nothing, or goes round in a loop. -/
theorem follow_error (h : root.Within node) {failure : Failure}
    (fails : follow root node = .error failure) : root.Causes failure ∨
      (∃ pointer reason, failure = .cyclicReference pointer reason) ∧ root.Loops node := by
  have passed : root.Passed node [] node := ⟨.refl, fun _ mem => by cases mem⟩
  rcases followFrom_error h passed fails with exhausted | cause
  · rw [(follow_terminates h).2 failure fails] at exhausted
    cases exhausted
  · exact cause

/-! ## Schemas -/

/-- Names of types that cannot be used are shown, and an integer among them may be too long for
that. -/
theorem typeNames_accounts (h : root.Within node) : root.Accounts (typeNames node) := by
  unfold typeNames
  extract_lets given names others
  split
  · exact .ok _
  · split
    · exact .ok _
    · split
      · exact .ok _
      · exact .ok _
      · apply Accounts.bind (writable_accounts h "type")
        intro _ _
        exact .unsupported _ _

/-- Whether a schema is a class fails only with the names of its types. -/
theorem isClassSchema_accounts (h : root.Within node) (allowEmpty : Bool) :
    root.Accounts (isClassSchema node allowEmpty) := by
  unfold isClassSchema
  split
  · exact .ok false
  · apply Accounts.bind (typeNames_accounts h)
    intro types _
    split
    · exact .ok _
    · split
      · exact .ok _
      · split
        · exact .ok _
        · exact .ok _

/-- A primitive type fails only for a format that is an array or an object. -/
theorem primitiveType_accounts (h : root.Within node) {name : String} {others : List String}
    (named : typeNames node = .ok (name :: others)) :
    root.Accounts (primitiveType name (node.valueOf "format")) := by
  unfold primitiveType
  split
  · refine .bind ?_ fun _ _ => .ok _
    unfold stringKind
    split
    · exact .ok _
    · exact .ok _
    · exact .ok _
    · exact .ok _
    · exact .ok _
    · rename_i given
      exact .error (.format h named (.inl (by simp [given, Value.isArray])))
    · rename_i given
      exact .error (.format h named (.inr (by simp [given, Value.isObject])))
    · exact .ok _
  · exact .ok _
  · exact .ok _
  · exact .ok _

theorem sequenceForm_accounts (root node : Node) : root.Accounts node.sequenceForm := by
  unfold sequenceForm
  split
  · exact .ok _
  · split
    · exact .unsupported _ _
    · split
      · exact .ok _
      · exact .ok _

/-- A form by name fails where its primitive type does, or for a type that is not supported. -/
theorem plainForm_accounts (h : root.Within node) {types : List String}
    (given : typeNames node = .ok types) : root.Accounts (node.plainForm types) := by
  have primitive {name : String} {others : List String}
      (named : typeNames node = .ok (name :: others)) : root.Accounts
      (do return Form.plain (← primitiveType name (node.valueOf "format"))) :=
    .bind (primitiveType_accounts h named) fun _ _ => .ok _
  unfold plainForm
  split
  · split
    · exact sequenceForm_accounts root node
    · split
      · exact .unsupported _ _
      · exact .ok _
  · split
    · exact sequenceForm_accounts root node
    · exact .ok _
    · exact primitive given
    · exact primitive given
    · exact primitive given
    · exact primitive given
    · exact .unsupported _ _

/-- Whichever form is tried, what it fails over stands in the schema. -/
theorem form_accounts (h : root.Within node) : root.Accounts node.form := by
  unfold form
  split
  · exact .ok _
  · split
    · exact .ok _
    · apply Accounts.bind (typeNames_accounts h)
      intro types given
      split
      · exact .ok _
      · split
        · exact .ok _
        · apply Accounts.bind (isClassSchema_accounts h false)
          intro isClass _
          split
          · exact .ok _
          · exact plainForm_accounts h given

theorem enumValues_accounts (root node : Node) : root.Accounts (enumValues node) := by
  unfold enumValues
  split
  · split
    · exact .ok _
    · exact .unsupported _ _
  · exact .unsupported _ _

theorem propertyDefault_accounts (h : root.Within node) (type : TypeRef) (isRequired : Bool) :
    root.Accounts (propertyDefault node type isRequired) := by
  unfold propertyDefault
  simp only
  split
  · exact .ok _
  · split
    · exact .ok _
    · apply Accounts.bind (writable_accounts h "default")
      intro _ _
      exact .unsupported _ _

/-! ## Constraints -/

theorem boundConstraint_accounts (root node : Node) (kind : ConstraintKind) (value : Value) :
    root.Accounts (boundConstraint node kind value) := by
  unfold boundConstraint
  split
  · exact .ok _
  · split
    · exact .ok _
    · exact .unsupported _ _

theorem countConstraint_accounts (root node : Node) (kind : ConstraintKind) :
    root.Accounts (countConstraint node kind) := by
  unfold countConstraint
  simp only
  split
  · exact .ok _
  · split
    · exact .ok _
    · exact .unsupported _ _

theorem patternConstraint_accounts (h : root.Within node) :
    root.Accounts (patternConstraint node) := by
  unfold patternConstraint
  split
  · exact .ok _
  · rename_i pattern given
    split
    · exact .ok _
    · rename_i failure fault
      exact .error (.pattern h given fault)
    · exact .unsupported _ _
  · exact .unsupported _ _

theorem numericConstraints_accounts (root node : Node) :
    root.Accounts (numericConstraints node) := by
  unfold numericConstraints
  refine .bind (.mapM fun bound _ => ?_) fun _ _ => .ok _
  exact boundConstraint_accounts root node bound.1 bound.2

theorem stringConstraints_accounts (h : root.Within node) :
    root.Accounts (stringConstraints node) := by
  unfold stringConstraints
  apply Accounts.bind (countConstraint_accounts root node .minLength)
  intro _ _
  apply Accounts.bind (countConstraint_accounts root node .maxLength)
  intro _ _
  exact .bind (patternConstraint_accounts h) fun _ _ => .ok _

theorem arrayConstraints_accounts (root node : Node) : root.Accounts (arrayConstraints node) := by
  unfold arrayConstraints
  apply Accounts.bind (countConstraint_accounts root node .minItems)
  intro _ _
  exact .bind (countConstraint_accounts root node .maxItems) fun _ _ => .ok _

/-- What validation keywords fail over stands in the schema. -/
theorem constraintsFor_accounts (h : root.Within node) (type : TypeRef) :
    root.Accounts (constraintsFor node type) := by
  unfold constraintsFor
  split
  · exact .ok _
  · split
    · split
      · exact numericConstraints_accounts root node
      · split
        · exact stringConstraints_accounts h
        · exact .ok _
    · exact arrayConstraints_accounts root node
    · exact .ok _

/-! ## Names and places -/

theorem className_accounts (root : Node) (node? : Option Node) (fallback : String) :
    root.Accounts (className node? fallback) := by
  unfold className
  simp only
  split
  · split
    · exact .error (.unsupported _ _)
    · exact .ok _
  · split
    · exact .error (.unsupported _ _)
    · exact .ok _

theorem reserve_accounts (root : Node) (names : ReservedNames) (name path : String) :
    root.Accounts (reserve names name path) := by
  unfold reserve
  split
  · split
    · exact .ok _
    · exact .error (.unsupported _ _)
  · exact .ok _

theorem checkFreeIn_accounts (root : Node) (graph : ClassGraph) (name path : String)
    (scope : ClassId) : root.Accounts (checkFreeIn graph name path scope) := by
  unfold checkFreeIn
  split
  · exact .ok _
  · exact .error (.unsupported _ _)

/-- A class without a place for its name is a schema that is not supported. -/
theorem place_accounts (root : Node) (graph : ClassGraph) (names : ReservedNames)
    (name path : String) (referencing : Option ClassId) :
    root.Accounts (place graph names name path referencing) := by
  have inside (referrer : ClassId) : root.Accounts
      (if graph.isFreeIn referrer name then .ok (some referrer, names)
        else .error (.unsupportedSchema path
          ("class name " ++ name ++ " collides in " ++ graph.qualifiedName referrer ++
            " and beside it")) : Except Failure (Option ClassId × ReservedNames)) := by
    split
    · exact .ok _
    · exact .error (.unsupported _ _)
  unfold place
  split
  · exact .bind (reserve_accounts root names name path) fun _ _ => .ok _
  · simp only
    split
    · split
      · exact .ok _
      · exact inside _
    · split
      · exact .ok _
      · exact inside _

/-- Placing a class fails over its name, which the schema or its key gives. -/
theorem placement_accounts (root : Node) (s : BuildState) (node : Node) (fallback : String)
    (referencing : Option ClassId) : root.Accounts (s.placement node fallback referencing) := by
  unfold BuildState.placement
  split
  · exact .ok _
  · apply Accounts.bind (className_accounts root _ _)
    intro name _
    exact .bind (place_accounts root _ _ _ _ _) fun _ _ => .ok _

/-! ## Composed classes -/

theorem checkInlinePart_accounts (h : root.Within node) : root.Accounts (checkInlinePart node) := by
  unfold checkInlinePart
  simp only
  split
  · exact .unsupported _ _
  · apply Accounts.bind (typeNames_accounts h)
    intro types _
    split
    · exact .unsupported _ _
    · exact .ok _

/-- A composition of another form is not supported; otherwise only an inline member can fail. -/
theorem splitAllOf_accounts {members : Node} (h : root.Within members) :
    root.Accounts (splitAllOf node members) := by
  unfold splitAllOf
  simp only
  split
  · exact .unsupported _ _
  · split
    · exact .unsupported _ _
    · split
      · refine .bind (.forM fun part mem => ?_) fun _ _ => .ok _
        exact checkInlinePart_accounts (h.items (List.mem_filter.1 mem).1)
      · exact .unsupported _ _

theorem addProperties_accounts (root : Node) (inherited : List String)
    (own properties : List Property) : root.Accounts (addProperties inherited own properties) := by
  induction properties generalizing own with
  | nil => exact .ok own
  | cons property rest ih =>
    unfold addProperties
    split
    · exact .unsupported _ _
    · exact ih _

/-- An alternative that has no schema or no name is a reference that cannot be followed, or has a
fault of its own. -/
theorem alternativeSchema_error {source : Source} {keyword : String} {failure : Failure}
    (fails : alternativeSchema source keyword node = .error failure) :
    source.root.Causes failure ∨ follow source.root node = .error failure := by
  have named (node? : Option Node) (fallback : String) (schema : Node) :
      source.root.Accounts (do return (schema, ← className node? fallback)) :=
    .bind (className_accounts _ _ _) fun _ _ => .ok _
  unfold alternativeSchema at fails
  split at fails
  · rcases Except.bind_eq_error_iff.1 fails with fails | ⟨resolved, -, fails⟩
    · exact .inr fails
    · exact .inl (named _ _ _ failure fails)
  · split at fails
    · exact .inl (Accounts.unsupported _ _ failure fails)
    · exact .inl (named _ _ _ failure fails)

theorem isAlternativeSchema_accounts (h : root.Within node) :
    root.Accounts (isAlternativeSchema node) := by
  unfold isAlternativeSchema
  split
  · exact .ok _
  · exact isClassSchema_accounts h true

end

end Node

end SchemaClasses
