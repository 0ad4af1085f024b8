import SchemaClasses.Build.Classes
import SchemaClasses.Proofs.Document.Nodes
import SchemaClasses.Proofs.Names.PascalCase

/-!
# The schemas of a build

Where the schemas stand that a build turns into classes. An alternative of a choice is an item of an
array, and so it is neither the document nor a member of an object; only a reference leads to it as
a schema of its own.

## Main definitions

* `IsClassName`: the names that schemas can have.
* `Node.Keyed`: the document and the members of its objects.
* `Node.Reached`: the schemas that a build comes to.
* `Node.HasAlternative`: the alternatives of a choice that is a class.

## Main statements

* `Node.HasAlternative.unique`: an alternative belongs to one choice.
* `Node.Reached.of_alternative`: a schema that is an alternative has been reached by a reference.
-/

namespace SchemaClasses

/-! ## Names -/

def IsClassName (name : String) : Prop :=
  ∃ node? fallback, className node? fallback = .ok name

/-- The name of a schema is a text in Pascal case that is not empty. -/
theorem IsClassName.exists_pascalChars {name : String} (h : IsClassName name) :
    ∃ text, name.toList = pascalChars text ∧ pascalChars text ≠ [] := by
  obtain ⟨node?, fallback, named⟩ := h
  unfold className at named
  extract_lets given at named
  have cased : ∃ text, given.toList = pascalChars text := by
    unfold given
    split
    · exact ⟨_, String.toList_ofList⟩
    · exact ⟨_, String.toList_ofList⟩
  obtain ⟨text, eq⟩ := cased
  split at named
  · cases named
  · rename_i nonempty
    obtain rfl := Except.ok.inj named
    refine ⟨text, eq, fun empty => nonempty ?_⟩
    rw [String.isEmpty_iff, ← String.toList_eq_nil_iff, eq, empty]

theorem IsClassName.inName {name : String} (h : IsClassName name) {c : Char}
    (mem : c ∈ name.toList) : inName c := by
  obtain ⟨text, eq, -⟩ := h.exists_pascalChars
  rw [eq] at mem
  exact inName_of_mem_pascalChars mem

/-- The name of a schema does not begin with a small letter. -/
theorem IsClassName.exists_head {name : String} (h : IsClassName name) :
    ∃ c ∈ name.toList.head?, ¬c.isLower := by
  obtain ⟨text, eq, nonempty⟩ := h.exists_pascalChars
  cases chars : pascalChars text with
  | nil => exact absurd chars nonempty
  | cons first rest =>
    exact ⟨first, by simp [eq, chars], not_isLower_of_head_pascalChars (by rw [chars]; rfl)⟩

theorem IsClassName.dot_notMem {name : String} (h : IsClassName name) : '.' ∉ name.toList := by
  intro mem
  have letter := h.inName mem
  cases letter

theorem IsClassName.slash_notMem {name : String} (h : IsClassName name) : '/' ∉ name.toList := by
  intro mem
  have letter := h.inName mem
  cases letter

/-! ## Places of schemas -/

namespace Node

/-- The document and the members of its objects. -/
inductive Keyed (root : Node) : Node → Prop
  | root : Keyed root root
  | member {outer : Node} {key : String} {value : Value} (within : root.Within outer)
      (mem : (key, value) ∈ outer.value.members) : Keyed root ⟨outer.memberPath key, value⟩

/-- The schemas that a build comes to on their own: the document and the members of objects, what
references lead to, and the alternatives beside null. -/
inductive Reached (root : Node) : Node → Prop
  | keyed {node : Node} (h : root.Keyed node) : Reached root node
  | reference {node : Node} {resolved : Resolved} (within : root.Within node)
      (isReference : node.has "$ref") (found : follow root node = .ok resolved) :
      Reached root resolved.target
  | nullable {node alternative : Node} (within : root.Within node)
      (found : nullableAlternative? node = some alternative) : Reached root alternative

/-- The alternatives of a choice that is a class, each at its own place. -/
inductive HasAlternative (root choice : Node) : Node → Prop
  | of {keyword : String} {alternatives alternative : Node} (within : root.Within choice)
      (isClass : isClassSchema choice true = .ok true)
      (isChoice : keyword = "oneOf" ∨ keyword = "anyOf")
      (found : choice.member? keyword = some alternatives)
      (mem : alternative ∈ alternatives.items) : HasAlternative root choice alternative

variable {root node choice choice' alternative alternative' : Node}

theorem mem_of_otherThanNull? {keyword : String}
    (h : otherThanNull? node keyword = some alternative) :
    ∃ alternatives, node.member? keyword = some alternatives ∧
      alternative ∈ alternatives.items := by
  unfold otherThanNull? at h
  split at h
  · cases h
  · rename_i alternatives found
    simp only at h
    split at h
    · exact ⟨alternatives, found, (List.mem_filter.1 (List.mem_of_head? h)).1⟩
    · cases h

theorem mem_of_nullableAlternative? (h : nullableAlternative? node = some alternative) :
    ∃ keyword alternatives, (keyword = "oneOf" ∨ keyword = "anyOf") ∧
      node.member? keyword = some alternatives ∧ alternative ∈ alternatives.items := by
  unfold nullableAlternative? at h
  split at h
  · cases h
  · rcases Option.or_eq_some_iff.1 h with h | ⟨-, h⟩
    · obtain ⟨alternatives, found, mem⟩ := mem_of_otherThanNull? h
      exact ⟨_, alternatives, .inl rfl, found, mem⟩
    · obtain ⟨alternatives, found, mem⟩ := mem_of_otherThanNull? h
      exact ⟨_, alternatives, .inr rfl, found, mem⟩

theorem Keyed.within (h : root.Keyed node) : root.Within node := by
  cases h with
  | root => exact .root
  | member within mem => exact .member within mem

theorem Reached.within (h : root.Reached node) : root.Within node := by
  cases h with
  | keyed h => exact h.within
  | reference within _ found => exact within.follow found
  | nullable within found =>
    obtain ⟨_, _, -, found, mem⟩ := mem_of_nullableAlternative? found
    exact (within.member? found).items mem

theorem HasAlternative.within (h : root.HasAlternative node alternative) :
    root.Within alternative := by
  cases h with
  | of within _ _ found mem => exact (within.member? found).items mem

theorem HasAlternative.within_choice (h : root.HasAlternative choice alternative) :
    root.Within choice := by
  cases h with
  | of within => exact within

theorem Reached.of_member? {member : Node} {key : String} (within : root.Within node)
    (found : node.member? key = some member) : root.Reached member := by
  obtain ⟨value, hvalue, rfl⟩ := Option.map_eq_some_iff.1 found
  exact .keyed (.member within (mem_of_lookup hvalue))

theorem Reached.of_mem_members {member : String × Node} (within : root.Within node)
    (mem : member ∈ node.members) : root.Reached member.2 := by
  obtain ⟨entry, hentry, rfl⟩ := List.mem_map.1 mem
  exact .keyed (.member within hentry)

/-- The choice and the place in it are determined by the path of an alternative. -/
theorem path_eq_of_items {keyword keyword' : String} {alternatives alternatives' : Node}
    (found : choice.member? keyword = some alternatives)
    (found' : choice'.member? keyword' = some alternatives')
    (mem : alternative ∈ alternatives.items) (mem' : alternative' ∈ alternatives'.items)
    (path : alternative.path = alternative'.path) : choice.path = choice'.path := by
  obtain ⟨index, hindex, -⟩ := path_of_mem_items mem
  obtain ⟨index', hindex', -⟩ := path_of_mem_items mem'
  rw [hindex, hindex'] at path
  have array := (itemPath_inj path).1
  rw [path_of_member? found, path_of_member? found'] at array
  exact (memberPath_inj array).1

/-- An alternative belongs to one choice. -/
theorem HasAlternative.unique (distinct : root.value.distinctKeys) (top : root.path = "")
    (h : root.HasAlternative choice alternative) (h' : root.HasAlternative choice' alternative')
    (path : alternative.path = alternative'.path) :
    choice = choice' ∧ alternative = alternative' := by
  refine ⟨?_, h.within.eq_of_path distinct top h'.within path⟩
  cases h with
  | of within _ _ found mem =>
    cases h' with
    | of within' _ _ found' mem' =>
      exact within.eq_of_path distinct top within' (path_eq_of_items found found' mem mem' path)

theorem isComposed_of_member? {keyword : String} {alternatives : Node}
    (isChoice : keyword = "oneOf" ∨ keyword = "anyOf")
    (found : choice.member? keyword = some alternatives) : isComposed choice := by
  have has := has_of_member? found
  rcases isChoice with rfl | rfl <;> simp [isComposed, compositionKeywords, has]

/-- A choice with null is no class, as the type of the schema is that of the other alternative. -/
theorem nullableAlternative?_of_isClass (isClass : isClassSchema choice true = .ok true)
    (composed : isComposed choice) : nullableAlternative? choice = none := by
  unfold isClassSchema at isClass
  split at isClass
  · cases isClass
  · obtain ⟨types, -, isClass⟩ := Except.bind_eq_ok_iff.1 isClass
    split at isClass
    · cases isClass
    · simpa using Except.ok.inj isClass

/-- An alternative is an item of an array and not a member of an object. -/
theorem Keyed.path_ne (distinct : root.value.distinctKeys) (top : root.path = "")
    (h : root.Keyed node) (isAlternative : root.HasAlternative choice alternative) :
    node.path ≠ alternative.path := by
  intro path
  cases isAlternative with
  | of within _ _ found mem =>
    obtain ⟨index, hindex, hitem⟩ := path_of_mem_items mem
    rw [hindex] at path
    cases h with
    | root => exact absurd (path.symm.trans top) (itemPath_ne_empty _ _)
    | member outer member =>
      obtain rfl := outer.eq_of_path distinct top (within.member? found)
        (path_eq_of_memberPath_eq_itemPath path)
      exact notMem_members_of_items hitem member

/-- A class for an alternative outside its open base comes from a reference that ends at the
alternative: an alternative is no member of an object, and what stands beside null is no class. -/
theorem Reached.of_alternative (distinct : root.value.distinctKeys) (top : root.path = "")
    (h : root.Reached node) (isAlternative : root.HasAlternative choice alternative)
    (path : node.path = alternative.path) :
    node = alternative ∧ ∃ reference resolved, root.Within reference ∧ reference.has "$ref" ∧
      follow root reference = .ok resolved ∧ resolved.target = node := by
  refine ⟨h.within.eq_of_path distinct top isAlternative.within path, ?_⟩
  cases h with
  | keyed keyed => exact absurd path (keyed.path_ne distinct top isAlternative)
  | reference outer isReference hfollow => exact ⟨_, _, outer, isReference, hfollow, rfl⟩
  | nullable outer beside =>
    cases isAlternative with
    | of within isClass isChoice found mem =>
      obtain ⟨_, _, -, found', mem'⟩ := mem_of_nullableAlternative? beside
      obtain rfl := outer.eq_of_path distinct top within
        (path_eq_of_items found' found mem' mem path)
      rw [nullableAlternative?_of_isClass isClass (isComposed_of_member? isChoice found)] at beside
      cases beside

end Node

/-! ## Parts of schemas -/

section

variable {node : Node}

theorem not_isClass_of_reference (isReference : node.has "$ref") (allowEmpty : Bool) :
    isClassSchema node allowEmpty = .ok false := by
  simp [isClassSchema, isReference]

/-- A class schema remains one when an empty object counts as a class. -/
theorem isClassSchema_true (h : isClassSchema node false = .ok true) :
    isClassSchema node true = .ok true := by
  unfold isClassSchema at h ⊢
  split
  · rename_i refused
    rw [if_pos refused] at h
    cases h
  · rename_i given
    rw [if_neg given] at h
    obtain ⟨types, htypes, h⟩ := Except.bind_eq_ok_iff.1 h
    refine Except.bind_eq_ok_iff.2 ⟨types, htypes, ?_⟩
    split
    · rename_i other
      rw [if_pos other] at h
      cases h
    · rename_i object
      rw [if_neg object] at h
      split
      · rename_i composed
        rwa [if_pos composed] at h
      · rename_i single
        rw [if_neg single] at h
        split
        · rfl
        · rename_i bare
          rw [if_neg bare] at h
          simp only [Bool.and_false] at h
          cases h

/-- A choice has its alternatives under one of the two keywords. -/
theorem exists_choiceKeyword (isChoice : node.has "oneOf" ∨ node.has "anyOf")
    (notBoth : ¬(node.has "oneOf" && node.has "anyOf")) :
    ∃ keyword, (if node.has "oneOf" then "oneOf" else "anyOf") = keyword ∧
      (keyword = "oneOf" ∨ keyword = "anyOf") ∧ node.has keyword ∧
      ∀ other, other = "oneOf" ∨ other = "anyOf" → node.has other → other = keyword := by
  by_cases isOneOf : node.has "oneOf"
  · refine ⟨"oneOf", if_pos isOneOf, .inl rfl, isOneOf, fun other eq hasOther => ?_⟩
    refine eq.resolve_right fun eq => notBoth ?_
    rw [isOneOf, ← eq, hasOther]
    rfl
  · refine ⟨"anyOf", if_neg isOneOf, .inr rfl, isChoice.resolve_left isOneOf,
      fun other eq hasOther => eq.resolve_left ?_⟩
    rintro rfl
    exact isOneOf hasOther

/-- The one reference among the members of `allOf`, and the members beside it. -/
theorem mem_of_splitAllOf {members reference : Node} {inline : List Node}
    (h : splitAllOf node members = .ok (reference, inline)) :
    reference ∈ members.items ∧ reference.has "$ref" ∧ ∀ part ∈ inline, part ∈ members.items := by
  unfold splitAllOf at h
  simp only at h
  split at h
  · cases h
  · split at h
    · cases h
    · split at h
      · rename_i filtered
        obtain ⟨_, -, h⟩ := Except.bind_eq_ok_iff.1 h
        cases h
        have mem : reference ∈ members.items.filter fun member => member.has "$ref" := by
          rw [filtered]
          exact List.mem_singleton_self _
        obtain ⟨mem, isReference⟩ := List.mem_filter.1 mem
        exact ⟨mem, isReference, fun part hpart => (List.mem_filter.1 hpart).1⟩
      · cases h

theorem within_of_alternativeSchema {source : Source} {keyword name : String}
    {alternative schema : Node}
    (within : source.root.Within alternative)
    (h : alternativeSchema source keyword alternative = .ok (schema, name)) :
    source.root.Within schema := by
  unfold alternativeSchema at h
  split at h
  · obtain ⟨resolved, hfollow, h⟩ := Except.bind_eq_ok_iff.1 h
    obtain ⟨_, -, h⟩ := Except.bind_eq_ok_iff.1 h
    cases h
    exact within.follow hfollow
  · split at h
    · cases h
    · obtain ⟨_, -, h⟩ := Except.bind_eq_ok_iff.1 h
      cases h
      exact within

/-- The class of an alternative has a name that a schema can have. -/
theorem isClassName_of_alternativeSchema {source : Source} {keyword : String} {alternative : Node}
    {named : Node × String} (h : alternativeSchema source keyword alternative = .ok named) :
    IsClassName named.2 := by
  unfold alternativeSchema at h
  split at h
  · obtain ⟨resolved, -, h⟩ := Except.bind_eq_ok_iff.1 h
    obtain ⟨name, isName, h⟩ := Except.bind_eq_ok_iff.1 h
    cases h
    exact ⟨_, _, isName⟩
  · split at h
    · cases h
    · obtain ⟨name, isName, h⟩ := Except.bind_eq_ok_iff.1 h
      cases h
      exact ⟨_, _, isName⟩

end

end SchemaClasses
