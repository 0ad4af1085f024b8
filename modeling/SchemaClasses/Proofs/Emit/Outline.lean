import Mathlib.Data.List.Infix
import SchemaClasses.Proofs.Build.Run
import SchemaClasses.Proofs.Decidable
import SchemaClasses.Proofs.Emit.Accounted
import SchemaClasses.Proofs.Emit.Hoisting
import SchemaClasses.Proofs.Emit.Parts
import SchemaClasses.Proofs.Names.PascalCase

/-!
# What a Python module declares

The body of a Python class declares its enums and then the classes nested in it, but for the hoisted
ones. These follow the top-level class at the level of the module, each with a statement that attaches
it to the class around it. So each class of a file is declared once.

## Main definitions

* `Context.outline`: a tree without the classes that stand apart.
* `Python.Writes`: the texts of classes that declare the classes of a tree and no others.
* `Python.IsModuleText`: the texts of modules that declare the classes of a file.

## Main statements

* `Python.writes_of_gives`: the text of a class declares the classes of its outline.
* `Run.declaresOnce`: the module of a file declares each class once.
-/

namespace SchemaClasses

/-! ## Outlines -/

mutual

/-- A tree without the nested classes that stand apart, and without what is nested in these. -/
def Context.outline (context : Context) : ClassTree → ClassTree
  | .node id nested => .node id (context.outlines nested)

def Context.outlines (context : Context) : List ClassTree → List ClassTree
  | [] => []
  | tree :: rest =>
    if context.standsApart tree.id then context.outlines rest
    else context.outline tree :: context.outlines rest

end

mutual

/-- The trees nested in a tree that stand apart. -/
def Context.apartIn (context : Context) : ClassTree → List ClassTree
  | .node _ nested => context.apartAmong nested

def Context.apartAmong (context : Context) : List ClassTree → List ClassTree
  | [] => []
  | tree :: rest =>
    (if context.standsApart tree.id then [tree] else []) ++ context.apartIn tree ++
      context.apartAmong rest

end

def Context.outlined (context : Context) (trees : List ClassTree) : List ClassId :=
  trees.flatMap fun tree => (context.outline tree).classes

mutual

/-- The classes of a tree are those of its outline and of the outlines of what stands apart in it. -/
theorem Context.classes_perm (context : Context) : (tree : ClassTree) →
    tree.classes.Perm ((context.outline tree).classes ++ context.outlined (context.apartIn tree))
  | .node id nested => by
    rw [outline, apartIn, ClassTree.classes, ClassTree.classes, List.cons_append]
    exact (context.classesOfAll_perm nested).cons id

/-- The classes of trees are those of their outlines and those that stand apart, with what is nested
there. -/
theorem Context.classesOfAll_perm (context : Context) : (trees : List ClassTree) →
    (ClassTree.classesOfAll trees).Perm (ClassTree.classesOfAll (context.outlines trees) ++
      context.outlined (context.apartAmong trees))
  | [] => by
    rw [outlines, apartAmong]
    exact .refl _
  | tree :: rest => by
    have first := context.classes_perm tree
    have others := context.classesOfAll_perm rest
    rw [outlines, apartAmong, ClassTree.classesOfAll, outlined, List.flatMap_append,
      List.flatMap_append]
    refine (first.append others).trans ?_
    unfold outlined
    split
    · rw [List.flatMap_singleton]
      exact List.perm_append_comm_assoc _ _ _
    · rw [ClassTree.classesOfAll, List.flatMap_nil, List.nil_append, List.append_assoc,
        List.append_assoc]
      exact (List.perm_append_comm_assoc _ _ _).append_left _

end

mutual

/-- The roots of the trees that stand apart in a tree. -/
theorem Context.map_id_apartIn (context : Context) : (tree : ClassTree) →
    (context.apartIn tree).map ClassTree.id = tree.classes.tail.filter context.standsApart
  | .node id nested => by
    rw [apartIn, ClassTree.classes, List.tail_cons]
    exact context.map_id_apartAmong nested

/-- The classes that stand apart are found in the order of the trees. -/
theorem Context.map_id_apartAmong (context : Context) : (trees : List ClassTree) →
    (context.apartAmong trees).map ClassTree.id =
      (ClassTree.classesOfAll trees).filter context.standsApart
  | [] => rfl
  | tree :: rest => by
    have first := context.map_id_apartIn tree
    have others := context.map_id_apartAmong rest
    rw [apartAmong, ClassTree.classesOfAll, List.filter_append, ← others, List.map_append,
      List.map_append, first]
    cases tree with
    | node id nested =>
      rw [ClassTree.classes, ClassTree.id, List.filter_cons, List.tail_cons]
      split <;> rfl

end

/-- What stands apart among trees is one of them, or is found in one of them. -/
theorem Context.mem_apartAmong_iff {context : Context} {trees : List ClassTree} {tree : ClassTree} :
    tree ∈ context.apartAmong trees ↔ ∃ outer ∈ trees,
      (tree = outer ∧ context.standsApart outer.id) ∨ tree ∈ context.apartIn outer := by
  induction trees with
  | nil => simp [apartAmong]
  | cons first rest ih =>
    rw [apartAmong, List.mem_append, List.mem_append, ih, List.exists_mem_cons_iff]
    refine or_congr_left (or_congr_left ?_)
    split <;> simp_all

/-- What stands apart in the tree of a class is the tree of a class, too. -/
theorem Context.eq_tree_of_mem_apartIn {s : BuildState} (nesting : s.Nesting) (context : Context)
    (id : ClassId) : ∀ tree ∈ context.apartIn (s.graph.tree id), tree = s.graph.tree tree.id := by
  refine nesting.induction_nested (P := fun id =>
    ∀ tree ∈ context.apartIn (s.graph.tree id), tree = s.graph.tree tree.id) (fun id ih => ?_) id
  intro tree mem
  rw [nesting.tree_eq, apartIn, mem_apartAmong_iff] at mem
  obtain ⟨outer, mem, here | deeper⟩ := mem
  · obtain ⟨inner, -, rfl⟩ := List.mem_map.1 mem
    obtain ⟨rfl, -⟩ := here
    rw [nesting.tree_eq, ClassTree.id, ← nesting.tree_eq]
  · obtain ⟨inner, nested, rfl⟩ := List.mem_map.1 mem
    exact ih inner nested tree deeper

theorem Emit.Gives.of_map {α β : Type} {step : Emit α} {f : α → β} {y : β}
    (h : (f <$> step).Gives y) : ∃ x, step.Gives x ∧ f x = y := by
  rw [map_eq_pure_bind] at h
  obtain ⟨x, first, last⟩ := h.of_bind
  exact ⟨x, first, last.of_pure⟩

theorem Emit.Gives.of_mapM {α β : Type} {f : α → Emit β} {as : List α} {bs : List β}
    (h : (as.mapM f).Gives bs) : List.Forall₂ (fun a b => (f a).Gives b) as bs := by
  induction as generalizing bs with
  | nil =>
    rw [List.mapM_nil] at h
    exact h.of_pure ▸ .nil
  | cons a rest ih =>
    rw [List.mapM_cons] at h
    obtain ⟨b, first, h⟩ := h.of_bind
    obtain ⟨others, rest, h⟩ := h.of_bind
    exact h.of_pure ▸ .cons first (ih rest)

theorem Emit.gives_of_run' {α : Type} {step : Emit α} {needs : Requirements} {x : α}
    (h : step.run' needs = some x) : step.Gives x := by
  unfold EStateM.run' EStateM.run at h
  cases run : step needs with
  | ok y needs' =>
    rw [run] at h
    exact ⟨needs, needs', run.trans (by rw [Option.some.inj h])⟩
  | error failure needs' =>
    rw [run] at h
    cases h

theorem Emit.exists_gives_of_isSome {α : Type} {step : Emit α} {needs : Requirements}
    (h : (step.run' needs).isSome) : ∃ x, step.Gives x := by
  obtain ⟨x, given⟩ := Option.isSome_iff_exists.1 h
  exact ⟨x, Emit.gives_of_run' given⟩

theorem Emit.Gives.forall_of_mapM {α β : Type} {f : α → Emit β} {as : List α} {bs : List β}
    {P : β → Prop} (h : (as.mapM f).Gives bs) (each : ∀ a b, (f a).Gives b → P b) :
    ∀ b ∈ bs, P b := by
  have all := h.of_mapM
  clear h
  induction all with
  | nil => exact fun _ mem => absurd mem List.not_mem_nil
  | cons first _ ih => exact List.forall_mem_cons.2 ⟨each _ _ first, ih⟩

theorem Emit.Gives.eq_map_of_mapM {α β : Type} {f : α → Emit β} {g : α → β} {as : List α}
    {bs : List β} (h : (as.mapM f).Gives bs) (each : ∀ a b, (f a).Gives b → b = g a) :
    bs = as.map g := by
  have all := h.of_mapM
  clear h
  induction all with
  | nil => rfl
  | cons first _ ih => rw [each _ _ first, ih, List.map_cons]

namespace Python

/-! ## Lines of class bodies -/

def DeclaresClass (line : String) : Prop := (indented 1 "class ").toList <+: line.toList

def DeclareNone (parts : List Section) : Prop := ∀ part ∈ parts, ∀ line ∈ part, ¬DeclaresClass line

theorem declaresClass_indented_iff (line : String) :
    DeclaresClass (indented 1 line) ↔ "class ".toList <+: line.toList := by
  unfold DeclaresClass indented indented
  simp only [String.toList_append]
  exact List.prefix_append_right_inj _

/-- Lines that do not begin with the word for classes declare none after they have been moved. -/
theorem not_declaresClass_of_mem_indent {lines : List String}
    (h : ∀ line ∈ lines, ¬"class ".toList <+: line.toList) {line : String}
    (mem : line ∈ Text.indent lines) : ¬DeclaresClass line := by
  obtain ⟨inner, memInner, rfl⟩ := List.mem_map.1 mem
  split
  · rename_i empty
    obtain rfl : inner = "" := by simpa using empty
    unfold DeclaresClass
    decide
  · exact fun declares => h inner memInner ((declaresClass_indented_iff inner).1 declares)

theorem not_prefix_of_mem_indent {lines : List String} {line : String}
    (mem : line ∈ Text.indent lines) : ¬"class ".toList <+: line.toList := by
  obtain ⟨inner, -, rfl⟩ := List.mem_map.1 mem
  split
  · rename_i empty
    obtain rfl : inner = "" := by simpa using empty
    decide
  · simp [Text.indentation]

/-- The lines of a method declare no classes. -/
theorem not_declaresClass_of_mem_method {first : String} {rest : List String} {line : String}
    (h : ¬"class ".toList <+: first.toList)
    (mem : line ∈ Text.indent ([first] ++ Text.indent rest)) : ¬DeclaresClass line := by
  refine not_declaresClass_of_mem_indent (fun line mem => ?_) mem
  rcases List.mem_append.1 mem with mem | mem
  · exact List.mem_singleton.1 mem ▸ h
  · exact not_prefix_of_mem_indent mem

/-- Every character of an identifier can stand in a name in Pascal case. -/
theorem inName_of_isIdentifier {text : String} (h : isIdentifier text) {c : Char}
    (mem : c ∈ text.toList) : inName c := by
  unfold isIdentifier at h
  rcases mem_dropFinalNewline_or mem with kept | rfl
  · cases chars : Text.dropFinalNewline text.toList with
    | nil =>
      rw [chars] at kept
      cases kept
    | cons first rest =>
      rw [chars] at h kept
      obtain ⟨begins, continues⟩ := Bool.and_eq_true_iff.1 h
      rcases List.mem_cons.1 kept with rfl | mem
      · unfold beginsIdentifier at begins
        unfold inName
        grind [Char.isAlphanum]
      · have continues := List.all_eq_true.1 continues c mem
        unfold continuesIdentifier at continues
        unfold inName
        grind
  · rfl

theorem space_notMem_of_fieldName {property : Property} {name : String}
    (h : fieldName .python property = .ok name) : ' ' ∉ name.toList := by
  unfold fieldName at h
  split at h
  · cases h
  · rename_i valid
    have inside : ' ' ∉ property.name.toList := fun mem =>
      absurd (inName_of_isIdentifier (by simpa using valid) mem) (by decide)
    split at h <;> cases h
    · simpa [escapeKeyword] using inside
    · exact inside

/-- A field is not declared like a class, with a blank before its name. -/
theorem not_prefix_of_fieldName {property : Property} {name : String}
    (h : fieldName .python property = .ok name) (rest : String) :
    ¬"class ".toList <+: (name ++ (": " ++ rest)).toList := by
  rintro ⟨after, eq⟩
  have noBlank := space_notMem_of_fieldName h
  have eq : "class".toList ++ ' ' :: after = name.toList ++ ':' :: (' ' :: rest.toList) := by
    simpa using eq
  rcases List.append_eq_append_iff.1 eq with ⟨between, split, tail⟩ | ⟨between, split, tail⟩
  · rcases List.cons_eq_append_iff.1 tail with ⟨-, tail⟩ | ⟨more, rfl, -⟩
    · cases tail
    · exact noBlank (split ▸ by simp)
  · rcases List.cons_eq_append_iff.1 tail with ⟨-, tail⟩ | ⟨more, rfl, -⟩
    · cases tail
    · have mem : ':' ∈ "class".toList := split ▸ by simp
      exact absurd mem (by decide)

/-- The line of a field begins with its name. -/
theorem exists_fieldLine {context : Context} {id : ClassId} {property : Property}
    {line : String} (h : (fieldLine context id property).Gives line) :
    ∃ name rest, fieldName .python property = .ok name ∧ line = name ++ (": " ++ rest) := by
  unfold fieldLine at h
  obtain ⟨name, named, h⟩ := h.of_bind
  obtain ⟨type, -, h⟩ := h.of_bind
  extract_lets start at h
  have begins (rest : String) : ∃ rest', start ++ rest = name ++ (": " ++ rest') :=
    ⟨type ++ rest, by simp [start, String.append_assoc]⟩
  suffices ∃ rest, line = start ++ rest by
    obtain ⟨rest, rfl⟩ := this
    obtain ⟨rest', eq⟩ := begins rest
    exact ⟨name, rest', named.of_ofExcept, eq⟩
  split at h
  · split at h
    · exact ⟨_, h.of_pure.symm⟩
    · exact ⟨"", by rw [String.append_empty, h.of_pure]⟩
  · extract_lets finish at h
    have finished (checked : PUnit) (h : (finish checked).Gives line) :
        ∃ rest, line = start ++ rest := by
      obtain ⟨value, -, h⟩ := h.of_bind
      exact ⟨" = " ++ value, by rw [← h.of_pure, String.append_assoc]⟩
    split at h
    · split at h
      · obtain ⟨checked, -, h⟩ := h.of_bind
        exact finished checked h
      · exact finished () h
    · exact finished () h

theorem not_prefix_of_fieldLine {context : Context} {id : ClassId} {property : Property}
    {line : String} (h : (fieldLine context id property).Gives line) :
    ¬"class ".toList <+: line.toList := by
  obtain ⟨name, rest, named, rfl⟩ := exists_fieldLine h
  exact not_prefix_of_fieldName named rest

/-- The method that makes the checks declares no classes. -/
theorem declareNone_of_checkSections {context : Context} {inherited own : List Property}
    {parts : List Section} (h : (checkSections context inherited own).Gives parts) :
    DeclareNone parts := by
  intro part memPart line memLine
  unfold checkSections at h
  obtain ⟨guards, -, h⟩ := h.of_bind
  extract_lets lines at h
  split at h
  · rw [← h.of_pure] at memPart
    cases memPart
  · obtain ⟨guarded, -, h⟩ := h.of_bind
    rw [← h.of_pure] at memPart
    rw [List.mem_singleton.1 memPart] at memLine
    exact not_declaresClass_of_mem_method (by decide) memLine

/-- The hash declares no classes. -/
theorem declareNone_of_hashSections {properties : List Property} {parts : List Section}
    (h : (hashSections properties).Gives parts) : DeclareNone parts := by
  intro part memPart line memLine
  unfold hashSections at h
  obtain ⟨freezing, -, h⟩ := h.of_bind
  split at h
  · rw [← h.of_pure] at memPart
    cases memPart
  · obtain ⟨_, -, h⟩ := h.of_bind
    obtain ⟨terms, -, h⟩ := h.of_bind
    rw [← h.of_pure] at memPart
    rw [List.mem_singleton.1 memPart] at memLine
    refine not_declaresClass_of_mem_indent (fun line mem => ?_) memLine
    rcases List.mem_cons.1 mem with rfl | mem
    · decide
    · rw [List.mem_singleton.1 mem]
      simp [indented, Text.indentation]

/-! ## Texts -/

def enumLine (definition : EnumDef) : String :=
  indented 1 ("class " ++ definition.name ++ "(str, Enum):")

def superclassPart (graph : ClassGraph) : Option ClassId → String
  | some base => "(" ++ graph.qualifiedName base ++ ")"
  | none => ""

def classLine (context : Context) (id : ClassId) : String :=
  "class " ++ (context.graph.get id).name ++
    superclassPart context.graph (context.superclass? id) ++ ":"

def AreEnums (parts : List Section) (definitions : List EnumDef) : Prop :=
  List.Forall₂ (fun part definition => ∃ members : List String,
    part = enumLine definition :: members ∧ ∀ line ∈ members, ¬DeclaresClass line) parts definitions

/-- A declaration of a class declares its enums and what the sections `inner` do, and no other
classes. -/
structure Declares (context : Context) (id : ClassId) (inner : List Section)
    (declaration : Declaration) : Prop where
  head : declaration.head.getLast? = some (classLine context id)
  sections : ∃ enums others, declaration.sections = enums ++ inner ++ others ∧
    AreEnums enums (context.graph.get id).enums ∧ DeclareNone others

mutual

/-- The text of a class with the classes of a tree declared in it, and no others. -/
inductive Writes (context : Context) : ClassTree → String → Prop
  | node {id : ClassId} {nested : List ClassTree} {inner : List Section}
      {declaration : Declaration} (declares : Declares context id inner declaration)
      (writes : WritesAll context nested inner) :
      Writes context (.node id nested) (text declaration)

inductive WritesAll (context : Context) : List ClassTree → List Section → Prop
  | nil : WritesAll context [] []
  | cons {tree : ClassTree} {text : String} {rest : List ClassTree} {parts : List Section}
      (first : Writes context tree text) (others : WritesAll context rest parts) :
      WritesAll context (tree :: rest) (Text.indent (Text.lines text) :: parts)

end

/-- Each section of an enum declares that enum. -/
theorem areEnums_of_gives {definitions : List EnumDef} {parts : List Section}
    (h : (definitions.mapM enumSection).Gives parts) : AreEnums parts definitions := by
  refine h.of_mapM.flip.imp fun part definition (h : (enumSection definition).Gives part) => ?_
  unfold enumSection at h
  obtain ⟨_, -, h⟩ := h.of_bind
  obtain ⟨members, -, h⟩ := h.of_bind
  extract_lets finish at h
  have finished (checked : PUnit) (h : (finish checked).Gives part) :
      ∃ members : List String, part = enumLine definition :: members ∧
        ∀ line ∈ members, ¬DeclaresClass line := by
    have nonempty : ("class " ++ definition.name ++ "(str, Enum):").isEmpty = false := by simp
    rw [← h.of_pure, Text.indent, List.map_cons, if_neg (by rw [nonempty]; decide)]
    refine ⟨_, rfl, fun line mem => ?_⟩
    refine not_declaresClass_of_mem_indent (fun line mem => ?_) mem
    obtain ⟨member, -, rfl⟩ := List.mem_map.1 mem
    simp [indented, Text.indentation]
  split at h
  · obtain ⟨checked, -, h⟩ := h.of_bind
    exact finished checked h
  · exact finished () h

/-- The body of a class, which is not empty. -/
theorem exists_body {enums inner own : List Section} {fields : List String} {checks hash : List Section}
    (fieldLines : ∀ line ∈ fields, ¬"class ".toList <+: line.toList) (checkLines : DeclareNone checks)
    (hashLines : DeclareNone hash)
    (eq : own = enums ++ inner ++ (if fields.isEmpty then [] else [Text.indent fields]) ++ checks ++
      hash) :
    ∃ others, (if own.isEmpty then [Text.indent ["pass"]] else own) = enums ++ inner ++ others ∧
      DeclareNone others := by
  split
  · rename_i empty
    obtain ⟨⟨⟨⟨rfl, rfl⟩, -⟩, -⟩, -⟩ : (((enums = [] ∧ inner = []) ∧ _) ∧ _) ∧ _ := by
      simpa only [eq, List.isEmpty_iff, List.append_eq_nil_iff] using empty
    refine ⟨_, rfl, fun part mem line memLine => ?_⟩
    rw [List.mem_singleton.1 mem] at memLine
    exact not_declaresClass_of_mem_indent (by decide) memLine
  · refine ⟨(if fields.isEmpty then [] else [Text.indent fields]) ++ checks ++ hash, ?_, ?_⟩
    · simp only [eq, List.append_assoc]
    · intro part mem line memLine
      rcases List.mem_append.1 mem with mem | mem
      · rcases List.mem_append.1 mem with mem | mem
        · split at mem
          · cases mem
          · rw [List.mem_singleton.1 mem] at memLine
            exact not_declaresClass_of_mem_indent fieldLines memLine
        · exact checkLines part mem line memLine
      · exact hashLines part mem line memLine

theorem gives_baseName {context : Context} {base : ClassId} {name : String}
    (h : (baseName context base).Gives name) : context.graph.qualifiedName base = name := by
  unfold baseName at h
  extract_lets top finish at h
  split at h
  · obtain ⟨_, -, h⟩ := h.of_bind
    exact h.of_pure
  · exact h.of_pure

/-- The superclass stands in the head of a Python class. -/
theorem Parts.Declare.bases_eq {parts : Parts} {context : Context} {id : ClassId}
    {nested : Emit (List Section)} {declaration : Declaration}
    (h : parts.Declare context id nested declaration) :
    parts.bases = superclassPart context.graph (context.superclass? id) := by
  have bases := h.bases
  cases superclass : context.superclass? id with
  | none =>
    rw [superclass] at bases
    exact bases
  | some base =>
    rw [superclass] at bases
    obtain ⟨name, given, eq⟩ := bases
    rw [eq, superclassPart, gives_baseName given]

/-- A class is declared with its enums and what is nested in it. -/
theorem declares_of_gives {context : Context} {id : ClassId} {nested : Emit (List Section)}
    {declaration : Declaration} (h : (Python.declaration context id nested).Gives declaration) :
    ∃ inner, nested.Gives inner ∧ Declares context id inner declaration := by
  obtain ⟨parts, declares⟩ := exists_parts h
  have fields := declares.fields.forall_of_mapM fun _ _ gives => not_prefix_of_fieldLine gives
  have hash : DeclareNone parts.hash := by
    have written := declares.hash
    split at written
    · exact written.of_pure ▸ fun _ mem => absurd mem List.not_mem_nil
    · exact declareNone_of_hashSections written
  obtain ⟨others, body, noClasses⟩ := exists_body fields
    (declareNone_of_checkSections declares.checks) hash (rfl : parts.sections = _)
  refine ⟨parts.inner, declares.inner, ?_, parts.enums, others, ?_, areEnums_of_gives declares.enums,
    noClasses⟩
  · rw [declares.head, List.getLast?_concat, declares.bases_eq, classLine]
  · rw [declares.sections, body]

mutual

/-- The text of a class declares the classes of its outline. -/
theorem writes_of_gives {context : Context} (python : context.language = .python) :
    {tree : ClassTree} → {text : String} → (context.classText tree).Gives text →
      Writes context (context.outline tree) text
  | .node id nested, text, h => by
    rw [Context.classText] at h
    unfold Context.declarationText at h
    split at h
    · rename_i other
      exact absurd (other.symm.trans python) (by decide)
    · rename_i other
      exact absurd (other.symm.trans python) (by decide)
    · obtain ⟨declaration, gives, rfl⟩ := h.of_map
      obtain ⟨inner, sections, declares⟩ := declares_of_gives gives
      rw [Context.outline]
      exact .node ⟨declares.head, declares.sections⟩ (writesAll_of_gives python sections)

/-- The sections of nested classes declare the classes of their outlines. -/
theorem writesAll_of_gives {context : Context} (python : context.language = .python) :
    {trees : List ClassTree} → {parts : List Section} →
      (context.nestedSections trees).Gives parts → WritesAll context (context.outlines trees) parts
  | [], parts, h => by
    rw [Context.nestedSections] at h
    rw [Context.outlines]
    exact h.of_pure ▸ .nil
  | tree :: rest, parts, h => by
    rw [Context.nestedSections] at h
    rw [Context.outlines]
    split at h
    · rename_i apart
      rw [if_pos apart]
      exact writesAll_of_gives python h
    · rename_i inside
      rw [if_neg inside]
      obtain ⟨text, first, h⟩ := h.of_bind
      obtain ⟨others, rest, h⟩ := h.of_bind
      exact h.of_pure ▸ .cons (writes_of_gives python first) (writesAll_of_gives python rest)

end

/-! ## Modules -/

/-- The statement that attaches a hoisted class to the class around it. -/
def attachment (graph : ClassGraph) (id : ClassId) : String :=
  graph.qualifiedName id ++ " = " ++ (graph.get id).name ++ "\n"

/-- The text of a module after its imports: the top-level class, and then each hoisted class with the
statement that attaches it to the class around it. -/
inductive IsModuleText (context : Context) (top : ClassId) (order : List ClassId) : String → Prop
  | intro {helper : List String} {first : String} {texts : List String}
      (isHelper : helper = [] ∨ helper = [freezingHelper])
      (topLevel : Writes context (context.outline (context.graph.tree top)) first)
      (hoisted : List.Forall₂ (fun id text =>
        Writes context (context.outline (context.graph.tree id)) text) order texts) :
      IsModuleText context top order ("\n\n".intercalate (helper ++ first ::
        (List.zipWith (fun id text => [text, attachment context.graph id]) order texts).flatten))

def declared (context : Context) (top : ClassId) (order : List ClassId) : List ClassId :=
  (top :: order).flatMap fun id => (context.outline (context.graph.tree id)).classes

/-- A module declares each class of its top-level class once. -/
theorem declared_perm {s : BuildState} {context : Context} {top : ClassId} {order : List ClassId}
    (nesting : s.Nesting) (graph : context.graph = s.graph) (python : context.language = .python)
    (mem : top ∈ s.topLevel) (isOrder : IsHoistingOrder context top order) :
    (declared context top order).Perm (s.graph.tree top).classes := by
  have apart : context.standsApart = isHoisted context := by
    funext id
    simp [Context.standsApart, python]
  have roots : order.Perm ((context.apartIn (s.graph.tree top)).map ClassTree.id) := by
    rw [context.map_id_apartIn, apart]
    have nodup := ((nesting.nodup_classes_tree top).sublist (List.tail_sublist _)).filter
      (isHoisted context)
    refine (List.perm_ext_iff_of_nodup isOrder.nodup nodup).2 fun id => ?_
    rw [isOrder.mem_iff, hoistedIn_iff nesting graph mem, List.mem_filter]
  have trees : ((context.apartIn (s.graph.tree top)).map ClassTree.id).flatMap
      (fun id => (context.outline (s.graph.tree id)).classes) =
      context.outlined (context.apartIn (s.graph.tree top)) := by
    rw [List.flatMap_map]
    unfold Context.outlined
    refine List.flatMap_congr fun tree mem => ?_
    rw [← context.eq_tree_of_mem_apartIn nesting top tree mem]
  unfold declared
  rw [graph, List.flatMap_cons]
  refine ((roots.flatMap_right _).append_left _).trans ?_
  rw [trees]
  exact (context.classes_perm _).symm

/-- Each block of a hoisted class is its text with the statement that attaches it. -/
theorem blocks_of_gives {context : Context} (python : context.language = .python)
    {order : List ClassId} {blocks : List (List String)}
    (h : (order.mapM fun id => do
      let text ← context.classText (context.graph.tree id)
      return [text, attachment context.graph id]).Gives blocks) : ∃ texts,
    blocks = List.zipWith (fun id text => [text, attachment context.graph id]) order texts ∧
    List.Forall₂ (fun id text => Writes context (context.outline (context.graph.tree id)) text)
      order texts := by
  have each := h.of_mapM
  clear h
  induction each with
  | nil => exact ⟨[], rfl, .nil⟩
  | cons block _ ih =>
    obtain ⟨texts, rfl, writes⟩ := ih
    obtain ⟨text, gives, block⟩ := block.of_bind
    exact ⟨text :: texts, by rw [← block.of_pure]; rfl, .cons (writes_of_gives python gives) writes⟩

/-- The text of a module is that of its class and of the hoisted ones in their order. -/
theorem isModuleText_of_gives {context : Context} (python : context.language = .python)
    {top : ClassId} {order : List ClassId} (found : hoistingOrder context top = .ok order)
    {body : String} (h : (context.fileBody top).Gives body) : IsModuleText context top order body := by
  unfold Context.fileBody at h
  rw [python] at h
  obtain ⟨blocks, h, last⟩ := h.of_bind
  rw [← last.of_pure]
  unfold moduleBlocks at h
  extract_lets graph at h
  obtain ⟨first, text, h⟩ := h.of_bind
  obtain ⟨order', found', h⟩ := h.of_bind
  obtain rfl := Except.ok.inj (found.symm.trans found'.of_ofExcept)
  obtain ⟨others, hoisted, h⟩ := h.of_bind
  obtain ⟨needs, -, h⟩ := h.of_bind
  obtain ⟨_, -, h⟩ := h.of_bind
  obtain ⟨texts, rfl, writes⟩ := blocks_of_gives python hoisted
  rw [← h.of_pure]
  refine .intro ?_ (writes_of_gives python text) writes
  split
  · exact .inr rfl
  · exact .inl rfl

end Python

section

variable {document package : Value} {registered : List Definition}
  {returned : List (Definition × ClassId)} {succeeded : Bool} {s : BuildState} {context : Context}
  {top : ClassId}

/-- In Python, the hoisted classes in a top-level class of a run can be declared each after those
that it needs, and the module of that class declares each class in it once: in the class around it,
or, if it is hoisted, at the level of the module. -/
theorem Run.declaresOnce (distinct : document.distinctKeys)
    (run : Run ⟨.ofValue document, package⟩ registered returned succeeded s)
    (graph : context.graph = s.graph) (python : context.language = .python)
    (mem : top ∈ s.topLevel) :
    ∃ order, Python.hoistingOrder context top = .ok order ∧
      Python.IsHoistingOrder context top order ∧
      (Python.declared context top order).Nodup ∧
      (∀ id, id ∈ Python.declared context top order ↔
        id < s.graph.size ∧ s.graph.topLevel id = top) ∧
      ∀ body, (context.fileBody top).Gives body → Python.IsModuleText context top order body := by
  have invariant := run.invariant distinct rfl
  have nesting := invariant.sound.nesting
  obtain ⟨order, found, isOrder⟩ :=
    Python.hoistingOrder_eq_ok invariant.sound invariant.ordered graph python mem
  have once := Python.declared_perm nesting graph python mem isOrder
  refine ⟨order, found, isOrder, once.nodup_iff.2 (nesting.nodup_classes_tree top), fun id => ?_,
    fun body gives => Python.isModuleText_of_gives python found gives⟩
  rw [once.mem_iff, nesting.mem_topLevel_tree_iff mem]

/-- A document with two classes nested in a third one that extend each other against the order of
their declaration. -/
def discs : Value := .object [
  ("title", .string "Shape"),
  ("oneOf", .array [.object [("title", .string "Disc"), ("properties", .object [
    ("late", .object [("title", .string "Late"), ("allOf", .array [
      .object [("$ref", .string "#/oneOf/0/properties/early")]])]),
    ("early", .object [("title", .string "Early"), ("allOf", .array [
      .object [("$ref", .string "#/oneOf/0/properties/first")]])]),
    ("first", .object [("title", .string "First"), ("properties", .object [
      ("x", .object [("type", .string "string")])])])])]])]

theorem Run.declaresOnce_discs : ∃ id s,
    buildRoot ⟨.ofValue discs, .string ""⟩ (.ofValue discs) none {} = .ok id s ∧
    ∃ context : Context, context.graph = s.graph ∧ context.language = .python ∧ 0 ∈ s.topLevel ∧
      Python.hoistingOrder context 0 = .ok [1, 3, 2] ∧
      Python.IsHoistingOrder context 0 [1, 3, 2] ∧
      (Python.declared context 0 [1, 3, 2]).Nodup ∧
      (∀ id, id ∈ Python.declared context 0 [1, 3, 2] ↔
        id < s.graph.size ∧ s.graph.topLevel id = 0) ∧
      ∃ body, (context.fileBody 0).Gives body ∧ Python.IsModuleText context 0 [1, 3, 2] body := by
  let context (graph : ClassGraph) : Context :=
    { graph, settings := {}, language := .python, file := some 0 }
  have built : ((buildRoot ⟨.ofValue discs, .string ""⟩ (.ofValue discs) none >>=
      fun _ => get).run' {}).any fun s => s.topLevel.contains 0 &&
        (Python.hoistingOrder (context s.graph) 0).toOption == some [1, 3, 2] &&
        (((context s.graph).fileBody 0).run' {}).isSome := by
    decide +kernel
  obtain ⟨id, s, run, test⟩ := Build.exists_of_any built
  simp only [Bool.and_eq_true, beq_iff_eq] at test
  obtain ⟨⟨mem, found⟩, written⟩ := test
  have mem := List.contains_iff_mem.1 mem
  obtain ⟨body, gives⟩ := Emit.exists_gives_of_isSome written
  obtain ⟨order, found', isOrder, nodup, all, isText⟩ := Run.declaresOnce
    (by decide : discs.distinctKeys) (.root run) (rfl : (context s.graph).graph = s.graph)
    (rfl : (context s.graph).language = .python) mem
  rw [found'] at found
  obtain rfl := Option.some.inj found
  exact ⟨id, s, run, context s.graph, rfl, rfl, mem, found', isOrder, nodup, all, body, gives,
    isText body gives⟩

end

end SchemaClasses
