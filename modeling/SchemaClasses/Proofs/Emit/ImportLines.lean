import SchemaClasses.Proofs.Build.Typing
import SchemaClasses.Proofs.Emit.Requirements
import SchemaClasses.Proofs.Emit.ValueEquality
import SchemaClasses.Proofs.Generation

/-!
# The imports of a file

A file imports what the classes in it need, each thing once. A Python module names the classes of
other modules that only annotations need in a block of its own, unless it imports them under the
same name as bases, and it begins with the helper that makes lists and maps comparable if a class
uses it.

## Main definitions

* `ImportList`: the imports of a file, with the lines that they are written as.
* `ImportList.Match`: the imports are those that are needed.
* `ClassGraph.FileNeeds`: what the classes of a file need.

## Main statements

* `importLines_match`: the lines that are written import what has been gathered.
* `Run.imports_match`: a file imports what the classes in it need.
-/

namespace SchemaClasses

/-! ## Lists of imports -/

/-- The imports of a file, in the order of their lines. -/
structure ImportList where
  /-- The language's own names and modules. -/
  libraries : List String := []
  /-- The modules from which names are imported, each with these names. -/
  symbols : List (String × List String) := []
  /-- The classes of other files that are bases. -/
  bases : List String := []
  /-- The classes of other files that only annotations need, each with its name in the file. -/
  annotations : List (String × String) := []

namespace ImportList

/-- The lines of imports. In Kotlin and Java each is one name, which stands in a statement of the
head of the file. A Python module begins with the statement that lets annotations name what is
declared after them. -/
def lines (imports : ImportList) : TargetLanguage → List String
  | .python =>
    let sections : List Section := [["from __future__ import annotations"],
      imports.libraries.map ("import " ++ ·) ++ imports.symbols.map fun (library, names) =>
        "from " ++ library ++ " import " ++ ", ".intercalate names,
      imports.bases.map fun name => "from ." ++ name ++ " import " ++ name,
      annotationImports imports.annotations]
    separated (sections.filter (!·.isEmpty))
  | _ => imports.libraries

/-- The imports are what is needed, each once. A class that annotations need is left out if it is
imported under the same name as a base, and the block of the others needs a name of its own. -/
structure Match (imports : ImportList) (needed : Need → Prop) : Prop where
  nodup_libraries : imports.libraries.Nodup
  mem_libraries_iff : ∀ name, name ∈ imports.libraries ↔ needed (.library name)
  nodup_symbols : (imports.symbols.map (·.1)).Nodup ∧
    ∀ entry ∈ imports.symbols, entry.2 ≠ [] ∧ entry.2.Nodup
  mem_symbols_iff : ∀ library name, (∃ names, (library, names) ∈ imports.symbols ∧ name ∈ names) ↔
    needed (.symbol library name) ∨
      (imports.annotations ≠ [] ∧ library = "typing" ∧ name = "TYPE_CHECKING")
  nodup_bases : imports.bases.Nodup
  mem_bases_iff : ∀ className, className ∈ imports.bases ↔ needed (.base className)
  nodup_annotations : imports.annotations.Nodup
  mem_annotations_iff : ∀ className localName, (className, localName) ∈ imports.annotations ↔
    needed (.reference className localName) ∧
      ¬(localName = className ∧ needed (.base className))

end ImportList

/-! ## Lines -/

namespace Requirements

variable {needs : Requirements} {needed : Need → Prop}

def importList (needs : Requirements) : ImportList where
  libraries := sortTexts needs.imports
  symbols := (sortTexts (needs.symbols.map (·.1)).eraseDups).map fun library =>
    (library, sortTexts ((needs.symbols.filter (·.1 = library)).map (·.2)))
  bases := sortTexts needs.bases
  annotations := importedAnnotations needs

theorem sortTexts_perm (texts : List String) : (sortTexts texts).Perm texts :=
  List.mergeSort_perm texts _

theorem importedAnnotations_perm (needs : Requirements) : (importedAnnotations needs).Perm
    (needs.annotations.filter fun (name, localName) =>
      localName ≠ name || !needs.bases.contains name) :=
  List.mergeSort_perm _ _

theorem moduleImports_eq (needs : Requirements) :
    moduleImports needs = needs.importList.lines .python := by
  unfold moduleImports ImportList.lines importList symbolImports
  rw [List.map_map]
  rfl

theorem mem_importList_symbols_iff {library : String} {names : List String} :
    (library, names) ∈ needs.importList.symbols ↔ library ∈ needs.symbols.map (·.1) ∧
      names = sortTexts ((needs.symbols.filter (·.1 = library)).map (·.2)) := by
  simp only [importList, List.mem_map, Prod.mk.injEq, (sortTexts_perm _).mem_iff,
    List.mem_eraseDups]
  grind

theorem mem_symbolNames_iff {library name : String} :
    name ∈ sortTexts ((needs.symbols.filter (·.1 = library)).map (·.2)) ↔
      (library, name) ∈ needs.symbols := by
  rw [(sortTexts_perm _).mem_iff]
  simp

/-- The imports of what has been gathered are what is needed, if the gathered things are, but for
the name that the block of annotations needs. -/
theorem match_importList (distinct : needs.Distinct)
    (has : ∀ need, needs.Has need ↔ needed need ∨
      (importedAnnotations needs ≠ [] ∧ need = .symbol "typing" "TYPE_CHECKING")) :
    needs.importList.Match needed where
  nodup_libraries := (sortTexts_perm _).nodup_iff.2 distinct.imports
  mem_libraries_iff name := by
    refine (sortTexts_perm _).mem_iff.trans ((has (.library name)).trans ?_)
    simp
  nodup_symbols := by
    refine ⟨?_, fun entry mem => ?_⟩
    · have names : needs.importList.symbols.map (·.1) =
          sortTexts (needs.symbols.map (·.1)).eraseDups := by
        simp [importList, Function.comp_def]
      rw [names]
      exact (sortTexts_perm _).nodup_iff.2 (nodup_eraseDups _)
    · obtain ⟨library, names⟩ := entry
      obtain ⟨known, rfl⟩ := mem_importList_symbols_iff.1 mem
      obtain ⟨symbol, isSymbol, rfl⟩ := List.mem_map.1 known
      refine ⟨List.ne_nil_of_mem (mem_symbolNames_iff.2 isSymbol), ?_⟩
      refine (sortTexts_perm _).nodup_iff.2 ((distinct.symbols.filter _).map_on ?_)
      grind
  mem_symbols_iff library name := by
    have gathered : (∃ names, (library, names) ∈ needs.importList.symbols ∧ name ∈ names) ↔
        (library, name) ∈ needs.symbols := by
      simp only [mem_importList_symbols_iff]
      constructor
      · rintro ⟨names, ⟨-, rfl⟩, mem⟩
        exact mem_symbolNames_iff.1 mem
      · intro mem
        exact ⟨_, ⟨List.mem_map_of_mem mem, rfl⟩, mem_symbolNames_iff.2 mem⟩
    refine gathered.trans ((has (.symbol library name)).trans ?_)
    rw [Need.symbol.injEq]
    rfl
  nodup_bases := (sortTexts_perm _).nodup_iff.2 distinct.bases
  mem_bases_iff className := by
    refine (sortTexts_perm _).mem_iff.trans ((has (.base className)).trans ?_)
    simp
  nodup_annotations :=
    (importedAnnotations_perm needs).nodup_iff.2 (distinct.annotations.filter _)
  mem_annotations_iff className localName := by
    have annotated := has (.reference className localName)
    have extended := has (.base className)
    simp only [Has, reduceCtorEq, and_false, or_false] at annotated extended
    rw [← annotated, ← extended]
    refine (importedAnnotations_perm needs).mem_iff.trans ?_
    grind

end Requirements

open Requirements

/-- What a Python module imports: what has been gathered, and a name for the block of annotations if
there is one. -/
def Python.imported (needs : Requirements) : Requirements :=
  if importedAnnotations needs = [] then needs else needs.add (.symbol "typing" "TYPE_CHECKING")

theorem importedAnnotations_imported (needs : Requirements) :
    importedAnnotations (Python.imported needs) = importedAnnotations needs := by
  unfold Python.imported
  split <;> rfl

theorem importLines_python (needs : Requirements) : importLines .python needs =
    .ok (moduleImports (Python.imported needs)) (Python.imported needs) := by
  have start (next : Requirements → Emit (List String)) : (get >>= next) needs = next needs needs :=
    rfl
  unfold Python.imported importLines
  rw [if_pos rfl, start]
  by_cases none : importedAnnotations needs = []
  · rw [if_neg (by simp [none]), if_pos none]
    rfl
  · rw [if_pos (by simp [none]), if_neg none]
    rfl

/-- The lines that are written import what has been gathered. -/
theorem importLines_match {needs needs' : Requirements} {language : TargetLanguage}
    {lines : List String} {needed : Need → Prop} (distinct : needs.Distinct)
    (has : ∀ need, needs.Has need ↔ needed need)
    (own : language ≠ .python → ∀ className localName, ¬needed (.reference className localName))
    (run : importLines language needs = .ok lines needs') :
    ∃ imports : ImportList, lines = imports.lines language ∧ imports.Match needed := by
  by_cases python : language = .python
  · subst python
    rw [importLines_python] at run
    cases run
    refine ⟨_, moduleImports_eq _, match_importList ?_ fun need => ?_⟩
    · unfold Python.imported
      split
      · exact distinct
      · exact distinct.add _
    · rw [importedAnnotations_imported, ← has]
      unfold Python.imported
      split
      · simp [*]
      · simp [Requirements.has_add_iff, *]
  · have annotations : importedAnnotations needs = [] := by
      have none : needs.annotations = [] := List.eq_nil_iff_forall_not_mem.2
        fun (className, localName) mem => own python className localName ((has _).1 mem)
      simp [importedAnnotations, sortPairs, none]
    refine ⟨needs.importList, ?_, match_importList distinct fun need => ?_⟩
    · cases language with
      | python => exact absurd rfl python
      | _ =>
        cases run
        rfl
    · rw [has, annotations]
      simp

/-! ## What may be needed -/

namespace TargetLanguage

def libraries : TargetLanguage → List String
  | .kotlin => ["java.time.LocalDate", "java.time.OffsetDateTime", "java.time.LocalTime",
      "java.util.UUID", "java.net.URI"]
  | .java => ["java.time.LocalDate", "java.time.OffsetDateTime", "java.time.LocalTime",
      "java.util.UUID", "java.net.URI", "java.util.List", "java.util.Map",
      "java.util.regex.Pattern", "java.util.HashSet"]
  | .python => ["datetime", "uuid", "re"]

/-- The names of a language that are imported from modules, each after its module. -/
def symbols : TargetLanguage → List (String × String)
  | .python => [("typing", "Any"), ("enum", "Enum"), ("dataclasses", "dataclass")]
  | _ => []

end TargetLanguage

/-- What a class may need. Only in Python does it need classes of other files: its superclass, and
others under their names or with an underscore before these. -/
inductive Context.MayNeed (context : Context) (id : ClassId) : Need → Prop
  | library {name : String} (mem : name ∈ context.language.libraries) :
      MayNeed context id (.library name)
  | symbol {library name : String} (mem : (library, name) ∈ context.language.symbols) :
      MayNeed context id (.symbol library name)
  | reference {other : ClassId} {localName : String} (python : context.language = .python)
      (elsewhere : context.file ≠ some (context.graph.topLevel other))
      (named : localName = (context.graph.get (context.graph.topLevel other)).name ∨
        localName = "_" ++ (context.graph.get (context.graph.topLevel other)).name) :
      MayNeed context id
        (.reference (context.graph.get (context.graph.topLevel other)).name localName)
  | base {base : ClassId} (python : context.language = .python)
      (found : context.superclass? id = some base)
      (elsewhere : context.file ≠ some (context.graph.topLevel base)) :
      MayNeed context id (.base (context.graph.get (context.graph.topLevel base)).name)
  | freezing (python : context.language = .python) : MayNeed context id .freezing

section

variable {context : Context} {need : Need} {type : TypeRef} {property : Property}
  {id other : ClassId}

/-- The needs of primitive types. -/
theorem mayNeed_of_mem_primitiveNeeds {kind : PrimitiveKind}
    (mem : need ∈ primitiveNeeds context.language kind) : context.MayNeed id need := by
  have each (language : TargetLanguage) : (∀ path ∈ language.primitiveImport? kind,
      path ∈ language.libraries) := by
    cases language <;> cases kind <;> decide
  rcases List.mem_append.1 mem with mem | mem
  · obtain ⟨path, isImport, rfl⟩ := List.mem_map.1 mem
    exact .library (each _ path (Option.mem_toList.1 isImport))
  · split at mem
    · rename_i any
      obtain rfl := List.mem_singleton.1 mem
      exact .symbol (by rw [any.1]; decide)
    · cases mem

/-- The name of a class in another file is needed as it is, or with an underscore before it. -/
theorem mayNeed_of_mem_nameNeeds
    (mem : need ∈ context.nameNeeds (context.graph.topLevel other)) :
    context.MayNeed id need := by
  unfold Context.nameNeeds at mem
  split at mem
  · rename_i imported
    obtain rfl := List.mem_singleton.1 mem
    refine .reference imported.1 imported.2 ?_
    split
    · exact .inr rfl
    · exact .inl rfl
  · cases mem

/-- The needs of the parts of a type. -/
theorem mayNeed_of_mem_partNeeds (mem : need ∈ context.partNeeds type) :
    context.MayNeed id need := by
  have collection {name : String} (isJava : "java.util." ++ name ∈ TargetLanguage.java.libraries)
      (mem : need ∈ if context.language = .java then [.library ("java.util." ++ name)] else []) :
      context.MayNeed id need := by
    split at mem
    · rename_i java
      obtain rfl := List.mem_singleton.1 mem
      exact .library (java ▸ isJava)
    · cases mem
  cases type with
  | primitive => exact mayNeed_of_mem_primitiveNeeds mem
  | ofClass id => exact mayNeed_of_mem_nameNeeds mem
  | enum definition => exact mayNeed_of_mem_nameNeeds mem
  | sequence item constraints => exact @collection "List" (by decide) mem
  | map value => exact @collection "Map" (by decide) mem
  | undetermined => cases mem
  | absent => cases mem

/-- The needs of the guards on a property. -/
theorem mayNeed_of_mem_guardNeeds (mem : need ∈ context.guardNeeds property) :
    context.MayNeed id need := by
  have each (language : TargetLanguage) : ∀ entry ∈ guardImports language,
      ∀ name ∈ entry.2, name ∈ language.libraries := by
    cases language <;> decide
  obtain ⟨guard, -, mem⟩ := List.mem_flatMap.1 mem
  rcases List.mem_append.1 mem with mem | mem
  · obtain ⟨name, isImport, rfl⟩ := List.mem_map.1 mem
    cases found : (guardImports context.language).lookup guard.kind.keyword with
    | none => simp [found] at isImport
    | some names =>
      rw [found] at isImport
      exact .library (each _ _ (mem_of_lookup found) name isImport)
  · split at mem
    · rename_i frozen
      obtain rfl := List.mem_singleton.1 mem
      exact .freezing frozen.1
    · cases mem

/-- The needs of the declaration of a Python class. -/
theorem mayNeed_of_mem_declarationNeeds (python : context.language = .python)
    (mem : need ∈ Python.declarationNeeds context id) : context.MayNeed id need := by
  unfold Python.declarationNeeds Python.hashNeeds at mem
  simp only [List.mem_append, List.mem_map, List.mem_flatMap, Option.mem_toList] at mem
  rcases mem with (⟨_, -, rfl⟩ | ⟨base, found, mem⟩) | mem
  · exact .symbol (by rw [python]; decide)
  · unfold Python.baseNeeds at mem
    extract_lets top at mem
    split at mem
    · cases mem
    · rename_i elsewhere
      obtain rfl := List.mem_singleton.1 mem
      exact .base python found elsewhere
  · split at mem
    · cases mem
    · rcases List.mem_cons.1 mem with rfl | mem
      · exact .symbol (by rw [python]; decide)
      · split at mem
        · obtain rfl := List.mem_singleton.1 mem
          exact .freezing python
        · cases mem

/-- Whatever a class needs is one of the needs that it may have. -/
theorem mayNeed_of_mem_classNeeds (mem : need ∈ context.classNeeds id) :
    context.MayNeed id need := by
  rcases List.mem_append.1 mem with mem | mem
  · rcases List.mem_append.1 mem with mem | mem
    · obtain ⟨property, -, mem⟩ := List.mem_flatMap.1 mem
      obtain ⟨part, -, mem⟩ := List.mem_flatMap.1 mem
      exact mayNeed_of_mem_partNeeds mem
    · obtain ⟨property, -, mem⟩ := List.mem_flatMap.1 mem
      exact mayNeed_of_mem_guardNeeds mem
  · split at mem
    · exact mayNeed_of_mem_declarationNeeds ‹_› mem
    · cases mem

end

/-! ## Files -/

namespace ClassGraph

def fileContext (graph : ClassGraph) (settings : Settings) (language : TargetLanguage)
    (top : ClassId) : Context :=
  { graph, settings, language, file := some top }

def FileNeeds (graph : ClassGraph) (settings : Settings) (language : TargetLanguage)
    (top : ClassId) (need : Need) : Prop :=
  ∃ id, id < graph.size ∧ graph.topLevel id = top ∧
    need ∈ (graph.fileContext settings language top).writtenNeeds id

section

variable {graph : ClassGraph} {settings : Settings} {language : TargetLanguage} {top : ClassId}
  {need : Need} {text : String}

/-- What a file needs is needed by one of its classes. -/
theorem FileNeeds.exists_mayNeed (h : graph.FileNeeds settings language top need) :
    ∃ id, graph.topLevel id = top ∧
      (graph.fileContext settings language top).MayNeed id need := by
  obtain ⟨id, -, inFile, mem⟩ := h
  refine ⟨id, inFile, ?_⟩
  let context := graph.fileContext settings language top
  cases @mayNeed_of_mem_classNeeds (context.within id) _ _ mem with
  | library known => exact .library known
  | symbol known => exact .symbol known
  | reference python elsewhere named => exact .reference python elsewhere named
  | base python found elsewhere => exact .base python found elsewhere
  | freezing python => exact .freezing python

theorem FileNeeds.mayNeed (h : graph.FileNeeds settings language top need) :
    ∃ id, (graph.fileContext settings language top).MayNeed id need :=
  h.exists_mayNeed.imp fun _ => And.right

theorem mem_fileNeeds_iff {s : BuildState} (nesting : s.Nesting) (mem : top ∈ s.topLevel) :
    need ∈ (s.graph.fileContext settings language top).fileNeeds top ↔
      s.graph.FileNeeds settings language top need := by
  simp only [Context.fileNeeds, List.mem_flatMap, FileNeeds]
  refine exists_congr fun id => ?_
  rw [← and_assoc]
  exact and_congr_left fun _ => nesting.mem_topLevel_tree_iff mem

/-- A file is a head with lines for what its body needs, and the body. -/
theorem exists_body {before needs' : Requirements}
    (run : Context.writeFile { graph, settings, language } top before = .ok text needs') :
    ∃ body lines needs,
      (graph.fileContext settings language top).fileBody top {} = .ok body needs ∧
      importLines language needs = .ok lines needs' ∧
      text = fileHead (graph.fileContext settings language top) (graph.get top) lines ++ body := by
  obtain ⟨_, _, start, run⟩ := Emit.bind_eq_ok_iff.1 run
  cases start
  obtain ⟨body, needs, isBody, run⟩ := Emit.bind_eq_ok_iff.1 run
  obtain ⟨lines, _, areLines, run⟩ := Emit.bind_eq_ok_iff.1 run
  cases run
  exact ⟨body, lines, needs, isBody, areLines, rfl⟩

theorem exists_writeFile (written : fileText graph settings language top = .ok text) :
    ∃ needs, Context.writeFile { graph, settings, language } top {} = .ok text needs := by
  unfold fileText at written
  split at written
  · rename_i needs run
    obtain rfl := Except.ok.inj written
    exact ⟨needs, run⟩
  · cases written

end

end ClassGraph

namespace Python

open Emit

variable {context : Context} {top : ClassId} {tree : ClassTree} {text body : String}
  {needs : Requirements}

/-- A module is the helper, if it has been used, and after it the classes, and the names of the
hoisted classes are free. -/
theorem exists_blocks (python : context.language = .python)
    (run : context.fileBody top {} = .ok body needs) : ∃ order first others,
      hoistingOrder context top = .ok order ∧
      checkModuleNames context.graph (moduleNames needs (context.graph.get top).name) order =
        .ok () ∧
      (context.classText (context.graph.tree top)).Gives first ∧
      body = "\n\n".intercalate
        ((if needs.freezes then [freezingHelper] else []) ++ first :: others) := by
  unfold Context.fileBody at run
  rw [python] at run
  obtain ⟨blocks, after, run, last⟩ := bind_eq_ok_iff.1 run
  cases last
  obtain ⟨first, _, written, run⟩ := bind_eq_ok_iff.1 run
  obtain ⟨order, _, found, run⟩ := bind_eq_ok_iff.1 run
  obtain ⟨others, _, -, run⟩ := bind_eq_ok_iff.1 run
  obtain ⟨gathered, _, got, run⟩ := bind_eq_ok_iff.1 run
  cases got
  obtain ⟨_, _, checked, run⟩ := bind_eq_ok_iff.1 run
  obtain ⟨free, rfl⟩ := ofExcept_eq_ok_iff.1 checked
  cases run
  exact ⟨order, first, _, (ofExcept_eq_ok_iff.1 found).1, free, ⟨_, _, written⟩, rfl⟩

theorem head?_textOfLines {line : String} {rest : List String} {c : Char}
    (h : line.toList.head? = some c) : (textOfLines (line :: rest)).toList.head? = some c := by
  rw [textOfLines_cons, String.toList_append, List.head?_append, h]
  rfl

theorem head?_freezingHelper : freezingHelper.toList.head? = some 'd' :=
  head?_textOfLines rfl

/-- The declaration of a class does not begin like the helper. -/
theorem exists_head_of_classText (python : context.language = .python)
    (given : (context.classText tree).Gives text) : ∃ c, c ≠ 'd' ∧ text.toList.head? = some c := by
  obtain ⟨id, nested⟩ := tree
  rw [Context.classText] at given
  unfold Context.declarationText at given
  split at given
  case h_1 other => exact absurd (other.symm.trans python) (by decide)
  case h_2 other => exact absurd (other.symm.trans python) (by decide)
  obtain ⟨declaration, declared, rfl⟩ := given.of_map
  obtain ⟨parts, declares⟩ := exists_parts declared
  rw [Python.text, declares.head]
  split
  · refine ⟨'c', by decide, head?_textOfLines ?_⟩
    simp only [String.toList_append]
    rfl
  · exact ⟨'@', by decide, head?_textOfLines rfl⟩

/-- A module begins with the helper if and only if it has been used. -/
theorem isPrefix_helper_iff {freezes : Bool} {first : String} {others : List String} {c : Char}
    (apart : c ≠ 'd') (begins : first.toList.head? = some c)
    (isBody : body = "\n\n".intercalate
      ((if freezes then [freezingHelper] else []) ++ first :: others)) :
    freezingHelper.toList <+: body.toList ↔ freezes := by
  subst isBody
  have starts (block : String) (blocks : List String) :
      block.toList <+: ("\n\n".intercalate (block :: blocks)).toList := by
    cases blocks <;> simp [String.intercalate_cons_cons]
  have heads {a b : List Char} {c : Char} (isPrefix : a <+: b) (head : a.head? = some c) :
      b.head? = some c := by
    obtain ⟨rest, rfl⟩ := isPrefix
    rw [List.head?_append, head]
    rfl
  cases freezes with
  | true => exact iff_of_true (starts freezingHelper _) rfl
  | false =>
    refine iff_of_false (fun isPrefix => apart ?_) nofun
    have helper := heads isPrefix head?_freezingHelper
    have declaration := heads (starts first others) begins
    exact Option.some.inj (declaration.symm.trans helper)

end Python

section

variable {document package : Value} {registered : List Definition}
  {returned : List (Definition × ClassId)} {succeeded : Bool} {s : BuildState}
  {settings : Settings} {language : TargetLanguage} {top : ClassId} {text : String}

/-- The lines of the imports of a file are for what its body needs, each thing once. -/
theorem Run.exists_importList (distinct : document.distinctKeys)
    (run : Run ⟨.ofValue document, package⟩ registered returned succeeded s)
    (mem : top ∈ s.topLevel) (written : fileText s.graph settings language top = .ok text) :
    ∃ (imports : ImportList) (body : String) (needs : Requirements),
      text = fileHead (s.graph.fileContext settings language top) (s.graph.get top)
        (imports.lines language) ++ body ∧
      imports.Match (s.graph.FileNeeds settings language top) ∧
      (s.graph.fileContext settings language top).fileBody top {} = .ok body needs ∧
      ∀ need, needs.Has need ↔ s.graph.FileNeeds settings language top need := by
  have invariant := run.invariant distinct rfl
  obtain ⟨needs', writes⟩ := ClassGraph.exists_writeFile written
  obtain ⟨body, lines, needs, isBody, areLines, isText⟩ := ClassGraph.exists_body writes
  obtain ⟨has, once⟩ := has_iff_of_fileBody invariant.sound invariant.ordered rfl mem isBody
  have needed (need : Need) : needs.Has need ↔ s.graph.FileNeeds settings language top need :=
    (has need).trans (ClassGraph.mem_fileNeeds_iff invariant.sound.nesting mem)
  obtain ⟨imports, rfl, exactly⟩ := importLines_match once needed
    (fun notPython className localName isNeeded => by
      obtain ⟨_, may⟩ := isNeeded.mayNeed
      cases may with
      | reference python => exact notPython python) areLines
  exact ⟨imports, body, needs, isText, exactly, isBody, needed⟩

/-- The file of a top-level class of a run imports what the classes in it need, each thing once, and
a Python module begins with the helper that makes lists and maps comparable exactly when a class in
it uses that. -/
theorem Run.imports_match (distinct : document.distinctKeys)
    (run : Run ⟨.ofValue document, package⟩ registered returned succeeded s)
    (mem : top ∈ s.topLevel) (written : fileText s.graph settings language top = .ok text) :
    ∃ (imports : ImportList) (body : String),
      text = fileHead (s.graph.fileContext settings language top) (s.graph.get top)
        (imports.lines language) ++ body ∧
      imports.Match (s.graph.FileNeeds settings language top) ∧
      (language = .python → (Python.freezingHelper.toList <+: body.toList ↔
        s.graph.FileNeeds settings language top .freezing)) := by
  obtain ⟨imports, body, needs, isText, exactly, isBody, needed⟩ :=
    run.exists_importList distinct mem written
  refine ⟨imports, body, isText, exactly, fun python => ?_⟩
  obtain ⟨order, first, others, -, -, given, eq⟩ := Python.exists_blocks python isBody
  obtain ⟨c, apart, begins⟩ := Python.exists_head_of_classText python given
  exact (Python.isPrefix_helper_iff apart begins eq).trans (needed .freezing)

/-- A document with a class that extends another one and has properties of many types. -/
def fleet : Value := .object [
  ("title", .string "Car"),
  ("allOf", .array [.object [("$ref", .string "#/definitions/Vehicle")],
    .object [("properties", .object [
      ("built", .object [("type", .string "string"), ("format", .string "date")]),
      ("owner", .object [("$ref", .string "#/definitions/Owner")]),
      ("color", .object [("enum", .array [.string "red"])]),
      ("tags", .object [("type", .string "array"), ("uniqueItems", .bool true), ("items", .object [
        ("type", .string "array"), ("items", .object [("type", .string "string")])])])])]]),
  ("definitions", .object [
    ("Vehicle", .object [("properties", .object [
      ("wheels", .object [("type", .string "integer")])])]),
    ("Owner", .object [("properties", .object [
      ("name", .object [("type", .string "string")])])])])]

theorem Run.imports_match_fleet : ∃ id s text,
    buildRoot ⟨.ofValue fleet, .string ""⟩ (.ofValue fleet) none {} = .ok id s ∧
    0 ∈ s.topLevel ∧ fileText s.graph {} .python 0 = .ok text ∧
    ∃ (imports : ImportList) (body : String),
      text = fileHead (s.graph.fileContext {} .python 0) (s.graph.get 0) (imports.lines .python) ++
        body ∧
      imports.Match (s.graph.FileNeeds {} .python 0) ∧
      (.python = TargetLanguage.python → (Python.freezingHelper.toList <+: body.toList ↔
        s.graph.FileNeeds {} .python 0 .freezing)) := by
  have built : ((buildRoot ⟨.ofValue fleet, .string ""⟩ (.ofValue fleet) none >>=
      fun _ => get).run' {}).any fun s => s.topLevel.contains 0 &&
        (fileText s.graph {} .python 0).toOption.any fun _ => true := by
    decide +kernel
  obtain ⟨id, s, run, test⟩ := Build.exists_of_any built
  obtain ⟨mem, given⟩ := Bool.and_eq_true_iff.1 test
  have mem := List.contains_iff_mem.1 mem
  obtain ⟨text, written, -⟩ := Except.exists_of_any given
  exact ⟨id, s, text, run, mem, written,
    Run.imports_match (by decide : fleet.distinctKeys) (.root run) mem written⟩

end

end SchemaClasses
