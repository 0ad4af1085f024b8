import SchemaClasses.Proofs.Emit.ImportLines

/-!
# The names of a file

An import binds a name of a file, and so do the top-level class and, in Python, the helper and the
hoisted classes. These names are distinct but for one case: something that is imported from a
library can have the name of a class. Only the names of hoisted classes are compared with all
others; classes of other files differ from each other and from the class of the file because they
stand at the top level, also where they are imported with an underscore before their names.

## Main definitions

* `simpleName`: the name that an import binds in Kotlin and Java.
* `ImportList.libraryNames`, `ImportList.siblingNames`: the names that imports bind.
* `ImportList.fileNames`: the names of a file.

## Main statements

* `Run.fileNames_nodup_iff`: the names of a file are distinct unless a name from a library is that
  of a class.
-/

namespace SchemaClasses

/-! ## Names -/

/-- The name that an import binds in Kotlin and Java: what stands after its last dot. -/
def simpleName (path : String) : String :=
  String.ofList (path.toList.reverse.takeWhile (· ≠ '.')).reverse

namespace ImportList

def libraryNames (imports : ImportList) : TargetLanguage → List String
  | .python => "annotations" :: (imports.libraries ++ imports.symbols.flatMap (·.2))
  | _ => imports.libraries.map simpleName

def siblingNames (imports : ImportList) : TargetLanguage → List String
  | .python => imports.bases ++ imports.annotations.map (·.2)
  | _ => []

end ImportList

/-- The names that a file declares besides that of its top-level class: in Python those of the
helper and the hoisted classes. -/
def Context.declaredNames (context : Context) (top : ClassId) : List String :=
  match context.language with
  | .python => (if .freezing ∈ context.fileNeeds top then [Python.freezingName] else []) ++
    ((Python.hoistingOrder context top).toOption.getD []).map fun id => (context.graph.get id).name
  | _ => []

/-- The names of a file: that of its top-level class, those that its imports bind, and the others
that it declares. -/
def ImportList.fileNames (imports : ImportList) (context : Context) (top : ClassId) :
    List String :=
  (context.graph.get top).name ::
    (imports.libraryNames context.language ++ imports.siblingNames context.language ++
      context.declaredNames top)

/-- Names are distinct if and only if no name from a library is another one, when the others are
distinct from each other. -/
theorem nodup_iff_of_apart {name : String} {libraries siblings declared : List String}
    (nodupLibraries : libraries.Nodup) (nodupSiblings : siblings.Nodup)
    (nodupDeclared : declared.Nodup) (notSibling : name ∉ siblings) (notDeclared : name ∉ declared)
    (apart : ∀ other ∈ declared, other ∉ libraries ∧ other ∉ siblings) :
    (name :: (libraries ++ siblings ++ declared)).Nodup ↔
      ∀ library ∈ libraries, library ≠ name ∧ library ∉ siblings := by
  simp only [List.nodup_cons, List.nodup_append, List.mem_append, nodupLibraries, nodupSiblings,
    nodupDeclared, notSibling, notDeclared]
  grind

/-! ## The names of classes -/

/-- The name of any class of a graph is in Pascal case; that of a class which does not exist is
empty. -/
theorem BuildState.Sound.exists_pascalChars {source : Source} {s : BuildState}
    (sound : s.Sound source) (id : ClassId) :
    ∃ text, (s.graph.get id).name.toList = pascalChars text := by
  by_cases inside : id < s.graph.size
  · obtain ⟨text, eq, -⟩ := (sound.outermost.name inside).exists_pascalChars
    exact ⟨text, eq⟩
  · rw [ClassGraph.get_of_size_le (Nat.le_of_not_lt inside)]
    exact ⟨[], rfl⟩

/-- An underscore before a name in Pascal case gives no such name. -/
theorem cons_pascalChars_ne (text other : List Char) :
    '_' :: pascalChars text ≠ pascalChars other := by
  intro eq
  obtain ⟨d, head, digit⟩ := isDigit_of_pascalChars_eq_cons eq.symm
  exact not_isDigit_of_head_pascalChars head digit

/-- A class can have a name in a file: its own, or that after an underscore. -/
def IsLocalName (className localName : String) : Prop :=
  localName = className ∨ localName = "_" ++ className

section

variable {a b localName : String} {text other : List Char}

/-- The name of a class in a file tells which class it is. -/
theorem IsLocalName.className_eq (casedA : a.toList = pascalChars text)
    (casedB : b.toList = pascalChars other) (namedA : IsLocalName a localName)
    (namedB : IsLocalName b localName) : a = b := by
  have unmarked {x y : String} {text other : List Char} (casedX : x.toList = pascalChars text)
      (casedY : y.toList = pascalChars other) : y ≠ "_" ++ x := by
    rintro rfl
    rw [String.toList_append, casedX] at casedY
    exact cons_pascalChars_ne text other casedY
  rcases namedA with rfl | rfl <;> rcases namedB with eq | eq
  · exact eq
  · exact absurd eq (unmarked casedB casedA)
  · exact absurd eq.symm (unmarked casedA casedB)
  · rw [← String.toList_inj, String.toList_append, String.toList_append] at eq
    exact String.toList_inj.1 (List.cons.inj eq).2

/-- No class has the name of the helper in a file: the helper is named like a class after an
underscore, but with a small letter. -/
theorem IsLocalName.ne_freezingName (cased : a.toList = pascalChars text)
    (named : IsLocalName a localName) : localName ≠ Python.freezingName := by
  have helper : Python.freezingName = "_" ++ "frozen" := by decide
  have frozen : "frozen".toList.head? = some 'f' := rfl
  rintro rfl
  rcases named with rfl | named
  · have eq : pascalChars text = '_' :: "frozen".toList := cased.symm
    obtain ⟨d, head, digit⟩ := isDigit_of_pascalChars_eq_cons eq
    obtain rfl := Option.some.inj (head.symm.trans frozen)
    exact absurd digit (by decide)
  · rw [helper, ← String.toList_inj, String.toList_append, String.toList_append] at named
    have inner : "frozen".toList = a.toList := (List.cons.inj named).2
    rw [← inner] at cased
    exact not_isLower_of_head_pascalChars (cased ▸ frozen) (by decide)

end

/-! ## Libraries -/

section

variable {imports : ImportList} {context : Context} {needed : Need → Prop}
  (exactly : imports.Match needed) (may : ∀ need, needed need → ∃ id, context.MayNeed id need)
include exactly may

theorem mem_libraries_of_match : ∀ name ∈ imports.libraries, name ∈ context.language.libraries := by
  intro name mem
  obtain ⟨_, may⟩ := may _ ((exactly.mem_libraries_iff name).1 mem)
  cases may with
  | library known => exact known

/-- A symbol that is imported is one of those that the language knows. -/
theorem mem_symbols_of_match {library name : String} {names : List String}
    (entry : (library, names) ∈ imports.symbols) (mem : name ∈ names) :
    (library, name) ∈ context.language.symbols ++ [("typing", "TYPE_CHECKING")] := by
  rcases (exactly.mem_symbols_iff library name).1 ⟨names, entry, mem⟩ with isNeeded | ⟨-, rfl, rfl⟩
  · obtain ⟨_, may⟩ := may _ isNeeded
    cases may with
    | symbol known => exact List.mem_append_left _ known
  · exact List.mem_append_right _ (List.mem_singleton_self _)

/-- No name is imported from two modules. -/
theorem nodup_symbolNames : (imports.symbols.flatMap (·.2)).Nodup := by
  have determined (language : TargetLanguage) :
      ∀ a ∈ language.symbols ++ [("typing", "TYPE_CHECKING")],
      ∀ b ∈ language.symbols ++ [("typing", "TYPE_CHECKING")], a.2 = b.2 → a.1 = b.1 := by
    cases language <;> decide
  refine List.nodup_flatMap.2 ⟨fun entry mem => (exactly.nodup_symbols.2 entry mem).2, ?_⟩
  refine (List.pairwise_map.1 exactly.nodup_symbols.1).imp_of_mem ?_
  intro a b memA memB ne name inA inB
  exact ne (determined context.language _ (mem_symbols_of_match exactly may memA inA) _
    (mem_symbols_of_match exactly may memB inB) rfl)

theorem mem_symbolNames_of_match (python : context.language = .python) :
    ∀ name ∈ imports.symbols.flatMap (·.2),
      name ∈ ["Any", "Enum", "dataclass", "TYPE_CHECKING"] := by
  intro name mem
  obtain ⟨⟨library, names⟩, entry, mem⟩ := List.mem_flatMap.1 mem
  have known := mem_symbols_of_match exactly may entry mem
  rw [python] at known
  exact List.mem_map_of_mem (f := Prod.snd) known

/-- The names that a Python module can bind by imports from libraries. -/
theorem mem_libraryNames_of_match (python : context.language = .python) :
    ∀ name ∈ imports.libraryNames .python, name ∈ "annotations" ::
      (TargetLanguage.python.libraries ++ ["Any", "Enum", "dataclass", "TYPE_CHECKING"]) := by
  intro name mem
  refine List.mem_cons.2 ((List.mem_cons.1 mem).imp_right fun mem => List.mem_append.2 ?_)
  refine (List.mem_append.1 mem).imp (fun mem => ?_) (mem_symbolNames_of_match exactly may python _)
  exact python ▸ mem_libraries_of_match exactly may name mem

/-- Libraries bind distinct names. -/
theorem nodup_libraryNames : (imports.libraryNames context.language).Nodup := by
  have known := mem_libraries_of_match exactly may
  by_cases python : context.language = .python
  · have symbols := mem_symbolNames_of_match exactly may python
    rw [python] at known ⊢
    have apart : ∀ library ∈ "annotations" :: TargetLanguage.python.libraries,
        library ∉ ["Any", "Enum", "dataclass", "TYPE_CHECKING"] := by decide
    refine List.nodup_cons.2 ⟨fun mem => ?_, List.nodup_append.2 ⟨exactly.nodup_libraries,
      nodup_symbolNames exactly may, fun library mem name mem' eq => ?_⟩⟩
    · rcases List.mem_append.1 mem with mem | mem
      · exact absurd (known _ mem) (by decide)
      · exact apart _ List.mem_cons_self (symbols _ mem)
    · exact apart library (List.mem_cons_of_mem _ (known library mem)) (eq ▸ symbols name mem')
  · have simple (language : TargetLanguage) : ∀ a ∈ language.libraries, ∀ b ∈ language.libraries,
        simpleName a = simpleName b → a = b := by
      cases language <;> decide +kernel
    have names : imports.libraryNames context.language = imports.libraries.map simpleName := by
      unfold ImportList.libraryNames
      split
      · exact absurd ‹_› python
      · rfl
    rw [names]
    exact exactly.nodup_libraries.map_on fun a memA b memB =>
      simple _ a (known a memA) b (known b memB)

end

/-! ## Classes of other files -/

section

variable {imports : ImportList} {context : Context} {needed : Need → Prop}
  (exactly : imports.Match needed) (may : ∀ need, needed need → ∃ id, context.MayNeed id need)
include exactly may

/-- What is imported for annotations is a class of another file. -/
theorem exists_of_mem_references {className localName : String}
    (mem : (className, localName) ∈ imports.annotations) : ∃ id,
      context.file ≠ some (context.graph.topLevel id) ∧
      className = (context.graph.get (context.graph.topLevel id)).name ∧
      IsLocalName className localName := by
  obtain ⟨_, may⟩ := may _ ((exactly.mem_annotations_iff className localName).1 mem).1
  cases may with
  | reference _ elsewhere named => exact ⟨_, elsewhere, rfl, named⟩

/-- What is imported as a base is a class of another file. -/
theorem exists_of_mem_bases {className : String} (mem : className ∈ imports.bases) : ∃ id,
    context.file ≠ some (context.graph.topLevel id) ∧
      className = (context.graph.get (context.graph.topLevel id)).name := by
  obtain ⟨_, may⟩ := may _ ((exactly.mem_bases_iff className).1 mem)
  cases may with
  | base _ _ elsewhere => exact ⟨_, elsewhere, rfl⟩

/-- A name from another file is that of a class there, or has an underscore before it. -/
theorem exists_of_mem_siblingNames {name : String}
    (mem : name ∈ imports.siblingNames context.language) : ∃ id,
      context.file ≠ some (context.graph.topLevel id) ∧
      IsLocalName (context.graph.get (context.graph.topLevel id)).name name := by
  unfold ImportList.siblingNames at mem
  split at mem
  · rcases List.mem_append.1 mem with mem | mem
    · obtain ⟨id, elsewhere, rfl⟩ := exists_of_mem_bases exactly may mem
      exact ⟨id, elsewhere, .inl rfl⟩
    · obtain ⟨⟨className, localName⟩, isReference, rfl⟩ := List.mem_map.1 mem
      obtain ⟨id, elsewhere, rfl, named⟩ := exists_of_mem_references exactly may isReference
      exact ⟨id, elsewhere, named⟩
  · cases mem

/-- Classes of other files have distinct names in a file. -/
theorem nodup_siblingNames
    (cased : ∀ id, ∃ text, (context.graph.get id).name.toList = pascalChars text) :
    (imports.siblingNames context.language).Nodup := by
  unfold ImportList.siblingNames
  split
  · refine List.nodup_append.2 ⟨exactly.nodup_bases, exactly.nodup_annotations.map_on ?_, ?_⟩
    · rintro ⟨a, localName⟩ memA ⟨b, _⟩ memB rfl
      obtain ⟨idA, -, rfl, namedA⟩ := exists_of_mem_references exactly may memA
      obtain ⟨idB, -, rfl, namedB⟩ := exists_of_mem_references exactly may memB
      obtain ⟨textA, casedA⟩ := cased (context.graph.topLevel idA)
      obtain ⟨textB, casedB⟩ := cased (context.graph.topLevel idB)
      rw [namedA.className_eq casedA casedB namedB]
    · rintro base isBase _ mem rfl
      obtain ⟨⟨className, localName⟩, isReference, rfl⟩ := List.mem_map.1 mem
      obtain ⟨id, -, rfl, named⟩ := exists_of_mem_references exactly may isReference
      obtain ⟨idBase, -, rfl⟩ := exists_of_mem_bases exactly may isBase
      obtain ⟨text, casedName⟩ := cased (context.graph.topLevel id)
      obtain ⟨textBase, casedBase⟩ := cased (context.graph.topLevel idBase)
      have same := named.className_eq casedName casedBase (.inl rfl)
      refine ((exactly.mem_annotations_iff _ _).1 isReference).2 ⟨same.symm, ?_⟩
      exact (exactly.mem_bases_iff _).1 (same ▸ isBase)
  · exact .nil

end

/-! ## Hoisted classes -/

namespace Python

variable {graph : ClassGraph} {taken : List String} {order : List ClassId}

/-- Hoisted classes have distinct names, none of which the module has besides. -/
theorem nodup_of_checkModuleNames (checked : checkModuleNames graph taken order = .ok ()) :
    (order.map fun id => (graph.get id).name).Nodup ∧
      ∀ id ∈ order, (graph.get id).name ∉ taken := by
  induction order generalizing taken with
  | nil => exact ⟨.nil, nofun⟩
  | cons id rest ih =>
    unfold checkModuleNames at checked
    extract_lets name at checked
    split at checked
    · cases checked
    · rename_i free
      obtain ⟨nodup, others⟩ := ih checked
      refine ⟨List.nodup_cons.2 ⟨fun mem => ?_, nodup⟩, List.forall_mem_cons.2 ⟨?_, ?_⟩⟩
      · obtain ⟨other, mem, same⟩ := List.mem_map.1 mem
        exact others other mem (same ▸ List.mem_cons_self)
      · simpa using free
      · exact fun other mem known => others other mem (List.mem_cons_of_mem _ known)

/-- The names that are kept from hoisted classes are those that imports bind, but for one that is
never that of a class. -/
theorem mem_moduleNames_of_match {imports : ImportList} {needed : Need → Prop}
    {needs : Requirements} {className name : String} (exactly : imports.Match needed)
    (has : ∀ need, needs.Has need ↔ needed need)
    (mem : name ∈ imports.libraryNames .python ++ imports.siblingNames .python) :
    name = "annotations" ∨ name ∈ moduleNames needs className := by
  have annotated (h : imports.annotations ≠ []) : needs.annotations ≠ [] := by
    obtain ⟨⟨other, localName⟩, isReference⟩ := List.exists_mem_of_ne_nil _ h
    exact List.ne_nil_of_mem
      ((has _).2 ((exactly.mem_annotations_iff other localName).1 isReference).1)
  simp only [moduleNames, List.mem_append]
  rcases List.mem_append.1 mem with mem | mem
  · rcases List.mem_cons.1 mem with rfl | mem
    · exact .inl rfl
    · rcases List.mem_append.1 mem with mem | mem
      · have known : name ∈ needs.imports := (has _).2 ((exactly.mem_libraries_iff name).1 mem)
        simp [known]
      · obtain ⟨⟨library, names⟩, entry, mem⟩ := List.mem_flatMap.1 mem
        rcases (exactly.mem_symbols_iff library name).1 ⟨names, entry, mem⟩ with
          isNeeded | ⟨some, -, rfl⟩
        · have known : (library, name) ∈ needs.symbols := (has _).2 isNeeded
          have listed : name ∈ needs.symbols.map (·.2) := List.mem_map_of_mem (f := Prod.snd) known
          simp only [listed, true_or, or_true]
        · simp [annotated some]
  · rcases List.mem_append.1 mem with mem | mem
    · have known : name ∈ needs.bases := (has _).2 ((exactly.mem_bases_iff name).1 mem)
      simp [known]
    · obtain ⟨⟨other, localName⟩, isReference, rfl⟩ := List.mem_map.1 mem
      have known : (other, localName) ∈ needs.annotations :=
        (has _).2 ((exactly.mem_annotations_iff other localName).1 isReference).1
      have listed : localName ∈ needs.annotations.map (·.2) :=
        List.mem_map_of_mem (f := Prod.snd) known
      simp only [listed, true_or, or_true]

end Python

/-! ## Files -/

section

variable {document package : Value} {registered : List Definition}
  {returned : List (Definition × ClassId)} {succeeded : Bool} {s : BuildState}
  {settings : Settings} {language : TargetLanguage} {top : ClassId} {text : String}

/-- The class of a file has another name than the classes of other files have in it. -/
theorem BuildState.Sound.name_notMem_siblingNames {source : Source} {imports : ImportList}
    (sound : s.Sound source)
    (exactly : imports.Match (s.graph.FileNeeds settings language top)) (mem : top ∈ s.topLevel) :
    (s.graph.get top).name ∉ imports.siblingNames language := by
  intro isSibling
  obtain ⟨id, elsewhere, named⟩ := @exists_of_mem_siblingNames imports
    (s.graph.fileContext settings language top) _ exactly
    (fun _ => ClassGraph.FileNeeds.mayNeed) _ isSibling
  obtain ⟨inside, -⟩ := sound.nesting.mem_topLevel_iff.1 mem
  obtain ⟨text, cased, nonempty⟩ := (sound.outermost.name inside).exists_pascalChars
  obtain ⟨other, casedOther⟩ := sound.exists_pascalChars (s.graph.topLevel id)
  have same := named.className_eq casedOther cased (.inl rfl)
  by_cases known : id < s.graph.size
  · have eq := List.inj_on_of_nodup_map sound.nodup_topLevel (sound.nesting.topLevel_mem known)
      mem same
    exact elsewhere (congrArg some eq.symm)
  · have absent := ClassGraph.get_of_size_le (Nat.le_of_not_lt known)
    rw [ClassGraph.topLevel_eq sound.nesting.founded, absent] at same
    refine nonempty (cased.symm.trans ?_)
    rw [← same]
    change (s.graph.get id).name.toList = []
    rw [absent]
    rfl

/-- The name of the helper is that of nothing else in a module. -/
theorem BuildState.Sound.freezingName_apart {source : Source} {imports : ImportList}
    (sound : s.Sound source)
    (exactly : imports.Match (s.graph.FileNeeds settings .python top)) :
    Python.freezingName ≠ (s.graph.get top).name ∧
      Python.freezingName ∉ imports.libraryNames .python ∧
      Python.freezingName ∉ imports.siblingNames .python := by
  have may (need : Need) (h : s.graph.FileNeeds settings .python top need) := h.mayNeed
  refine ⟨fun eq => ?_, fun bound => ?_, fun bound => ?_⟩
  · obtain ⟨text, cased⟩ := sound.exists_pascalChars top
    exact IsLocalName.ne_freezingName cased (.inl rfl) eq.symm
  · have known := @mem_libraryNames_of_match imports (s.graph.fileContext settings .python top) _
      exactly may rfl _ bound
    exact absurd known (by decide)
  · obtain ⟨id, -, named⟩ := @exists_of_mem_siblingNames imports
      (s.graph.fileContext settings .python top) _ exactly may _ bound
    obtain ⟨text, cased⟩ := sound.exists_pascalChars (s.graph.topLevel id)
    exact named.ne_freezingName cased rfl

/-- The names of hoisted classes are compared with all others, but for one that begins with a small
letter. -/
theorem BuildState.Sound.hoistedName_apart {source : Source} {imports : ImportList}
    {needs : Requirements} {id : ClassId} (sound : s.Sound source)
    (exactly : imports.Match (s.graph.FileNeeds settings .python top))
    (has : ∀ need, needs.Has need ↔ s.graph.FileNeeds settings .python top need)
    (free : (s.graph.get id).name ∉ Python.moduleNames needs (s.graph.get top).name) :
    (s.graph.get id).name ≠ Python.freezingName ∧
      (s.graph.get id).name ≠ (s.graph.get top).name ∧
      (s.graph.get id).name ∉ imports.libraryNames .python ∧
      (s.graph.get id).name ∉ imports.siblingNames .python := by
  have unbound : (s.graph.get id).name ∉
      imports.libraryNames .python ++ imports.siblingNames .python := by
    intro bound
    rcases Python.mem_moduleNames_of_match exactly has bound with small | taken
    · obtain ⟨text, cased⟩ := sound.exists_pascalChars id
      rw [small] at cased
      exact @not_isLower_of_head_pascalChars text 'a' (by rw [← cased]; rfl) (by decide)
    · exact free taken
  rw [List.mem_append, not_or] at unbound
  refine ⟨fun eq => free ?_, fun eq => free ?_, unbound⟩
  · simp [Python.moduleNames, eq]
  · simp [Python.moduleNames, eq]

/-- The names that a file declares are distinct from each other, from that of its class, and from
those that its imports bind. -/
theorem BuildState.Sound.declaredNames_apart {source : Source} {imports : ImportList}
    {needs : Requirements} {body : String} (sound : s.Sound source)
    (exactly : imports.Match (s.graph.FileNeeds settings language top))
    (isBody : (s.graph.fileContext settings language top).fileBody top {} = .ok body needs)
    (has : ∀ need, needs.Has need ↔ s.graph.FileNeeds settings language top need) :
    ((s.graph.fileContext settings language top).declaredNames top).Nodup ∧
      ∀ name ∈ (s.graph.fileContext settings language top).declaredNames top,
        name ≠ (s.graph.get top).name ∧ name ∉ imports.libraryNames language ∧
          name ∉ imports.siblingNames language := by
  by_cases python : language = .python
  case neg =>
    have none : (s.graph.fileContext settings language top).declaredNames top = [] := by
      unfold Context.declaredNames
      split
      · exact absurd ‹_› python
      · rfl
    rw [none]
    exact ⟨.nil, nofun⟩
  subst python
  obtain ⟨order, first, others, found, checked, -, -⟩ := Python.exists_blocks rfl isBody
  change Python.checkModuleNames s.graph (Python.moduleNames needs (s.graph.get top).name) order =
    .ok () at checked
  obtain ⟨nodup, free⟩ := Python.nodup_of_checkModuleNames checked
  have hoisted : ∀ name ∈ order.map fun id => (s.graph.get id).name,
      name ≠ Python.freezingName ∧ name ≠ (s.graph.get top).name ∧
        name ∉ imports.libraryNames .python ∧ name ∉ imports.siblingNames .python :=
    List.forall_mem_map.2 fun id inOrder =>
      sound.hoistedName_apart exactly has (free id inOrder)
  have names : (s.graph.fileContext settings .python top).declaredNames top =
      (if .freezing ∈ (s.graph.fileContext settings .python top).fileNeeds top
        then [Python.freezingName] else []) ++ order.map fun id => (s.graph.get id).name := by
    unfold Context.declaredNames
    simp only [ClassGraph.fileContext] at found ⊢
    rw [found]
    rfl
  rw [names]
  split
  · refine ⟨List.nodup_cons.2 ⟨fun mem => (hoisted _ mem).1 rfl, nodup⟩, ?_⟩
    exact List.forall_mem_cons.2
      ⟨sound.freezingName_apart exactly, fun name mem => (hoisted name mem).2⟩
  · exact ⟨nodup, fun name mem => (hoisted name mem).2⟩

/-- The names of a file are distinct exactly when nothing that is imported from a library has the
name of the class in the file or of one of another file. -/
theorem Run.fileNames_nodup_iff (distinct : document.distinctKeys)
    (run : Run ⟨.ofValue document, package⟩ registered returned succeeded s)
    (mem : top ∈ s.topLevel) (written : fileText s.graph settings language top = .ok text) :
    ∃ (imports : ImportList) (body : String),
      text = fileHead (s.graph.fileContext settings language top) (s.graph.get top)
        (imports.lines language) ++ body ∧
      imports.Match (s.graph.FileNeeds settings language top) ∧
      ((imports.fileNames (s.graph.fileContext settings language top) top).Nodup ↔
        ∀ name ∈ imports.libraryNames language,
          name ≠ (s.graph.get top).name ∧ name ∉ imports.siblingNames language) := by
  have sound := (run.invariant distinct rfl).sound
  obtain ⟨imports, body, needs, isText, exactly, isBody, needed⟩ :=
    run.exists_importList distinct mem written
  obtain ⟨nodupDeclared, apart⟩ := sound.declaredNames_apart exactly isBody needed
  refine ⟨imports, body, isText, exactly, ?_⟩
  have may (need : Need) (h : s.graph.FileNeeds settings language top need) := h.mayNeed
  exact nodup_iff_of_apart (nodup_libraryNames exactly may)
    (nodup_siblingNames exactly may sound.exists_pascalChars) nodupDeclared
    (sound.name_notMem_siblingNames exactly mem) (fun declared => (apart _ declared).1 rfl)
    fun name declared => (apart name declared).2

theorem Run.fileNames_nodup_iff_fleet : ∃ id s text,
    buildRoot ⟨.ofValue fleet, .string ""⟩ (.ofValue fleet) none {} = .ok id s ∧
    0 ∈ s.topLevel ∧ fileText s.graph {} .python 0 = .ok text ∧
    ∃ (imports : ImportList) (body : String),
      text = fileHead (s.graph.fileContext {} .python 0) (s.graph.get 0) (imports.lines .python) ++
        body ∧
      imports.Match (s.graph.FileNeeds {} .python 0) ∧
      ((imports.fileNames (s.graph.fileContext {} .python 0) 0).Nodup ↔
        ∀ name ∈ imports.libraryNames .python,
          name ≠ (s.graph.get 0).name ∧ name ∉ imports.siblingNames .python) := by
  have built : ((buildRoot ⟨.ofValue fleet, .string ""⟩ (.ofValue fleet) none >>=
      fun _ => get).run' {}).any fun s => s.topLevel.contains 0 &&
        (fileText s.graph {} .python 0).toOption.any fun _ => true := by
    decide +kernel
  obtain ⟨id, s, run, test⟩ := Build.exists_of_any built
  obtain ⟨mem, given⟩ := Bool.and_eq_true_iff.1 test
  have mem := List.contains_iff_mem.1 mem
  obtain ⟨text, written, -⟩ := Except.exists_of_any given
  exact ⟨id, s, text, run, mem, written,
    Run.fileNames_nodup_iff (by decide : fleet.distinctKeys) (.root run) mem written⟩

/-- A document whose class is called like a name that its module imports. -/
def anyNamed : Value := .object [
  ("title", .string "Any"), ("properties", .object [("x", .object [])])]

/-- A module can declare a class under a name that it imports from a library. -/
theorem anyNamed_fileNames_not_nodup : ∃ id s text,
    buildRoot ⟨.ofValue anyNamed, .string ""⟩ (.ofValue anyNamed) none {} = .ok id s ∧
    fileText s.graph {} .python 0 = .ok text ∧ (s.graph.get 0).name = "Any" ∧
    ∃ (imports : ImportList) (body : String),
      text = fileHead (s.graph.fileContext {} .python 0) (s.graph.get 0) (imports.lines .python) ++
        body ∧
      imports.Match (s.graph.FileNeeds {} .python 0) ∧
      (∃ names, ("typing", names) ∈ imports.symbols ∧ "Any" ∈ names) ∧
      ¬(imports.fileNames (s.graph.fileContext {} .python 0) 0).Nodup := by
  have built : ((buildRoot ⟨.ofValue anyNamed, .string ""⟩ (.ofValue anyNamed) none >>=
      fun _ => get).run' {}).any fun s => s.topLevel.contains 0 && (s.graph.get 0).name = "Any" &&
        .symbol "typing" "Any" ∈ (s.graph.fileContext {} .python 0).fileNeeds 0 &&
        (fileText s.graph {} .python 0).toOption.any fun _ => true := by
    decide +kernel
  obtain ⟨id, s, run, test⟩ := Build.exists_of_any built
  simp only [Bool.and_eq_true, decide_eq_true_eq, List.contains_iff_mem] at test
  obtain ⟨⟨⟨mem, name⟩, isNeeded⟩, given⟩ := test
  obtain ⟨text, written, -⟩ := Except.exists_of_any given
  have sound := ((Run.root run).invariant (by decide : anyNamed.distinctKeys) rfl).sound
  obtain ⟨imports, body, -, isText, exactly, -, -⟩ :=
    (Run.root run).exists_importList (by decide) mem written
  have isNeeded := (ClassGraph.mem_fileNeeds_iff sound.nesting mem).1 isNeeded
  obtain ⟨names, entry, inNames⟩ := (exactly.mem_symbols_iff "typing" "Any").2 (.inl isNeeded)
  refine ⟨id, s, text, run, written, name, imports, body, isText, exactly,
    ⟨names, entry, inNames⟩, fun nodup => ?_⟩
  have imported : "Any" ∈ imports.libraryNames .python :=
    List.mem_cons_of_mem _ (List.mem_append_right _ (List.mem_flatMap.2 ⟨_, entry, inNames⟩))
  refine (List.nodup_cons.1 nodup).1 ?_
  change (s.graph.get 0).name ∈ _
  rw [name]
  exact List.mem_append_left _ (List.mem_append_left _ imported)

end

end SchemaClasses
