import SchemaClasses.Proofs.Decidable
import SchemaClasses.Proofs.Failures

/-!
# Recursive documents

A document may contain cycles of schemas. One that goes through a class need not be a fault, since a
class can refer to itself. A request fails over it nonetheless when it comes to a schema that is
referred to and is no class before it comes to the class. It does not fail if, whenever a class that
it asks for leads to such a schema and the schema leads back to itself, a class on the way back lies
on the way there too, or has been asked for earlier.

## Main definitions

* `Node.UsesPast`: a schema other than a certain class uses another one.
* `Node.UsesOutside`: a schema uses another one, and both are no classes.
* `filing`: documents of folders, with their members in any order.

## Main statements

* `render_ne_cyclicReference`: the documents that no request fails over for a cycle.
* `Node.not_revisits`: a schema is not met again if one class lies on all ways to it and back.
* `driveFirst_cyclic`: a document over which a request fails, and which it accepts when its members
  stand in another order.
-/

namespace SchemaClasses

section

variable {root target : Node} {starts : List Node}

/-- What accounts for a cycle: a schema that is referred to, is no class and is met again, an
extension, or an unusual reference. -/
theorem Node.BuildCauses.of_cyclicReference {pointer reason : String}
    (h : root.BuildCauses starts (.cyclicReference pointer reason)) :
    (∃ target, root.IsAlias target ∧ root.Revisits starts target) ∨
      (∃ node, root.Within node ∧ node.has "allOf") ∨ ¬root.HasPlainReferences := by
  cases h with
  | cycle _ _ isAlias revisits => exact .inl ⟨_, isAlias, revisits⟩
  | ofCauses cause =>
    cases cause with
    | extension _ _ within isExtension => exact .inr (.inl ⟨_, within, isExtension⟩)
    | unusual _ _ within link unusual =>
      exact .inr (.inr fun plain => unusual (plain _ _ within link))
    | index _ _ _ bad =>
      obtain ⟨problem, eq⟩ := bad.invalid
      cases eq
    | pattern _ _ fault =>
      have expected := Regex.check_faults fault
      cases expected

/-- No request fails over a cycle in a document without extensions and with references in the usual
forms unless a schema that is referred to and is no class may be met again: a way leads to it from a
class that is asked for, and another one leads from it back to it past all classes on the first way
and all that are asked for earlier. -/
theorem render_ne_cyclicReference {document : Node} (settings : Settings)
    (language : TargetLanguage) (request : Request)
    (noExtension : ∀ node, document.Within node → ¬node.has "allOf")
    (plain : document.HasPlainReferences)
    (noLoop : ∀ target, document.IsAlias target →
      ¬document.Revisits (request.schemas document) target) (pointer reason : String) :
    render document settings language request ≠ .error (.cyclicReference pointer reason) := by
  intro fails
  rcases render_error fails with cause | bad | misfit
  · rcases cause.of_cyclicReference with ⟨target, isAlias, revisits⟩ | ⟨node, within, has⟩ | odd
    · exact noLoop target isAlias revisits
    · exact noExtension node within has
    · exact odd plain
  · obtain ⟨problem, eq⟩ := bad.invalid
    cases eq
  · rcases misfit.kind with eq | eq
    · cases eq
    · cases eq

/-- A schema that is not a certain class uses another one. -/
def Node.UsesPast (root cut a b : Node) : Prop := root.Uses a b ∧ a ≠ cut

/-- A class cuts cycles in a document without choices. -/
theorem Node.Cuts.of_no_choice {node : Node} (isClass : isClassSchema node false = .ok true)
    (noChoice : ∀ other ∈ root.nodes, ¬other.has "oneOf" ∧ ¬other.has "anyOf") :
    root.Cuts node := by
  refine ⟨isClass, fun choice alternative resolved isAlternative => ?_⟩
  cases isAlternative with
  | of within _ isChoice found _ =>
    have has := Node.has_of_member? found
    have hasNot := noChoice choice within.mem_nodes
    rcases isChoice with rfl | rfl
    · exact absurd has hasNot.1
    · exact absurd has hasNot.2

/-- A schema is not met again if one class lies on every way back to it, and on every way to it from
the classes that are asked for no later. -/
theorem Node.not_revisits {cut : Node} (cuts : root.Cuts cut)
    (there : ∀ earlier start later, starts = earlier ++ start :: later →
      cut ∈ earlier ∨ ¬Relation.ReflTransGen (root.UsesPast cut) start target)
    (back : ¬Relation.TransGen (root.UsesPast cut) target target) :
    ¬root.Revisits starts target := by
  rintro ⟨earlier, start, later, via, split, before, leads, returns⟩
  by_cases passed : via cut
  · refine back (Relation.TransGen.mono (fun a b step => ⟨step.1, ?_⟩) _ _ returns)
    rintro rfl
    exact step.2 cuts passed
  · have notEarlier : cut ∉ earlier := fun mem => passed (before cut mem cuts)
    refine (there earlier start later split).resolve_left notEarlier
      (Relation.ReflTransGen.mono (fun a b step => ⟨step.1, ?_⟩) _ _ leads)
    rintro rfl
    exact passed (step.2 cuts)

/-- Uses that do not start from a class stay in a list of nodes that is closed under them. -/
theorem Node.UsesPast.mem {cut node other : Node} (later : List Node)
    (closed : ∀ a ∈ later, a ≠ cut → ∀ b ∈ root.uses a, b ∈ later) (mem : node ∈ later)
    (leads : Relation.ReflTransGen (root.UsesPast cut) node other) : other ∈ later := by
  induction leads with
  | refl => exact mem
  | tail _ step ih => exact closed _ ih step.2 _ step.1

end

/-! ## A list of recursive classes -/

section

variable {root : Node}

/-- A schema uses another one, and both are no classes. -/
def Node.UsesOutside (root a b : Node) : Prop :=
  root.Uses a b ∧ isClassSchema a true ≠ .ok true ∧ isClassSchema b true ≠ .ok true

/-- There are no cycles outside classes if a rank falls with every use. -/
theorem Node.UsesOutside.not_returning (rank : Node → Nat)
    (falls : ∀ a ∈ root.nodes, isClassSchema a true ≠ .ok true → ∀ b ∈ root.uses a,
      isClassSchema b true ≠ .ok true → rank b < rank a) {node : Node} (within : root.Within node) :
    ¬Relation.TransGen root.UsesOutside node node := by
  intro returns
  have lower {other : Node} (leads : Relation.TransGen root.UsesOutside node other) :
      root.Within other ∧ rank other < rank node := by
    induction leads with
    | single uses =>
      exact ⟨within.of_uses uses.1, falls _ within.mem_nodes uses.2.1 _ uses.1 uses.2.2⟩
    | tail _ uses ih =>
      have step := falls _ ih.1.mem_nodes uses.2.1 _ uses.1 uses.2.2
      exact ⟨ih.1.of_uses uses.1, step.trans ih.2⟩
  exact absurd (lower returns).2 (Nat.lt_irrefl _)

end

def drive : String × Value := ("Drive", .object [("type", .string "object"),
  ("properties", .object [("top", .object [("$ref", .string "#/definitions/Folders")])])])

def folder : String × Value := ("Folder", .object [("type", .string "object"),
  ("properties", .object [("inner", .object [("$ref", .string "#/definitions/Folders")])])])

def folders : String × Value := ("Folders", .object [("type", .string "array"),
  ("items", .object [("$ref", .string "#/definitions/Folder")])])

/-- A document of folders, with its members in the given order. -/
def filing (members : List (String × Value)) : Value := .object [("definitions", .object members)]

/-- The count of uses that lead from a schema of the document to a class, at most. -/
def filingRank (node : Node) : Nat :=
  if node.path = "/definitions/Folders" then 1
  else if node.path = "/definitions/Folders/items" then 0
  else 2

def folderFirst : Node := .ofValue (filing [folder, drive, folders])

def folderNode : Node := ⟨"/definitions/Folder", folder.2⟩

def foldersNode : Node := ⟨"/definitions/Folders", folders.2⟩

/-- The list of folders is no class and is built from itself, by way of the class of a folder. -/
theorem foldersNode_returns : folderFirst.IsAlias foldersNode ∧
    Relation.TransGen folderFirst.Uses foldersNode foldersNode := by
  let items : Node :=
    ⟨"/definitions/Folders/items", .object [("$ref", .string "#/definitions/Folder")]⟩
  let inner : Node := ⟨"/definitions/Folder/properties/inner",
    .object [("$ref", .string "#/definitions/Folders")]⟩
  have within : folderFirst.Within inner := Node.mem_nodes_iff.1 (by decide +kernel)
  have found : resolve folderFirst "#/definitions/Folders" = .ok foldersNode := by decide +kernel
  have toItems : items ∈ folderFirst.uses foldersNode := by decide +kernel
  have toFolder : folderNode ∈ folderFirst.uses items := by decide +kernel
  have toInner : inner ∈ folderFirst.uses folderNode := by decide +kernel
  have toFolders : folderFirst.Uses inner foldersNode := (Node.Refers.of_resolve rfl found).2
  exact ⟨⟨by decide +kernel, inner, _, within, rfl, found⟩,
    (((Relation.TransGen.single toItems).tail toFolder).tail toInner).tail toFolders⟩

/-- A request that comes to the class of a folder first does not fail over the cycle of the list,
since the folder lies on every way from the list back to it. -/
theorem render_ne_cyclicReference_folderFirst :
    (folderFirst.IsAlias foldersNode ∧
      Relation.TransGen folderFirst.Uses foldersNode foldersNode) ∧
    (∀ target, folderFirst.IsAlias target → ¬folderFirst.Revisits
      ((Request.members "#/definitions" none).schemas folderFirst) target) ∧
    render folderFirst {} .kotlin (.members "#/definitions" none) ≠
      .error (.cyclicReference "/definitions/Folders"
        "cycle through a type that is not an object class") := by
  have keywords : ∀ node ∈ folderFirst.nodes,
      ¬node.has "allOf" ∧ ¬node.has "oneOf" ∧ ¬node.has "anyOf" := by decide +kernel
  have references : ∀ node ∈ folderFirst.nodes,
      ∀ reference ∈ ((node.value.member? "$ref").bind (·.string?)).toList,
        Pointer.isPlain reference ∧
        ∀ target ∈ (resolve folderFirst reference).toOption.toList,
          isClassSchema target true = .ok false → target = foldersNode := by
    decide +kernel
  have linked {node : Node} {reference : String} (within : folderFirst.Within node)
      (link : node.value.member? "$ref" = some (.string reference)) :=
    references node within.mem_nodes reference (by simp [link, Value.string?])
  have first : ((Request.members "#/definitions" none).schemas folderFirst).head? =
      some folderNode := by decide +kernel
  have cuts : folderFirst.Cuts folderNode :=
    .of_no_choice (by decide +kernel) fun node mem => (keywords node mem).2
  have noLoop (target : Node) (isAlias : folderFirst.IsAlias target) : ¬folderFirst.Revisits
      ((Request.members "#/definitions" none).schemas folderFirst) target := by
    obtain ⟨node, reference, within, link, found⟩ := isAlias.referred
    obtain rfl := (linked within link).2 target (by simp [found, Except.toOption]) isAlias.noClass
    apply Node.not_revisits cuts
    · intro earlier start later split
      rw [split] at first
      cases earlier with
      | nil =>
        obtain rfl := Option.some.inj first
        refine .inr fun leads => ?_
        have mem := Node.UsesPast.mem [folderNode] (by decide +kernel) List.mem_cons_self leads
        exact absurd mem (by decide +kernel)
      | cons other earlier =>
        obtain rfl := Option.some.inj first
        exact .inl List.mem_cons_self
    · intro returns
      obtain ⟨next, step, leads⟩ := Relation.TransGen.head'_iff.1 returns
      have mem := Node.UsesPast.mem (folderNode :: folderFirst.uses foldersNode)
        (by decide +kernel) (List.mem_cons_of_mem _ step.1) leads
      exact absurd mem (by decide +kernel)
  refine ⟨foldersNode_returns, noLoop, render_ne_cyclicReference {} .kotlin _ ?_ ?_ noLoop _ _⟩
  · exact fun node within => (keywords node within.mem_nodes).1
  · exact fun node reference within link => (linked within link).1

/-- A request fails over a cycle that goes through a class when it comes to the list first, and does
not fail when it comes to the class first. -/
theorem driveFirst_cyclic : [drive, folder, folders].Perm [folder, drive, folders] ∧
    (∀ node, (Node.ofValue (filing [drive, folder, folders])).Within node → ¬node.has "allOf") ∧
    (∀ node, (Node.ofValue (filing [drive, folder, folders])).Within node →
      ¬Relation.TransGen (Node.ofValue (filing [drive, folder, folders])).UsesOutside node node) ∧
    (∃ pointer reason, render (.ofValue (filing [drive, folder, folders])) {} .kotlin
      (.members "#/definitions" none) = .error (.cyclicReference pointer reason)) ∧
    ∃ files, render (.ofValue (filing [folder, drive, folders])) {} .kotlin
      (.members "#/definitions" none) = .ok files := by
  have noExtension : ∀ node ∈ (Node.ofValue (filing [drive, folder, folders])).nodes,
      ¬node.has "allOf" := by decide +kernel
  have falls : ∀ a ∈ (Node.ofValue (filing [drive, folder, folders])).nodes,
      isClassSchema a true ≠ .ok true →
      ∀ b ∈ (Node.ofValue (filing [drive, folder, folders])).uses a,
        isClassSchema b true ≠ .ok true → filingRank b < filingRank a := by decide +kernel
  have accepted : (render (.ofValue (filing [folder, drive, folders])) {} .kotlin
      (.members "#/definitions" none)).toOption.any fun _ => true := by decide +kernel
  obtain ⟨files, rendered, -⟩ := Except.exists_of_any accepted
  refine ⟨.swap _ _ _, fun node within => noExtension node within.mem_nodes,
    fun node within => Node.UsesOutside.not_returning filingRank falls within,
    ⟨"/definitions/Folders", "cycle through a type that is not an object class", ?_⟩,
    files, rendered⟩
  decide +kernel

end SchemaClasses
