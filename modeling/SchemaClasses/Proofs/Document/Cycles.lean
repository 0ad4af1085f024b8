import Mathlib.Data.List.DropRight
import Mathlib.Logic.Relation
import SchemaClasses.Build.Schema
import SchemaClasses.Proofs.Document.Chains

/-!
# Cycles of schemas

A schema uses those that it is built from: a reference its target, and any other schema those of its
properties, of its items and of the values of its additional properties, and the schemas that it
composes. A document may contain cycles of such uses.

## Main definitions

* `Node.uses`, `Node.Uses`: the schemas that a schema is built from in one step.
* `Node.Refers`: a reference uses its target.
* `Pointer.isPlain`: whether a reference is written in one of the usual forms.
* `Node.HasPlainReferences`: the references of a document are written in the usual forms.
* `Resolved.IsOf`: the end of a chain of references is what its last reference designates.

## Main statements

* `Pointer.canonical_canonical`: the plain pointer of a usual reference is its own plain pointer.
* `Node.Within.refers_of_follow`: a reference leads to the end of its chain.
* `Resolved.IsOf.target_eq`: usual references with the same plain pointer have the same target.
-/

namespace SchemaClasses

/-! ## Plain references -/

namespace Pointer

/-- Whether a reference is written in one of the usual forms: it is not empty, and if it points into
the document that it stands in, its plain pointer is empty or begins with a slash. -/
def isPlain (reference : String) : Bool :=
  !reference.isEmpty && (!isLocal reference || (canonical reference).toList.head?.all (· = '/'))

theorem dropTrailingSlashes_idem (text : List Char) :
    dropTrailingSlashes (dropTrailingSlashes text) = dropTrailingSlashes text := by
  unfold dropTrailingSlashes
  rw [List.reverse_reverse, List.dropWhile_idempotent]

/-- A plain reference keeps its text, but for the slashes at its end. -/
theorem canonical_of_head {pointer : String} (plain : pointer.toList.head?.all (· = '/')) :
    canonical pointer =
      if pointer.toList = ['/'] then "/" else String.ofList (dropTrailingSlashes pointer.toList) := by
  unfold canonical
  cases chars : pointer.toList with
  | nil => rfl
  | cons first rest =>
    obtain rfl : first = '/' := by simpa [chars] using plain
    rfl

/-- A plain pointer that is empty or begins with a slash is its own plain pointer. -/
theorem canonical_canonical_of_head {reference : String}
    (begins : (canonical reference).toList.head?.all (· = '/')) :
    canonical (canonical reference) = canonical reference := by
  obtain ⟨chars, eq⟩ : ∃ chars : List Char, canonical reference =
      if chars = ['/'] then "/" else String.ofList (dropTrailingSlashes chars) := ⟨_, rfl⟩
  rw [canonical_of_head begins, eq]
  split
  · rfl
  · rw [String.toList_ofList, dropTrailingSlashes_idem]
    split
    · rename_i slash
      rw [slash]
    · rfl

theorem head?_canonical {reference : String} (plain : isPlain reference)
    (isLocal : isLocal reference) : (canonical reference).toList.head?.all (· = '/') := by
  simpa [isPlain, isLocal] using (Bool.and_eq_true _ _).mp plain |>.2

/-- The plain pointer of a usual reference is its own plain pointer. -/
theorem canonical_canonical {reference : String} (plain : isPlain reference)
    (isLocal : isLocal reference) : canonical (canonical reference) = canonical reference :=
  canonical_canonical_of_head (head?_canonical plain isLocal)

end Pointer

def Node.HasPlainReferences (root : Node) : Prop :=
  ∀ node reference, root.Within node → node.value.member? "$ref" = some (.string reference) →
    Pointer.isPlain reference

/-- The condition can be checked by going through the nodes of the document. -/
theorem Node.hasPlainReferences_iff {root : Node} :
    root.HasPlainReferences ↔ ∀ node ∈ root.nodes,
      ∀ reference ∈ ((node.value.member? "$ref").bind (·.string?)).toList,
        Pointer.isPlain reference := by
  constructor
  · intro plain node mem reference isReference
    obtain ⟨value, link, isText⟩ := Option.bind_eq_some_iff.1 (Option.mem_toList.1 isReference)
    cases value with
    | string text =>
      cases isText
      exact plain node reference (Node.mem_nodes_iff.1 mem) link
    | _ => cases isText
  · intro plain node reference within link
    exact plain node within.mem_nodes reference (by simp [link, Value.string?])

instance : DecidablePred Node.HasPlainReferences :=
  fun _ => decidable_of_iff _ Node.hasPlainReferences_iff.symm

/-! ## Uses -/

namespace Node

def propertySchemas (node : Node) : List Node :=
  (node.member? "properties").toList.flatMap fun properties => properties.members.map (·.2)

/-- The schemas that a schema is built from in one step. -/
def uses (root node : Node) : List Node :=
  match node.value.member? "$ref" with
  | some (.string reference) => (resolve root reference).toOption.toList
  | some _ => []
  | none =>
    node.propertySchemas ++ ["items", "additionalProperties"].filterMap node.member? ++
      (compositionKeywords.filterMap node.member?).flatMap (·.items)

def Uses (root a b : Node) : Prop := b ∈ root.uses a

def Refers (root a b : Node) : Prop := a.has "$ref" ∧ root.Uses a b

section

variable {root node other : Node}

theorem member?_eq_none (absent : ¬node.has "$ref") : node.value.member? "$ref" = none := by
  simpa [has] using absent

theorem Refers.of_resolve {reference : String}
    (link : node.value.member? "$ref" = some (.string reference))
    (found : resolve root reference = .ok other) : root.Refers node other := by
  simp [Refers, Uses, uses, has, link, found, Except.toOption]

theorem Uses.of_property {properties : Node} {member : String × Node} (direct : ¬node.has "$ref")
    (found : node.member? "properties" = some properties) (mem : member ∈ properties.members) :
    root.Uses node member.2 := by
  have isProperty : member.2 ∈ node.propertySchemas := by
    simp only [propertySchemas, found, Option.toList_some, List.flatMap_singleton]
    exact List.mem_map_of_mem mem
  simp only [Uses, uses, member?_eq_none direct]
  exact List.mem_append_left _ (List.mem_append_left _ isProperty)

theorem Uses.of_part {key : String} (direct : ¬node.has "$ref")
    (isPart : key = "items" ∨ key = "additionalProperties")
    (found : node.member? key = some other) : root.Uses node other := by
  have mem : other ∈ ["items", "additionalProperties"].filterMap node.member? :=
    List.mem_filterMap.2 ⟨key, by simpa using isPart, found⟩
  simp only [Uses, uses, member?_eq_none direct]
  exact List.mem_append_left _ (List.mem_append_right _ mem)

theorem Uses.of_alternative {keyword : String} {alternatives : Node} (direct : ¬node.has "$ref")
    (composes : keyword ∈ compositionKeywords)
    (found : node.member? keyword = some alternatives) (mem : other ∈ alternatives.items) :
    root.Uses node other := by
  have isAlternative : other ∈ (compositionKeywords.filterMap node.member?).flatMap (·.items) :=
    List.mem_flatMap.2 ⟨alternatives, List.mem_filterMap.2 ⟨keyword, composes, found⟩, mem⟩
  simp only [Uses, uses, member?_eq_none direct]
  exact List.mem_append_right _ isAlternative

/-- A schema of a document uses schemas of the document. -/
theorem Within.of_uses (h : root.Within node) (uses : root.Uses node other) :
    root.Within other := by
  unfold Uses Node.uses at uses
  split at uses
  · rename_i reference link
    cases found : SchemaClasses.resolve root reference with
    | error failure =>
      rw [found] at uses
      cases uses
    | ok target =>
      rw [found] at uses
      obtain rfl : other = target := List.mem_singleton.1 uses
      exact .resolve found
  · cases uses
  · rcases List.mem_append.1 uses with uses | uses
    · rcases List.mem_append.1 uses with uses | uses
      · obtain ⟨properties, found, uses⟩ := List.mem_flatMap.1 uses
        obtain ⟨member, mem, rfl⟩ := List.mem_map.1 uses
        exact (h.member? (Option.mem_toList.1 found)).members mem
      · obtain ⟨key, -, found⟩ := List.mem_filterMap.1 uses
        exact h.member? found
    · obtain ⟨alternatives, isPart, mem⟩ := List.mem_flatMap.1 uses
      obtain ⟨keyword, -, found⟩ := List.mem_filterMap.1 isPart
      exact (h.member? found).items mem

end

end Node

/-! ## Chains of references -/

/-- The end of a chain of references is what the last reference of it designates. -/
structure Resolved.IsOf (root : Node) (resolved : Resolved) (reference : String) : Prop where
  link : ∃ node, root.Within node ∧ node.value.member? "$ref" = some (.string reference)
  found : resolve root reference = .ok resolved.target
  pointer : resolved.pointer = Pointer.canonical reference

theorem isLocal_of_resolve {root target : Node} {reference : String}
    (found : resolve root reference = .ok target) : Pointer.isLocal reference := by
  unfold resolve at found
  split at found
  · assumption
  · cases found

/-- References to the same pointer within a document are resolved to the same node. -/
theorem resolve_congr {root : Node} {reference reference' : String}
    (isLocal : Pointer.isLocal reference) (isLocal' : Pointer.isLocal reference')
    (same : Pointer.canonical reference = Pointer.canonical reference') {target : Node}
    (found : resolve root reference = .ok target) : resolve root reference' = .ok target := by
  unfold resolve at found ⊢
  rw [if_pos isLocal']
  rw [if_pos isLocal, same] at found
  obtain ⟨target?, walked, found⟩ := Except.bind_eq_ok_iff.1 found
  refine Except.bind_eq_ok_iff.2 ⟨target?, walked, ?_⟩
  cases target? with
  | none => cases found
  | some target => exact found

/-- A chain that is followed leads over references of the document, the last of which designates the
target. -/
theorem followFrom_refers {root node : Node} {fuel : Nat} {pointer : String} {seen : List String}
    {resolved : Resolved} (h : root.Within node) (isReference : node.has "$ref")
    (found : followFrom root fuel pointer seen node = .ok resolved) :
    Relation.TransGen root.Refers node resolved.target ∧
      ∃ reference, resolved.IsOf root reference := by
  induction fuel generalizing pointer seen node with
  | zero => cases found
  | succ fuel ih =>
    unfold followFrom at found
    split at found
    · rename_i last
      simp [Node.has, last] at isReference
    · rename_i reference link
      simp only at found
      split at found
      · cases found
      · obtain ⟨target, htarget, found⟩ := Except.bind_eq_ok_iff.1 found
        have step : root.Refers node target := .of_resolve link htarget
        by_cases more : target.has "$ref"
        · obtain ⟨rest, last⟩ := ih (.resolve htarget) more found
          exact ⟨.head step rest, last⟩
        · have next : referencePointer reference = Pointer.canonical reference :=
            if_pos (isLocal_of_resolve htarget)
          cases fuel with
          | zero => cases found
          | succ fuel =>
            rw [followFrom, Node.member?_eq_none more, next] at found
            cases found
            exact ⟨.single step, reference, ⟨node, h, link⟩, htarget, rfl⟩
    · obtain ⟨_, -, found⟩ := Except.bind_eq_ok_iff.1 found
      cases found

/-- A reference leads to the end of its chain by references alone. -/
theorem Node.Within.refers_of_follow {root node : Node} {resolved : Resolved}
    (h : root.Within node) (isReference : node.has "$ref")
    (found : SchemaClasses.follow root node = .ok resolved) :
    Relation.TransGen root.Refers node resolved.target ∧
      ∃ reference, resolved.IsOf root reference :=
  followFrom_refers h isReference found

/-- Usual references with the same plain pointer have the same target. -/
theorem Resolved.IsOf.target_eq {root : Node} {resolved resolved' : Resolved}
    {reference reference' : String} (h : resolved.IsOf root reference)
    (h' : resolved'.IsOf root reference') (plain : Pointer.isPlain reference)
    (plain' : Pointer.isPlain reference')
    (same : Pointer.canonical resolved.pointer = Pointer.canonical resolved'.pointer) :
    resolved.target = resolved'.target := by
  have isLocal := isLocal_of_resolve h.found
  have isLocal' := isLocal_of_resolve h'.found
  rw [h.pointer, h'.pointer, Pointer.canonical_canonical plain isLocal,
    Pointer.canonical_canonical plain' isLocal'] at same
  exact Except.ok.inj ((resolve_congr isLocal isLocal' same h.found).symm.trans h'.found)

end SchemaClasses
