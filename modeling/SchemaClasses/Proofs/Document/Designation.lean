import SchemaClasses.Proofs.Decidable
import SchemaClasses.Proofs.Document.Cycles
import SchemaClasses.Proofs.Number.Index
import SchemaClasses.Proofs.Text.Split

/-!
# What a reference designates

A reference into a document writes its root, as a number sign, or a sequence of segments with a
slash before each, percent-encoded if a number sign stands first. The segments lead from the root,
by the names of members and the numbers of items, to the node that the reference designates.

A reference is resolved to what it designates, with two exceptions. A number sign may be followed by
something else than a slash; everything before the first slash is then ignored. And a segment that
leads nowhere may be taken for a number which cannot be read.

## Main definitions

* `Node.Leads`: the node that a sequence of segments leads to.
* `Node.Stops`: a sequence of segments leads to an array and on by digits that cannot be read.
* `Pointer.Spells`: the segments that a text writes.
* `Designates`: the node that a reference designates.
* `ResolvesAsWritten`: a reference is resolved to what it designates.

## Main statements

* `Node.walk?_cases`: what a walk along a sequence of segments gives.
* `Pointer.spells_iff`: each text that begins with a slash writes one sequence of segments.
* `resolvesAsWritten_iff`: the references that are resolved to what they designate.
-/

namespace SchemaClasses

/-! ## Walks -/

namespace Node

/-- One segment leads from a node to another: a member by its name, an item by its number. -/
inductive IsChild (node : Node) (segment : String) : Node → Prop
  | member {child : Node} (found : node.member? segment = some child) : IsChild node segment child
  | item {index : Nat} {value : Value} (numeral : Text.Writes segment.toList index)
      (found : node.value.items[index]? = some value) :
      IsChild node segment ⟨node.itemPath index, value⟩

inductive Leads : Node → List String → Node → Prop
  | here (node : Node) : Leads node [] node
  | step {node next target : Node} {segment : String} {rest : List String}
      (first : node.IsChild segment next) (more : Leads next rest target) :
      Leads node (segment :: rest) target

/-- A sequence of segments leads from a node to an array, and goes on with digits that cannot be
read. -/
inductive Stops : Node → List String → Prop
  | here {node : Node} {segment : String} {rest : List String} (isArray : node.isArray)
      (unreadable : Text.IsUnreadable segment.toList) : Stops node (segment :: rest)
  | step {node next : Node} {segment : String} {rest : List String}
      (first : node.IsChild segment next) (more : Stops next rest) : Stops node (segment :: rest)

section

variable {node child target : Node} {segment : String} {segments : List String}

theorem isChild_object {path : String} {members : List (String × Value)} :
    IsChild ⟨path, .object members⟩ segment child ↔
      Node.member? ⟨path, .object members⟩ segment = some child := by
  constructor
  · rintro (found | ⟨-, found⟩)
    · exact found
    · cases found
  · exact .member

/-- The items of an array are its children, each under a text that writes its index. -/
theorem isChild_array {path : String} {items : List Value} :
    IsChild ⟨path, .array items⟩ segment child ↔
      ∃ index, Text.Writes segment.toList index ∧
        items[index]?.map (⟨itemPath ⟨path, .array items⟩ index, ·⟩) = some child := by
  constructor
  · rintro (found | ⟨numeral, found⟩)
    · cases found
    · exact ⟨_, numeral, Option.map_eq_some_iff.2 ⟨_, found, rfl⟩⟩
  · rintro ⟨index, numeral, found⟩
    obtain ⟨value, hvalue, rfl⟩ := Option.map_eq_some_iff.1 found
    exact .item numeral hvalue

theorem isDigits_iff :
    (!segment.toList.isEmpty && segment.toList.all Text.isDigit) = true ↔
      segment.toList ≠ [] ∧ ∀ c ∈ segment.toList, Text.isDigit c := by
  rw [Bool.and_eq_true, Bool.not_eq_true', List.isEmpty_eq_false_iff, List.all_eq_true]

theorem child?_array {path : String} {items : List Value} (nonempty : segment.toList ≠ [])
    (digits : ∀ c ∈ segment.toList, Text.isDigit c) :
    child? ⟨path, .array items⟩ segment =
      (readIndex segment.toList).map fun index =>
        items[index]?.map (⟨itemPath ⟨path, .array items⟩ index, ·⟩) :=
  if_pos (isDigits_iff.2 ⟨nonempty, digits⟩)

theorem child?_array_of_not {path : String} {items : List Value}
    (other : ¬(segment.toList ≠ [] ∧ ∀ c ∈ segment.toList, Text.isDigit c)) :
    child? ⟨path, .array items⟩ segment = .ok none :=
  if_neg (mt isDigits_iff.1 other)

/-- One step goes where its segment leads, unless it stops at digits that cannot be read. -/
theorem child?_cases (node : Node) (segment : String) :
    (node.isArray ∧ Text.IsUnreadable segment.toList ∧
        ∃ problem, node.child? segment = .error (.invalidValue problem)) ∨
      (¬(node.isArray ∧ Text.IsUnreadable segment.toList) ∧
        ∃ found, node.child? segment = .ok found ∧
          ∀ child, found = some child ↔ node.IsChild segment child) := by
  obtain ⟨path, value⟩ := node
  cases value with
  | object members =>
    exact .inr ⟨by simp [isArray, Value.isArray], _, rfl, fun child => isChild_object.symm⟩
  | array items =>
    by_cases digits : segment.toList ≠ [] ∧ ∀ c ∈ segment.toList, Text.isDigit c
    · rw [child?_array digits.1 digits.2]
      rcases readIndex_cases digits.1 digits.2 with
        ⟨readable, n, read, numeral⟩ | ⟨unreadable, problem, read⟩
      · rw [read]
        refine .inr ⟨fun h => readable h.2, _, rfl, fun child => ?_⟩
        rw [isChild_array]
        exact ⟨fun found => ⟨n, numeral, found⟩, fun ⟨index, numeral', found⟩ =>
          numeral.unique numeral' ▸ found⟩
      · exact .inl ⟨rfl, unreadable, problem, by rw [read]; rfl⟩
    · rw [child?_array_of_not digits]
      refine .inr ⟨fun h => digits ⟨h.2.1, h.2.2.1⟩, none, rfl, fun child => ?_⟩
      rw [isChild_array]
      exact ⟨nofun, fun ⟨index, numeral, _⟩ => absurd ⟨numeral.1, numeral.forall_isDigit⟩ digits⟩
  | _ =>
    refine .inr ⟨by simp [isArray, Value.isArray], none, rfl, fun child => ⟨nofun, fun h => ?_⟩⟩
    rcases h with found | ⟨-, found⟩ <;> cases found

theorem leads_cons :
    node.Leads (segment :: segments) target ↔
      ∃ next, node.IsChild segment next ∧ next.Leads segments target :=
  ⟨fun | .step first more => ⟨_, first, more⟩, fun ⟨_, first, more⟩ => .step first more⟩

/-- A walk is stopped at an array, there or further on. -/
theorem stops_cons :
    node.Stops (segment :: segments) ↔
      (node.isArray ∧ Text.IsUnreadable segment.toList) ∨
        ∃ next, node.IsChild segment next ∧ next.Stops segments :=
  ⟨fun | .here isArray unreadable => .inl ⟨isArray, unreadable⟩
       | .step first more => .inr ⟨_, first, more⟩,
    fun | .inl ⟨isArray, unreadable⟩ => .here isArray unreadable
        | .inr ⟨_, first, more⟩ => .step first more⟩

/-- A walk goes where its segments lead, unless it stops at digits that cannot be read. -/
theorem walk?_cases (node : Node) (segments : List String) :
    (node.Stops segments ∧ ∃ problem, node.walk? segments = .error (.invalidValue problem)) ∨
      (¬node.Stops segments ∧ ∃ found, node.walk? segments = .ok found ∧
        ∀ target, found = some target ↔ node.Leads segments target) := by
  induction segments generalizing node with
  | nil =>
    refine .inr ⟨nofun, some node, rfl, fun target => ⟨?_, fun h => ?_⟩⟩
    · rintro ⟨⟩
      exact .here node
    · cases h
      rfl
  | cons segment rest ih =>
    have step : node.walk? (segment :: rest) = (node.child? segment).bind fun found =>
      found.elim (.ok none) (·.walk? rest) := by
        rw [walk?]
        exact bind_congr fun found => by cases found <;> rfl
    rw [step]
    rcases child?_cases node segment with
      ⟨isArray, unreadable, problem, stopped⟩ | ⟨free, found, went, leads⟩
    · exact .inl ⟨.here isArray unreadable, problem, by rw [stopped]; rfl⟩
    simp only [went, Except.bind, leads_cons, stops_cons, free, false_or, ← leads]
    cases found with
    | none => simp
    | some next => simpa using ih next

end

end Node

/-! ## Written references -/

namespace Pointer

/-- What a reference writes: what follows a number sign is percent-encoded. -/
def decoded (reference : String) : List Char :=
  match reference.toList with
  | '#' :: encoded => Text.percentDecode encoded
  | plain => plain

/-- A text writes segments, with a slash before each and any number of slashes after the last one,
which is not empty. The single slash writes one segment, which is. -/
inductive Spells : List Char → List String → Prop
  | slash : Spells ['/'] [""]
  | segments (written : List (List Char)) (slashes : Nat) (apart : ∀ s ∈ written, '/' ∉ s)
      (last : written.getLast? ≠ some [])
      (more : written.flatMap ('/' :: ·) ++ List.replicate slashes '/' ≠ ['/']) :
      Spells (written.flatMap ('/' :: ·) ++ List.replicate slashes '/')
        (written.map unescapeSegment)

/-- A number sign with something after it that does not begin with a slash. -/
def IsSlashless (reference : String) : Prop :=
  reference.toList.head? = some '#' ∧ reference ≠ "#" ∧ (decoded reference).head? ≠ some '/'

/-- A text is cut at its end where it has slashes only, and as many as it has. -/
theorem dropTrailingSlashes_eq_iff {text kept : List Char} :
    dropTrailingSlashes text = kept ↔
      kept.getLast? ≠ some '/' ∧ ∃ slashes, text = kept ++ List.replicate slashes '/' := by
  change text.rdropWhile (· = '/') = kept ↔ _
  constructor
  · rintro rfl
    have ending : text.rtakeWhile (· = '/') = List.replicate _ '/' :=
      List.eq_replicate_of_mem fun c mem => by simpa using List.mem_rtakeWhile_imp mem
    refine ⟨fun last => ?_, _, by rw [← ending, List.rdropWhile_append_rtakeWhile]⟩
    obtain ⟨before, eq⟩ := List.getLast?_eq_some_iff.1 last
    have nonempty : text.rdropWhile (· = '/') ≠ [] := by simp [eq]
    exact List.rdropWhile_last_not _ _ nonempty (by simp [eq])
  · rintro ⟨last, slashes, rfl⟩
    induction slashes with
    | zero =>
      rw [List.replicate_zero, List.append_nil, List.rdropWhile_eq_self_iff]
      intro nonempty slash
      exact last (by rw [List.getLast?_eq_getLast_of_ne_nil nonempty]; simpa using slash)
    | succ slashes ih =>
      rw [List.replicate_succ', ← List.append_assoc, List.rdropWhile_concat_pos _ _ _ (by simp), ih]

/-- The segments that a text writes end in a slash when the last one is empty. -/
theorem getLast?_flatMap_slash {written : List (List Char)} (apart : ∀ s ∈ written, '/' ∉ s) :
    (written.flatMap ('/' :: ·)).getLast? = some '/' ↔ written.getLast? = some [] := by
  rcases written.eq_nil_or_concat with rfl | ⟨before, last, rfl⟩
  · simp
  · rw [List.concat_eq_append, List.forall_mem_append] at apart
    rcases last.eq_nil_or_concat with rfl | ⟨chars, c, rfl⟩
    · simp
    · have other : c ≠ '/' := by
        rintro rfl
        exact apart.2 _ (List.mem_singleton_self _) (by simp)
      simp [List.getLast?_append, List.getLast?_cons, other]

/-- A text that begins with a slash writes one sequence of segments. -/
theorem spells_iff {text : List Char} (slash : text.head? = some '/') {names : List String} :
    Spells text names ↔ names =
      segments (String.ofList (if text = ['/'] then text else dropTrailingSlashes text)) := by
  constructor
  · rintro (_ | ⟨written, slashes, apart, last, more⟩)
    · decide
    · have kept := dropTrailingSlashes_eq_iff.2
        ⟨mt (getLast?_flatMap_slash apart).1 last, slashes, rfl⟩
      have pieces := Text.splitAt_append_flatMap (List.forall_mem_cons.2 ⟨List.not_mem_nil, apart⟩)
      rw [List.nil_append] at pieces
      rw [if_neg more, segments, kept, String.toList_ofList, pieces, List.tail_cons]
  · rintro rfl
    split
    · rename_i single
      rw [single]
      exact .slash
    · rename_i more
      obtain ⟨last, slashes, eq⟩ := (@dropTrailingSlashes_eq_iff text _).1 rfl
      obtain ⟨first, written, pieces, whole, apart⟩ :=
        Text.exists_splitAt_eq '/' (dropTrailingSlashes text)
      have first_nil : first = [] := by
        cases first with
        | nil => rfl
        | cons c rest =>
          rw [eq, ← whole] at slash
          have isSlash : c = '/' := by simpa using slash
          exact absurd (apart (c :: rest) List.mem_cons_self) (by simp [isSlash])
      subst first_nil
      rw [List.nil_append] at whole
      have isLast : written.getLast? ≠ some [] :=
        mt (getLast?_flatMap_slash (List.forall_mem_cons.1 apart).2).2 (whole ▸ last)
      have spelled := Spells.segments written slashes (List.forall_mem_cons.1 apart).2 isLast
        (by rwa [whole, ← eq])
      rw [whole, ← eq] at spelled
      simpa [segments, pieces] using spelled

theorem canonical_eq (reference : String) :
    canonical reference = String.ofList
      (if decoded reference = ['/'] then decoded reference
        else dropTrailingSlashes (decoded reference)) := by
  change (if decoded reference = ['/'] then "/" else _) = _
  split
  · rename_i slash
    rw [slash]
  · rfl

theorem isLocal_iff {reference : String} :
    isLocal reference ↔
      reference.toList.head? = some '#' ∨ reference.toList.head? = some '/' := by
  unfold isLocal
  cases reference.toList with
  | nil => simp
  | cons c rest => split <;> simp_all

theorem decoded_of_head {reference : String} (h : reference.toList.head? ≠ some '#') :
    decoded reference = reference.toList := by
  unfold decoded
  split <;> simp_all

theorem IsSlashless.isLocal {reference : String} (h : IsSlashless reference) :
    isLocal reference :=
  isLocal_iff.2 (.inl h.1)

end Pointer

open Pointer

/-! ## Designation -/

/-- A reference designates a node: the number sign the root, and other references the node that
their segments lead to. -/
def Designates (root : Node) (reference : String) (node : Node) : Prop :=
  (reference = "#" ∧ node = root) ∨
    ((decoded reference).head? = some '/' ∧
      ∃ names, Spells (decoded reference) names ∧ root.Leads names node)

/-- A reference is resolved to what it designates, and is unresolved if it designates nothing. -/
structure ResolvesAsWritten (root : Node) (reference : String) : Prop where
  designated : ∀ node, resolve root reference = .ok node ↔ Designates root reference node
  unresolved : (∀ node, ¬Designates root reference node) →
    ∃ reason, resolve root reference = .error (.unresolvedReference reference reason)

section

variable {root node : Node} {reference : String}

/-- References to other documents designate nothing. -/
theorem Designates.isLocal (h : Designates root reference node) : isLocal reference := by
  rw [isLocal_iff]
  rcases h with ⟨rfl, -⟩ | ⟨slash, -⟩
  · decide
  · by_cases sign : reference.toList.head? = some '#'
    · exact .inl sign
    · exact .inr (decoded_of_head sign ▸ slash)

theorem not_designates_of_isSlashless (h : IsSlashless reference) :
    ¬Designates root reference node := by
  rintro (⟨whole, -⟩ | ⟨slash, -⟩)
  · exact h.2.1 whole
  · exact h.2.2 slash

/-- Other references into the document designate what their segments lead to. -/
theorem designates_iff (isLocal : isLocal reference) (h : ¬IsSlashless reference) :
    Designates root reference node ↔ root.Leads (segments (canonical reference)) node := by
  by_cases whole : reference = "#"
  · subst whole
    have noSegments : segments (canonical "#") = [] := by decide +kernel
    have noSlash : (decoded "#").head? ≠ some '/' := by decide +kernel
    simp only [Designates, noSlash, noSegments, true_and, false_and, or_false]
    exact ⟨fun eq => eq ▸ .here root, fun | .here _ => rfl⟩
  · have slash : (decoded reference).head? = some '/' := by
      by_contra noSlash
      rcases isLocal_iff.1 isLocal with sign | first
      · exact h ⟨sign, whole, noSlash⟩
      · exact noSlash (by rw [decoded_of_head (by simp [first]), first])
    simp [Designates, whole, slash, spells_iff slash, canonical_eq]

/-- A reference into the document is resolved to what its segments lead to, unless they stop at
digits that cannot be read. -/
theorem resolve_cases (root : Node) (isLocal : isLocal reference) :
    (root.Stops (segments (canonical reference)) ∧
        ∃ problem, resolve root reference = .error (.invalidValue problem)) ∨
      (¬root.Stops (segments (canonical reference)) ∧
        (∀ node, resolve root reference = .ok node ↔
          root.Leads (segments (canonical reference)) node) ∧
        ((∀ node, ¬root.Leads (segments (canonical reference)) node) →
          resolve root reference = .error (.unresolvedReference reference ""))) := by
  have walk : resolve root reference =
      (root.walk? (segments (canonical reference))).bind fun found =>
        found.elim (.error (.unresolvedReference reference "")) .ok := by
    rw [resolve, if_pos isLocal]
    exact bind_congr fun found => by cases found <;> rfl
  rw [walk]
  rcases root.walk?_cases (segments (canonical reference)) with
    ⟨stops, problem, stopped⟩ | ⟨free, found, went, leads⟩
  · exact .inl ⟨stops, problem, by rw [stopped]; rfl⟩
  · refine .inr ⟨free, ?_⟩
    simp only [went, Except.bind, ← leads]
    cases found <;> simp

end

/-- References are resolved to what they designate, unless something other than a slash follows the
number sign and the segments after it lead somewhere, or the segments lead to an array and on by
digits that cannot be read. -/
theorem resolvesAsWritten_iff (root : Node) (reference : String) :
    ResolvesAsWritten root reference ↔
      ¬(IsSlashless reference ∧ ∃ node, root.Leads (segments (canonical reference)) node) ∧
        ¬(isLocal reference ∧ root.Stops (segments (canonical reference))) := by
  by_cases isLocal : isLocal reference
  · rcases resolve_cases root isLocal with ⟨stops, problem, stopped⟩ | ⟨free, found, missing⟩
    · -- The failure is of another kind than the one that is promised.
      refine ⟨fun h => ?_, fun h => absurd ⟨isLocal, stops⟩ h.2⟩
      by_cases designated : ∃ node, Designates root reference node
      · obtain ⟨node, designated⟩ := designated
        simp [(h.designated node).2 designated] at stopped
      · obtain ⟨reason, unresolved⟩ := h.unresolved (not_exists.1 designated)
        simp [unresolved] at stopped
    by_cases slashless : IsSlashless reference
    · have nothing (node : Node) : ¬Designates root reference node :=
        not_designates_of_isSlashless slashless
      refine ⟨fun h => ⟨fun ⟨_, node, leads⟩ => ?_, fun h => free h.2⟩, fun ⟨nowhere, _⟩ => ?_⟩
      · exact nothing node ((h.designated node).1 ((found node).2 leads))
      · have nowhere (node : Node) : ¬root.Leads (segments (canonical reference)) node :=
          fun leads => nowhere ⟨slashless, node, leads⟩
        exact ⟨fun node => by simp [found, nowhere, nothing], fun _ => ⟨"", missing nowhere⟩⟩
    · have same (node : Node) : Designates root reference node ↔
          root.Leads (segments (canonical reference)) node := designates_iff isLocal slashless
      refine ⟨fun _ => ⟨fun h => slashless h.1, fun h => free h.2⟩, fun _ => ⟨?_, ?_⟩⟩
      · exact fun node => (found node).trans (same node).symm
      · exact fun nothing => ⟨"", missing fun node leads => nothing node ((same node).2 leads)⟩
  · have external : resolve root reference =
        .error (.unresolvedReference reference "external documents are not supported") :=
      if_neg isLocal
    refine ⟨fun _ => ⟨fun h => isLocal h.1.isLocal, fun h => isLocal h.1⟩, fun _ => ⟨?_, ?_⟩⟩
    · exact fun node => ⟨fun h => by simp [external] at h, fun h => absurd h.isLocal isLocal⟩
    · exact fun _ => ⟨_, external⟩

/-- A name after the number sign designates nothing, but the reference is resolved to the root. -/
theorem not_resolvesAsWritten_name : ¬ResolvesAsWritten (.ofValue (.object [])) "#name" := by
  intro h
  have slashless : IsSlashless "#name" := by unfold IsSlashless; decide +kernel
  have found : resolve (.ofValue (.object [])) "#name" = .ok (.ofValue (.object [])) := by
    decide +kernel
  exact not_designates_of_isSlashless slashless ((h.designated _).1 found)

end SchemaClasses
