import Mathlib.Data.List.Nodup
import SchemaClasses.Proofs.Document.Designation
import SchemaClasses.Proofs.Text.Percent

/-!
# Paths as addresses

The path of a node is its address in the document. No two nodes have the same path, and the path of
a node, written as a reference in any way, designates the node again. Only the path of a member the
key of which is empty may not do so: it ends in a slash, which is dropped from a reference.

## Main definitions

* `Pointer.pieces`: the written segments of a path.
* `Value.IsDocument`: a value that is read as a document.
* `IsAddress`: a path designates a node, whether it is percent-encoded or not.

## Main statements

* `Node.nodup_nodes_path`: the nodes of a document have different paths.
* `Node.Within.walk?_path`: the segments of its path lead to a node.
* `Value.IsDocument.addresses`: paths are addresses of their nodes.
-/

namespace SchemaClasses

/-! ## Pieces of paths -/

namespace Pointer

/-- The segments of a path as they are written, and what stands before the first slash. -/
def pieces (path : String) : List (List Char) := Text.splitAt '/' path.toList

variable {path segment : String}

theorem pieces_append (path : String) (free : '/' ∉ segment.toList) :
    pieces (path ++ "/" ++ segment) = pieces path ++ [segment.toList] := by
  have whole : (path ++ "/" ++ segment).toList = path.toList ++ '/' :: segment.toList := by simp
  rw [pieces, whole, Text.splitAt_append, Text.splitAt_of_notMem free, pieces]

theorem pieces_ne_nil (path : String) : pieces path ≠ [] := by
  obtain ⟨first, others, pieces_eq, -⟩ := Text.exists_splitAt_eq '/' path.toList
  simp [pieces, pieces_eq]

theorem segments_append (path : String) (free : '/' ∉ segment.toList) :
    segments (path ++ "/" ++ segment) = segments path ++ [unescapeSegment segment.toList] := by
  change ((pieces _).tail.map _) = (pieces path).tail.map _ ++ _
  rw [pieces_append path free, List.tail_append_of_ne_nil (pieces_ne_nil path), List.map_append,
    List.map_singleton]

theorem unescapeSegment_escapeSegment (key : String) :
    unescapeSegment (escapeSegment key).toList = key := by
  simp [unescapeSegment, escapeSegment, unescapeChars_escapeChars]

theorem unescapeChars_of_notMem {chars : List Char} (free : '~' ∉ chars) :
    unescapeChars chars = chars := by
  fun_induction unescapeChars chars <;> simp_all

theorem unescapeSegment_toString (n : Nat) : unescapeSegment (toString n).toList = toString n := by
  have free : '~' ∉ (toString n).toList :=
    fun mem => absurd (isDigit_of_mem_toString mem) (by decide)
  rw [unescapeSegment, unescapeChars_of_notMem free, String.ofList_toList]

end Pointer

/-! ## Paths of different nodes -/

namespace Node

open Pointer

mutual

/-- The path of a node begins with that of every node that it is below of. -/
theorem pieces_prefix_of_mem_nodesAt {path : String} {value : Value} {node : Node}
    (h : node ∈ nodesAt path value) : pieces path <+: pieces node.path := by
  cases value with
  | array items =>
    rcases List.mem_cons.1 h with rfl | h
    · exact List.prefix_rfl
    · obtain ⟨i, -, below⟩ := pieces_prefix_of_mem_itemNodesAt h
      exact (List.prefix_append _ _).trans below
  | object members =>
    rcases List.mem_cons.1 h with rfl | h
    · exact List.prefix_rfl
    · obtain ⟨key, -, below⟩ := pieces_prefix_of_mem_memberNodesAt h
      exact (List.prefix_append _ _).trans below
  | _ =>
    obtain rfl := List.mem_singleton.1 h
    exact List.prefix_rfl

/-- The pieces of a path below an item begin with those of the array and the index. -/
theorem pieces_prefix_of_mem_itemNodesAt {path : String} {start : Nat} {items : List Value}
    {node : Node} (h : node ∈ itemNodesAt path start items) :
    ∃ index, start ≤ index ∧ pieces path ++ [(toString index).toList] <+: pieces node.path := by
  cases items with
  | nil => cases h
  | cons item rest =>
    rcases List.mem_append.1 h with h | h
    · refine ⟨start, Nat.le_refl start, ?_⟩
      rw [← pieces_append path (slash_notMem_toString start)]
      exact pieces_prefix_of_mem_nodesAt h
    · obtain ⟨index, le, below⟩ := pieces_prefix_of_mem_itemNodesAt h
      exact ⟨index, Nat.le_of_succ_le le, below⟩

/-- The pieces of a path below a member begin with those of the object and the key. -/
theorem pieces_prefix_of_mem_memberNodesAt {path : String} {members : List (String × Value)}
    {node : Node} (h : node ∈ memberNodesAt path members) :
    ∃ key ∈ members.map (·.1),
      pieces path ++ [(escapeSegment key).toList] <+: pieces node.path := by
  cases members with
  | nil => cases h
  | cons member rest =>
    obtain ⟨key, value⟩ := member
    rcases List.mem_append.1 h with h | h
    · refine ⟨key, List.mem_cons_self, ?_⟩
      rw [← pieces_append path (slash_notMem_escapeSegment key)]
      exact pieces_prefix_of_mem_nodesAt h
    · obtain ⟨other, mem, below⟩ := pieces_prefix_of_mem_memberNodesAt h
      exact ⟨other, List.mem_cons_of_mem _ mem, below⟩

end

/-- A list that goes on after another one in two ways does so with the same element. -/
theorem eq_of_prefix_append_singleton {α : Type} {before all : List α} {a b : α}
    (ha : before ++ [a] <+: all) (hb : before ++ [b] <+: all) : a = b := by
  have same := (List.prefix_of_prefix_length_le ha hb (by simp)).eq_of_length (by simp)
  simpa using same

/-- Nodes that are below another one by different segments have different paths. -/
theorem nodup_append_path {before : List (List Char)} {segment : List Char}
    {first others : List Node} (nodup : (first.map (·.path)).Nodup)
    (nodup' : (others.map (·.path)).Nodup)
    (below : ∀ node ∈ first, before ++ [segment] <+: pieces node.path)
    (beside : ∀ node ∈ others, ∃ other ≠ segment, before ++ [other] <+: pieces node.path) :
    ((first ++ others).map (·.path)).Nodup := by
  rw [List.map_append, List.nodup_append']
  refine ⟨nodup, nodup', fun path here there => ?_⟩
  obtain ⟨node, mem, rfl⟩ := List.mem_map.1 here
  obtain ⟨node', mem', same⟩ := List.mem_map.1 there
  obtain ⟨other, ne, begins⟩ := beside node' mem'
  exact ne (eq_of_prefix_append_singleton (same ▸ begins) (below node mem))

/-- A list does not begin with itself and something after it. -/
theorem not_prefix_append_singleton {α : Type} (list : List α) (a : α) : ¬list ++ [a] <+: list :=
  fun h => by simpa using h.length_le

theorem pieces_prefix_of_mem_below {path segment : String} (free : '/' ∉ segment.toList)
    {value : Value} : ∀ node ∈ nodesAt (path ++ "/" ++ segment) value,
      pieces path ++ [segment.toList] <+: pieces node.path := by
  intro node mem
  rw [← pieces_append path free]
  exact pieces_prefix_of_mem_nodesAt mem

mutual

/-- No two nodes below a value have the same path, by induction on the value. -/
theorem nodup_nodesAt_path (path : String) {value : Value} (distinct : value.distinctKeys) :
    ((nodesAt path value).map (·.path)).Nodup := by
  cases value with
  | array items =>
    refine List.nodup_cons.2 ⟨fun mem => ?_,
      nodup_itemNodesAt_path path 0 ((Value.distinctKeys_array items).1 distinct)⟩
    obtain ⟨node, below, same⟩ := List.mem_map.1 mem
    obtain ⟨index, -, begins⟩ := pieces_prefix_of_mem_itemNodesAt below
    exact not_prefix_append_singleton _ _ (same ▸ begins)
  | object members =>
    obtain ⟨keys, values⟩ := (Value.distinctKeys_object members).1 distinct
    refine List.nodup_cons.2 ⟨fun mem => ?_, nodup_memberNodesAt_path path keys values⟩
    obtain ⟨node, below, same⟩ := List.mem_map.1 mem
    obtain ⟨key, -, begins⟩ := pieces_prefix_of_mem_memberNodesAt below
    exact not_prefix_append_singleton _ _ (same ▸ begins)
  | _ => exact List.nodup_singleton path

theorem nodup_itemNodesAt_path (path : String) (start : Nat) {items : List Value}
    (distinct : ∀ item ∈ items, item.distinctKeys) :
    ((itemNodesAt path start items).map (·.path)).Nodup := by
  cases items with
  | nil => exact List.nodup_nil
  | cons item rest =>
    obtain ⟨first, others⟩ := List.forall_mem_cons.1 distinct
    refine nodup_append_path (nodup_nodesAt_path _ first) (nodup_itemNodesAt_path path _ others)
      (pieces_prefix_of_mem_below (slash_notMem_toString start)) fun node mem => ?_
    obtain ⟨index, later, begins⟩ := pieces_prefix_of_mem_itemNodesAt mem
    refine ⟨_, fun texts => ?_, begins⟩
    have numbers : index = start := Nat.repr_injective (String.toList_inj.1 texts)
    omega

theorem nodup_memberNodesAt_path (path : String) {members : List (String × Value)}
    (keys : (members.map (·.1)).Nodup) (distinct : ∀ member ∈ members, member.2.distinctKeys) :
    ((memberNodesAt path members).map (·.path)).Nodup := by
  cases members with
  | nil => exact List.nodup_nil
  | cons member rest =>
    obtain ⟨key, value⟩ := member
    obtain ⟨first, others⟩ := List.forall_mem_cons.1 distinct
    obtain ⟨fresh, more⟩ := List.nodup_cons.1 keys
    refine nodup_append_path (nodup_nodesAt_path _ first)
      (nodup_memberNodesAt_path path more others)
      (pieces_prefix_of_mem_below (slash_notMem_escapeSegment key)) fun node mem => ?_
    obtain ⟨other, mem, begins⟩ := pieces_prefix_of_mem_memberNodesAt mem
    refine ⟨_, fun texts => fresh ?_, begins⟩
    have names : other = key := escapeSegment_inj (String.toList_inj.1 texts)
    exact names ▸ mem

end

/-- The nodes of a document have different paths. -/
theorem nodup_nodes_path {root : Node} (distinct : root.value.distinctKeys) :
    (root.nodes.map (·.path)).Nodup :=
  nodup_nodesAt_path root.path distinct

end Node

/-! ## The node at a path -/

/-- A value that is read as a document: no object has a key twice, and the index of each item of an
array can be written. -/
structure Value.IsDocument (value : Value) : Prop where
  distinct : value.distinctKeys
  writable : ∀ node ∈ (Node.ofValue value).nodes, ∀ index < node.value.items.length,
    isWritableInteger index

namespace Node

open Pointer

variable {root node : Node}

theorem segments_memberPath (node : Node) (key : String) :
    segments (node.memberPath key) = segments node.path ++ [key] := by
  rw [memberPath, segments_append _ (slash_notMem_escapeSegment key), unescapeSegment_escapeSegment]

theorem segments_itemPath (node : Node) (index : Nat) :
    segments (node.itemPath index) = segments node.path ++ [toString index] := by
  rw [itemPath, segments_append _ (slash_notMem_toString index), unescapeSegment_toString]

/-- A member is the child under its key, since no other member has that key. -/
theorem child?_member (distinct : node.value.distinctKeys) {key : String} {value : Value}
    (mem : (key, value) ∈ node.value.members) :
    node.child? key = .ok (some ⟨node.memberPath key, value⟩) := by
  obtain ⟨path, whole⟩ := node
  cases whole with
  | object members =>
    have isMember : members.lookup key ≠ none := by
      simp only [ne_eq, List.lookup_eq_none_iff]
      exact fun absent => by simpa using absent _ mem
    obtain ⟨found, hfound⟩ := Option.ne_none_iff_exists'.1 isMember
    obtain rfl := eq_of_mem_of_nodup (Value.nodup_keys_of_distinctKeys distinct)
      (mem_of_lookup hfound) mem
    simp [child?, member?, Value.member?, Value.members, hfound]
  | _ => cases mem

/-- An item is the child under its index, if this can be written. -/
theorem child?_item {index : Nat} (writable : isWritableInteger index) {value : Value}
    (found : node.value.items[index]? = some value) :
    node.child? (toString index) = .ok (some ⟨node.itemPath index, value⟩) := by
  obtain ⟨path, whole⟩ := node
  cases whole with
  | array items =>
    have writes := Text.writes_toString index
    have found : items[index]? = some value := found
    rw [child?_array writes.1 writes.forall_isDigit, readIndex_toString writable]
    simp [Except.map, found]
  | _ => cases found

/-- A walk goes on with one more segment. -/
theorem walk?_concat {next : Node} {segments : List String}
    (found : node.walk? segments = .ok (some next)) (segment : String) :
    node.walk? (segments ++ [segment]) = next.child? segment := by
  induction segments generalizing node with
  | nil =>
    cases found
    change (next.child? segment).bind _ = _
    rcases next.child? segment with failure | (_ | child) <;> rfl
  | cons first rest ih =>
    obtain ⟨next?, step, found⟩ := Except.bind_eq_ok_iff.1 found
    rw [List.cons_append, walk?, step]
    cases next? with
    | none => cases found
    | some next => exact ih found

/-- The segments of its path lead from the root of a document to a node. -/
theorem Within.walk?_path {value : Value} (doc : value.IsDocument)
    (h : (ofValue value).Within node) :
    (ofValue value).walk? (segments node.path) = .ok (some node) := by
  induction h with
  | root => rfl
  | @member outer key value within mem ih =>
    have distinct := within.distinctKeys doc.distinct
    rw [segments_memberPath, walk?_concat ih, child?_member distinct mem]
  | @item outer index value within found ih =>
    have inside := (List.getElem?_eq_some_iff.1 found).1
    have writable := doc.writable outer within.mem_nodes index inside
    rw [segments_itemPath, walk?_concat ih, child?_item writable found]

/-- The path of a node below the root begins with a slash. -/
theorem Within.head?_path (top : root.path = "") (h : root.Within node) :
    node = root ∨ node.path.toList.head? = some '/' := by
  have more {path segment : String} (begins : path = "" ∨ path.toList.head? = some '/') :
      (path ++ "/" ++ segment).toList.head? = some '/' := by
    rcases begins with rfl | begins <;> simp_all
  have outer {node : Node} (h : node = root ∨ node.path.toList.head? = some '/') :
      node.path = "" ∨ node.path.toList.head? = some '/' :=
    h.imp_left fun eq => (congrArg Node.path eq).trans top
  induction h with
  | root => exact .inl rfl
  | member _ _ ih => exact .inr (more (outer ih))
  | item _ _ ih => exact .inr (more (outer ih))

end Node

namespace Pointer

/-- The plain pointer of a reference that writes a path without a slash at its end. -/
theorem canonical_of_decoded {reference path : String} (writes : decoded reference = path.toList)
    (ending : path = "/" ∨ path.toList.getLast? ≠ some '/') : canonical reference = path := by
  rw [canonical_eq, writes]
  split
  · exact String.ofList_toList
  · rename_i other
    have last : path.toList.getLast? ≠ some '/' := by
      refine ending.resolve_left ?_
      rintro rfl
      exact other rfl
    rw [dropTrailingSlashes_eq_iff.2 ⟨last, 0, by simp⟩, String.ofList_toList]

/-- The last segment of the path of a member is its key. -/
theorem tail_memberPath (node : Node) {key : String} (nonempty : key ≠ "") :
    tail (node.memberPath key) = key := by
  have written : (escapeSegment key).toList ≠ [] := fun empty =>
    nonempty (escapeSegment_inj (String.toList_inj.1 empty))
  have last : (node.memberPath key).toList.getLast? ≠ some '/' := by
    have ending : (node.memberPath key).toList.getLast? = (escapeSegment key).toList.getLast? := by
      rw [Node.memberPath, String.toList_append, List.getLast?_append_of_ne_nil _ written]
    rw [ending]
    exact fun slash => slash_notMem_escapeSegment key (List.mem_of_getLast? slash)
  have kept : dropTrailingSlashes (node.memberPath key).toList = (node.memberPath key).toList :=
    dropTrailingSlashes_eq_iff.2 ⟨last, 0, by simp⟩
  have split : Text.splitAt '/' (node.memberPath key).toList =
      pieces node.path ++ [(escapeSegment key).toList] :=
    pieces_append node.path (slash_notMem_escapeSegment key)
  rw [tail, kept, split, List.getLastD_concat, unescapeSegment_escapeSegment]

end Pointer

/-! ## Addresses -/

/-- A path is an address of a node: as a reference it is resolved to the node, and so it is when it
stands, percent-encoded, after a number sign. -/
structure IsAddress (root : Node) (path : String) (node : Node) : Prop where
  plain : resolve root path = .ok node
  encoded : ∀ encoded, Text.PercentEncodes path.toList encoded →
    resolve root ("#" ++ String.ofList encoded) = .ok node

open Pointer

/-- The nodes of a document have different paths. The path of a node below the root is an address
of it, if it is a single slash or does not end in one, and its last segment is the key of a member
that has a name. -/
theorem Value.IsDocument.addresses {value : Value} (doc : value.IsDocument) :
    ((Node.ofValue value).nodes.map (·.path)).Nodup ∧
      (∀ node ∈ (Node.ofValue value).nodes, node ≠ Node.ofValue value →
        node.path = "/" ∨ node.path.toList.getLast? ≠ some '/' →
        IsAddress (Node.ofValue value) node.path node) ∧
      ∀ outer ∈ (Node.ofValue value).nodes, ∀ key member, outer.member? key = some member →
        key ≠ "" → Pointer.tail member.path = key := by
  refine ⟨Node.nodup_nodes_path doc.distinct, fun node mem below ending => ?_,
    fun outer _ key member found nonempty => ?_⟩
  · have within := Node.mem_nodes_iff.1 mem
    have slash := (within.head?_path rfl).resolve_left below
    -- Every reference that is decoded to the path leads along its segments.
    have designates {reference : String} (isLocal : isLocal reference)
        (writes : decoded reference = node.path.toList) :
        resolve (Node.ofValue value) reference = .ok node := by
      rw [resolve, if_pos isLocal, canonical_of_decoded writes ending, within.walk?_path doc]
      rfl
    refine ⟨designates (isLocal_iff.2 (.inr slash)) (decoded_of_head (by simp [slash])),
      fun encoded written => designates (isLocal_iff.2 (.inl ?_)) ?_⟩
    · simp
    · simpa [decoded] using Text.percentDecode_of_percentEncodes written
  · rw [Node.path_of_member? found, tail_memberPath outer nonempty]

/-- A document with keys of slashes, tildes and percent signs, a key that is empty and one that is
not ASCII. -/
def oddKeys : Value :=
  .object [("", .int 1), ("~/%", .object [("", .null), ("é", .array [.bool true, .null])])]

/-- The addresses of odd keys, the percent sign and the letter that is not ASCII being encoded. -/
theorem Value.IsDocument.addresses_oddKeys :
    oddKeys.IsDocument ∧
      resolve (.ofValue oddKeys) "/" = .ok ⟨"/", .int 1⟩ ∧
      resolve (.ofValue oddKeys) "#/~0~1%25/%c3%A9/1" = .ok ⟨"/~0~1%/é/1", .null⟩ ∧
      Pointer.tail "/~0~1%/é" = "é" := by
  have doc : oddKeys.IsDocument := ⟨by decide +kernel, by decide +kernel⟩
  have encodes : Text.PercentEncodes "/~0~1%/é/1".toList "/~0~1%25/%c3%A9/1".toList := by
    have percent : Text.WritesBytes (Text.utf8Bytes '%') ['%', '2', '5'] :=
      .cons (h := 2) (l := 5) rfl rfl .nil
    have letter : Text.WritesBytes (Text.utf8Bytes 'é') ['%', 'c', '3', '%', 'A', '9'] :=
      .cons (h := 12) (l := 3) rfl rfl (.cons (h := 10) (l := 9) rfl rfl .nil)
    have rest : Text.PercentEncodes "/é/1".toList "/%c3%A9/1".toList :=
      .plain (by decide) (.bytes letter (.plain (by decide) (.plain (by decide) .nil)))
    exact .plain (by decide) (.plain (by decide) (.plain (by decide) (.plain (by decide)
      (.plain (by decide) (.bytes percent rest)))))
  obtain ⟨-, addresses, tails⟩ := Value.IsDocument.addresses doc
  refine ⟨doc, ?_, ?_, ?_⟩
  · exact (addresses ⟨"/", .int 1⟩ (by decide +kernel) (by decide +kernel) (.inl rfl)).plain
  · exact (addresses ⟨"/~0~1%/é/1", .null⟩ (by decide +kernel) (by decide +kernel)
      (.inr (by decide +kernel))).encoded _ encodes
  · exact tails ⟨"/~0~1%", .object [("", .null), ("é", .array [.bool true, .null])]⟩
      (by decide +kernel) "é" ⟨"/~0~1%/é", .array [.bool true, .null]⟩ (by decide +kernel)
      (by decide)

end SchemaClasses
