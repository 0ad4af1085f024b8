import Mathlib.Data.List.Perm.Subperm
import SchemaClasses.Proofs.Document.Nodes

/-!
# Chains of references

A document has as many nodes as its value has parts, so that it holds finitely many references. A
chain of references that goes on without repeating one of them therefore comes to its end within the
fuel that `follow` gives it.

## Main definitions

* `Node.nodes`: all nodes below a node, itself included.
* `Node.pointers`: the pointers of the references in a document.

## Main statements

* `Node.Within.mem_nodes`: the nodes of a document are below its root.
* `follow_terminates`: following a reference never uses up its fuel.
-/

namespace SchemaClasses

/-! ## The list of nodes -/

namespace Node

mutual

def nodesAt (path : String) : Value → List Node
  | .array items => ⟨path, .array items⟩ :: itemNodesAt path 0 items
  | .object members => ⟨path, .object members⟩ :: memberNodesAt path members
  | value => [⟨path, value⟩]

def itemNodesAt (path : String) (index : Nat) : List Value → List Node
  | [] => []
  | item :: rest =>
    nodesAt (path ++ "/" ++ toString index) item ++ itemNodesAt path (index + 1) rest

def memberNodesAt (path : String) : List (String × Value) → List Node
  | [] => []
  | (key, value) :: rest =>
    nodesAt (path ++ "/" ++ Pointer.escapeSegment key) value ++ memberNodesAt path rest

end

def nodes (node : Node) : List Node := nodesAt node.path node.value

theorem self_mem_nodes (node : Node) : node ∈ node.nodes := by
  obtain ⟨path, value⟩ := node
  cases value <;> simp [nodes, nodesAt]

mutual

/-- A value has as many nodes as its size. -/
theorem length_nodesAt (path : String) (value : Value) :
    (nodesAt path value).length = value.size := by
  cases value with
  | array items =>
    simp only [nodesAt, List.length_cons, length_itemNodesAt path 0 items, Value.size]
    omega
  | object members =>
    simp only [nodesAt, List.length_cons, length_memberNodesAt path members, Value.size]
    omega
  | _ => rfl

theorem length_itemNodesAt (path : String) (index : Nat) (items : List Value) :
    (itemNodesAt path index items).length = Value.sizeItems items := by
  cases items with
  | nil => rfl
  | cons item rest =>
    simp [itemNodesAt, Value.sizeItems, length_nodesAt _ item, length_itemNodesAt path _ rest]

theorem length_memberNodesAt (path : String) (members : List (String × Value)) :
    (memberNodesAt path members).length = Value.sizeMembers members := by
  cases members with
  | nil => rfl
  | cons member rest =>
    obtain ⟨key, value⟩ := member
    simp [memberNodesAt, Value.sizeMembers, length_nodesAt _ value, length_memberNodesAt path rest]

end

theorem length_nodes (node : Node) : node.nodes.length = node.value.size :=
  length_nodesAt node.path node.value

mutual

/-- All nodes below a listed node are listed. -/
theorem nodes_subset_nodesAt {path : String} {value : Value} {node : Node}
    (h : node ∈ nodesAt path value) : node.nodes ⊆ nodesAt path value := by
  cases value with
  | array items =>
    rcases List.mem_cons.1 h with rfl | h
    · exact List.Subset.refl _
    · exact List.subset_cons_of_subset _ (nodes_subset_itemNodesAt h)
  | object members =>
    rcases List.mem_cons.1 h with rfl | h
    · exact List.Subset.refl _
    · exact List.subset_cons_of_subset _ (nodes_subset_memberNodesAt h)
  | _ =>
    obtain rfl := List.mem_singleton.1 h
    exact List.Subset.refl _

/-- All nodes below an item are listed with the items. -/
theorem nodes_subset_itemNodesAt {path : String} {index : Nat} {items : List Value} {node : Node}
    (h : node ∈ itemNodesAt path index items) : node.nodes ⊆ itemNodesAt path index items := by
  cases items with
  | nil => cases h
  | cons item rest =>
    rcases List.mem_append.1 h with h | h
    · exact List.subset_append_of_subset_left _ (nodes_subset_nodesAt h)
    · exact List.subset_append_of_subset_right _ (nodes_subset_itemNodesAt h)

/-- All nodes below a member are listed with the members. -/
theorem nodes_subset_memberNodesAt {path : String} {members : List (String × Value)} {node : Node}
    (h : node ∈ memberNodesAt path members) : node.nodes ⊆ memberNodesAt path members := by
  cases members with
  | nil => cases h
  | cons member rest =>
    obtain ⟨key, value⟩ := member
    rcases List.mem_append.1 h with h | h
    · exact List.subset_append_of_subset_left _ (nodes_subset_nodesAt h)
    · exact List.subset_append_of_subset_right _ (nodes_subset_memberNodesAt h)

end

theorem itemNode_mem_itemNodesAt {path : String} {index start : Nat} {items : List Value}
    {value : Value} (found : items[index]? = some value) :
    ⟨path ++ "/" ++ toString (start + index), value⟩ ∈ itemNodesAt path start items := by
  induction items generalizing index start with
  | nil => cases found
  | cons item rest ih =>
    cases index with
    | zero =>
      cases found
      exact List.mem_append_left _ (self_mem_nodes ⟨_, value⟩)
    | succ index =>
      rw [show start + (index + 1) = start + 1 + index by omega]
      exact List.mem_append_right _ (ih found)

theorem memberNode_mem_memberNodesAt {path key : String} {members : List (String × Value)}
    {value : Value} (mem : (key, value) ∈ members) :
    ⟨path ++ "/" ++ Pointer.escapeSegment key, value⟩ ∈ memberNodesAt path members := by
  induction members with
  | nil => cases mem
  | cons member rest ih =>
    obtain ⟨k, v⟩ := member
    rcases List.mem_cons.1 mem with h | h
    · cases h
      exact List.mem_append_left _ (self_mem_nodes ⟨_, value⟩)
    · exact List.mem_append_right _ (ih h)

theorem memberNode_mem_nodes {node : Node} {key : String} {value : Value}
    (mem : (key, value) ∈ node.value.members) : ⟨node.memberPath key, value⟩ ∈ node.nodes := by
  obtain ⟨path, whole⟩ := node
  cases whole with
  | object members => exact List.mem_cons_of_mem _ (memberNode_mem_memberNodesAt mem)
  | _ => cases mem

theorem itemNode_mem_nodes {node : Node} {index : Nat} {value : Value}
    (found : node.value.items[index]? = some value) :
    ⟨node.itemPath index, value⟩ ∈ node.nodes := by
  obtain ⟨path, whole⟩ := node
  cases whole with
  | array items =>
    have mem : ⟨path ++ "/" ++ toString (0 + index), value⟩ ∈ itemNodesAt path 0 items :=
      itemNode_mem_itemNodesAt found
    rw [Nat.zero_add] at mem
    exact List.mem_cons_of_mem _ mem
  | _ => cases found

/-- The nodes of a document are the ones below its root. -/
theorem Within.mem_nodes {root node : Node} (h : Within root node) : node ∈ root.nodes := by
  induction h with
  | root => exact self_mem_nodes root
  | member _ mem ih => exact nodes_subset_nodesAt ih (memberNode_mem_nodes mem)
  | item _ found ih => exact nodes_subset_nodesAt ih (itemNode_mem_nodes found)

mutual

/-- The listed nodes are nodes of the document. -/
theorem within_of_mem_nodesAt {root node : Node} {path : String} {value : Value}
    (outer : Within root ⟨path, value⟩) (h : node ∈ nodesAt path value) : Within root node := by
  cases value with
  | array items =>
    rcases List.mem_cons.1 h with rfl | h
    · exact outer
    · have item (index : Nat) (item : Value) (found : items[index]? = some item) :
          Within root ⟨path ++ "/" ++ toString (0 + index), item⟩ := by
        rw [Nat.zero_add]
        exact .item outer found
      exact within_of_mem_itemNodesAt item h
  | object members =>
    rcases List.mem_cons.1 h with rfl | h
    · exact outer
    · exact within_of_mem_memberNodesAt (fun key member mem => .member outer mem) h
  | _ =>
    obtain rfl := List.mem_singleton.1 h
    exact outer

theorem within_of_mem_itemNodesAt {root node : Node} {path : String} {start : Nat}
    {items : List Value}
    (outer : ∀ index item, items[index]? = some item →
      Within root ⟨path ++ "/" ++ toString (start + index), item⟩)
    (h : node ∈ itemNodesAt path start items) : Within root node := by
  cases items with
  | nil => cases h
  | cons item rest =>
    rcases List.mem_append.1 h with h | h
    · exact within_of_mem_nodesAt (outer 0 item rfl) h
    · refine within_of_mem_itemNodesAt (fun index item found => ?_) h
      rw [Nat.add_right_comm]
      exact outer (index + 1) item found

theorem within_of_mem_memberNodesAt {root node : Node} {path : String}
    {members : List (String × Value)}
    (outer : ∀ key value, (key, value) ∈ members →
      Within root ⟨path ++ "/" ++ Pointer.escapeSegment key, value⟩)
    (h : node ∈ memberNodesAt path members) : Within root node := by
  cases members with
  | nil => cases h
  | cons member rest =>
    obtain ⟨key, value⟩ := member
    rcases List.mem_append.1 h with h | h
    · exact within_of_mem_nodesAt (outer key value List.mem_cons_self) h
    · exact within_of_mem_memberNodesAt
        (fun key value mem => outer key value (List.mem_cons_of_mem _ mem)) h

end

theorem mem_nodes_iff {root node : Node} : node ∈ root.nodes ↔ Within root node :=
  ⟨within_of_mem_nodesAt .root, Within.mem_nodes⟩

end Node

/-! ## Sizes -/

namespace Value

theorem size_pos (value : Value) : 0 < value.size := by
  cases value <;> simp only [size] <;> omega

theorem size_le_sizeItems {items : List Value} {item : Value} (mem : item ∈ items) :
    item.size ≤ sizeItems items := by
  induction items with
  | nil => cases mem
  | cons first rest ih =>
    rcases List.mem_cons.1 mem with rfl | mem
    · exact Nat.le_add_right _ _
    · exact Nat.le_trans (ih mem) (Nat.le_add_left _ _)

theorem size_le_sizeMembers {members : List (String × Value)} {member : String × Value}
    (mem : member ∈ members) : member.2.size ≤ sizeMembers members := by
  induction members with
  | nil => cases mem
  | cons first rest ih =>
    rcases List.mem_cons.1 mem with rfl | mem
    · exact Nat.le_add_right _ _
    · exact Nat.le_trans (ih mem) (Nat.le_add_left _ _)

theorem size_lt_of_mem_items {value item : Value} (mem : item ∈ value.items) :
    item.size < value.size := by
  cases value with
  | array items =>
    have le : item.size ≤ sizeItems items := size_le_sizeItems mem
    simp only [size]
    omega
  | _ => cases mem

theorem size_lt_of_mem_members {value : Value} {member : String × Value}
    (mem : member ∈ value.members) : member.2.size < value.size := by
  cases value with
  | object members =>
    have le : member.2.size ≤ sizeMembers members := size_le_sizeMembers mem
    simp only [size]
    omega
  | _ => cases mem

end Value

namespace Node

theorem size_lt_of_member? {node member : Node} {key : String}
    (found : node.member? key = some member) : member.value.size < node.value.size := by
  obtain ⟨value, hvalue, rfl⟩ := Option.map_eq_some_iff.1 found
  exact Value.size_lt_of_mem_members (mem_of_lookup hvalue)

theorem size_lt_of_mem_items {node item : Node} (mem : item ∈ node.items) :
    item.value.size < node.value.size := by
  obtain ⟨index, hindex, rfl⟩ := List.mem_mapIdx.1 mem
  exact Value.size_lt_of_mem_items (List.getElem_mem hindex)

theorem Within.size_le {root node : Node} (h : Within root node) :
    node.value.size ≤ root.value.size := by
  induction h with
  | root => exact Nat.le_refl _
  | member _ mem ih => exact Nat.le_trans (Nat.le_of_lt (Value.size_lt_of_mem_members mem)) ih
  | item _ found ih =>
    exact Nat.le_trans (Nat.le_of_lt (Value.size_lt_of_mem_items (List.mem_of_getElem? found))) ih

def pointer? (node : Node) : Option String :=
  ((node.value.member? "$ref").bind (·.string?)).map referencePointer

def pointers (root : Node) : List String := root.nodes.filterMap pointer?

theorem length_pointers_le (root : Node) : root.pointers.length ≤ root.value.size :=
  Nat.le_trans (List.length_filterMap_le _ _) (Nat.le_of_eq root.length_nodes)

theorem Within.mem_pointers {root node : Node} {reference : String} (h : Within root node)
    (found : node.value.member? "$ref" = some (.string reference)) :
    referencePointer reference ∈ root.pointers :=
  List.mem_filterMap.2 ⟨node, h.mem_nodes, by simp [pointer?, found, Value.string?]⟩

end Node

/-! ## Chains of references -/

/-- The failure of a recursion that has used up its fuel: a cycle without a reason. Cycles that are
found have one. -/
def Failure.isExhausted : Failure → Bool
  | .cyclicReference _ reason => reason.isEmpty
  | _ => false

/-- Digits that are no index do not denote a number. -/
theorem readIndex_error {text : List Char} {failure : Failure}
    (h : readIndex text = .error failure) : ∃ problem, failure = .invalidValue problem := by
  unfold readIndex readInteger at h
  simp only at h
  split at h
  · cases h
    exact ⟨_, rfl⟩
  · split at h
    · cases h
      exact ⟨_, rfl⟩
    · cases h

theorem readIndex_failure {text : List Char} {failure : Failure}
    (h : readIndex text = .error failure) : failure.isExhausted = false := by
  obtain ⟨problem, rfl⟩ := readIndex_error h
  rfl

/-- A segment fails by an index that cannot be read, never for want of fuel. -/
theorem child?_failure {node : Node} {segment : String} {failure : Failure}
    (h : node.child? segment = .error failure) : failure.isExhausted = false := by
  unfold Node.child? at h
  split at h
  · cases h
  · simp only at h
    split at h
    · rcases Except.bind_eq_error_iff.1 h with h | ⟨_, -, h⟩
      · exact readIndex_failure h
      · cases h
    · cases h
  · cases h

theorem walk?_failure {node : Node} {segments : List String} {failure : Failure}
    (h : node.walk? segments = .error failure) : failure.isExhausted = false := by
  induction segments generalizing node with
  | nil => cases h
  | cons segment rest ih =>
    rcases Except.bind_eq_error_iff.1 h with h | ⟨next?, -, h⟩
    · exact child?_failure h
    · cases next? with
      | none => cases h
      | some next => exact ih h

theorem resolve_failure {root : Node} {reference : String} {failure : Failure}
    (h : resolve root reference = .error failure) : failure.isExhausted = false := by
  unfold resolve at h
  split at h
  · rcases Except.bind_eq_error_iff.1 h with h | ⟨target?, -, h⟩
    · exact walk?_failure h
    · cases target? <;> cases h
      rfl
  · cases h
    rfl

/-- A chain that has met some pointers goes on for at most as many steps as there are others. -/
theorem followFrom_terminates {root node : Node} {fuel : Nat} (pointer : String)
    {seen : List String} (h : root.Within node) (nodup : seen.Nodup)
    (sub : seen ⊆ root.pointers) (enough : root.pointers.length < fuel + seen.length) :
    (∀ extra, followFrom root (fuel + extra) pointer seen node =
      followFrom root fuel pointer seen node) ∧
      ∀ failure, followFrom root fuel pointer seen node = .error failure →
        failure.isExhausted = false := by
  induction fuel generalizing pointer seen node with
  | zero =>
    have := (nodup.subperm sub).length_le
    omega
  | succ fuel ih =>
    have next {reference : String} {target : Node}
        (found : node.value.member? "$ref" = some (.string reference))
        (fresh : referencePointer reference ∉ seen)
        (hresolve : resolve root reference = .ok target) := by
      let next := referencePointer reference
      have nodup' : (seen ++ [next]).Nodup := List.nodup_append.2 ⟨nodup, by simp, by grind⟩
      have sub' : seen ++ [next] ⊆ root.pointers :=
        List.append_subset.2 ⟨sub, by simpa using h.mem_pointers found⟩
      have enough' : root.pointers.length < fuel + (seen ++ [next]).length := by
        simp only [List.length_append, List.length_singleton]
        omega
      exact ih next (.resolve hresolve) nodup' sub' enough'
    constructor
    · intro extra
      rw [Nat.add_right_comm]
      unfold followFrom
      split
      · rfl
      · rename_i reference found
        simp only
        split
        · rfl
        · rename_i fresh
          cases hresolve : resolve root reference with
          | error failure => rfl
          | ok target => exact (next found fresh hresolve).1 extra
      · rfl
    · intro failure hfail
      unfold followFrom at hfail
      split at hfail
      · cases hfail
      · rename_i reference found
        simp only at hfail
        split at hfail
        · cases hfail
          simp [Failure.isExhausted]
        · rename_i fresh
          rcases Except.bind_eq_error_iff.1 hfail with hfail | ⟨target, hresolve, hfail⟩
          · exact resolve_failure hfail
          · exact (next found fresh hresolve).2 failure hfail
      · rcases Except.bind_eq_error_iff.1 hfail with hfail | ⟨_, -, hfail⟩
        · unfold Value.writable at hfail
          split at hfail <;> cases hfail
          rfl
        · cases hfail
          rfl

/-- The pointer at which a chain ends is that of a reference in the document. -/
theorem followFrom_pointer {root node : Node} {fuel : Nat} {pointer : String} {seen : List String}
    {resolved : Resolved} (h : root.Within node)
    (met : pointer ∈ root.pointers ∨ node.has "$ref")
    (found : followFrom root fuel pointer seen node = .ok resolved) :
    resolved.pointer ∈ root.pointers := by
  induction fuel generalizing pointer seen node with
  | zero => cases found
  | succ fuel ih =>
    unfold followFrom at found
    split at found
    · rename_i last
      cases found
      exact met.resolve_right (by simp [Node.has, last])
    · rename_i reference link
      simp only at found
      split at found
      · cases found
      · obtain ⟨target, htarget, found⟩ := Except.bind_eq_ok_iff.1 found
        exact ih (.resolve htarget) (.inl (h.mem_pointers link)) found
    · obtain ⟨_, -, found⟩ := Except.bind_eq_ok_iff.1 found
      cases found

/-- The pointer at the end of a chain is that of a reference in the document. -/
theorem Node.Within.pointer_of_follow {root node : Node} {resolved : Resolved}
    (h : root.Within node) (isReference : node.has "$ref")
    (found : SchemaClasses.follow root node = .ok resolved) : resolved.pointer ∈ root.pointers :=
  followFrom_pointer h (.inr isReference) found

/-- Following a reference comes to an end: more fuel changes nothing, and what stops it is never the
end of the fuel. -/
theorem follow_terminates {root node : Node} (h : root.Within node) :
    (∀ fuel, root.value.size + 2 ≤ fuel → followFrom root fuel "" [] node = follow root node) ∧
      ∀ failure, follow root node = .error failure → failure.isExhausted = false := by
  have enough : root.pointers.length < root.value.size + 2 + ([] : List String).length := by
    have := root.length_pointers_le
    simp only [List.length_nil]
    omega
  obtain ⟨more, proper⟩ :=
    followFrom_terminates "" h List.nodup_nil (List.nil_subset _) enough
  refine ⟨fun fuel le => ?_, proper⟩
  obtain ⟨extra, rfl⟩ := Nat.exists_eq_add_of_le le
  exact more extra

end SchemaClasses
