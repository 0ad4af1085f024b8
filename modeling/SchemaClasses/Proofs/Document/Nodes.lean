import Mathlib.Data.List.Basic
import Std.Data.String.ToNat
import SchemaClasses.Document.Reference
import SchemaClasses.Proofs.Outcome
import SchemaClasses.Proofs.Text.Split
import SchemaClasses.Proofs.Value.DistinctKeys

/-!
# The nodes of a document

A node lies within a document when it is reached from the root by steps to members and items. Its
path spells these steps out, so that a path names at most one node, provided that no object has a
key twice.

## Main definitions

* `Node.Within`: the nodes of a document.

## Main statements

* `Node.Within.eq_of_path`: nodes of a document with the same path are the same.
* `Node.Within.follow`: references lead to nodes of the document.
-/

namespace SchemaClasses

/-! ## Segments of paths -/

namespace Pointer

theorem unescapeChars_escapeChars (segment : List Char) :
    unescapeChars (escapeChars segment) = segment := by
  induction segment with
  | nil => rfl
  | cons c rest ih =>
    by_cases tilde : c = '~'
    · simpa [escapeChars, tilde, unescapeChars] using ih
    · by_cases slash : c = '/'
      · simpa [escapeChars, slash, unescapeChars] using ih
      · have step : escapeChars (c :: rest) = c :: escapeChars rest := by
          simp [escapeChars, tilde, slash]
        rw [step, unescapeChars, ih] <;> exact fun _ h => absurd h tilde

theorem slash_notMem_escapeChars (segment : List Char) : '/' ∉ escapeChars segment := by
  intro h
  obtain ⟨c, -, hc⟩ := List.mem_flatMap.1 h
  grind

theorem escapeSegment_inj {a b : String} (h : escapeSegment a = escapeSegment b) : a = b := by
  have hchars : escapeChars a.toList = escapeChars b.toList := by
    simpa [escapeSegment] using congrArg String.toList h
  have hlist := congrArg unescapeChars hchars
  rw [unescapeChars_escapeChars, unescapeChars_escapeChars] at hlist
  exact String.toList_inj.1 hlist

theorem slash_notMem_escapeSegment (segment : String) : '/' ∉ (escapeSegment segment).toList := by
  simpa [escapeSegment] using slash_notMem_escapeChars segment.toList

/-- The text of a number has digits only. -/
theorem isDigit_of_mem_toString {n : Nat} {c : Char} (h : c ∈ (toString n).toList) : c.isDigit := by
  have digits : (toString n).toList = Nat.toDigits 10 n := by simp [Nat.toList_repr]
  exact Nat.isDigit_of_mem_toDigits (by decide) (by decide) (digits ▸ h)

theorem slash_notMem_toString (n : Nat) : '/' ∉ (toString n).toList :=
  fun h => absurd (isDigit_of_mem_toString h) (by decide)

end Pointer

/-! ## Nodes -/

namespace Node

/-- The nodes of a document: its root, and the members and items of its nodes. -/
inductive Within (root : Node) : Node → Prop
  | root : Within root root
  | member {node : Node} {key : String} {value : Value} (outer : Within root node)
      (mem : (key, value) ∈ node.value.members) : Within root ⟨node.memberPath key, value⟩
  | item {node : Node} {index : Nat} {value : Value} (outer : Within root node)
      (found : node.value.items[index]? = some value) : Within root ⟨node.itemPath index, value⟩

theorem memberPath_inj {a b : Node} {key other : String}
    (h : a.memberPath key = b.memberPath other) : a.path = b.path ∧ key = other := by
  obtain ⟨path, segment⟩ := Text.append_segment_inj (Pointer.slash_notMem_escapeSegment key)
    (Pointer.slash_notMem_escapeSegment other) h
  exact ⟨path, Pointer.escapeSegment_inj segment⟩

theorem itemPath_inj {a b : Node} {index other : Nat} (h : a.itemPath index = b.itemPath other) :
    a.path = b.path ∧ index = other := by
  obtain ⟨path, segment⟩ := Text.append_segment_inj (Pointer.slash_notMem_toString index)
    (Pointer.slash_notMem_toString other) h
  exact ⟨path, Nat.repr_injective segment⟩

theorem path_eq_of_memberPath_eq_itemPath {a b : Node} {key : String} {index : Nat}
    (h : a.memberPath key = b.itemPath index) : a.path = b.path :=
  (Text.append_segment_inj (Pointer.slash_notMem_escapeSegment key)
    (Pointer.slash_notMem_toString index) h).1

theorem notMem_members_of_items {value item : Value} {member : String × Value} {index : Nat}
    (found : value.items[index]? = some item) : member ∉ value.members := by
  cases value with
  | array items => exact List.not_mem_nil
  | _ => cases found

theorem memberPath_ne_empty (node : Node) (key : String) : node.memberPath key ≠ "" := by
  intro h
  simpa [memberPath] using congrArg String.toList h

theorem itemPath_ne_empty (node : Node) (index : Nat) : node.itemPath index ≠ "" := by
  intro h
  simpa [itemPath] using congrArg String.toList h

theorem path_of_member? {node member : Node} {key : String} (h : node.member? key = some member) :
    member.path = node.memberPath key := by
  obtain ⟨value, -, rfl⟩ := Option.map_eq_some_iff.1 h
  rfl

theorem path_of_mem_items {node item : Node} (h : item ∈ node.items) :
    ∃ index, item.path = node.itemPath index ∧ node.value.items[index]? = some item.value := by
  obtain ⟨index, inside, rfl⟩ := List.mem_mapIdx.1 h
  exact ⟨index, rfl, List.getElem?_eq_getElem inside⟩

/-- The items of an array have different paths. -/
theorem nodup_items_path (node : Node) : (node.items.map (·.path)).Nodup := by
  refine List.pairwise_iff_getElem.2 fun i j hi hj lt eq => ?_
  have same : node.itemPath i = node.itemPath j := by simpa [items] using eq
  exact absurd (itemPath_inj same).2 (Nat.ne_of_lt lt)

theorem has_of_member? {node member : Node} {key : String} (h : node.member? key = some member) :
    node.has key := by
  obtain ⟨value, found, -⟩ := Option.map_eq_some_iff.1 h
  simp [has, found]

namespace Within

variable {root : Node}

theorem distinctKeys (distinct : root.value.distinctKeys) {node : Node} (h : Within root node) :
    node.value.distinctKeys := by
  induction h with
  | root => exact distinct
  | member _ mem ih => exact Value.distinctKeys_of_mem_members ih mem
  | item _ found ih => exact Value.distinctKeys_of_mem_items ih (List.mem_of_getElem? found)

/-- A path names at most one node of a document. -/
theorem eq_of_path (distinct : root.value.distinctKeys) (top : root.path = "") {a b : Node}
    (ha : Within root a) (hb : Within root b) (h : a.path = b.path) : a = b := by
  induction ha generalizing b with
  | root =>
    cases hb with
    | root => rfl
    | member => exact absurd (h.symm.trans top) (memberPath_ne_empty _ _)
    | item => exact absurd (h.symm.trans top) (itemPath_ne_empty _ _)
  | member outer mem ih =>
    cases hb with
    | root => exact absurd (h.trans top) (memberPath_ne_empty _ _)
    | member outer' mem' =>
      obtain ⟨hpath, rfl⟩ := memberPath_inj h
      obtain rfl := ih outer' hpath
      have nodup := Value.nodup_keys_of_distinctKeys (outer.distinctKeys distinct)
      obtain rfl := eq_of_mem_of_nodup nodup mem mem'
      rfl
    | item outer' found =>
      obtain rfl := ih outer' (path_eq_of_memberPath_eq_itemPath h)
      exact absurd mem (notMem_members_of_items found)
  | item outer found ih =>
    cases hb with
    | root => exact absurd (h.trans top) (itemPath_ne_empty _ _)
    | member outer' mem =>
      obtain rfl := ih outer' (path_eq_of_memberPath_eq_itemPath h.symm).symm
      exact absurd mem (notMem_members_of_items found)
    | item outer' found' =>
      obtain ⟨hpath, rfl⟩ := itemPath_inj h
      obtain rfl := ih outer' hpath
      cases found.symm.trans found'
      rfl

theorem member? {node member : Node} {key : String} (h : Within root node)
    (found : node.member? key = some member) : Within root member := by
  obtain ⟨value, hvalue, rfl⟩ := Option.map_eq_some_iff.1 found
  exact .member h (mem_of_lookup hvalue)

theorem members {node : Node} {member : String × Node} (h : Within root node)
    (mem : member ∈ node.members) : Within root member.2 := by
  obtain ⟨entry, hentry, rfl⟩ := List.mem_map.1 mem
  exact .member h hentry

theorem items {node item : Node} (h : Within root node) (mem : item ∈ node.items) :
    Within root item := by
  obtain ⟨index, hindex, rfl⟩ := List.mem_mapIdx.1 mem
  exact .item h (List.getElem?_eq_getElem hindex)

theorem child? {node child : Node} {segment : String} (h : Within root node)
    (found : node.child? segment = .ok (some child)) : Within root child := by
  unfold Node.child? at found
  split at found
  · exact h.member? (Except.ok.inj found)
  · rename_i items hitems
    simp only at found
    split at found
    · obtain ⟨index, -, found⟩ := Except.bind_eq_ok_iff.1 found
      obtain ⟨value, hvalue, rfl⟩ := Option.map_eq_some_iff.1 (Except.ok.inj found)
      exact .item h (by rw [hitems]; exact hvalue)
    · cases found
  · cases found

theorem walk? {node target : Node} {segments : List String} (h : Within root node)
    (found : node.walk? segments = .ok (some target)) : Within root target := by
  induction segments generalizing node with
  | nil =>
    cases found
    exact h
  | cons segment rest ih =>
    simp only [Node.walk?, Except.bind_eq_ok_iff] at found
    obtain ⟨next?, hnext, found⟩ := found
    cases next? with
    | none => cases found
    | some next => exact ih (h.child? hnext) found

theorem resolve {reference : String} {target : Node} (h : resolve root reference = .ok target) :
    Within root target := by
  unfold SchemaClasses.resolve at h
  split at h
  · obtain ⟨target?, hwalk, h⟩ := Except.bind_eq_ok_iff.1 h
    cases target? with
    | none => cases h
    | some found =>
      cases h
      exact Within.root.walk? hwalk
  · cases h

theorem followFrom {fuel : Nat} {pointer : String} {seen : List String} {node : Node}
    {resolved : Resolved} (h : Within root node)
    (found : followFrom root fuel pointer seen node = .ok resolved) :
    Within root resolved.target := by
  induction fuel generalizing pointer seen node with
  | zero => cases found
  | succ fuel ih =>
    unfold SchemaClasses.followFrom at found
    split at found
    · cases found
      exact h
    · simp only at found
      split at found
      · cases found
      · obtain ⟨target, htarget, found⟩ := Except.bind_eq_ok_iff.1 found
        exact ih (.resolve htarget) found
    · obtain ⟨_, -, found⟩ := Except.bind_eq_ok_iff.1 found
      cases found

/-- References lead to nodes of the document. -/
theorem follow {node : Node} {resolved : Resolved} (h : Within root node)
    (found : follow root node = .ok resolved) : Within root resolved.target :=
  h.followFrom found

/-- The members of a container are nodes of the document. -/
theorem of_definitions {reference : String} {include? : Option (List String)}
    {entries : List Definition} {entry : Definition}
    (found : definitions root reference include? = .ok entries) (mem : entry ∈ entries) :
    Within root entry.node := by
  obtain ⟨container, hcontainer, found⟩ := Except.bind_eq_ok_iff.1 found
  split at found
  · cases found
  · cases found
    obtain ⟨member, hmember, rfl⟩ := List.mem_map.1 mem
    exact (Within.resolve hcontainer).members hmember

end Within

end Node

end SchemaClasses
