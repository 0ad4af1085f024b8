import SchemaClasses.Proofs.Document.Designation

/-!
# Following references

A node that has a reference refers to the node that the reference is resolved to, and so on along a
chain. The chain of a node ends at a node that has no reference, or breaks at a reference that is
none or is not resolved, or goes on forever.

A node is followed along its chain to the node where it ends. Where the chain breaks, so does
following it, with one exception: a reference that is not a string is reported with its value, and
an integer in it may be too long to be written.

## Main definitions

* `Node.RefersTo`, `Node.Chain`: the nodes that references lead to.
* `Node.Breaks`: a chain breaks at a node.
* `FollowsChain`: a node is followed as its chain says.

## Main statements

* `Node.Chain.endless`: a chain that meets a pointer again goes on forever.
* `followsChain_iff`: the nodes that are followed as their chains say.
-/

namespace SchemaClasses

open Pointer

/-- A usual reference points into the document if it is written as the plain pointer of another one
that does. -/
theorem isLocal_of_referencePointer {reference other : String} (plain : isPlain other)
    (isLocal' : isLocal other) (plain' : isPlain reference)
    (same : referencePointer reference = canonical other) : isLocal reference := by
  by_contra external
  rw [referencePointer, if_neg external] at same
  have begins : reference.toList.head?.all (· = '/') := same ▸ head?_canonical plain isLocal'
  cases chars : reference.toList with
  | nil => simp_all [isPlain]
  | cons c rest =>
    have slash : c = '/' := by simpa [chars] using begins
    exact external (isLocal_iff.2 (.inr (by simp [chars, slash])))

/-- Resolving fails over one reference, never over a cycle. -/
theorem resolve_ne_cyclicReference {root : Node} {reference : String} {failure : Failure}
    (failed : resolve root reference = .error failure) {pointer reason : String} :
    failure ≠ .cyclicReference pointer reason := by
  rintro rfl
  by_cases isLocal : isLocal reference
  · rcases resolve_cases root isLocal with ⟨-, problem, stopped⟩ | ⟨-, found, missing⟩
    · simp [stopped] at failed
    · have nowhere (node : Node) : ¬root.Leads (segments (canonical reference)) node :=
        fun leads => by simp [(found node).2 leads] at failed
      simp [missing nowhere] at failed
  · rw [resolve, if_neg isLocal] at failed
    cases failed

/-! ## Chains of references -/

namespace Node

structure RefersTo (root node : Node) (reference : String) (target : Node) : Prop where
  link : node.value.member? "$ref" = some (.string reference)
  found : resolve root reference = .ok target

inductive Chain (root : Node) : Node → List String → Node → Prop
  | here (node : Node) : Chain root node [] node
  | step {node next last : Node} {reference : String} {rest : List String}
      (first : root.RefersTo node reference next) (more : Chain root next rest last) :
      Chain root node (reference :: rest) last

def IsLast (root node : Node) : Prop := ∀ reference next, ¬root.RefersTo node reference next

def IsEndless (root node : Node) : Prop :=
  ∀ count, ∃ references last, references.length = count ∧ root.Chain node references last

/-- A chain breaks at a node: its reference is not resolved, or is not a string. -/
inductive Breaks (root node : Node) : Failure → Prop
  | unresolved {reference : String} {failure : Failure}
      (link : node.value.member? "$ref" = some (.string reference))
      (failed : resolve root reference = .error failure) : Breaks root node failure
  | notString {value : Value} (link : node.value.member? "$ref" = some value)
      (other : value.string? = none) :
      Breaks root node (.unresolvedReference value.plain
        ("$ref at " ++ node.pointer ++ " is not a string"))

section

variable {root node next last other : Node} {reference : String} {references others : List String}

theorem RefersTo.unique {target : Node} {reference' : String}
    (h : root.RefersTo node reference next) (h' : root.RefersTo node reference' target) :
    reference = reference' ∧ next = target := by
  obtain ⟨link, found⟩ := h
  obtain ⟨link', found'⟩ := h'
  obtain rfl : reference = reference' := by simpa [link] using link'
  exact ⟨rfl, Except.ok.inj (found.symm.trans found')⟩

theorem RefersTo.isLocal (h : root.RefersTo node reference next) : isLocal reference :=
  isLocal_of_resolve h.found

namespace Chain

theorem trans (h : root.Chain node references other) (h' : root.Chain other others last) :
    root.Chain node (references ++ others) last := by
  induction h with
  | here => exact h'
  | step first _ ih => exact .step first (ih h')

theorem single (h : root.RefersTo node reference next) : root.Chain node [reference] next :=
  .step h (.here next)

/-- A chain can be cut at any of its references. -/
theorem of_append (h : root.Chain node (references ++ others) last) :
    ∃ middle, root.Chain node references middle ∧ root.Chain middle others last := by
  induction references generalizing node with
  | nil => exact ⟨node, .here node, h⟩
  | cons reference rest ih =>
    cases h with
    | step first more =>
      obtain ⟨middle, before, after⟩ := ih more
      exact ⟨middle, .step first before, after⟩

theorem within (h : root.Chain node references last) (within : root.Within node) :
    root.Within last := by
  induction h with
  | here => exact within
  | step first _ ih => exact ih (.resolve first.found)

/-- A chain to a last node is as long as any other one. -/
theorem length_le (h : root.Chain node references last) (isLast : root.IsLast last)
    (h' : root.Chain node others other) : others.length ≤ references.length := by
  induction h generalizing others with
  | here =>
    cases h' with
    | here => exact Nat.le_refl _
    | step first => exact absurd first (isLast _ _)
  | step first _ ih =>
    cases h' with
    | here => exact Nat.zero_le _
    | step first' more' =>
      obtain ⟨rfl, rfl⟩ := first.unique first'
      exact Nat.succ_le_succ (ih isLast more')

/-- The references that lead to a last node, and the node, are determined. -/
theorem eq_of_isLast (h : root.Chain node references last) (isLast : root.IsLast last)
    (h' : root.Chain node others other) (isLast' : root.IsLast other) :
    references = others ∧ last = other := by
  induction h generalizing others with
  | here =>
    cases h' with
    | here => exact ⟨rfl, rfl⟩
    | step first => exact absurd first (isLast _ _)
  | step first _ ih =>
    cases h' with
    | here => exact absurd first (isLast' _ _)
    | step first' more' =>
      obtain ⟨rfl, rfl⟩ := first.unique first'
      obtain ⟨rfl, rfl⟩ := ih isLast more'
      exact ⟨rfl, rfl⟩

theorem not_isEndless (h : root.Chain node references last) (isLast : root.IsLast last) :
    ¬root.IsEndless node := by
  intro endless
  obtain ⟨others, other, length, chain⟩ := endless (references.length + 1)
  have := h.length_le isLast chain
  omega

/-- A chain has passed through a node after each count of its references. -/
theorem exists_take (h : root.Chain node references last) (count : Nat) :
    ∃ middle, root.Chain node (references.take count) middle := by
  rw [← List.take_append_drop count references] at h
  obtain ⟨middle, before, -⟩ := h.of_append
  exact ⟨middle, before⟩

/-- A chain that leads on forever does so from each node that it passes through. -/
theorem isEndless (h : root.Chain node references last) (endless : root.IsEndless last) :
    root.IsEndless node := by
  intro count
  obtain ⟨others, other, rfl, chain⟩ := endless count
  obtain ⟨middle, before⟩ := (h.trans chain).exists_take others.length
  exact ⟨_, middle, by simp, before⟩

/-- A chain that comes back to a node leads on forever. -/
theorem isEndless_of_loop (h : root.Chain node references node) (nonempty : references ≠ []) :
    root.IsEndless node := by
  have pos := List.length_pos_iff.2 nonempty
  have around (count : Nat) : ∃ others, count ≤ others.length ∧ root.Chain node others node := by
    induction count with
    | zero => exact ⟨[], Nat.le_refl 0, .here node⟩
    | succ count ih =>
      obtain ⟨others, long, chain⟩ := ih
      exact ⟨references ++ others, by simp; omega, h.trans chain⟩
  intro count
  obtain ⟨others, long, chain⟩ := around count
  obtain ⟨middle, before⟩ := chain.exists_take count
  exact ⟨others.take count, middle, by simpa using long, before⟩

end Chain

theorem isLast_of_member?_eq_none (h : node.value.member? "$ref" = none) : root.IsLast node :=
  fun _ _ refers => by simp [refers.link] at h

/-- A chain breaks at a node in one way only. -/
theorem Breaks.unique {failure failure' : Failure} (h : root.Breaks node failure)
    (h' : root.Breaks node failure') : failure = failure' := by
  rcases h with ⟨link, failed⟩ | ⟨link, isOther⟩ <;>
    rcases h' with ⟨link', failed'⟩ | ⟨link', isOther'⟩ <;>
      cases Option.some.inj (link.symm.trans link')
  · exact Except.error.inj (failed.symm.trans failed')
  · cases isOther'
  · cases isOther
  · rfl

theorem Breaks.ne_cyclicReference {failure : Failure} (h : root.Breaks node failure)
    (reference reason : String) : failure ≠ .cyclicReference reference reason := by
  rintro rfl
  obtain ⟨-, failed⟩ := h
  exact resolve_ne_cyclicReference failed rfl

theorem Breaks.member?_ne_none {failure : Failure} (h : root.Breaks node failure) :
    node.value.member? "$ref" ≠ none := by
  rcases h with ⟨link, -⟩ | ⟨link, -⟩ <;> simp [link]

theorem Breaks.isLast {failure : Failure} (h : root.Breaks node failure) : root.IsLast node := by
  intro reference next refers
  rcases h with ⟨link, failed⟩ | ⟨link, other⟩
  · obtain rfl : _ = reference := by simpa [refers.link] using link.symm
    simp [refers.found] at failed
  · obtain rfl := Option.some.inj (refers.link.symm.trans link)
    cases other

/-- A chain of usual references that meets a plain pointer again goes on forever, since references
with the same plain pointer designate the same node. -/
theorem Chain.isEndless_of_meets (plain : root.HasPlainReferences) (within : root.Within node)
    (h : root.Chain node references last)
    (link : last.value.member? "$ref" = some (.string reference))
    (meets : referencePointer reference ∈ references.map canonical) : root.IsEndless node := by
  obtain ⟨earlier, mem, same⟩ := List.mem_map.1 meets
  obtain ⟨before, after, rfl⟩ := List.append_of_mem mem
  obtain ⟨middle, first, more⟩ := h.of_append
  cases more with
  | @step _ next _ _ _ refers others =>
    have isPlain := plain _ _ (first.within within) refers.link
    have isPlain' := plain _ _ (h.within within) link
    have isLocal := isLocal_of_referencePointer isPlain refers.isLocal isPlain' same.symm
    have again : root.RefersTo last reference next := by
      refine ⟨link, resolve_congr refers.isLocal isLocal ?_ refers.found⟩
      rwa [referencePointer, if_pos isLocal] at same
    have loop : root.Chain next (after ++ [reference]) next := others.trans (.single again)
    have endless : root.IsEndless next := loop.isEndless_of_loop (by simp)
    exact first.isEndless ((Chain.single refers).isEndless endless)

end

end Node

/-! ## Following -/

/-- The pointer at the end of a chain: that of its last reference, and empty when there is none. -/
def lastPointer (references : List String) : String :=
  (references.getLast?.map canonical).getD ""

/-- A node is followed as its chain says: following it comes to an end, finds the node at which the
chain ends, fails over a cycle if the chain goes on forever, and fails where it breaks. -/
structure FollowsChain (root node : Node) : Prop where
  ends : (∀ fuel, root.value.size + 2 ≤ fuel →
      followFrom root fuel "" [] node = follow root node) ∧
    ∀ failure, follow root node = .error failure → failure.isExhausted = false
  found : ∀ resolved, follow root node = .ok resolved ↔
    ∃ references, root.Chain node references resolved.target ∧
      resolved.target.value.member? "$ref" = none ∧ resolved.pointer = lastPointer references
  cyclic : (∃ reference reason, follow root node = .error (.cyclicReference reference reason)) ↔
    root.IsEndless node
  broken : ∀ failure, ((∀ reference reason, failure ≠ .cyclicReference reference reason) ∧
      follow root node = .error failure) ↔
    ∃ references last, root.Chain node references last ∧ root.Breaks last failure

/-- Where following a node fails, given the pointers met before: at a reference that is not resolved
or has been met, or at one that is no string and is reported, or is too long for that. -/
inductive Node.Fails (root node : Node) (seen : List String) : Failure → Prop
  | unresolved {reference : String} {failure : Failure}
      (link : node.value.member? "$ref" = some (.string reference))
      (failed : resolve root reference = .error failure) : Fails root node seen failure
  | meets {reference reason : String} (link : node.value.member? "$ref" = some (.string reference))
      (met : referencePointer reference ∈ seen) :
      Fails root node seen (.cyclicReference reference reason)
  | notString {value : Value} (link : node.value.member? "$ref" = some value)
      (other : value.string? = none) (writable : value.isWritable) :
      Fails root node seen (.unresolvedReference value.plain
        ("$ref at " ++ node.pointer ++ " is not a string"))
  | unwritable {value : Value} (link : node.value.member? "$ref" = some value)
      (unwritable : ¬value.isWritable) : Fails root node seen (.invalidValue .unwritableInteger)

section

variable {root node : Node} {fuel : Nat} {pointer : String} {seen : List String}

/-- A node is found at the end of its chain. -/
theorem chain_of_followFrom {resolved : Resolved}
    (found : followFrom root fuel pointer seen node = .ok resolved) :
    ∃ references, root.Chain node references resolved.target ∧
      resolved.target.value.member? "$ref" = none ∧
      resolved.pointer = (references.getLast?.map canonical).getD pointer := by
  induction fuel generalizing pointer seen node with
  | zero => cases found
  | succ fuel ih =>
    unfold followFrom at found
    split at found
    · rename_i last
      cases found
      exact ⟨[], .here node, last, rfl⟩
    · rename_i reference link
      simp only at found
      split at found
      · cases found
      · obtain ⟨target, htarget, found⟩ := Except.bind_eq_ok_iff.1 found
        obtain ⟨references, chain, last, eq⟩ := ih found
        have next : referencePointer reference = canonical reference :=
          if_pos (isLocal_of_resolve htarget)
        refine ⟨reference :: references, .step ⟨link, htarget⟩ chain, last, ?_⟩
        rw [eq, next]
        cases references <;> simp [List.getLast?_cons]
    · obtain ⟨_, -, found⟩ := Except.bind_eq_ok_iff.1 found
      cases found

/-- Following a node fails at a node of its chain. -/
theorem fails_of_followFrom {failure : Failure}
    (failed : followFrom root fuel pointer seen node = .error failure)
    (proper : failure.isExhausted = false) :
    ∃ references last, root.Chain node references last ∧
      root.Fails last (seen ++ references.map canonical) failure := by
  induction fuel generalizing pointer seen node with
  | zero =>
    cases failed
    cases proper
  | succ fuel ih =>
    unfold followFrom at failed
    split at failed
    · cases failed
    · rename_i reference link
      simp only at failed
      split at failed
      · rename_i met
        cases failed
        exact ⟨[], node, .here node, .meets link (by simpa using met)⟩
      · rcases Except.bind_eq_error_iff.1 failed with failed | ⟨target, htarget, failed⟩
        · exact ⟨[], node, .here node, .unresolved link failed⟩
        · obtain ⟨references, last, chain, fails⟩ := ih failed
          have next : referencePointer reference = canonical reference :=
            if_pos (isLocal_of_resolve htarget)
          rw [next, List.append_assoc] at fails
          exact ⟨reference :: references, last, .step ⟨link, htarget⟩ chain, fails⟩
    · rename_i other notString link
      have isOther : other.string? = none := by
        cases other with
        | string text => exact absurd rfl (notString text)
        | _ => rfl
      unfold Value.writable at failed
      split at failed
      · rename_i writable
        cases failed
        exact ⟨[], node, .here node, .notString link isOther writable⟩
      · rename_i unwritable
        cases failed
        exact ⟨[], node, .here node, .unwritable link unwritable⟩

end

/-- What following a node gives: the node at the end of its chain, a failure over a cycle, or one
where the chain breaks, which is another one if the reference there cannot be written. -/
theorem follow_cases {root node : Node} (within : root.Within node)
    (plain : root.HasPlainReferences) :
    (∃ references resolved, root.Chain node references resolved.target ∧
        resolved.target.value.member? "$ref" = none ∧ resolved.pointer = lastPointer references ∧
        follow root node = .ok resolved) ∨
      (root.IsEndless node ∧
        ∃ reference reason, follow root node = .error (.cyclicReference reference reason)) ∨
      ∃ references last value, root.Chain node references last ∧
        last.value.member? "$ref" = some value ∧
        ((value.isWritable ∧ ∃ failure, root.Breaks last failure ∧
            follow root node = .error failure) ∨
          (¬value.isWritable ∧ follow root node = .error (.invalidValue .unwritableInteger))) := by
  cases outcome : follow root node with
  | ok resolved =>
    obtain ⟨references, chain, last, pointer⟩ := chain_of_followFrom outcome
    exact .inl ⟨references, resolved, chain, last, pointer, rfl⟩
  | error failure =>
    have proper := (follow_terminates within).2 failure outcome
    obtain ⟨references, last, chain, fails⟩ := fails_of_followFrom outcome proper
    refine .inr ?_
    cases fails with
    | unresolved link failed =>
      exact .inr ⟨references, last, _, chain, link, .inl ⟨rfl, _, .unresolved link failed, rfl⟩⟩
    | meets link met => exact .inl ⟨chain.isEndless_of_meets plain within link met, _, _, rfl⟩
    | notString link other writable =>
      exact .inr ⟨references, last, _, chain, link, .inl ⟨writable, _, .notString link other, rfl⟩⟩
    | unwritable link unwritable =>
      exact .inr ⟨references, last, _, chain, link, .inr ⟨unwritable, rfl⟩⟩

section

variable {root node last : Node} {references : List String}

/-- A chain that comes to an end is followed to it. -/
theorem FollowsChain.of_found {resolved : Resolved} (within : root.Within node)
    (chain : root.Chain node references resolved.target)
    (isEnd : resolved.target.value.member? "$ref" = none)
    (pointer : resolved.pointer = lastPointer references)
    (outcome : follow root node = .ok resolved) : FollowsChain root node := by
  have isLast : root.IsLast resolved.target := Node.isLast_of_member?_eq_none isEnd
  refine ⟨follow_terminates within, fun other => ⟨fun found => ?_, fun ends => ?_⟩,
    ⟨fun fails => ?_, fun endless => absurd endless (chain.not_isEndless isLast)⟩,
    fun failure => ⟨fun fails => ?_, fun breaks => ?_⟩⟩
  · obtain rfl := Except.ok.inj (outcome.symm.trans found)
    exact ⟨references, chain, isEnd, pointer⟩
  · obtain ⟨others, chain', isEnd', pointer'⟩ := ends
    obtain ⟨rfl, same⟩ :=
      chain.eq_of_isLast isLast chain' (Node.isLast_of_member?_eq_none isEnd')
    cases resolved
    cases other
    simp_all
  · obtain ⟨reference, reason, failed⟩ := fails
    simp [outcome] at failed
  · simp [outcome] at fails
  · obtain ⟨others, last, chain', breaks⟩ := breaks
    obtain ⟨-, rfl⟩ := chain.eq_of_isLast isLast chain' breaks.isLast
    exact absurd isEnd breaks.member?_ne_none

/-- A chain that goes on forever is reported as a cycle. -/
theorem FollowsChain.of_endless {reference reason : String} (within : root.Within node)
    (endless : root.IsEndless node)
    (outcome : follow root node = .error (.cyclicReference reference reason)) :
    FollowsChain root node := by
  refine ⟨follow_terminates within, fun resolved => ⟨fun found => ?_, fun ends => ?_⟩,
    ⟨fun _ => endless, fun _ => ⟨reference, reason, outcome⟩⟩,
    fun failure => ⟨fun fails => ?_, fun breaks => ?_⟩⟩
  · simp [outcome] at found
  · obtain ⟨references, chain, isEnd, -⟩ := ends
    exact absurd endless (chain.not_isEndless (Node.isLast_of_member?_eq_none isEnd))
  · exact absurd (Except.error.inj (fails.2.symm.trans outcome)) (fails.1 reference reason)
  · obtain ⟨references, last, chain, breaks⟩ := breaks
    exact absurd endless (chain.not_isEndless breaks.isLast)

/-- Following a chain that breaks fails where it breaks. -/
theorem FollowsChain.of_broken {failure : Failure} (within : root.Within node)
    (chain : root.Chain node references last) (breaks : root.Breaks last failure)
    (outcome : follow root node = .error failure) : FollowsChain root node := by
  refine ⟨follow_terminates within, fun resolved => ⟨fun found => ?_, fun ends => ?_⟩,
    ⟨fun fails => ?_, fun endless => absurd endless (chain.not_isEndless breaks.isLast)⟩,
    fun other => ⟨fun fails => ?_, fun breaks' => ?_⟩⟩
  · simp [outcome] at found
  · obtain ⟨others, chain', isEnd, -⟩ := ends
    obtain ⟨-, rfl⟩ :=
      chain.eq_of_isLast breaks.isLast chain' (Node.isLast_of_member?_eq_none isEnd)
    exact absurd isEnd breaks.member?_ne_none
  · obtain ⟨reference, reason, failed⟩ := fails
    exact absurd (Except.error.inj (outcome.symm.trans failed))
      (breaks.ne_cyclicReference reference reason)
  · obtain rfl := Except.error.inj (outcome.symm.trans fails.2)
    exact ⟨references, last, chain, breaks⟩
  · obtain ⟨others, last', chain', breaks'⟩ := breaks'
    obtain ⟨-, rfl⟩ := chain.eq_of_isLast breaks.isLast chain' breaks'.isLast
    obtain rfl := breaks.unique breaks'
    exact ⟨breaks.ne_cyclicReference, outcome⟩

end

/-- A node is not followed as its chain says if that leads to a reference which cannot be written:
the failure that the chain asks for tells it. -/
theorem FollowsChain.isWritable {root node last : Node} {references : List String} {value : Value}
    (h : FollowsChain root node) (within : root.Within node) (plain : root.HasPlainReferences)
    (chain : root.Chain node references last)
    (link : last.value.member? "$ref" = some value) : value.isWritable := by
  by_contra unwritable
  have isOther : value.string? = none := by
    cases value with
    | string text => exact absurd rfl unwritable
    | _ => rfl
  have breaks : root.Breaks last _ := .notString link isOther
  have reported := ((h.broken _).2 ⟨references, last, chain, breaks⟩).2
  rcases follow_cases within plain with ⟨_, _, -, -, -, outcome⟩ | ⟨-, _, _, outcome⟩ |
    ⟨others, last', value', chain', link', ⟨writable, _, breaks', -⟩ | ⟨-, outcome⟩⟩
  · simp [outcome] at reported
  · simp [outcome] at reported
  · obtain ⟨-, rfl⟩ := chain.eq_of_isLast breaks.isLast chain' breaks'.isLast
    obtain rfl := Option.some.inj (link.symm.trans link')
    exact unwritable writable
  · simp [outcome] at reported

/-- A node of a document with usual references is followed as its chain says, unless the chain comes
to a reference in which an integer is too long to be written. -/
theorem followsChain_iff {root node : Node} (within : root.Within node)
    (plain : root.HasPlainReferences) :
    FollowsChain root node ↔ ∀ references last value, root.Chain node references last →
      last.value.member? "$ref" = some value → value.isWritable := by
  refine ⟨fun h _ _ _ chain link => h.isWritable within plain chain link, fun writable => ?_⟩
  rcases follow_cases within plain with ⟨_, _, chain, isEnd, pointer, outcome⟩ |
    ⟨endless, _, _, outcome⟩ |
    ⟨_, last, value, chain, link, ⟨-, _, breaks, outcome⟩ | ⟨unwritable, -⟩⟩
  · exact .of_found within chain isEnd pointer outcome
  · exact .of_endless within endless outcome
  · exact .of_broken within chain breaks outcome
  · exact absurd (writable _ _ _ chain link) unwritable

/-- A member that is reached over another one, one that refers to itself, and one that refers to
nothing. -/
def aliases : Value := .object [
  ("first", .object [("$ref", .string "#/second")]),
  ("second", .object [("$ref", .string "/word/")]),
  ("word", .object [("type", .string "string")]),
  ("loop", .object [("$ref", .string "#/%6Coop")]),
  ("nowhere", .object [("$ref", .string "#/nothing")])]

theorem followsChain_iff_aliases :
    (Node.ofValue aliases).HasPlainReferences ∧
      FollowsChain (.ofValue aliases) ⟨"/first", .object [("$ref", .string "#/second")]⟩ ∧
      FollowsChain (.ofValue aliases) ⟨"/loop", .object [("$ref", .string "#/%6Coop")]⟩ ∧
      FollowsChain (.ofValue aliases) ⟨"/nowhere", .object [("$ref", .string "#/nothing")]⟩ := by
  have plain : (Node.ofValue aliases).HasPlainReferences := by decide +kernel
  have writable : ∀ node ∈ (Node.ofValue aliases).nodes,
      ∀ value ∈ (node.value.member? "$ref").toList, value.isWritable := by decide +kernel
  have followed (key : String) (value : Value) (mem : (key, value) ∈ aliases.members) :
      FollowsChain (.ofValue aliases) ⟨(Node.ofValue aliases).memberPath key, value⟩ := by
    have within : (Node.ofValue aliases).Within ⟨(Node.ofValue aliases).memberPath key, value⟩ :=
      .member .root mem
    exact (followsChain_iff within plain).2 fun _ last value chain link =>
      writable last (chain.within within).mem_nodes value (by simp [link])
  exact ⟨plain, followed "first" _ (by simp [aliases, Value.members]),
    followed "loop" _ (by simp [aliases, Value.members]),
    followed "nowhere" _ (by simp [aliases, Value.members])⟩

def longReference : Value :=
  .object [("$ref", .int (Binary64.powerOfTen maxIntegerDigits))]

/-- A long integer in the place of a reference is not reported. -/
theorem not_followsChain_longReference :
    ¬FollowsChain (.ofValue longReference) (.ofValue longReference) := by
  have plain : (Node.ofValue longReference).HasPlainReferences := by decide +kernel
  intro h
  have writable := h.isWritable .root plain (.here _) rfl
  rw [Value.isWritable] at writable
  exact not_isWritableInteger (Nat.le_refl _) writable

end SchemaClasses
