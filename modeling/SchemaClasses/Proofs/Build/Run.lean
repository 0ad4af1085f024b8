import SchemaClasses.Proofs.Build.Builders
import SchemaClasses.Proofs.Build.Dependence

/-!
# Runs

A run builds the class of a document, or it registers the members of a container and then builds
some of them, in any order and any number of times, whether this succeeds or fails.

## Main definitions

* `Run`: the states that a run comes to.

## Main statements

* `Run.invariant`: the states of a run are sound, the registered members have their names pinned,
  and all classes are complete as long as nothing has failed.
-/

namespace SchemaClasses

/-- The states that a run comes to, with the members that are registered, the classes that have been
returned for them, and whether every call has succeeded. -/
inductive Run (source : Source) :
    List Definition → List (Definition × ClassId) → Bool → BuildState → Prop
  | start : Run source [] [] true {}
  | root {name? : Option String} {id : ClassId} {s : BuildState}
      (run : buildRoot source source.root name? {} = .ok id s) :
      Run source [⟨name?.getD "", source.root, true⟩]
        [(⟨name?.getD "", source.root, true⟩, id)] true s
  | rootFails {name? : Option String} {failure : Failure} {s : BuildState}
      (run : buildRoot source source.root name? {} = .error failure s) : Run source [] [] false s
  | register {pointer : String} {include? : Option (List String)}
      {entries registered : List Definition} {s : BuildState}
      (found : definitions source.root pointer include? = .ok entries)
      (run : registerDefinitions entries {} = .ok registered s) : Run source registered [] true s
  | registerFails {pointer : String} {include? : Option (List String)}
      {entries : List Definition} {failure : Failure} {s : BuildState}
      (found : definitions source.root pointer include? = .ok entries)
      (run : registerDefinitions entries {} = .error failure s) : Run source [] [] false s
  | build {registered : List Definition} {returned : List (Definition × ClassId)}
      {succeeded : Bool} {s s' : BuildState} {entry : Definition} {id : ClassId}
      (before : Run source registered returned succeeded s) (mem : entry ∈ registered)
      (run : buildDefinition source entry s = .ok id s') :
      Run source registered (returned ++ [(entry, id)]) succeeded s'
  | buildFails {registered : List Definition} {returned : List (Definition × ClassId)}
      {succeeded : Bool} {s s' : BuildState} {entry : Definition} {failure : Failure}
      (before : Run source registered returned succeeded s) (mem : entry ∈ registered)
      (run : buildDefinition source entry s = .error failure s') :
      Run source registered returned false s'

/-! ## Registration -/

structure BuildState.Unbuilt (source : Source) (s : BuildState) : Prop where
  size : s.graph.size = 0
  topLevel : s.topLevel = []
  owners : s.owners = []
  sound : s.Sound source

structure IsRegistered (source : Source) (s : BuildState) (entry : Definition) : Prop where
  keyed : source.root.Keyed entry.node
  isClass : isClassSchema entry.node true = .ok true
  name : ∃ name, className (some entry.node) entry.name = .ok name ∧
    s.pinned.lookup entry.node.path = some name

variable {source : Source} {s s' : BuildState}

theorem IsRegistered.of_pinned_eq {entry : Definition} (h : IsRegistered source s entry)
    (same : s'.pinned.lookup entry.node.path = s.pinned.lookup entry.node.path) :
    IsRegistered source s' entry := by
  obtain ⟨name, given, pinned⟩ := h.name
  exact ⟨h.keyed, h.isClass, name, given, same.trans pinned⟩

theorem IsRegistered.leadsTo {entry : Definition} (h : IsRegistered source s entry) :
    s.LeadsTo entry.node.path none := by
  obtain ⟨name, -, pinned⟩ := h.name
  exact Option.isSome_of_eq_some pinned

/-- The state in which a run begins. -/
theorem BuildState.Unbuilt.empty (distinct : source.root.value.distinctKeys)
    (top : source.root.path = "") : Unbuilt source {} where
  size := rfl
  topLevel := rfl
  owners := rfl
  sound := {
    distinct, top
    nesting := .of_empty rfl rfl
    composition := .of_empty rfl
    paths := .of_empty rfl rfl
    outermost := .of_empty rfl rfl rfl
    names := by
      refine ⟨fun lt => absurd lt (Nat.not_lt_zero _), fun found => ?_, fun found => ?_,
        fun lt => absurd lt (Nat.not_lt_zero _), fun id => ⟨List.nodup_nil, fun _ mem => ?_⟩⟩
      · cases found
      · cases found
      · cases mem }

theorem pinName_apply (node : Node) (name : String) (s : BuildState) :
    pinName node name s = match reserve s.reserved name node.path with
      | .ok reserved => .ok () { s with reserved, pinned := setMember node.path name s.pinned }
      | .error failure => .error failure s := by
  unfold pinName
  simp only [Build.bind_apply, Build.get_apply, Build.set_apply, Build.ofExcept_apply]
  cases reserve s.reserved name node.path <;> rfl

/-- A name is pinned to the path of a schema. -/
theorem pinName_pinned {node : Node} {name : String} {result : Unit}
    (run : pinName node name s = .ok result s') :
    s'.pinned = setMember node.path name s.pinned := by
  rw [pinName_apply] at run
  split at run
  · cases run
    rfl
  · cases run

/-- Registering a document pins the name of its class only. -/
theorem registerRoot_pinned {node : Node} {name? : Option String} {name : String}
    (run : registerRoot node name? s = .ok name s') :
    s'.pinned = setMember node.path name s.pinned := by
  obtain ⟨isClass, s₁, found, run⟩ := Build.bind_eq_ok_iff.1 run
  obtain ⟨-, rfl⟩ := Build.ofExcept_eq_ok_iff.1 found
  split at run
  · cases run
  · obtain ⟨given, s₂, named, run⟩ := Build.bind_eq_ok_iff.1 run
    obtain ⟨-, rfl⟩ := Build.ofExcept_eq_ok_iff.1 named
    obtain ⟨_, s₃, pinned, run⟩ := Build.bind_eq_ok_iff.1 run
    cases run
    exact pinName_pinned pinned

/-- Registering members pins no names but theirs. -/
theorem registerDefinitions_lookup {entries registered : List Definition} {path : String}
    (run : registerDefinitions entries s = .ok registered s')
    (others : ∀ entry ∈ registered, entry.node.path ≠ path) :
    s'.pinned.lookup path = s.pinned.lookup path := by
  induction entries generalizing registered s with
  | nil =>
    cases run
    rfl
  | cons entry rest ih =>
    unfold registerDefinitions at run
    obtain ⟨isClass, s₁, found, run⟩ := Build.bind_eq_ok_iff.1 run
    obtain ⟨-, rfl⟩ := Build.ofExcept_eq_ok_iff.1 found
    split at run
    · obtain ⟨name, s₂, named, run⟩ := Build.bind_eq_ok_iff.1 run
      obtain ⟨-, rfl⟩ := Build.ofExcept_eq_ok_iff.1 named
      obtain ⟨_, s₃, pinned, run⟩ := Build.bind_eq_ok_iff.1 run
      obtain ⟨registered', s₄, run, last⟩ := Build.bind_eq_ok_iff.1 run
      cases last
      obtain ⟨apart, others⟩ := List.forall_mem_cons.1 others
      rw [ih run others, pinName_pinned pinned, lookup_setMember, if_neg (Ne.symm apart)]
    · exact ih run others

/-- Names are pinned before any class is declared. -/
theorem BuildState.Unbuilt.pin (h : s.Unbuilt source) {node : Node} {name : String}
    {reserved : ReservedNames} (keyed : source.root.Keyed node) (named : IsClassName name)
    (hreserve : reserve s.reserved name node.path = .ok reserved) :
    Unbuilt source { s with reserved, pinned := setMember node.path name s.pinned } := by
  obtain ⟨free, rfl⟩ := reserve_eq_ok hreserve
  have names := h.sound.names.reserve free
  have none {id : ClassId} (lt : id < s.graph.size) : False := by
    rw [h.size] at lt
    exact Nat.not_lt_zero _ lt
  have pinned {path name' : String}
      (found : (setMember node.path name s.pinned).lookup path = some name') :
      (path = node.path ∧ name' = name) ∨ s.pinned.lookup path = some name' := by
    rw [lookup_setMember] at found
    split at found
    · rename_i eq
      exact .inl ⟨eq, (Option.some.inj found).symm⟩
    · exact .inr found
  refine ⟨h.size, h.topLevel, h.owners, h.sound.distinct, h.sound.top,
    h.sound.nesting.congr rfl rfl, h.sound.composition, ?_, ?_, ?_⟩
  · exact ⟨h.sound.paths.key, h.sound.paths.entered, h.sound.paths.reached,
      h.sound.paths.alternative, h.sound.paths.variants, h.sound.paths.unique⟩
  · refine ⟨fun lt => (none lt).elim, fun {path name'} found => ?_, fun {path name'} found => ?_,
      fun lt => (none lt).elim, names.declared⟩
    · rcases pinned found with ⟨rfl, rfl⟩ | old
      · exact (lookup_setMember _ _ _ _).trans (if_pos rfl)
      · exact names.pinned old
    · rcases pinned found with ⟨rfl, rfl⟩ | old
      · exact ⟨node, keyed, rfl⟩
      · exact names.keyed old
  · refine ⟨h.sound.outermost.order, fun {path name'} _ => ?_, fun lt => (none lt).elim,
      fun {path name'} found => ?_, fun lt => (none lt).elim, h.sound.outermost.enum⟩
    · simp [h.owners]
    · rcases pinned found with ⟨rfl, rfl⟩ | old
      · exact named
      · exact h.sound.outermost.pinnedName old

/-- A step ends in a state that satisfies `P` when it fails, and when it succeeds its result and the
state satisfy `Q`. -/
def Build.Ends {α : Type} (step : Build α) (s : BuildState) (P : BuildState → Prop)
    (Q : α → BuildState → Prop) : Prop :=
  match step s with
  | .ok x s' => Q x s'
  | .error _ s' => P s'

namespace Build.Ends

variable {α β : Type} {step : Build α} {next : α → Build β} {P : BuildState → Prop}
  {Q : α → BuildState → Prop} {R : β → BuildState → Prop}

theorem of_ok (h : step.Ends s P Q) {x : α} (run : step s = .ok x s') : Q x s' := by
  unfold Ends at h
  rwa [run] at h

theorem of_error (h : step.Ends s P Q) {failure : Failure} (run : step s = .error failure s') :
    P s' := by
  unfold Ends at h
  rwa [run] at h

theorem bind (h : step.Ends s P Q) (k : ∀ x s', Q x s' → (next x).Ends s' P R) :
    Ends (step >>= next) s P R := by
  unfold Ends
  rw [bind_apply]
  cases run : step s with
  | error failure s' => exact h.of_error run
  | ok x s' => exact k x s' (h.of_ok run)

theorem ofExcept_bind {e : Except Failure α} (fails : P s)
    (k : ∀ x, e = .ok x → (next x).Ends s P R) : Ends (Build.ofExcept e >>= next) s P R := by
  cases e with
  | ok x => exact k x rfl
  | error failure => exact fails

end Build.Ends

theorem pinName_ends (h : s.Unbuilt source) {node : Node} {name : String}
    (named : IsClassName name) (keyed : source.root.Keyed node) :
    (pinName node name).Ends s (·.Unbuilt source) fun _ s' =>
      s'.Unbuilt source ∧ s'.pinned = setMember node.path name s.pinned := by
  unfold Build.Ends
  rw [pinName_apply]
  cases hreserve : reserve s.reserved name node.path with
  | error failure => exact h
  | ok reserved => exact ⟨h.pin keyed named hreserve, rfl⟩

/-- The root is registered, whether or not it is given a name. -/
theorem registerRoot_ends (h : s.Unbuilt source) (name? : Option String) :
    (registerRoot source.root name?).Ends s (·.Unbuilt source) fun _ s' =>
      s'.Unbuilt source ∧ IsRegistered source s' ⟨name?.getD "", source.root, true⟩ := by
  unfold registerRoot
  refine .ofExcept_bind h fun isClass hclass => ?_
  split
  · exact h
  · rename_i yes
    have isClass' : isClass = true := by simpa using yes
    refine .ofExcept_bind h fun name hname => ?_
    refine .bind (pinName_ends h ⟨_, _, hname⟩ .root) fun _ s' unbuiltPinned => ?_
    obtain ⟨unbuilt, pinned⟩ := unbuiltPinned
    refine ⟨unbuilt, .root, isClass' ▸ hclass, name, hname, ?_⟩
    rw [pinned]
    exact (lookup_setMember _ _ _ _).trans (if_pos rfl)

/-- Registering members pins their names, and no others. -/
theorem registerDefinitions_ends (h : s.Unbuilt source) {entries : List Definition}
    (keyed : ∀ entry ∈ entries, source.root.Keyed entry.node)
    (distinct : (entries.map (·.node.path)).Nodup) :
    (registerDefinitions entries).Ends s (·.Unbuilt source) fun registered s' =>
      s'.Unbuilt source ∧ (∀ entry ∈ registered, IsRegistered source s' entry) ∧
        ∀ path, path ∉ entries.map (·.node.path) →
          s'.pinned.lookup path = s.pinned.lookup path := by
  induction entries generalizing s with
  | nil => exact ⟨h, fun _ mem => (by cases mem), fun _ _ => rfl⟩
  | cons entry rest ih =>
    obtain ⟨apart, distinct⟩ := List.nodup_cons.1 distinct
    have keyedRest : ∀ entry ∈ rest, source.root.Keyed entry.node := fun other mem =>
      keyed other (List.mem_cons_of_mem entry mem)
    unfold registerDefinitions
    refine .ofExcept_bind h fun isClass hclass => ?_
    split
    · rename_i yes
      refine .ofExcept_bind h fun name hname => ?_
      refine .bind (pinName_ends h ⟨_, _, hname⟩ (keyed entry List.mem_cons_self))
        fun _ s₁ unbuiltPinned => ?_
      obtain ⟨unbuilt, pinned⟩ := unbuiltPinned
      refine .bind (ih unbuilt keyedRest distinct) fun registered s₂ ends => ?_
      obtain ⟨unbuilt', all, others⟩ := ends
      refine ⟨unbuilt', fun other mem => ?_, fun path notMem => ?_⟩
      · rcases List.mem_cons.1 mem with rfl | mem
        · refine ⟨keyed other List.mem_cons_self, yes ▸ hclass, name, hname, ?_⟩
          rw [others _ apart, pinned]
          exact (lookup_setMember _ _ _ _).trans (if_pos rfl)
        · exact all other mem
      · rw [List.map_cons, List.mem_cons, not_or] at notMem
        rw [others path notMem.2, pinned, lookup_setMember, if_neg notMem.1]
    · have registered := ih h keyedRest distinct
      unfold Build.Ends at registered ⊢
      split
      · rename_i run
        rw [run] at registered
        refine ⟨registered.1, registered.2.1, fun path notMem => registered.2.2 path ?_⟩
        exact fun mem => notMem (List.mem_cons_of_mem _ mem)
      · rename_i run
        rwa [run] at registered

/-- The members of a container are members of an object, under different keys. -/
theorem keyed_of_definitions (distinct : source.root.value.distinctKeys) {pointer : String}
    {include? : Option (List String)} {entries : List Definition}
    (found : definitions source.root pointer include? = .ok entries) :
    (∀ entry ∈ entries, source.root.Keyed entry.node) ∧
      (entries.map (·.node.path)).Nodup := by
  obtain ⟨container, hcontainer, found⟩ := Except.bind_eq_ok_iff.1 found
  have within := Node.Within.resolve hcontainer
  split at found
  · cases found
  · cases found
    constructor
    · intro entry mem
      obtain ⟨member, hmember, rfl⟩ := List.mem_map.1 mem
      obtain ⟨item, hitem, rfl⟩ := List.mem_map.1 hmember
      exact .member within hitem
    · have keys := Value.nodup_keys_of_distinctKeys (within.distinctKeys distinct)
      have paths : (container.value.members.map fun member =>
          container.memberPath member.1).Nodup := by
        have injective : Function.Injective container.memberPath := fun _ _ eq =>
          (Node.memberPath_inj eq).2
        simpa [Function.comp_def] using keys.map injective
      simpa [Node.members, Function.comp_def] using paths

/-! ## Building -/

theorem buildDefinition_traces (sound : s.Sound source) {entry : Definition}
    (registered : IsRegistered source s entry) :
    Build.Traces source s.graph.size s (buildDefinition source entry) fun id s' =>
      Obtained entry.node s id s' :=
  (builders_traced source _).classFor entry.name sound (.keyed registered.keyed)
    registered.isClass registered.leadsTo

theorem buildRoot_traces (sound : s.Sound source) {name? : Option String}
    (registered : IsRegistered source s ⟨name?.getD "", source.root, true⟩) (name : String) :
    Build.Traces source s.graph.size s (source.builders.classFor source.root name none) fun id s' =>
      Obtained source.root s id s' :=
  (builders_traced source _).classFor name sound (.keyed registered.keyed) registered.isClass
    registered.leadsTo

/-- What holds of a state of a run. As long as nothing has failed, no names are pinned but those of
the registered members. -/
structure RunInvariant (source : Source) (registered : List Definition)
    (returned : List (Definition × ClassId)) (succeeded : Bool) (s : BuildState) : Prop where
  sound : s.Sound source
  /-- The state has been reached by steps from one in which nothing had been declared. -/
  history : ∃ s₀, s₀.Unbuilt source ∧ Steps source 0 s₀ s
  registration : ∀ entry ∈ registered, IsRegistered source s entry
  results : ∀ result ∈ returned, result.1 ∈ registered ∧ result.2 < s.graph.size ∧
    (s.graph.get result.2).path = result.1.node.path
  built : succeeded → ∀ id, id < s.graph.size → (s.graph.get id).built
  pinned : succeeded → ∀ path, (s.pinned.lookup path).isSome →
    ∃ entry ∈ registered, entry.node.path = path

/-- A run in which no class has been declared. -/
theorem RunInvariant.of_unbuilt {registered : List Definition} {succeeded : Bool}
    (h : s.Unbuilt source) (all : ∀ entry ∈ registered, IsRegistered source s entry)
    (pinned : succeeded → ∀ path, (s.pinned.lookup path).isSome →
      ∃ entry ∈ registered, entry.node.path = path) :
    RunInvariant source registered [] succeeded s where
  sound := h.sound
  history := ⟨s, h, .refl⟩
  registration := all
  results _ mem := by cases mem
  built _ id lt := by
    rw [h.size] at lt
    exact absurd lt (Nat.not_lt_zero _)
  pinned := pinned

/-- The steps of a build keep what holds of a run, and the run goes on succeeding if the new classes
are complete. -/
theorem RunInvariant.of_steps {registered : List Definition}
    {returned : List (Definition × ClassId)} {succeeded succeeded' : Bool}
    (h : RunInvariant source registered returned succeeded s)
    (steps : Steps source s.graph.size s s')
    (finished : succeeded' → succeeded ∧ Finished s s') :
    RunInvariant source registered returned succeeded' s' where
  sound := steps.sound h.sound
  history := by
    obtain ⟨s₀, unbuilt, before⟩ := h.history
    exact ⟨s₀, unbuilt, before.trans (steps.of_le (Nat.zero_le _))⟩
  registration entry mem := (h.registration entry mem).of_pinned_eq (by rw [steps.kept.pinned])
  results result mem := by
    obtain ⟨known, inside, path⟩ := h.results result mem
    refine ⟨known, Nat.lt_of_lt_of_le inside steps.kept.size_le, ?_⟩
    exact (steps.kept.declaration inside).path.trans path
  built success id lt := by
    obtain ⟨before, complete⟩ := finished success
    rcases Nat.lt_or_ge id s.graph.size with old | new
    · exact steps.kept.built (h.built before id old)
    · exact complete id new lt
  pinned success path found := by
    rw [steps.kept.pinned] at found
    exact h.pinned (finished success).1 path found

/-- What holds of the states of a run for a document in which no object has a key twice. The
induction is on the calls of the run; between them the steps of the builds keep it. -/
theorem Run.invariant {registered : List Definition} {returned : List (Definition × ClassId)}
    {succeeded : Bool} (distinct : source.root.value.distinctKeys) (top : source.root.path = "")
    (run : Run source registered returned succeeded s) :
    RunInvariant source registered returned succeeded s := by
  have empty := BuildState.Unbuilt.empty distinct top
  induction run with
  | start => exact .of_unbuilt empty (fun _ mem => by cases mem) fun _ path found => by cases found
  | @root name? id s run =>
    obtain ⟨name, s₁, hregister, hbuild⟩ := Build.bind_eq_ok_iff.1 run
    obtain ⟨unbuilt, isRegistered⟩ := (registerRoot_ends empty name?).of_ok hregister
    obtain ⟨steps, finished, obtained⟩ :=
      (buildRoot_traces unbuilt.sound isRegistered name).of_ok hbuild
    have before : RunInvariant source [⟨name?.getD "", source.root, true⟩] [] true s₁ :=
      .of_unbuilt unbuilt (fun entry mem => List.mem_singleton.1 mem ▸ isRegistered)
        fun _ path found => ⟨_, List.mem_singleton_self _, by
          rw [registerRoot_pinned hregister, lookup_setMember] at found
          grind⟩
    have after : RunInvariant source [⟨name?.getD "", source.root, true⟩] [] true s :=
      before.of_steps steps fun _ => ⟨rfl, finished⟩
    refine ⟨after.sound, after.history, after.registration, fun result mem => ?_, after.built,
      after.pinned⟩
    obtain rfl := List.mem_singleton.1 mem
    exact ⟨List.mem_singleton_self _, obtained.inside, obtained.path⟩
  | @rootFails name? failure s run =>
    rcases Build.bind_eq_error_iff.1 run with hregister | ⟨name, s₁, hregister, hbuild⟩
    · have unbuilt := (registerRoot_ends empty name?).of_error hregister
      exact .of_unbuilt unbuilt (fun _ mem => by cases mem) fun failed => by cases failed
    · obtain ⟨unbuilt, isRegistered⟩ := (registerRoot_ends empty name?).of_ok hregister
      have steps := (buildRoot_traces unbuilt.sound isRegistered name).of_error hbuild
      have before : RunInvariant source [] [] false s₁ :=
        .of_unbuilt unbuilt (fun _ mem => by cases mem) fun failed => by cases failed
      exact before.of_steps steps fun failed => by cases failed
  | register found run =>
    obtain ⟨keyed, paths⟩ := keyed_of_definitions distinct found
    obtain ⟨unbuilt, all, -⟩ := (registerDefinitions_ends empty keyed paths).of_ok run
    refine .of_unbuilt unbuilt all fun _ path found => ?_
    by_contra none
    have unpinned := registerDefinitions_lookup run fun entry mem eq => none ⟨entry, mem, eq⟩
    rw [unpinned] at found
    cases found
  | registerFails found run =>
    obtain ⟨keyed, paths⟩ := keyed_of_definitions distinct found
    have unbuilt := (registerDefinitions_ends empty keyed paths).of_error run
    exact .of_unbuilt unbuilt (fun _ mem => by cases mem) fun failed => by cases failed
  | @build registered returned succeeded s s' entry id _ mem run ih =>
    obtain ⟨steps, finished, obtained⟩ :=
      (buildDefinition_traces ih.sound (ih.registration entry mem)).of_ok run
    have after := ih.of_steps steps fun success => ⟨success, finished⟩
    refine ⟨after.sound, after.history, after.registration, fun result hresult => ?_, after.built,
      after.pinned⟩
    rcases List.mem_append.1 hresult with old | new
    · exact after.results result old
    · obtain rfl := List.mem_singleton.1 new
      exact ⟨mem, obtained.inside, obtained.path⟩
  | buildFails _ mem run ih =>
    have steps := (buildDefinition_traces ih.sound (ih.registration _ mem)).of_error run
    exact ih.of_steps steps fun failed => by cases failed

section

variable {registered : List Definition} {returned : List (Definition × ClassId)} {succeeded : Bool}

/-- In the states of a run, the order of creation is kept. -/
theorem RunInvariant.ordered (h : RunInvariant source registered returned succeeded s) :
    s.Ordered := by
  obtain ⟨s₀, unbuilt, steps⟩ := h.history
  exact steps.ordered unbuilt.sound (.of_empty unbuilt.size)

theorem RunInvariant.layered (h : RunInvariant source registered returned succeeded s) :
    s.Layered := by
  obtain ⟨s₀, unbuilt, steps⟩ := h.history
  exact steps.layered unbuilt.sound (.of_empty unbuilt.size) (.of_empty unbuilt.size)

theorem RunInvariant.packaged (h : RunInvariant source registered returned succeeded s) :
    s.Packaged source := by
  obtain ⟨s₀, unbuilt, steps⟩ := h.history
  refine steps.packaged unbuilt.sound fun id inside => ?_
  rw [unbuilt.size] at inside
  exact absurd inside (Nat.not_lt_zero id)

end

end SchemaClasses
