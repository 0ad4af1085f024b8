import SchemaClasses.Proofs.Build.Typing
import SchemaClasses.Proofs.Failures

/-!
# Writing typed properties

A type that has not been determined cannot be written, nor can its values be compared. No class of a
run that has succeeded has such a type, so its file is written without coming to one.

## Main definitions

* `Failure.IsGap`: a type has not been determined.

## Main statements

* `Run.determined`: all properties are typed after a run that has succeeded, and no language comes to
  a type that has not been determined.
-/

namespace SchemaClasses

/-- A type, or a part of one, has not been determined. -/
inductive Failure.IsGap : Failure → Prop
  | type (language : String) : IsGap (.unsupportedTarget language "type None")
  | part : IsGap .missingPart

/-- Nothing that a document accounts for is a gap in a type. -/
theorem Node.Causes.noGap {root : Node} {failure : Failure} (h : root.Causes failure) :
    ¬failure.IsGap := by
  intro gap
  cases h with
  | target _ noType =>
    cases gap
    exact noType rfl
  | index _ _ _ bad =>
    obtain ⟨problem, rfl⟩ := bad.invalid
    cases gap
  | pattern _ _ fault =>
    have expected := Regex.check_faults fault
    cases gap <;> cases expected
  | _ => cases gap

theorem needsFreezing_of_described {root : Node} {size : Nat} {type : TypeRef}
    (described : type.Described root size) : ∃ freezes, needsFreezing type = .ok freezes := by
  cases described <;> exact ⟨_, rfl⟩

/-- Python finds out how to compare the items that a guard compares. -/
theorem freezingKey_succeeds {root : Node} {size : Nat} {property : Property} {guard : Guard}
    (compares : guard.Compares root size property) (needs : Requirements) :
    ∃ key? needs', freezingKey guard property needs = .ok key? needs' := by
  unfold freezingKey
  split
  · exact ⟨none, needs, rfl⟩
  · rename_i unique
    obtain ⟨type, compared, described⟩ := compares (by simpa using unique)
    obtain ⟨freezes, needed⟩ := needsFreezing_of_described described
    rw [compared]
    change ∃ key? needs', (Emit.ofExcept (needsFreezing type) >>= _) needs = .ok key? needs'
    rw [needed]
    cases freezes with
    | false => exact ⟨none, needs, rfl⟩
    | true => exact ⟨_, _, rfl⟩

/-- The types of all properties are determined after a run that has succeeded, their enums are
declared in the class that has the property, and their constraints are about values of the type. So
Python finds the types of all items that it compares, and no language comes to a type that has not
been determined. -/
theorem Run.determined {document package : Value} {registered : List Definition}
    {returned : List (Definition × ClassId)} {s : BuildState} (distinct : document.distinctKeys)
    (run : Run ⟨.ofValue document, package⟩ registered returned true s) :
    (∀ id, id < s.graph.size → ∀ property ∈ (s.graph.get id).properties,
      property.Typed s.graph id ∧ ∀ guards, property.guards = .ok guards → ∀ guard ∈ guards,
        ∀ needs, ∃ key? needs', freezingKey guard property needs = .ok key? needs') ∧
      ∀ settings language id failure, fileText s.graph settings language id = .error failure →
        ¬failure.IsGap := by
  have describes := run.describes distinct rfl
  refine ⟨fun id inside property mem => ⟨run.typed distinct rfl inside property mem, ?_⟩, ?_⟩
  · intro guards given guard hguard needs
    have described := describes.properties id property mem
    exact freezingKey_succeeds (compares_of_mem_guards described given guard hguard) needs
  · intro settings language id failure fails
    exact (fileText_accounts describes.properties settings language id failure fails).noGap

def order : Value := .object [
  ("title", .string "Order"),
  ("properties", .object [
    ("state", .object [("enum", .array [.string "open", .string "done", .string "open"])]),
    ("labels", .object [("type", .string "array"), ("uniqueItems", .bool true),
      ("items", .object [("type", .string "array"), ("minItems", .int 1),
        ("items", .object [("type", .string "string"), ("maxLength", .int 8)])])]),
    ("prices", .object [("type", .string "object"),
      ("additionalProperties", .object [("type", .string "number")])]),
    ("next", .object [("$ref", .string "#")])])]

theorem Run.determined_order : ∃ id s,
    buildRoot ⟨.ofValue order, .string ""⟩ (.ofValue order) none {} = .ok id s ∧
      (s.graph.get 0).enums.map (·.values) = [["open", "done"]] ∧
      (s.graph.get 0).properties.map (fun property => (property.name,
        property.guards.toOption.map (·.map (·.kind)))) =
          [("state", some []), ("labels", some [.uniqueItems, .minItems]), ("prices", some []),
            ("next", some [])] ∧
      (∀ property ∈ (s.graph.get 0).properties, property.Typed s.graph 0 ∧
        ∀ guards, property.guards = .ok guards → ∀ guard ∈ guards,
          ∀ needs, ∃ key? needs', freezingKey guard property needs = .ok key? needs') ∧
      ∀ failure, fileText s.graph {} .python 0 = .error failure → ¬failure.IsGap := by
  have built : ((buildRoot ⟨.ofValue order, .string ""⟩ (.ofValue order) none >>=
      fun _ => get).run' {}).any fun s => 0 < s.graph.size ∧
        (s.graph.get 0).enums.map (·.values) = [["open", "done"]] ∧
        (s.graph.get 0).properties.map (fun property => (property.name,
          property.guards.toOption.map (·.map (·.kind)))) =
            [("state", some []), ("labels", some [.uniqueItems, .minItems]), ("prices", some []),
              ("next", some [])] := by decide +kernel
  obtain ⟨id, s, run, given⟩ := Build.exists_of_any built
  obtain ⟨inside, enums, kinds⟩ := of_decide_eq_true given
  obtain ⟨all, writes⟩ := Run.determined (by decide +kernel) (.root run)
  exact ⟨id, s, run, enums, kinds, all 0 inside, writes {} .python 0⟩

end SchemaClasses
