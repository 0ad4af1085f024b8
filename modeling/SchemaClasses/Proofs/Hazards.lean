import SchemaClasses.Proofs.Decidable
import SchemaClasses.Proofs.Document.Load
import SchemaClasses.Proofs.Failures

/-!
# Documents that fail in another way

A request should fail only with what is wrong with the schema, or with what a language has no form
for. Four kinds of values in a document are not looked at closely enough for that: a format that has
parts, digits in a pointer that are no index, a pattern that holds a number out of range, and the
default of a number that is too large an integer. Every other failure of a request on a document in
JSON, under settings of the declared types, is one of those that are reported to the user.

## Main definitions

* `Node.Hazard`: the other failures that a value of a document leads to.

## Main statements

* `Node.Causes.isGeneration_or`: what accounts for a failure, when the numbers are short.
* `render_isGeneration_or`: what a request on a document in JSON fails with.
* `formatWithParts_wrongType`: a document over which a request fails in another way.
-/

namespace SchemaClasses

namespace Node

/-- The failures that are not about the schema, with the values of a document that lead to them. -/
inductive Hazard (root : Node) : Failure → Prop
  /-- A reference, or the plain pointer of one, goes to an item of an array by digits that are no
  index. -/
  | index {node : Node} {reference pointer : String} {problem : InvalidValue}
      (within : root.Within node) (link : node.value.member? "$ref" = some (.string reference))
      (goes : pointer = reference ∨ pointer = Pointer.canonical reference)
      (bad : Pointer.HasBadIndex pointer (.invalidValue problem)) :
      Hazard root (.invalidValue problem)
  /-- The format of a text has parts. -/
  | format {node : Node} {others : List String} (within : root.Within node)
      (isText : typeNames node = .ok ("string" :: others))
      (parts : (node.valueOf "format").isArray ∨ (node.valueOf "format").isObject) :
      Hazard root .wrongType
  /-- A pattern has no fault, but there is no matcher for it. -/
  | pattern {node : Node} {pattern : String} {failure : Failure} (within : root.Within node)
      (given : node.valueOf "pattern" = .string pattern)
      (fault : Regex.check pattern.toList = .error (.failure failure)) : Hazard root failure
  /-- The default of a number is an integer that is too large to be a floating-point number. -/
  | largeDefault {node : Node} {n : Int} (within : root.Within node)
      (given : node.valueOf "default" = .int n) (large : Binary64.ofInt? n = none) :
      Hazard root .numberTooLarge

/-- Where the numbers of a document are short, a failure is about the schema or the language, or
comes from one of the values that lead to others. -/
theorem Causes.isGeneration_or {root : Node} {failure : Failure} (h : root.Causes failure)
    (short : root.value.hasShortNumbers) : failure.isGeneration ∨ root.Hazard failure := by
  cases h with
  | unresolved => exact .inl rfl
  | unsupported => exact .inl rfl
  | extension => exact .inl rfl
  | unusual => exact .inl rfl
  | target => exact .inl rfl
  | index within link goes bad =>
    obtain ⟨problem, rfl⟩ := bad.invalid
    exact .inr (.index within link goes bad)
  | format within isText parts => exact .inr (.format within isText parts)
  | pattern within given fault => exact .inr (.pattern within given fault)
  | largeDefault within given large => exact .inr (.largeDefault within given large)
  | unwritable within long =>
    exact absurd (Value.isWritable_of_hasShortNumbers _ (within.hasShortNumbers short)) long
  | longCount within given whole long =>
    have here := hasShortNumbers_valueOf (within.hasShortNumbers short)
    exact absurd (Value.hasShortNumbers_of_toInt? (given ▸ here _) whole) long

end Node

/-- A request on a document in JSON, under settings of the declared types, fails with what is wrong
with the schema or has no form in the language, unless a value of the document or the pointer of the
request is one of those that lead to other failures. -/
theorem render_isGeneration_or {text : String} {document : Value} {settings : Settings}
    {language : TargetLanguage} {request : Request} {failure : Failure}
    (read : Json.read text = .ok document) (typed : settings.IsTyped)
    (fails : render (.ofValue document) settings language request = .error failure) :
    failure.isGeneration ∨ (Node.ofValue document).Hazard failure ∨
      request.HasBadIndex failure := by
  rcases render_error fails with cause | bad | misfit
  · cases cause with
    | cycle => exact .inl rfl
    | ofCauses cause =>
      exact (cause.isGeneration_or (Json.hasShortNumbers_of_read read)).imp_right .inl
  · exact .inr (.inr bad)
  · exact absurd typed misfit.untyped

/-- A document with a list where the name of a format should stand. -/
def formatWithParts : String :=
  "\x7b\"type\":\"object\",\"properties\":\x7b\"s\":\x7b\"type\":\"string\",\"format\":[]\x7d\x7d\x7d"

def formatWithPartsValue : Value := .object [("type", .string "object"), ("properties", .object [
  ("s", .object [("type", .string "string"), ("format", .array [])])])]

theorem read_formatWithParts : Json.read formatWithParts = .ok formatWithPartsValue := by
  decide +kernel

theorem render_formatWithParts :
    render (.ofValue formatWithPartsValue) {} .kotlin (.root (some "Holder")) =
      .error .wrongType := by
  decide +kernel

/-- A request on the document fails, and not over the schema. -/
theorem formatWithParts_wrongType :
    Json.read formatWithParts = .ok formatWithPartsValue ∧ ({} : Settings).IsTyped ∧
    render (.ofValue formatWithPartsValue) {} .kotlin (.root (some "Holder")) =
      .error .wrongType ∧
    Failure.wrongType.isGeneration = false :=
  ⟨read_formatWithParts, Settings.isTyped_default, render_formatWithParts, rfl⟩

theorem render_isGeneration_or_formatWithParts :
    Failure.wrongType.isGeneration ∨ (Node.ofValue formatWithPartsValue).Hazard .wrongType ∨
      (Request.root (some "Holder")).HasBadIndex .wrongType :=
  render_isGeneration_or read_formatWithParts Settings.isTyped_default render_formatWithParts

end SchemaClasses
