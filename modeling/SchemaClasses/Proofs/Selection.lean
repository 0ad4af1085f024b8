import SchemaClasses.Proofs.Build.Correspondence
import SchemaClasses.Proofs.Emit.Copies

/-!
# Selecting members

A list of names selects members of a container: only these are written, and the other ones are built
when a reference leads to them. So the run with the list builds fewer classes than the run without
it, and in a different order. A class that is declared in a member takes a name beside the member if
the name is free there, which depends on what has been built before; but for that, the file of a
member is the same in both runs.

## Main statements

* `render_selected`: the files of selected members are those of the run without the list if what
  they draw on has the same names and places there.
* `twoItems_files_ne`: the places may be different, and then the files are.
-/

namespace SchemaClasses

def fileNamed? (files : List (Target × String)) (name : String) : Option (Target × String) :=
  files.find? (·.1.name = name)

section

variable {graph : ClassGraph} {settings : Settings} {language : TargetLanguage} {ids : List ClassId}
  {files : List (Target × String)}

/-- There is a file of a name exactly if there is a class of it, and the file is that of such a
class. -/
theorem fileNamed?_cases (h : List.Forall₂ (graph.IsFileOf settings language) ids files)
    (name : String) :
    (∃ id ∈ ids, (graph.get id).name = name ∧ ∃ file, fileNamed? files name = some file ∧
      graph.IsFileOf settings language id file) ∨
    (∀ id ∈ ids, (graph.get id).name ≠ name) ∧ fileNamed? files name = none := by
  induction h with
  | nil => exact .inr ⟨fun _ mem => (by cases mem), rfl⟩
  | @cons id file ids files first _ ih =>
    have fileName := targetOf_name first.target
    by_cases eq : (graph.get id).name = name
    · refine .inl ⟨id, List.mem_cons_self, eq, file, ?_, first⟩
      simp [fileNamed?, fileName, eq]
    · have skip : fileNamed? (file :: files) name = fileNamed? files name := by
        simp [fileNamed?, fileName, eq]
      rw [skip]
      rcases ih with ⟨other, mem, named, found⟩ | ⟨none, absent⟩
      · exact .inl ⟨other, List.mem_cons_of_mem _ mem, named, found⟩
      · exact .inr ⟨List.forall_mem_cons.2 ⟨eq, none⟩, absent⟩

end

section

variable {source : Source} {settings : Settings} {language : TargetLanguage}
  {registered : List Definition} {owners : List ClassId} {s : BuildState}
  {files : List (Target × String)} {id : ClassId}

/-- What is written stands at the top level. -/
theorem BuildState.Emits.mem_topLevel (h : s.Emits settings language registered owners files)
    (mem : id ∈ owners.flatMap s.owned) : id ∈ s.topLevel := by
  obtain ⟨owner, isOwner, belongs⟩ := List.mem_flatMap.1 mem
  by_cases eq : id = owner
  · obtain ⟨i, inside, rfl⟩ := List.getElem_of_mem isOwner
    exact eq ▸ (h.members.get (h.members.length_eq ▸ inside) inside).top
  · exact (h.inline owner isOwner id belongs eq).1

/-- The file of a class that is written. -/
theorem BuildState.Emits.fileNamed?_eq (h : s.Emits settings language registered owners files)
    (sound : s.Sound source) (mem : id ∈ owners) (writes : settings.writes (s.graph.get id).name) :
    ∃ file, fileNamed? files (s.graph.get id).name = some file ∧
      s.graph.IsFileOf settings language id file := by
  have belongs : id ∈ owners.flatMap s.owned := List.mem_flatMap.2 ⟨id, mem, List.mem_cons_self⟩
  rcases fileNamed?_cases h.written (s.graph.get id).name with
    ⟨other, written, named, file, found, isFile⟩ | ⟨none, -⟩
  · have eq := List.inj_on_of_nodup_map sound.nodup_topLevel
      (h.mem_topLevel (List.mem_filter.1 written).1) (h.mem_topLevel belongs) named
    exact ⟨file, found, eq ▸ isFile⟩
  · exact absurd rfl (none id (List.mem_filter.2 ⟨belongs, writes⟩))

/-- A selected member has its class among those that are returned. -/
theorem BuildState.Emits.exists_isClassOf (h : s.Emits settings language registered owners files)
    {member : Definition} (mem : member ∈ registered) (selected : member.selected) :
    ∃ id ∈ owners, s.IsClassOf member id := by
  obtain ⟨i, inside, rfl⟩ := List.getElem_of_mem (List.mem_filter.2 ⟨mem, selected⟩)
  have inside' := h.members.length_eq ▸ inside
  exact ⟨owners[i], List.getElem_mem _, h.members.get inside inside'⟩

/-- Hoisted classes have an order of declaration. -/
theorem RunInvariant.hasHoistingOrder {returned : List (Definition × ClassId)} {succeeded : Bool}
    (h : RunInvariant source registered returned succeeded s) {context : Context}
    (graph : context.graph = s.graph) {top : ClassId} (mem : top ∈ s.topLevel) :
    HasHoistingOrder context top := by
  intro python
  obtain ⟨order, found, -⟩ := Python.hoistingOrder_eq_ok h.sound h.ordered graph python mem
  exact ⟨order, found⟩

end

/-! ## Selected members -/

/-- A member is registered with and without a list of names. -/
theorem exists_registered {root : Node} {pointer : String} {include? : Option (List String)}
    {registered registered' : List Definition}
    (found : (Request.members pointer include?).registered root = .ok registered)
    (found' : (Request.members pointer none).registered root = .ok registered')
    {member : Definition} (mem : member ∈ registered) :
    ∃ member' ∈ registered', member'.node = member.node := by
  obtain ⟨entries, hentries, rfl⟩ := Except.map_eq_ok_iff.1 found
  obtain ⟨entries', hentries', rfl⟩ := Except.map_eq_ok_iff.1 found'
  obtain ⟨container, resolved, hentries⟩ := Except.bind_eq_ok_iff.1 hentries
  obtain ⟨container', resolved', hentries'⟩ := Except.bind_eq_ok_iff.1 hentries'
  cases resolved.symm.trans resolved'
  split at hentries
  · cases hentries
  · rename_i isObject
    rw [if_neg isObject] at hentries'
    cases hentries
    cases hentries'
    obtain ⟨known, hasClass⟩ := List.mem_filter.1 mem
    obtain ⟨⟨name, node⟩, item, rfl⟩ := List.mem_map.1 known
    exact ⟨⟨name, node, true⟩, List.mem_filter.2 ⟨List.mem_map.2 ⟨_, item, rfl⟩, hasClass⟩, rfl⟩

/-- The file of a selected member is the same, with the same target, as without the list of names,
if what the class of the member draws on has the same names and places in both runs. -/
theorem render_selected {document : Value} {settings : Settings} {language : TargetLanguage}
    {pointer : String} {names : List String} {files files' : List (Target × String)}
    (distinct : document.distinctKeys)
    (filtered : render (.ofValue document) settings language (.members pointer (some names)) =
      .ok files)
    (unfiltered : render (.ofValue document) settings language (.members pointer none) =
      .ok files') :
    ∃ registered owners s owners' s',
      (Request.members pointer (some names)).registered (.ofValue document) = .ok registered ∧
      buildRequested ⟨.ofValue document, settings.basePackage⟩ (.members pointer (some names)) {} =
        .ok owners s ∧
      buildRequested ⟨.ofValue document, settings.basePackage⟩ (.members pointer none) {} =
        .ok owners' s' ∧
      ∀ member ∈ registered, member.selected → ∃ id ∈ owners, s.IsClassOf member id ∧
        (s.graph.PlacesAlike s'.graph id → settings.writes (s.graph.get id).name →
          ∃ file, fileNamed? files (s.graph.get id).name = some file ∧
            fileNamed? files' (s.graph.get id).name = some file) := by
  obtain ⟨registered, owners, s, found, build, emits⟩ := render_emits distinct filtered
  obtain ⟨registered', owners', s', found', build', emits'⟩ := render_emits distinct unfiltered
  refine ⟨registered, owners, s, owners', s', found, build, build', fun member mem selected => ?_⟩
  obtain ⟨id, isOwner, isClassOf⟩ := emits.exists_isClassOf mem selected
  refine ⟨id, isOwner, isClassOf, fun alike writes => ?_⟩
  -- Both runs are complete, and the second one has the class of the member, too.
  obtain ⟨_, known, -, run⟩ := Run.of_buildRequested build
  obtain ⟨_, known', -, run'⟩ := Run.of_buildRequested build'
  cases found.symm.trans known
  cases found'.symm.trans known'
  have complete := run.complete distinct rfl
  have complete' := run'.complete distinct rfl
  obtain ⟨member', mem', node⟩ := exists_registered found found' mem
  obtain ⟨id', isOwner', isClassOf'⟩ :=
    emits'.exists_isClassOf mem' (selected_of_registered found' member' mem')
  obtain ⟨part, f, copy, own⟩ := complete.exists_copy complete' isClassOf.top alike
  obtain rfl : id' = f id := own.only'.only id'
    (complete'.sound.nesting.mem_topLevel_iff.1 isClassOf'.top).1
    (by rw [isClassOf'.path, own.path, isClassOf.path, node])
  -- The files of the copies are the same.
  have text := copy.fileText_eq settings language
    ((run.invariant distinct rfl).hasHoistingOrder rfl isClassOf.top)
    ((run'.invariant distinct rfl).hasHoistingOrder rfl isClassOf'.top)
  obtain ⟨file, present, isFile⟩ := emits.fileNamed?_eq complete.sound isOwner writes
  rw [← own.name] at writes
  obtain ⟨file', present', isFile'⟩ := emits'.fileNamed?_eq complete'.sound isOwner' writes
  have same : file' = file := by
    have target := isFile'.target.symm.trans (own.name ▸ isFile.target)
    have text := isFile'.text.symm.trans (text.trans isFile.text)
    exact Prod.ext (Except.ok.inj target) (Except.ok.inj text)
  rw [own.name] at present'
  exact ⟨file, present, same ▸ present'⟩

/-- A document in which two members declare a class of the same name. -/
def twoItems : Value := .object [("definitions", .object [
  ("Order", .object [("type", .string "object"), ("properties", .object [
    ("buyer", .object [("$ref", .string "#/definitions/Customer")]),
    ("item", .object [("properties", .object [
      ("count", .object [("type", .string "integer")])])])])]),
  ("Invoice", .object [("type", .string "object"), ("properties", .object [
    ("item", .object [("properties", .object [
      ("price", .object [("type", .string "number")])])])])]),
  ("Customer", .object [("type", .string "object"), ("properties", .object [
    ("name", .object [("type", .string "string")])])])])]

theorem twoItems_placesAlike :
    (match buildRequested ⟨.ofValue twoItems, .string ""⟩
        (.members "#/definitions" (some ["Order"])) {} with
      | .ok owners s =>
        match buildRequested ⟨.ofValue twoItems, .string ""⟩ (.members "#/definitions" none) {} with
        | .ok _ s' => owners.all fun id =>
          decide ((s.graph.get id).name = "Order" ∧ s.graph.PlacesAlike s'.graph id)
        | .error _ _ => false
      | .error _ _ => false) = true := by
  decide +kernel

theorem render_selected_twoItems : ∃ files files' file,
    render (.ofValue twoItems) {} .kotlin (.members "#/definitions" (some ["Order"])) = .ok files ∧
    render (.ofValue twoItems) {} .kotlin (.members "#/definitions" none) = .ok files' ∧
    fileNamed? files "Order" = some file ∧ fileNamed? files' "Order" = some file := by
  have rendered (include? : Option (List String)) (mem : include? ∈ [some ["Order"], none]) :
      (render (.ofValue twoItems) {} .kotlin (.members "#/definitions" include?)).toOption.any
        fun _ => true := by
    revert include?
    decide +kernel
  obtain ⟨files, filtered, -⟩ := Except.exists_of_any (rendered (some ["Order"]) (by simp))
  obtain ⟨files', unfiltered, -⟩ := Except.exists_of_any (rendered none (by simp))
  obtain ⟨registered, owners, s, owners', s', found, build, build', same⟩ :=
    render_selected (by decide +kernel) filtered unfiltered
  have selected : ((Request.members "#/definitions" (some ["Order"])).registered
      (.ofValue twoItems)).toOption.any fun members => members.any (·.selected) := by
    decide +kernel
  have alike := twoItems_placesAlike
  rw [found] at selected
  obtain ⟨member, mem, isSelected⟩ := List.any_eq_true.1 selected
  obtain ⟨id, isOwner, -, file⟩ := same member mem isSelected
  simp only [build, build'] at alike
  obtain ⟨name, places⟩ := of_decide_eq_true (List.all_eq_true.1 alike id isOwner)
  rw [name] at file
  obtain ⟨file, present, present'⟩ := file places rfl
  exact ⟨files, files', file, filtered, unfiltered, present, present'⟩

/-- The class in the second member has the name beside that member if the first one is not built. -/
theorem twoItems_files_ne : ∃ files files' file file',
    render (.ofValue twoItems) {} .kotlin (.members "#/definitions" (some ["Invoice"])) =
      .ok files ∧
    render (.ofValue twoItems) {} .kotlin (.members "#/definitions" none) = .ok files' ∧
    fileNamed? files "Invoice" = some file ∧ fileNamed? files' "Invoice" = some file' ∧
    file.1 = file'.1 ∧ file.2 ≠ file'.2 := by
  have rendered : (render (.ofValue twoItems) {} .kotlin
      (.members "#/definitions" (some ["Invoice"]))).toOption.any fun files =>
        (render (.ofValue twoItems) {} .kotlin
          (.members "#/definitions" none)).toOption.any fun files' =>
            (fileNamed? files "Invoice").any fun file =>
              (fileNamed? files' "Invoice").any fun file' =>
                decide (file.1 = file'.1 ∧ file.2 ≠ file'.2) := by
    decide +kernel
  obtain ⟨files, filtered, rendered⟩ := Except.exists_of_any rendered
  obtain ⟨files', unfiltered, rendered⟩ := Except.exists_of_any rendered
  obtain ⟨file, present, rendered⟩ := (Option.any_eq_true _ _).1 rendered
  obtain ⟨file', present', differ⟩ := (Option.any_eq_true _ _).1 rendered
  exact ⟨files, files', file, file', filtered, unfiltered, present, present',
    of_decide_eq_true differ⟩

end SchemaClasses
