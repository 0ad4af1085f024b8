import Mathlib
import SchemaClasses.Output.FileTree
import SchemaClasses.Proofs.Number.Shortest

/-!
# Writing files

Directories are made from the root on, so a file on the way is met before anything has been made:
below a name that is missing nothing stands. A file is drafted under a name that nothing has and
moved to its place, or else its draft is removed. So a file is written as a whole, with the
directories on the way to it, or nothing in the tree changes.

## Main definitions

* `FileTree.IsTree`: files and directories stand in directories.
* `FileTree.Obstructs`: what stands in the way of a file.
* `FileTree.Makes`, `FileTree.Writes`: what becomes of a tree when directories are made and when a
  file is written.

## Main statements

* `FileTree.makes_makeFrom`: directories are made, or a file is on the way and nothing is made.
* `FileTree.replace_run`: a draft does not outlast the writing.
* `FileTree.isFresh_freshToken`: drafts are given names that nothing has.
* `FileTree.writes_write`: a file is written as a whole or nothing changes.
* `FileTree.write_atomic`: and no draft is left over.
-/

namespace SchemaClasses

namespace FileTree

variable {tree : FileTree} {place other rest names : List String} {entry : FileEntry}

/-! ## What stands at a place -/

@[simp] theorem at?_nil : tree.at? [] = some .directory := rfl

theorem at?_of_ne_nil (h : place ≠ []) : tree.at? place = tree.entries.lookup place := by
  simp [at?, h]

theorem lookup_replaced (entries : List (List String × FileEntry)) :
    (entries.map fun (known, old) => (known, if known = place then entry else old)).lookup other =
      if other = place then (entries.lookup place).map fun _ => entry
      else entries.lookup other := by
  induction entries with
  | nil => simp
  | cons first entries ih =>
    obtain ⟨key, old⟩ := first
    by_cases known : place = key <;> by_cases here : other = key <;> grind

/-- A place holds what has been put there, and other places what they held. -/
theorem at?_put (h : place ≠ []) :
    (tree.put place entry).at? other = if other = place then some entry else tree.at? other := by
  by_cases root : other = []
  · simp [root, Ne.symm h]
  rw [at?_of_ne_nil root, at?_of_ne_nil root, put, at?_of_ne_nil h]
  split
  · rename_i known
    obtain ⟨old, found⟩ := Option.isSome_iff_exists.1 known
    rw [lookup_replaced, found]
    rfl
  · rename_i unknown
    have none : tree.entries.lookup place = none := Option.not_isSome_iff_eq_none.1 unknown
    rw [List.lookup_append]
    grind

/-- What stood at a place leaves no trace when the place is cleared. -/
theorem remove_put : (tree.put place entry).remove place = tree.remove place := by
  unfold put remove
  split
  · congr 1
    induction tree.entries with
    | nil => rfl
    | cons first entries ih => grind
  · simp

theorem remove_of_at?_eq_none (h : place ≠ []) (none : tree.at? place = none) :
    tree.remove place = tree := by
  rw [at?_of_ne_nil h, List.lookup_eq_none_iff] at none
  have all : tree.entries.filter (·.1 ≠ place) = tree.entries := by
    refine List.filter_eq_self.2 fun entry mem => ?_
    have differs : place ≠ entry.1 := by simpa using none entry mem
    simpa using differs.symm
  rw [remove, all]

/-! ## Directory trees -/

/-- Whatever stands in a tree stands in a directory. -/
def IsTree (tree : FileTree) : Prop :=
  ∀ place name, (tree.at? (place ++ [name])).isSome → tree.at? place = some .directory

/-- A tree in which nothing stands. -/
theorem isTree_empty : IsTree {} := by
  intro place name stands
  simp [at?_of_ne_nil] at stands

/-- Everything on the way to what stands in a tree is a directory. -/
theorem IsTree.at?_of_append (isTree : tree.IsTree) (below : rest ≠ [])
    (stands : (tree.at? (place ++ rest)).isSome) : tree.at? place = some .directory := by
  induction rest using List.reverseRecOn with
  | nil => exact absurd rfl below
  | append_singleton rest name ih =>
    rw [← List.append_assoc] at stands
    have directory := isTree _ name stands
    by_cases empty : rest = []
    · simpa [empty] using directory
    · exact ih empty (by simp [directory])

theorem IsTree.at?_of_prefix (isTree : tree.IsTree) (directory : tree.at? place = some .directory)
    (h : other <+: place) : tree.at? other = some .directory := by
  obtain ⟨rest, rfl⟩ := h
  by_cases empty : rest = []
  · simpa [empty] using directory
  · exact isTree.at?_of_append empty (by simp [directory])

/-- An entry may be put into a directory unless it takes the place of another one. -/
theorem IsTree.put {name : String} (isTree : tree.IsTree)
    (directory : tree.at? place = some .directory)
    (vacant : tree.at? (place ++ [name]) ≠ some .directory) :
    (tree.put (place ++ [name]) entry).IsTree := by
  intro other next stands
  rw [at?_put (by simp)] at stands ⊢
  split at stands
  · rename_i same
    obtain ⟨rfl, -⟩ := List.append_inj' same rfl
    simpa using directory
  · have parent := isTree other next stands
    split
    · rename_i same
      exact absurd (same ▸ parent) vacant
    · exact parent

/-! ## Directories on a way -/

def HasFileOn (tree : FileTree) (way : List String) : Prop :=
  ∃ place, place <+: way ∧ ∃ text, tree.at? place = some (.file text)

/-- What becomes of a tree when the directories on a way are made: there they are, and all else is
as it was, or else a file is on the way and nothing has changed. -/
inductive Makes {α : Type} (tree : FileTree) (way : List String) :
    EStateM.Result Failure FileTree α → Prop
  | made {value : α} {after : FileTree} (clear : ¬tree.HasFileOn way) (isTree : after.IsTree)
      (idle : tree.at? way = some .directory → after = tree)
      (stands : ∀ place,
        after.at? place = if place <+: way then some .directory else tree.at? place) :
      Makes tree way (.ok value after)
  | obstructed {failure : Failure} (obstacle : tree.HasFileOn way) :
      Makes tree way (.error failure tree)

/-- One step on the way: a name that is not two dots. -/
theorem makeFrom_cons {made earlier : Bool} {name : String} (h : name ≠ "..") :
    (makeFrom place made earlier (name :: names)).run tree =
      match tree.at? (place ++ [name]) with
      | some (.file _) =>
        .error (if made || earlier || names.isEmpty then .fileExists else .notDirectory) tree
      | some .directory => (makeFrom (place ++ [name]) false (made || earlier) names).run tree
      | none =>
        if Path.isLongName name then .error .unusablePath tree
        else (makeFrom (place ++ [name]) true (made || earlier) names).run
          (tree.put (place ++ [name]) .directory) := by
  rw [makeFrom.eq_3 _ _ _ _ _ h]
  simp only [EStateM.run_bind, EStateM.run_get]
  cases tree.at? (place ++ [name]) with
  | none => cases long : Path.isLongName name <;> rfl
  | some entry => cases entry <;> rfl

/-- Below a name that is missing nothing stands. -/
theorem IsTree.not_hasFileOn {name : String} (isTree : tree.IsTree)
    (directory : tree.at? place = some .directory) (missing : tree.at? (place ++ [name]) = none) :
    ¬tree.HasFileOn (place ++ name :: names) := by
  rintro ⟨other, onWay, text, file⟩
  have next : place ++ [name] <+: place ++ name :: names := by simp
  rcases List.prefix_or_prefix_of_prefix onWay next with above | below
  · rcases List.prefix_concat_iff.1 above with rfl | above
    · simp [missing] at file
    · simp [isTree.at?_of_prefix directory above] at file
  · obtain ⟨rest, rfl⟩ := below
    by_cases empty : rest = []
    · simp [empty, missing] at file
    · have there := isTree.at?_of_append empty (Option.isSome_of_mem file)
      simp [missing] at there

/-- The first directory that is missing on a way is made before the others. -/
theorem Makes.of_put {α : Type} {name : String} {result : EStateM.Result Failure FileTree α}
    (isTree : tree.IsTree) (directory : tree.at? place = some .directory)
    (missing : tree.at? (place ++ [name]) = none)
    (h : (tree.put (place ++ [name]) .directory).Makes (place ++ name :: names) result) :
    tree.Makes (place ++ name :: names) result := by
  have clear : ¬tree.HasFileOn (place ++ name :: names) :=
    isTree.not_hasFileOn directory missing
  have onWay : place ++ [name] <+: place ++ name :: names := by simp
  have put (other : List String) := @at?_put tree (place ++ [name]) other .directory (by simp)
  cases h with
  | made _ made _ stands =>
    refine .made clear made (fun whole => ?_) fun other => ?_
    · simp [isTree.at?_of_prefix whole onWay] at missing
    · rw [stands, put]
      split
      · rfl
      · rename_i notOnWay
        exact if_neg fun (same : other = place ++ [name]) => notOnWay (same ▸ onWay)
  | obstructed obstacle =>
    obtain ⟨other, above, text, file⟩ := obstacle
    rw [put] at file
    split at file
    · cases file
    · exact absurd ⟨other, above, text, file⟩ clear

/-- Directories are made, or a file is on the way and nothing is made. The induction is on the names
that are still to be passed. -/
theorem makes_makeFrom {made earlier : Bool} (isTree : tree.IsTree)
    (directory : tree.at? place = some .directory) (plain : ".." ∉ names)
    (short : ∀ name ∈ names, ¬Path.isLongName name) :
    tree.Makes (place ++ names) ((makeFrom place made earlier names).run tree) := by
  induction names generalizing tree place made earlier with
  | nil =>
    refine .made ?_ isTree (fun _ => rfl) fun other => ?_
    · rintro ⟨other, above, text, file⟩
      rw [List.append_nil] at above
      simp [isTree.at?_of_prefix directory above] at file
    · rw [List.append_nil]
      split
      · rename_i above
        exact isTree.at?_of_prefix directory above
      · rfl
  | cons name names ih =>
    rw [List.mem_cons, not_or] at plain
    obtain ⟨notDots, plain⟩ := plain
    obtain ⟨shortName, short⟩ := List.forall_mem_cons.1 short
    rw [makeFrom_cons (Ne.symm notDots)]
    cases next : tree.at? (place ++ [name]) with
    | none =>
      have vacant : tree.at? (place ++ [name]) ≠ some .directory := by simp [next]
      have there : (tree.put (place ++ [name]) .directory).at? (place ++ [name]) =
          some .directory := by simp [at?_put]
      have made : Makes _ (place ++ [name] ++ names)
          ((makeFrom (place ++ [name]) true (made || earlier) names).run _) :=
        ih (isTree.put directory vacant) there plain short
      rw [List.append_assoc, List.singleton_append] at made
      simpa only [shortName, Bool.false_eq_true, ↓reduceIte] using made.of_put isTree directory next
    | some entry =>
      cases entry with
      | directory =>
        have made : tree.Makes (place ++ [name] ++ names)
            ((makeFrom (place ++ [name]) false (made || earlier) names).run tree) :=
          ih isTree next plain short
        rwa [List.append_assoc] at made
      | file text => exact .obstructed ⟨place ++ [name], by simp, text, next⟩

end FileTree

/-! ## Drafts -/

namespace Path

/-- A path that leads on from where it starts, to a name and never back. -/
structure IsPlain (path : Path) : Prop where
  relative : path.root = ""
  nonempty : path.names ≠ []
  forward : ".." ∉ path.names

/-- A path that the system takes, also for the draft of the file. -/
structure IsUsable (path : Path) : Prop where
  noNull : ¬path.hasNull
  short : ∀ name ∈ path.names, ¬isLongName name
  parent : ¬path.parent.isLong
  draft : ¬(path.draft (FileTree.tokenAt 0)).isLong
  draftName : ¬isLongName (path.draftName (FileTree.tokenAt 0))

variable {path : Path} {names : List String}

theorem withoutDoubleDots_append {name : String} (h : name ≠ "..") (names : List String) :
    withoutDoubleDots (names ++ [name]) = withoutDoubleDots names ++ [name] := by
  simp [withoutDoubleDots, h]

theorem withoutDoubleDots_of_notMem (h : ".." ∉ names) : withoutDoubleDots names = names := by
  induction names using List.reverseRecOn with
  | nil => rfl
  | append_singleton names name ih =>
    simp only [List.mem_append, List.mem_singleton, not_or] at h
    rw [withoutDoubleDots_append (Ne.symm h.2), ih h.1]

theorem names_eq (h : path.names ≠ []) : path.names = path.parent.names ++ [path.name] := by
  have last : path.name = path.names.getLast h := by
    simp [name, List.getLastD_eq_getLast?, List.getLast?_eq_some_getLast h]
  rw [last]
  exact (List.dropLast_append_getLast h).symm

theorem IsPlain.forward_parts (plain : path.IsPlain) :
    ".." ∉ path.parent.names ∧ path.name ≠ ".." := by
  have forward := plain.forward
  rw [names_eq plain.nonempty] at forward
  simpa [eq_comm] using forward

theorem length_draftName (path : Path) (token : String) :
    (path.draftName token).length = path.name.length + token.length + 6 := by
  have dot : ".".length = 1 := rfl
  have extension : ".tmp".length = 4 := rfl
  simp only [draftName, String.length_append, dot, extension]
  omega

theorem draftName_injective (path : Path) : Function.Injective path.draftName := by
  intro a b same
  exact (String.append_right_inj _).1 ((String.append_left_inj _).1 same)

end Path

namespace FileTree

variable {tree : FileTree} {path : Path} {text token : String} {place : List String}

/-- A draft is in the directory of its file. -/
theorem draftPlace_eq (path : Path) (token : String) :
    draftPlace path token =
      Path.withoutDoubleDots path.parent.names ++ [path.draftName token] := by
  refine Path.withoutDoubleDots_append (fun same => ?_) _
  have dots : "..".length = 2 := rfl
  have length := path.length_draftName token
  rw [same, dots] at length
  omega

/-- The draft of a file is not on the way to it. -/
theorem not_draftPlace_prefix (plain : path.IsPlain) (token : String) :
    ¬draftPlace path token <+: path.names := by
  rw [draftPlace_eq, Path.withoutDoubleDots_of_notMem plain.forward_parts.1,
    Path.names_eq plain.nonempty, List.prefix_append_right_inj]
  intro same
  have length := path.length_draftName token
  rw [List.singleton_inj.1 (same.eq_of_length rfl)] at length
  omega

/-- Each token is the number of its place. -/
theorem digitsValue_tokenAt (index : Nat) : digitsValue (tokenAt index).toList = index := by
  rw [tokenAt, String.toList_ofList, List.leftpad, digitsValue_append_list,
    digitsValue_replicate_zero, digitsValue_toDigits, Nat.zero_mul, Nat.zero_add]

theorem tokenAt_injective : Function.Injective tokenAt := by
  intro a b same
  rw [← digitsValue_tokenAt a, same, digitsValue_tokenAt]

theorem draftPlace_injective (path : Path) : Function.Injective (draftPlace path) := by
  intro a b same
  rw [draftPlace_eq, draftPlace_eq, List.append_cancel_left_eq] at same
  exact path.draftName_injective (List.singleton_inj.1 same)

/-- Drafts are given names that nothing has: there are fewer entries than tokens that are tried. -/
theorem isFresh_freshToken (path : Path) (tree : FileTree) :
    tree.isFresh path (freshToken path tree) := by
  unfold freshToken
  simp only
  cases found : (List.range tree.entries.length).find? fun index =>
      tree.isFresh path (tokenAt index) with
  | some index =>
    have fresh := List.find?_some found
    exact fresh
  | none =>
    by_contra last
    have taken : (List.range (tree.entries.length + 1)).map (draftPlace path <| tokenAt ·) ⊆
        tree.entries.map (·.1) := by
      intro place mem
      obtain ⟨index, inRange, rfl⟩ := List.mem_map.1 mem
      have stale : ¬tree.isFresh path (tokenAt index) := by
        rw [List.range_succ, List.mem_append, List.mem_singleton] at inRange
        rcases inRange with earlier | rfl
        · exact List.find?_eq_none.1 found index earlier
        · exact last
      have below : draftPlace path (tokenAt index) ≠ [] := by simp [draftPlace_eq]
      rw [isFresh, at?_of_ne_nil below, Option.isNone_iff_eq_none, ← Ne, Option.ne_none_iff_isSome,
        List.lookup_isSome_iff] at stale
      obtain ⟨entry, mem, same⟩ := stale
      exact List.mem_map.2 ⟨entry, mem, (beq_iff_eq.1 same).symm⟩
    have distinct : ((List.range (tree.entries.length + 1)).map
        (draftPlace path <| tokenAt ·)).Nodup :=
      List.nodup_range.map ((draftPlace_injective path).comp tokenAt_injective)
    have length := (List.subperm_of_subset distinct taken).length_le
    simp at length

theorem create_run (directory : tree.at? place.dropLast = some .directory)
    (vacant : tree.at? place = none) :
    (create place).run tree = .ok () (tree.put place (.file "")) := by
  unfold create
  simp only [EStateM.run_bind, EStateM.run_get, directory, vacant]
  rfl

/-- Moving a file to a place is putting it there and removing it where it was. -/
theorem rename_run {source target : List String} (file : tree.at? source = some (.file text)) :
    (rename source target).run tree =
      if tree.at? target = some .directory then .error .isDirectory tree
      else .ok () ((tree.remove source).put target (.file text)) := by
  unfold rename
  simp only [EStateM.run_bind, EStateM.run_get, file]
  cases tree.at? target with
  | none => rfl
  | some entry => cases entry <;> rfl

/-- A draft does not outlast the writing: it becomes the file, or it is removed. -/
theorem replace_run (plain : path.IsPlain) (usable : path.IsUsable)
    (directory : tree.at? path.parent.names = some .directory) (fresh : tree.isFresh path token) :
    (replace path text token).run tree =
      if tree.at? path.names = some .directory then .error .isDirectory tree
      else .ok () (tree.put path.names (.file text)) := by
  obtain ⟨forward, notDots⟩ := plain.forward_parts
  have place : draftPlace path token = path.parent.names ++ [path.draftName token] := by
    rw [draftPlace_eq, Path.withoutDoubleDots_of_notMem forward]
  have below : draftPlace path token ≠ [] := by simp [place]
  have differs : path.names ≠ draftPlace path token := fun same =>
    not_draftPlace_prefix plain token (same ▸ List.prefix_refl _)
  have vacant : tree.at? (draftPlace path token) = none := by simpa [isFresh] using fresh
  have created := create_run (by rw [place, List.dropLast_concat, directory]) vacant
  obtain ⟨drafted, draft⟩ : ∃ drafted, drafted =
      (tree.put (draftPlace path token) (.file "")).put (draftPlace path token) (.file text) :=
    ⟨_, rfl⟩
  have cleared : drafted.remove (draftPlace path token) = tree := by
    rw [draft, remove_put, remove_put, remove_of_at?_eq_none below vacant]
  have file : drafted.at? (draftPlace path token) = some (.file text) := by
    simp [draft, at?_put below]
  have target : drafted.at? path.names = tree.at? path.names := by
    simp [draft, at?_put below, differs]
  have renamed : (rename (draftPlace path token) path.names).run drafted = _ := rename_run file
  rw [target, cleared] at renamed
  unfold replace
  simp only [usable.noNull, usable.draft, usable.draftName, Bool.false_eq_true, ↓reduceIte,
    Bool.or_self, Path.withoutDoubleDots_of_notMem plain.forward, notDots, EStateM.run_bind,
    created, EStateM.run_tryCatch, EStateM.run_modify, ← draft, renamed]
  by_cases occupied : tree.at? path.names = some .directory
  · simp only [occupied, ↓reduceIte]
    exact congrArg (EStateM.Result.error Failure.isDirectory) cleared
  · simp only [occupied, ↓reduceIte]

/-! ## Writing -/

/-- A file cannot be put at a place if another one is on the way there, or a directory is there. -/
def Obstructs (tree : FileTree) (place : List String) : Prop :=
  tree.HasFileOn place.dropLast ∨ tree.at? place = some .directory

/-- What becomes of a tree when a file is written at a place: there it is, with directories on the
way to it, and all else is as it was, or else something is in its way and nothing has changed. -/
inductive Writes (tree : FileTree) (place : List String) (text : String) :
    EStateM.Result Failure FileTree Unit → Prop
  | written {after : FileTree} (clear : ¬tree.Obstructs place) (isTree : after.IsTree)
      (stands : ∀ other, after.at? other =
        if other = place then some (.file text)
        else if other <+: place then some .directory
        else tree.at? other) :
      Writes tree place text (.ok () after)
  | obstructed {failure : Failure} (obstacle : tree.Obstructs place) :
      Writes tree place text (.error failure tree)

def treeAfter {α : Type} : EStateM.Result Failure FileTree α → FileTree
  | .ok _ tree | .error _ tree => tree

theorem makes_makeDirectories (isTree : tree.IsTree) (forward : ".." ∉ path.names)
    (noNull : ¬path.hasNull) (notLong : ¬path.isLong)
    (short : ∀ name ∈ path.names, ¬Path.isLongName name) :
    tree.Makes path.names ((makeDirectories path).run tree) := by
  unfold makeDirectories
  simp only [noNull, notLong, Bool.false_eq_true, ↓reduceIte]
  exact makes_makeFrom isTree at?_nil forward short

/-- A file that is put into a directory is there, and all else is as it was. -/
theorem Writes.of_put (below : place ≠ []) (clear : ¬tree.Obstructs place)
    {after : FileTree} (isTree : after.IsTree)
    (stands : ∀ other, after.at? other =
      if other <+: place.dropLast then some .directory else tree.at? other) :
    tree.Writes place text (.ok () (after.put place (.file text))) := by
  obtain ⟨parent, name, rfl⟩ := (List.eq_nil_or_concat place).resolve_left below
  rw [List.concat_eq_append] at *
  rw [List.dropLast_concat] at stands
  have directory : after.at? parent = some .directory := by
    rw [stands, if_pos (List.prefix_refl _)]
  have vacant : after.at? (parent ++ [name]) ≠ some .directory := by
    rw [stands, if_neg (fun above => by simpa using above.length_le)]
    exact fun occupied => clear (.inr occupied)
  refine .written clear (isTree.put directory vacant) fun other => ?_
  rw [at?_put below, stands]
  grind [List.prefix_concat_iff]

/-- A file is written as a whole, or nothing in the tree changes, whatever fresh name its draft is
given. -/
theorem writes_write {choose : FileTree → String} (isTree : tree.IsTree) (plain : path.IsPlain)
    (usable : path.IsUsable) (fresh : ∀ tree : FileTree, tree.isFresh path (choose tree)) :
    tree.Writes path.names text ((write path text choose).run tree) := by
  have names := path.names_eq plain.nonempty
  have noNull : ¬path.parent.hasNull := by
    have noNull := usable.noNull
    rw [Path.hasNull, names] at noNull
    simp_all [Path.hasNull]
  have made := makes_makeDirectories isTree plain.forward_parts.1 noNull
    usable.parent fun name mem => usable.short name (names ▸ List.mem_append_left _ mem)
  unfold write
  rw [EStateM.run_bind]
  cases run : (makeDirectories path.parent).run tree with
  | error failure after =>
    rw [run] at made
    cases made with
    | obstructed obstacle => exact .obstructed (.inl obstacle)
  | ok value after =>
    rw [run] at made
    cases made with
    | made clear made idle stands =>
      have same : after.at? path.names = tree.at? path.names := by
        rw [stands, if_neg fun above => by simpa [names] using above.length_le]
      have directory : after.at? path.parent.names = some .directory := by
        rw [stands, if_pos (List.prefix_refl _)]
      change tree.Writes _ _ ((replace path text (choose after)).run after)
      rw [replace_run plain usable directory (fresh after), same]
      by_cases occupied : tree.at? path.names = some .directory
      · rw [if_pos occupied, idle (isTree.at?_of_prefix occupied (names ▸ List.prefix_append _ _))]
        exact .obstructed (.inr occupied)
      · rw [if_neg occupied]
        exact .of_put plain.nonempty (not_or.2 ⟨clear, occupied⟩) made stands

/-- When a file is written no draft is left over: all that is new is the file and directories. -/
theorem Writes.isFresh {result : EStateM.Result Failure FileTree Unit}
    (h : tree.Writes path.names text result) (plain : path.IsPlain)
    (fresh : tree.isFresh path token) : (treeAfter result).isFresh path token := by
  cases h with
  | written _ _ stands =>
    have aside := not_draftPlace_prefix plain token
    have differs : draftPlace path token ≠ path.names := fun same =>
      aside (same ▸ List.prefix_refl _)
    rwa [treeAfter, FileTree.isFresh, stands, if_neg differs, if_neg aside]
  | obstructed => exact fresh

/-- A file is written as a whole, with the directories on the way to it, or something is in its way
and nothing changes. No draft is left over, whatever fresh name it was given. -/
theorem write_atomic {choose : FileTree → String} (isTree : tree.IsTree) (plain : path.IsPlain)
    (usable : path.IsUsable) (fresh : ∀ tree : FileTree, tree.isFresh path (choose tree)) :
    tree.Writes path.names text ((write path text choose).run tree) ∧
    ∀ token, tree.isFresh path token →
      (treeAfter ((write path text choose).run tree)).isFresh path token := by
  have writes : tree.Writes path.names text ((write path text choose).run tree) :=
    writes_write isTree plain usable fresh
  exact ⟨writes, fun _ => writes.isFresh plain⟩

def notes : FileTree :=
  (put {} ["nested"] .directory).put ["nested", "notes"] (.file "to do\n")

theorem isTree_notes : notes.IsTree := by
  have directory : (put {} ["nested"] .directory).IsTree :=
    @IsTree.put {} [] .directory "nested" isTree_empty rfl (by decide)
  exact @IsTree.put _ ["nested"] (.file "to do\n") "notes" directory (by decide) (by decide)

def sourceFile : Path := ⟨"", ["nested", "dir", "File.kt"]⟩

theorem isPlain_sourceFile : sourceFile.IsPlain := ⟨rfl, by decide, by decide⟩

theorem isUsable_sourceFile : sourceFile.IsUsable where
  noNull := by decide
  short := by decide
  parent := by decide
  draft := by decide
  draftName := by decide

theorem write_atomic_sourceFile :
    notes.IsTree ∧ sourceFile.IsPlain ∧ sourceFile.IsUsable ∧
    (∀ tree : FileTree, tree.isFresh sourceFile (freshToken sourceFile tree)) ∧
    notes.Writes sourceFile.names "first\n" ((write sourceFile "first\n").run notes) :=
  ⟨isTree_notes, isPlain_sourceFile, isUsable_sourceFile, isFresh_freshToken sourceFile,
    (write_atomic isTree_notes isPlain_sourceFile isUsable_sourceFile
      (isFresh_freshToken sourceFile)).1⟩

end FileTree

end SchemaClasses
