import SchemaClasses.Document.Load
import SchemaClasses.Proofs.Outcome
import SchemaClasses.Proofs.Value.DistinctKeys
import SchemaClasses.Proofs.Value.Numbers

/-!
# Documents that are read

Whatever the text and its format, a document that is read has no object with a key twice. Both
readers collect the members of an object with `distinctMembers`. The numbers of a document that is
read from JSON are short, because digits are read up to a limit on their count.

## Main statements

* `Json.read_induction`: what holds of every value that is read from JSON.
* `Json.hasShortNumbers_of_read`: the numbers of a document in JSON are short.
* `Node.distinctKeys_of_read`: documents that are read have distinct keys.
-/

namespace SchemaClasses

/-! ## JSON -/

namespace Json

/-- A number that is read is an integer of its digits, or a rounded decimal. -/
theorem number_of_readNumber? {negative : Bool} {text rest : List Char} {value : Value}
    (h : readNumber? negative text = some (.ok value, rest)) :
    (∃ digits n, (∀ c ∈ digits, c.isDigit) ∧ readDigits digits = .ok n ∧
      value = .int (if negative then -(n : Int) else n)) ∨
    ∃ digits exponent, value = .float (.ofDecimal negative digits exponent) := by
  simp only [readNumber?, Option.map_eq_some_iff] at h
  obtain ⟨⟨whole, others⟩, isWhole, h⟩ := h
  have digits : ∀ c ∈ whole, c.isDigit := by
    split at isWhole
    · cases isWhole
      exact List.forall_mem_singleton.2 rfl
    · split at isWhole
      · cases isWhole
        exact List.all_eq_true.1 List.all_takeWhile
      · cases isWhole
    · cases isWhole
  split at h
  · split at h
    · rename_i n read
      cases h
      exact .inl ⟨whole, n, digits, read, rfl⟩
    · cases h
  · cases h
    exact .inr ⟨_, _, rfl⟩

/-- A value without parts is a constant or a number. -/
theorem scalar_of_readScalar {text rest : List Char} {value : Value}
    (h : readScalar text = .ok (value, rest)) :
    (∃ spelling, (spelling, value) ∈ constants) ∨
    ∃ negative digits rest', readNumber? negative digits = some (.ok value, rest') := by
  unfold readScalar at h
  split at h
  · rename_i spelling v found
    cases h
    exact .inl ⟨spelling, List.mem_of_find?_eq_some found⟩
  · simp only at h
    split at h
    · rename_i number
      cases h
      exact .inr ⟨_, _, _, number⟩
    · cases h
    · cases h

section

variable {P : Value → Prop} (string : ∀ text, P (.string text))
  (scalar : ∀ {text rest value}, readScalar text = .ok (value, rest) → P value)
  (array : ∀ items, (∀ item ∈ items, P item) → P (.array items))
  (object : ∀ members, (members.map (·.1)).Nodup → (∀ member ∈ members, P member.2) →
    P (.object members))

include string scalar array object

/-- The three mutually recursive readers, by induction on their fuel. -/
theorem readValue_induction (fuel : Nat) :
    (∀ text value rest, readValue fuel text = .ok (value, rest) → P value) ∧
      (∀ text items rest, readItems fuel text = .ok (items, rest) → ∀ item ∈ items, P item) ∧
      (∀ text members rest, readMembers fuel text = .ok (members, rest) →
        ∀ member ∈ members, P member.2) := by
  induction fuel with
  | zero => simp [readValue, readItems, readMembers, fault]
  | succ fuel ih =>
    obtain ⟨ihValue, ihItems, ihMembers⟩ := ih
    refine ⟨fun text value rest h => ?value, fun text items rest h => ?items,
      fun text members rest h => ?members⟩
    case value =>
      unfold readValue at h
      split at h
      · simp only [Except.bind_eq_ok_iff] at h
        obtain ⟨⟨s, after⟩, -, h⟩ := h
        cases h
        exact string s
      · split at h
        · cases h
          exact object [] List.nodup_nil (by simp)
        · simp only [Except.bind_eq_ok_iff] at h
          obtain ⟨⟨members, after⟩, hmembers, h⟩ := h
          cases h
          obtain ⟨nodup, mem⟩ := distinctMembers_spec members
          exact object _ nodup fun member hm => ihMembers _ _ _ hmembers member (mem member hm)
      · split at h
        · cases h
          exact array [] (by simp)
        · simp only [Except.bind_eq_ok_iff] at h
          obtain ⟨⟨items, after⟩, hitems, h⟩ := h
          cases h
          exact array _ (ihItems _ _ _ hitems)
      · exact scalar h
    case items =>
      unfold readItems at h
      simp only [Except.bind_eq_ok_iff] at h
      obtain ⟨⟨item, after⟩, hitem, h⟩ := h
      have first := ihValue _ _ _ hitem
      split at h
      · cases h
        simpa using first
      · simp only [Except.bind_eq_ok_iff] at h
        obtain ⟨⟨others, after⟩, hothers, h⟩ := h
        cases h
        simpa using ⟨first, ihItems _ _ _ hothers⟩
      · cases h
    case members =>
      unfold readMembers at h
      split at h
      · simp only [Except.bind_eq_ok_iff] at h
        obtain ⟨⟨key, after⟩, -, h⟩ := h
        split at h
        · simp only [Except.bind_eq_ok_iff] at h
          obtain ⟨⟨value, after⟩, hvalue, h⟩ := h
          have first := ihValue _ _ _ hvalue
          split at h
          · cases h
            simpa using first
          · simp only [Except.bind_eq_ok_iff] at h
            obtain ⟨⟨others, after⟩, hothers, h⟩ := h
            cases h
            exact List.forall_mem_cons.2 ⟨first, ihMembers _ _ _ hothers⟩
          · cases h
        · cases h
      · cases h

/-- What holds of texts and of values without parts, and of arrays and objects if it holds of what
is in them, holds of every value that is read. -/
theorem read_induction {text : String} {value : Value} (h : read text = .ok value) : P value := by
  have whole : readWhole text.toList = .ok value := by
    unfold read at h
    split at h <;> simp_all
  unfold readWhole at whole
  split at whole
  · cases whole
  · simp only [Except.bind_eq_ok_iff] at whole
    obtain ⟨⟨read, rest⟩, hread, whole⟩ := whole
    split at whole
    · cases whole
      exact (readValue_induction string scalar array object _).1 _ _ _ hread
    · cases whole

end

theorem distinctKeys_of_readScalar {text rest : List Char} {value : Value}
    (h : readScalar text = .ok (value, rest)) : value.distinctKeys := by
  rcases scalar_of_readScalar h with ⟨spelling, mem⟩ | ⟨negative, digits, rest', number⟩
  · simp only [constants, List.mem_cons, Prod.mk.injEq, List.not_mem_nil, or_false] at mem
    rcases mem with ⟨-, rfl⟩ | ⟨-, rfl⟩ | ⟨-, rfl⟩ | ⟨-, rfl⟩ | ⟨-, rfl⟩ | ⟨-, rfl⟩ <;> rfl
  · rcases number_of_readNumber? number with ⟨_, _, -, -, rfl⟩ | ⟨_, _, rfl⟩
    · rfl
    · rfl

theorem distinctKeys_of_read {text : String} {value : Value} (h : read text = .ok value) :
    value.distinctKeys := by
  refine read_induction (fun _ => rfl) distinctKeys_of_readScalar ?_ ?_ h
  · intro items all
    exact (Value.distinctKeys_array items).2 all
  · intro members nodup all
    exact (Value.distinctKeys_object members).2 ⟨nodup, all⟩

theorem hasShortNumbers_of_readScalar {text rest : List Char} {value : Value}
    (h : readScalar text = .ok (value, rest)) : value.hasShortNumbers := by
  rcases scalar_of_readScalar h with ⟨spelling, mem⟩ | ⟨negative, digits, rest', number⟩
  · simp only [constants, List.mem_cons, Prod.mk.injEq, List.not_mem_nil, or_false] at mem
    rcases mem with ⟨-, rfl⟩ | ⟨-, rfl⟩ | ⟨-, rfl⟩ | ⟨-, rfl⟩ | ⟨-, rfl⟩ | ⟨-, rfl⟩ <;> rfl
  · rcases number_of_readNumber? number with ⟨digits, n, all, read, rfl⟩ | ⟨_, _, rfl⟩
    · have short := isWritableInteger_of_readDigits all read
      simp only [Value.hasShortNumbers]
      split
      · rw [isWritableInteger_neg]
        exact short
      · exact short
    · exact Value.hasShortNumbers_float (Binary64.isInRange_ofDecimal _ _ _)

/-- The numbers of a document in JSON are short. -/
theorem hasShortNumbers_of_read {text : String} {value : Value} (h : read text = .ok value) :
    value.hasShortNumbers := by
  refine read_induction (fun _ => rfl) hasShortNumbers_of_readScalar ?_ ?_ h
  · intro items all
    exact (Value.hasShortNumbers_array items).2 all
  · intro members _ all
    exact (Value.hasShortNumbers_object members).2 all

end Json

/-! ## YAML -/

namespace Yaml

theorem distinctKeys_of_scalar {scalar : Scalar} {value : Value} (h : scalar.value = .ok value) :
    value.distinctKeys := by
  unfold Scalar.value at h
  split at h
  case h_6 =>
    obtain ⟨text, -, rfl⟩ := Except.map_eq_ok_iff.1 h
    rfl
  all_goals
    cases h
    rfl

/-- A key that is set again replaces its entry, so that no mapping has a key twice. -/
theorem distinctKeys_of_valueAt {built : Array (Option Built)} {fuel place : Nat} {value : Value}
    (h : valueAt built fuel place = .ok value) : value.distinctKeys := by
  induction fuel generalizing place value with
  | zero => simp [valueAt, malformed] at h
  | succ fuel ih =>
    unfold valueAt at h
    split at h
    · exact distinctKeys_of_scalar h
    · obtain ⟨items, hitems, rfl⟩ := Except.map_eq_ok_iff.1 h
      refine (Value.distinctKeys_array items).2 fun item mem => ?_
      obtain ⟨entry, -, hentry⟩ := Except.mem_of_mapM_eq_ok hitems mem
      exact ih hentry
    · obtain ⟨items, hitems, rfl⟩ := Except.map_eq_ok_iff.1 h
      refine (Value.distinctKeys_array items).2 fun item mem => ?_
      obtain ⟨pair, -, hpair⟩ := Except.mem_of_mapM_eq_ok hitems mem
      simp only [Except.bind_eq_ok_iff] at hpair
      obtain ⟨key, hkey, value, hvalue, hitem⟩ := hpair
      cases hitem
      simpa [Value.distinctKeys_array] using ⟨ih hkey, ih hvalue⟩
    · simp only [Except.bind_eq_ok_iff] at h
      obtain ⟨members, hmembers, h⟩ := h
      cases h
      obtain ⟨nodup, mem⟩ := distinctMembers_spec members
      refine (Value.distinctKeys_object _).2 ⟨nodup, fun member hm => ?_⟩
      obtain ⟨entry, -, hentry⟩ := Except.mem_of_mapM_eq_ok hmembers (mem member hm)
      simp only [Except.bind_eq_ok_iff] at hentry
      obtain ⟨key, -, value, hvalue, hmember⟩ := hentry
      cases hmember
      exact ih hvalue
    · obtain ⟨text, -, rfl⟩ := Except.map_eq_ok_iff.1 h
      rfl
    · cases h

theorem distinctKeys_of_read {text : String} {value : Value} (h : read text = .ok value) :
    value.distinctKeys := by
  simp only [read, Except.bind_eq_ok_iff] at h
  obtain ⟨graph?, -, h⟩ := h
  cases graph? with
  | none =>
    cases h
    rfl
  | some graph =>
    simp only [Graph.value, Except.bind_eq_ok_iff] at h
    obtain ⟨⟨_, building⟩, -, h⟩ := h
    exact distinctKeys_of_valueAt h

end Yaml

/-! ## Documents -/

/-- A document that is read has no object with a key twice. -/
theorem Node.distinctKeys_of_read {format : Format} {text : String} {node : Node}
    (h : Node.read format text = .ok node) : node.value.distinctKeys := by
  cases format with
  | json =>
    obtain ⟨value, hvalue, rfl⟩ := Except.map_eq_ok_iff.1 h
    exact Json.distinctKeys_of_read hvalue
  | yaml =>
    obtain ⟨value, hvalue, rfl⟩ := Except.map_eq_ok_iff.1 h
    exact Yaml.distinctKeys_of_read hvalue

end SchemaClasses
