import SourceLocator.Proofs.WellTyped

set_option autoImplicit false

namespace SourceLocator

namespace Value

def find? (value : Value) : List Scalar → Option Value
  | [] => some value
  | key :: rest => value.fields?.bind fun fields => (Fields.get? fields key).bind fun next => next.find? rest

inductive Finite : Value → Prop where
  | mapping (fields : List (Scalar × Value)) (each : ∀ field ∈ fields, Finite field.2) : Finite (.mapping fields)
  | leaf (value : Value) (single : value.fields? = none) : Finite value

theorem find_through (value : Value) (fields : Fields Value) (mapping : value.fields? = some fields) (key : Scalar)
    (rest : List Scalar) : value.find? (key :: rest) = (fields.get? key).bind fun next => next.find? rest := by
  rw [find?, mapping]
  rfl

theorem find_past_leaf (value : Value) (leaf : value.fields? = none) (key : Scalar) (rest : List Scalar) :
    value.find? (key :: rest) = none := by
  rw [find?, leaf]
  rfl

theorem find_given (given : Option Value) (fields : Fields Value)
    (mapping : (given.getD .emptyMapping).fields? = some fields) (key : Scalar) (rest : List Scalar) :
    (given.bind fun value => value.find? (key :: rest)) = (fields.get? key).bind fun next => next.find? rest := by
  cases given with
  | none =>
      cases mapping
      rfl
  | some value => exact find_through value fields mapping key rest

theorem find_last (found : Option Value) : (found.bind fun next => next.find? []) = found := by
  cases found <;> rfl

end Value

namespace Fields

theorem without_get (fields base : Fields Value) (key : Scalar) (absent : base.get? key = none) :
    (without fields base).get? key = fields.get? key := by
  have kept : (fun entry : Scalar × Value => decide ((base.get? entry.1).isNone = true ∧ entry.1.same key = true)) =
      fun entry => entry.1.same key := by
    funext entry
    by_cases same : entry.1.same key = true
    · simp [get_same base entry.1 key same, absent]
    · simp [same]
  rw [get?, without, List.find?_filter]
  exact congrArg (fun test => (fields.find? test).map Prod.snd) kept

theorem merged_get_new (base fields : Fields Value) (key : Scalar) (absent : base.get? key = none) :
    (merge base fields).get? key = fields.get? key := by
  rw [merge, get_append, replaced_get, absent, without_get fields base key absent]
  rfl

end Fields

namespace Value

theorem under_leaf (upper base : Value) (leaf : base.fields? = none ∨ upper.fields? = none) :
    upper.under base = upper := by
  cases base with
  | mapping fields =>
      rcases leaf with none | none
      · cases none
      · rw [under, none]
  | scalar value => rfl
  | list items => rfl
  | pair first second => rfl
  | set items => rfl
  | knot graph number => rfl

def Clear (upper : Value) (path : List Scalar) : Prop :=
  upper.find? path = none ∧ ∀ front next, front <+: path → upper.find? front = some next → next.fields? ≠ none

theorem clear_inside (upper : Value) (fields : Fields Value) (mapping : upper.fields? = some fields) (key : Scalar)
    (rest : List Scalar) : upper.Clear (key :: rest) ↔ ∀ next, fields.get? key = some next → next.Clear rest := by
  have through := find_through upper fields mapping key
  constructor
  · rintro ⟨absent, passable⟩ next found
    rw [through, found] at absent
    refine ⟨absent, fun front inner before reached => ?_⟩
    refine passable (key :: front) inner (List.cons_prefix_cons.mpr ⟨rfl, before⟩) ?_
    rw [through, found]
    exact reached
  · intro inside
    constructor
    · rw [through, Option.bind_eq_none_iff]
      exact fun next found => (inside next found).1
    · intro front inner before reached
      rcases List.prefix_cons_iff.mp before with rfl | ⟨front, rfl, further⟩
      · cases reached
        simp [mapping]
      · rw [through] at reached
        obtain ⟨next, found, reached⟩ := Option.bind_eq_some_iff.mp reached
        exact (inside next found).2 front inner further reached

theorem not_clear_here (upper : Value) : ¬ upper.Clear [] := fun clear => nomatch clear.1

theorem find_under_leaf (upper base : Value) (leaf : base.fields? = none ∨ upper.fields? = none) (path : List Scalar)
    (value : Value) : (upper.under base).find? path = some value ↔
      upper.find? path = some value ∨ base.find? path = some value ∧ upper.Clear path := by
  rw [under_leaf upper base leaf]
  refine ⟨.inl, fun either => either.resolve_right ?_⟩
  rintro ⟨there, clear⟩
  cases path with
  | nil => exact not_clear_here upper clear
  | cons key rest =>
      rcases leaf with none | none
      · rw [find_past_leaf base none] at there
        cases there
      · exact clear.2 [] upper List.nil_prefix rfl none

theorem both_mappings (upper base : Value) (finite : base.Finite)
    (both : ¬ (base.fields? = none ∨ upper.fields? = none)) :
    ∃ fields others, base = .mapping fields ∧ (∀ field ∈ fields, field.2.Finite) ∧ upper.fields? = some others := by
  obtain ⟨others, mapping⟩ := Option.ne_none_iff_exists'.mp (not_or.mp both).2
  cases finite with
  | leaf _ single => exact absurd (.inl single) both
  | mapping fields each => exact ⟨fields, others, rfl, each, mapping⟩

theorem find_under (upper base : Value) (finite : base.Finite) (path : List Scalar) (value : Value)
    (single : value.fields? = none) : (upper.under base).find? path = some value ↔
      upper.find? path = some value ∨ base.find? path = some value ∧ upper.Clear path := by
  induction path generalizing upper base with
  | nil =>
      by_cases leaf : base.fields? = none ∨ upper.fields? = none
      · exact find_under_leaf upper base leaf [] value
      · obtain ⟨fields, others, rfl, -, mapping⟩ := both_mappings upper base finite leaf
        rw [Config.under_mapping upper fields others mapping]
        constructor
        · rintro ⟨⟩
          cases single
        · rintro (same | ⟨-, clear⟩)
          · obtain rfl : upper = value := Option.some.inj same
            exact absurd (.inr single) leaf
          · exact absurd clear (not_clear_here upper)
  | cons key rest ih =>
      by_cases leaf : base.fields? = none ∨ upper.fields? = none
      · exact find_under_leaf upper base leaf _ value
      · obtain ⟨fields, others, rfl, each, mapping⟩ := both_mappings upper base finite leaf
        rw [Config.under_mapping upper fields others mapping, find_through upper others mapping,
          clear_inside upper others mapping, find_through (.mapping fields) fields rfl, find_through _ _ rfl]
        cases there : Fields.get? fields key with
        | none => simp [Fields.merged_get_new fields others key there]
        | some old =>
            obtain ⟨name, listed⟩ := Fields.mem_of_get fields key old there
            rw [Fields.merged_get fields others key old there, Fields.laid]
            cases here : others.get? key with
            | none => simp
            | some next => simpa using ih next old (each _ listed)

end Value

end SourceLocator
