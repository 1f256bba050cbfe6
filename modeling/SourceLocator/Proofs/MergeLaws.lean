import SourceLocator.Proofs.KeyPaths

set_option autoImplicit false

namespace SourceLocator

theorem same_self (key : Scalar) : key.same key = true := beq_self_eq_true key.key

namespace Fields

def Once {α : Type} (fields : Fields α) : Prop := fields.Pairwise fun a b => a.1.same b.1 = false

instance {α : Type} (fields : Fields α) : Decidable fields.Once :=
  inferInstanceAs (Decidable (fields.Pairwise fun a b => a.1.same b.1 = false))

theorem get_none_iff {α : Type} (fields : Fields α) (key : Scalar) :
    fields.get? key = none ↔ ∀ entry ∈ fields, entry.1.same key = false := by
  simp [get?, List.find?_eq_none]

theorem get_of_mem {α : Type} (fields : Fields α) (once : fields.Once) (key : Scalar) (value : α)
    (listed : (key, value) ∈ fields) : fields.get? key = some value := by
  induction fields with
  | nil => cases listed
  | cons entry rest ih =>
      obtain ⟨different, onceRest⟩ := List.pairwise_cons.mp once
      rw [get_cons]
      rcases List.mem_cons.mp listed with rfl | later
      · rw [if_pos (same_self key)]
      · rw [if_neg (by simp [different _ later])]
        exact ih onceRest later

theorem replaced_eq (fields base : Fields Value) :
    replaced fields base = base.map fun entry => (entry.1, fields.laid entry.1 entry.2) := by
  induction base with
  | nil => rfl
  | cons entry rest ih => rw [replaced_cons, ih, List.map_cons]

theorem merge_keys (base fields : Fields Value) :
    (merge base fields).map Prod.fst = base.map Prod.fst ++ (without fields base).map Prod.fst := by
  rw [merge, replaced_eq, List.map_append, List.map_map]
  rfl

theorem without_keys (fields base : Fields Value) : (without fields base).map Prod.fst =
    (fields.map Prod.fst).filter fun key => (base.get? key).isNone := by
  rw [without, List.filter_map]
  rfl

theorem merge_once (base fields : Fields Value) (baseOnce : base.Once) (once : fields.Once) :
    (merge base fields).Once := by
  have apart : ∀ a ∈ base, ∀ b ∈ without fields base, a.1.same b.1 = false := by
    intro a old b new
    have absent : base.get? b.1 = none := Option.isNone_iff_eq_none.mp (List.mem_filter.mp new).2
    exact (get_none_iff base b.1).mp absent a old
  rw [Once, merge, replaced_eq, List.pairwise_append]
  refine ⟨List.pairwise_map.mpr baseOnce, once.filter _, ?_⟩
  intro a replacing b new
  obtain ⟨entry, old, rfl⟩ := List.mem_map.mp replacing
  exact apart entry old b new

theorem without_merged (base fields : Fields Value) : without fields (merge base fields) = [] := by
  rw [without, List.filter_eq_nil_iff]
  intro entry listed missing
  have absent : (merge base fields).get? entry.1 = none := Option.isNone_iff_eq_none.mp missing
  have absentBelow : base.get? entry.1 = none := by
    rw [merge, get_append, Option.or_eq_none_iff, replaced_get, Option.map_eq_none_iff] at absent
    exact absent.1
  rw [merged_get_new base fields entry.1 absentBelow, get_none_iff] at absent
  cases (same_self entry.1).symm.trans (absent entry listed)

theorem nothing_merged (base : Fields Value) : merge base [] = base := by
  rw [merge, replaced_eq]
  exact (List.append_nil _).trans (List.map_id' base)

end Fields

namespace Value

inductive Keyed : Value → Prop where
  | mapping (fields : List (Scalar × Value)) (once : Fields.Once fields) (each : ∀ field ∈ fields, Keyed field.2) :
      Keyed (.mapping fields)
  | leaf (value : Value) (single : value.fields? = none) : Keyed value

theorem keyed_finite (value : Value) (keyed : value.Keyed) : value.Finite := by
  induction keyed with
  | mapping fields once each ih => exact .mapping fields ih
  | leaf value single => exact .leaf value single

theorem keyed_fields (fields : Fields Value) (keyed : (Value.mapping fields).Keyed) :
    fields.Once ∧ ∀ field ∈ fields, field.2.Keyed := by
  cases keyed with
  | mapping _ once each => exact ⟨once, each⟩
  | leaf _ single => cases single

theorem laid_keyed (fields : Fields Value) (key : Scalar) (old : Value)
    (inner : ∀ field ∈ fields, (field.2.under old).Keyed) (keyed : old.Keyed) : (fields.laid key old).Keyed := by
  rw [Fields.laid]
  cases given : fields.get? key with
  | none => exact keyed
  | some value =>
      obtain ⟨name, listed⟩ := Fields.mem_of_get fields key value given
      exact inner _ listed

theorem under_keyed (upper base : Value) (keyed : upper.Keyed) (baseKeyed : base.Keyed) : (upper.under base).Keyed := by
  induction keyed generalizing base with
  | leaf upper single =>
      rw [under_leaf upper base (.inr single)]
      exact .leaf upper single
  | mapping fields once each ih =>
      cases baseKeyed with
      | leaf _ single =>
          rw [under_leaf _ base (.inl single)]
          exact .mapping fields once each
      | mapping old baseOnce baseEach =>
          rw [Config.under_mapping _ old fields rfl]
          refine .mapping _ (Fields.merge_once old fields baseOnce once) ?_
          intro field listed
          rw [Fields.merge, Fields.replaced_eq] at listed
          rcases List.mem_append.mp listed with replacing | new
          · obtain ⟨entry, present, rfl⟩ := List.mem_map.mp replacing
            have keyed := baseEach entry present
            exact laid_keyed fields entry.1 entry.2 (fun field listed => ih field listed entry.2 keyed) keyed
          · exact each field (List.mem_filter.mp new).1

theorem find_keyed (value : Value) (keyed : value.Keyed) (path : List Scalar) (next : Value)
    (found : value.find? path = some next) : next.Keyed := by
  induction path generalizing value with
  | nil =>
      cases found
      exact keyed
  | cons key rest ih =>
      cases keyed with
      | leaf _ single =>
          rw [find_past_leaf value single] at found
          cases found
      | mapping fields once each =>
          rw [find_through (.mapping fields) fields rfl] at found
          obtain ⟨inner, here, found⟩ := Option.bind_eq_some_iff.mp found
          obtain ⟨name, listed⟩ := Fields.mem_of_get fields key inner here
          exact ih inner (each _ listed) found

theorem under_self (value : Value) (keyed : value.Keyed) : value.under value = value := by
  induction keyed with
  | leaf value single => exact under_leaf value value (.inl single)
  | mapping fields once each ih =>
      have same : ∀ entry ∈ fields, (entry.1, Fields.laid fields entry.1 entry.2) = entry := by
        intro entry listed
        rw [Fields.laid, Fields.get_of_mem fields once entry.1 entry.2 listed]
        exact congrArg (Prod.mk entry.1) (ih entry listed)
      have none : Fields.without fields fields = [] := by
        have := Fields.without_merged [] fields
        rwa [Fields.merge_nothing] at this
      rw [Config.under_mapping _ fields fields rfl, Fields.merge, none, List.append_nil, Fields.replaced_eq,
        List.map_congr_left same, List.map_id']

theorem under_cases (upper base : Value) : (∃ fields, base = .mapping fields) ∨ upper.under base = upper := by
  cases base with
  | mapping fields => exact .inl ⟨fields, rfl⟩
  | scalar value => exact .inr rfl
  | list items => exact .inr rfl
  | pair first second => exact .inr rfl
  | set items => exact .inr rfl
  | knot graph number => exact .inr rfl

theorem under_again (upper base : Value) (keyed : upper.Keyed) : upper.under (upper.under base) = upper.under base := by
  induction keyed generalizing base with
  | leaf upper single =>
      have whole : ∀ below : Value, upper.under below = upper := fun below => under_leaf upper below (.inr single)
      rw [whole, whole]
  | mapping fields once each ih =>
      have self := under_self (.mapping fields) (.mapping fields once each)
      rcases under_cases (.mapping fields) base with ⟨old, rfl⟩ | whole
      · have replacedAgain : ∀ key old, Fields.laid fields key (Fields.laid fields key old) = Fields.laid fields key old := by
          intro key old
          unfold Fields.laid
          cases given : Fields.get? fields key with
          | none => rfl
          | some value =>
              obtain ⟨name, listed⟩ := Fields.mem_of_get fields key value given
              exact ih _ listed old
        have newAgain : ∀ entry ∈ Fields.without fields old, (entry.1, Fields.laid fields entry.1 entry.2) = entry := by
          intro entry new
          have listed := (List.mem_filter.mp new).1
          rw [Fields.laid, Fields.get_of_mem fields once entry.1 entry.2 listed]
          exact congrArg (Prod.mk entry.1) (under_self entry.2 (each entry listed))
        rw [Config.under_mapping _ old fields rfl, Config.under_mapping _ _ fields rfl, Fields.merge,
          Fields.without_merged, List.append_nil, Fields.replaced_eq, Fields.merge, List.map_append,
          List.map_congr_left newAgain, List.map_id', Fields.replaced_eq, List.map_map]
        simp only [Function.comp_def, replacedAgain]
      · rw [whole, self]

theorem find_merged (upper base : Value) (finite : base.Finite) (path : List Scalar) (below above : Fields Value)
    (foundBelow : base.find? path = some (.mapping below)) (foundAbove : upper.find? path = some (.mapping above)) :
    (upper.under base).find? path = some (.mapping (Fields.merge below above)) := by
  induction path generalizing upper base with
  | nil =>
      cases foundBelow
      cases foundAbove
      rw [Config.under_mapping _ below above rfl]
      rfl
  | cons key rest ih =>
      have both : ¬ (base.fields? = none ∨ upper.fields? = none) := by
        rintro (none | none)
        · cases (find_past_leaf base none key rest).symm.trans foundBelow
        · cases (find_past_leaf upper none key rest).symm.trans foundAbove
      obtain ⟨fields, others, rfl, each, mapping⟩ := both_mappings upper base finite both
      rw [find_through (.mapping fields) fields rfl] at foundBelow
      rw [find_through upper others mapping] at foundAbove
      obtain ⟨old, there, foundBelow⟩ := Option.bind_eq_some_iff.mp foundBelow
      obtain ⟨next, here, foundAbove⟩ := Option.bind_eq_some_iff.mp foundAbove
      obtain ⟨name, listed⟩ := Fields.mem_of_get fields key old there
      rw [Config.under_mapping upper fields others mapping, find_through _ _ rfl,
        Fields.merged_get fields others key old there, Fields.laid, here]
      exact ih next old (each _ listed) foundBelow foundAbove

end Value

-- What stands where in a merge, and under which keys. A single value of the mapping below shows through where the one
-- above has nothing, neither there nor on the way.
theorem nested_merge_laws (base upper : Fields Value) (baseKeyed : (Value.mapping base).Keyed)
    (upperKeyed : (Value.mapping upper).Keyed) :
    let merged := Fields.merge base upper
    (∀ path value, path ≠ [] → value.fields? = none →
      ((Value.mapping merged).find? path = some value ↔
        (Value.mapping upper).find? path = some value ∨
          (Value.mapping base).find? path = some value ∧ (Value.mapping upper).find? path = none ∧
            ∀ front next, front <+: path → front ≠ path → (Value.mapping upper).find? front = some next →
              next.fields? ≠ none)) ∧
    Fields.merge merged upper = merged ∧ Fields.merge [] upper = upper ∧ Fields.merge base [] = base ∧
    (Value.mapping merged).Keyed ∧
    ∀ path below above, (Value.mapping base).find? path = some (.mapping below) →
      (Value.mapping upper).find? path = some (.mapping above) →
      ∃ fields : Fields Value, (Value.mapping merged).find? path = some (.mapping fields) ∧ fields.Once ∧
        fields.map Prod.fst =
          below.map Prod.fst ++ (above.map Prod.fst).filter fun key => (Fields.get? below key).isNone := by
  intro merged
  have laid : (Value.mapping upper).under (.mapping base) = .mapping merged := Config.under_mapping _ base upper rfl
  have finite := Value.keyed_finite _ baseKeyed
  have keyed : (Value.mapping merged).Keyed := laid ▸ Value.under_keyed _ _ upperKeyed baseKeyed
  refine ⟨?_, ?_, Fields.merge_nothing upper, Fields.nothing_merged base, keyed, ?_⟩
  · intro path value _ single
    rw [← laid, Value.find_under _ _ finite path value single, Value.Clear]
    refine or_congr_right (and_congr_right fun _ => and_congr_right fun absent => ?_)
    constructor
    · exact fun passable front next before _ => passable front next before
    · intro passable front next before reached
      refine passable front next before ?_ reached
      rintro rfl
      cases absent.symm.trans reached
  · have again := Value.under_again _ (.mapping base) upperKeyed
    rw [laid, Config.under_mapping _ merged upper rfl] at again
    exact Value.mapping.inj again
  · intro path below above foundBelow foundAbove
    have found := Value.find_merged _ _ finite path below above foundBelow foundAbove
    rw [laid] at found
    refine ⟨_, found, (Value.keyed_fields _ (Value.find_keyed _ keyed path _ found)).1, ?_⟩
    rw [Fields.merge_keys, Fields.without_keys]

theorem overlaid_settings_merge :
    let a := Scalar.ofString "a"
    let base : Fields Value := [(a, .mapping [(.ofString "b", .int 1), (.ofString "c", .int 2)]), (.int 1, .int 3)]
    let upper : Fields Value := [(.ofString "d", .emptyMapping), (a, .mapping [(.ofString "e", .int 4),
      (.ofString "c", .mapping [(.ofString "x", .int 5)])]), (.bool true, .emptyMapping)]
    let merged := Fields.merge base upper
    (Value.mapping base).Keyed ∧ (Value.mapping upper).Keyed ∧ Fields.merge merged upper = merged ∧
      (Value.mapping merged).find? [a, .ofString "b"] = some (.int 1) ∧
      (Value.mapping merged).find? [a, .ofString "c"] ≠ some (.int 2) ∧
      merged.map Prod.fst = [a, .int 1, .ofString "d"] := by
  intro a base upper merged
  have single : ∀ n, (Value.int n).Keyed := fun _ => .leaf _ rfl
  have empty : Value.emptyMapping.Keyed := .mapping [] .nil nofun
  have baseKeyed : (Value.mapping base).Keyed := by
    refine .mapping base (by decide) (List.forall_mem_cons.mpr ⟨.mapping _ (by decide) ?_, ?_⟩)
    · exact List.forall_mem_cons.mpr ⟨single 1, List.forall_mem_singleton.mpr (single 2)⟩
    · exact List.forall_mem_singleton.mpr (single 3)
  have upperKeyed : (Value.mapping upper).Keyed := by
    refine .mapping upper (by decide) (List.forall_mem_cons.mpr ⟨empty, List.forall_mem_cons.mpr
      ⟨.mapping _ (by decide) ?_, List.forall_mem_singleton.mpr empty⟩⟩)
    have inner : (Value.mapping [(.ofString "x", .int 5)]).Keyed :=
      .mapping _ (by decide) (List.forall_mem_singleton.mpr (single 5))
    exact List.forall_mem_cons.mpr ⟨single 4, List.forall_mem_singleton.mpr inner⟩
  obtain ⟨paths, again, -, -, -, levels⟩ := nested_merge_laws base upper baseKeyed upperKeyed
  refine ⟨baseKeyed, upperKeyed, again, ?_, ?_, ?_⟩
  · refine (paths [a, .ofString "b"] (.int 1) nofun rfl).mpr (.inr ⟨rfl, rfl, ?_⟩)
    intro front next before shorter found
    rcases List.prefix_cons_iff.mp before with rfl | ⟨front, rfl, further⟩
    · cases found
      exact nofun
    · rcases List.prefix_cons_iff.mp further with rfl | ⟨front, rfl, whole⟩
      · cases found
        exact nofun
      · cases List.prefix_nil.mp whole
        exact absurd rfl shorter
  · intro shown
    rcases (paths [a, .ofString "c"] (.int 2) nofun rfl).mp shown with above | ⟨-, absent, -⟩
    · cases above
    · cases absent
  · obtain ⟨fields, found, -, keys⟩ := levels [] base upper rfl rfl
    cases found
    exact keys

end SourceLocator
