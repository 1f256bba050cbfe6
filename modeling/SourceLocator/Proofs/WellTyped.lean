import SourceLocator.Locate
import SourceLocator.Config.Load
import SourceLocator.Proofs.Outcomes

set_option autoImplicit false

namespace SourceLocator

namespace Fields

theorem get_same {α : Type} (fields : Fields α) (a b : Scalar) (same : a.same b = true) :
    fields.get? a = fields.get? b := by
  have sameKey : a.key = b.key := eq_of_beq same
  have sameTest : (fun entry : Scalar × α => entry.1.same a) = fun entry => entry.1.same b := by
    funext entry
    rw [Scalar.same, Scalar.same, sameKey]
  exact congrArg (fun test => (fields.find? test).map Prod.snd) sameTest

theorem get_cons {α : Type} (fields : Fields α) (name key : Scalar) (value : α) :
    get? ((name, value) :: fields) key = if name.same key then some value else fields.get? key := by
  rw [get?, List.find?_cons]
  dsimp only
  cases name.same key <;> rfl

theorem get_append {α : Type} (first second : Fields α) (key : Scalar) :
    get? (first ++ second) key = (first.get? key).or (second.get? key) := by
  rw [get?, get?, get?, List.find?_append]
  cases first.find? fun entry => entry.1.same key <;> rfl

theorem mem_of_get {α : Type} (fields : Fields α) (key : Scalar) (value : α) (found : fields.get? key = some value) :
    ∃ name, (name, value) ∈ fields := by
  obtain ⟨⟨name, same⟩, listed, rfl⟩ := Option.map_eq_some_iff.mp found
  exact ⟨name, List.mem_of_find?_eq_some listed⟩

def laid (fields : Fields Value) (key : Scalar) (old : Value) : Value :=
  match fields.get? key with
  | some value => value.under old
  | none => old

theorem laid_same (fields : Fields Value) (a b : Scalar) (old : Value) (same : a.same b = true) :
    fields.laid a old = fields.laid b old := by
  unfold laid
  rw [get_same fields a b same]

theorem replaced_cons (fields base : Fields Value) (name : Scalar) (old : Value) :
    replaced fields ((name, old) :: base) = (name, fields.laid name old) :: replaced fields base := rfl

theorem replaced_get (fields base : Fields Value) (key : Scalar) :
    (replaced fields base).get? key = (base.get? key).map (fields.laid key) := by
  induction base with
  | nil => rfl
  | cons entry rest ih =>
      obtain ⟨name, old⟩ := entry
      rw [replaced_cons, get_cons, get_cons, ih]
      split
      · rename_i same
        rw [Option.map_some, laid_same fields name key old same]
      · rfl

theorem merged_get (base fields : Fields Value) (key : Scalar) (old : Value) (found : base.get? key = some old) :
    (merge base fields).get? key = some (fields.laid key old) := by
  rw [merge, get_append, replaced_get, found]
  rfl

theorem merge_nothing (fields : Fields Value) : merge [] fields = fields :=
  List.filter_eq_self.mpr fun _ _ => rfl

end Fields

namespace Config

theorem under_mapping (value : Value) (base fields : Fields Value) (mapping : value.fields? = some fields) :
    value.under (.mapping base) = .mapping (Fields.merge base fields) := by
  rw [Value.under, mapping]
  rfl

def NodeTypes (config : Config) (fields : Fields Value) : Prop :=
  ∃ part byLanguage, config.part "locate" = .ok part ∧ part.fieldD "node_types" .emptyMapping = .ok byLanguage ∧
    byLanguage.fields? = some fields

theorem node_types_read (config : Config) (fields : Fields Value) (has : config.NodeTypes fields) (language : Text) :
    config.nodeTypes language = ((fields.get? (.text (.text language))).getD (.list [])).items := by
  obtain ⟨part, byLanguage, found, listed, mapping⟩ := has
  rw [nodeTypes, found]
  change (part.fieldD "node_types" .emptyMapping >>= _) = _
  rw [listed]
  change (byLanguage.fieldD language (.list []) >>= _) = _
  rw [Value.fieldD, Value.field?, mapping]
  rfl

theorem field_found (fields : Fields Value) (name : Text) (value default : Value)
    (found : fields.get? (.text (.text name)) = some value) :
    (Value.mapping fields).fieldD name default = .ok value := by
  have read : (Value.mapping fields).field? name = .ok (fields.get? (.text (.text name))) := rfl
  rw [Value.fieldD, read, found]
  rfl

theorem under_node_types (fields : Fields Value) (lists : holdsLists
      ((fields.get? (.text (.text "node_types".toList))).getD .emptyMapping) = true) :
    ∃ byLanguage, (fields.laid (.text (.text "node_types".toList)) .emptyMapping).fields? = some byLanguage ∧
      ((fields.get? (.text (.text "node_types".toList))).getD .emptyMapping).fields? = some byLanguage := by
  rw [Fields.laid]
  cases given : fields.get? (.text (.text "node_types".toList)) with
  | none => exact ⟨[], rfl, rfl⟩
  | some value =>
      rw [given, Option.getD_some, holdsLists] at lists
      cases mapping : value.fields? with
      | none =>
          rw [mapping] at lists
          cases lists
      | some byLanguage =>
          refine ⟨byLanguage, ?_, mapping⟩
          dsimp only
          rw [Value.emptyMapping, under_mapping value [] byLanguage mapping, Fields.merge_nothing]
          rfl

theorem document_parts (path : Text) (document : Value) (config : Config)
    (made : ofDocument path document = .ok config) :
    ∃ fields locate, document.fields? = some fields ∧ config = overDefaults fields ∧
      ((fields.get? (.text (.text "locate".toList))).getD .emptyMapping).fields? = some locate ∧
      holdsLists ((locate.get? (.text (.text "node_types".toList))).getD .emptyMapping) = true := by
  unfold ofDocument at made
  cases mapping : document.fields? with
  | none =>
      rw [mapping] at made
      cases made
  | some fields =>
      rw [mapping] at made
      dsimp only at made
      split at made
      · rename_i locate located
        split at made
        · rename_i lists
          cases made
          exact ⟨fields, locate, rfl, rfl, located, lists⟩
        · cases made
      · cases made

def locateDefaults : Fields Value :=
  [(.text (.text "node_types".toList), .emptyMapping), (.text (.text "offset".toList), .int 0)]

theorem laid_locate (fields locate : Fields Value)
    (located : ((fields.get? (.text (.text "locate".toList))).getD .emptyMapping).fields? = some locate) :
    ∃ part : Fields Value, fields.laid (.text (.text "locate".toList)) (.mapping locateDefaults) = .mapping part ∧
      Fields.get? part (.text (.text "node_types".toList)) =
        some (locate.laid (.text (.text "node_types".toList)) .emptyMapping) := by
  rw [Fields.laid]
  cases given : fields.get? (.text (.text "locate".toList)) with
  | none =>
      rw [given] at located
      cases located
      exact ⟨locateDefaults, rfl, rfl⟩
  | some value =>
      rw [given, Option.getD_some] at located
      refine ⟨_, under_mapping value locateDefaults locate located, ?_⟩
      exact Fields.merged_get locateDefaults locate _ _ rfl

theorem parts_node_types (fields locate : Fields Value)
    (located : ((fields.get? (.text (.text "locate".toList))).getD .emptyMapping).fields? = some locate)
    (lists : holdsLists ((locate.get? (.text (.text "node_types".toList))).getD .emptyMapping) = true) :
    ∃ byLanguage, (overDefaults fields).NodeTypes byLanguage ∧
      ((locate.get? (.text (.text "node_types".toList))).getD .emptyMapping).fields? = some byLanguage := by
  obtain ⟨part, laid, found⟩ := laid_locate fields locate located
  obtain ⟨byLanguage, mapping, given⟩ := under_node_types locate lists
  refine ⟨byLanguage, ⟨.mapping part, _, ?_, field_found part _ _ _ found, mapping⟩, given⟩
  rw [← laid]
  exact field_found _ _ _ _ (Fields.merged_get defaultFields fields _ _ rfl)

theorem document_node_types (path : Text) (document : Value) (config : Config)
    (made : ofDocument path document = .ok config) : ∃ fields, config.NodeTypes fields := by
  obtain ⟨fields, locate, -, rfl, located, lists⟩ := document_parts path document config made
  obtain ⟨byLanguage, has, -⟩ := parts_node_types fields locate located lists
  exact ⟨byLanguage, has⟩

theorem loaded_node_types (files : FileTree) (path : Option Text) (config : Config)
    (loaded : load files path = .ok config) : ∃ fields, config.NodeTypes fields := by
  have standardTypes : standard.NodeTypes [] := ⟨.mapping locateDefaults, .emptyMapping, rfl, rfl, rfl⟩
  unfold load at loaded
  split at loaded
  · cases loaded
    exact ⟨[], standardTypes⟩
  · cases loaded
    exact ⟨[], standardTypes⟩
  · rename_i path _
    unfold loadFile at loaded
    obtain ⟨-, -, loaded⟩ := bind_ok _ _ _ loaded
    dsimp only at loaded
    split at loaded
    · cases loaded
    · obtain ⟨content, -, loaded⟩ := bind_ok _ _ _ loaded
      obtain ⟨text, -, loaded⟩ := bind_ok _ _ _ loaded
      obtain ⟨document, -, made⟩ := bind_ok _ _ _ loaded
      exact document_node_types path document config made

end Config

def Value.IsTexts (value : Value) : Prop :=
  ∃ names : List Writing, value.opened = .list (names.map fun name => .scalar (.text name))

theorem texts_items (value : Value) (texts : value.IsTexts) :
    ∃ items : List Value, value.items = .ok items ∧ ∃ scalars, (Value.list items).scalars = .ok scalars := by
  obtain ⟨names, opened⟩ := texts
  have each : ∀ item ∈ names.map fun name => Value.scalar (.text name), ∃ scalar, item.toScalar = .ok scalar := by
    intro item member
    obtain ⟨name, -, rfl⟩ := List.mem_map.mp member
    exact ⟨.text name, rfl⟩
  obtain ⟨scalars, mapped⟩ := map_all_ok _ _ each
  refine ⟨_, by rw [Value.items, opened], Scalar.distinct scalars, ?_⟩
  change (List.mapM Value.toScalar _ >>= _) = _
  rw [mapped]
  rfl

theorem texts_scalars (value : Value) (texts : value.IsTexts) : ∃ scalars, value.scalars = .ok scalars := by
  obtain ⟨items, listed, scalars, read⟩ := texts_items value texts
  refine ⟨scalars, ?_⟩
  rw [Value.scalars, listed]
  exact read

namespace Config

structure WellTyped (config : Config) : Prop where
  languages : ∃ part enabled, config.part "languages" = .ok part ∧
    part.fieldD "enabled" (.list []) = .ok enabled ∧ enabled.IsTexts
  nodeTypes : ∀ fields, config.NodeTypes fields → ∀ field ∈ fields, field.2.IsTexts
  offset : ∃ part n, config.part "locate" = .ok part ∧ part.fieldD "offset" (.int 0) = .ok (.int n)
  displayLength : ∃ part n, config.part "reporting" = .ok part ∧
    part.fieldD "display_text_max_length" (.int 80) = .ok (.int n)
  level : ∃ part name level, config.part "logging" = .ok part ∧
    part.fieldD "level" (.text "WARNING") = .ok (.scalar (.text name)) ∧ Level.ofName name.upper = .ok level

theorem standard_typed : standard.WellTyped where
  languages := ⟨_, _, rfl, rfl, defaultLanguages.map .ofString, rfl⟩
  nodeTypes := by
    rintro fields ⟨part, byLanguage, found, listed, mapping⟩
    cases found
    cases listed
    cases mapping
    exact fun field member => nomatch member
  offset := ⟨_, 0, rfl, rfl⟩
  displayLength := ⟨_, 80, rfl, rfl⟩
  level := ⟨_, .text "WARNING".toList, .warning, rfl, rfl, ok_of_option _ _ (by decide +kernel)⟩

variable {config : Config}

theorem typed_languages (typed : config.WellTyped) : ∃ enabled, config.languages = .ok enabled := by
  obtain ⟨part, value, found, listed, texts⟩ := typed.languages
  obtain ⟨enabled, read⟩ := texts_scalars value texts
  refine ⟨enabled, ?_⟩
  rw [languages, found]
  change (part.fieldD "enabled" (.list []) >>= _) = _
  rw [listed]
  exact read

theorem typed_offset (typed : config.WellTyped) : ∃ n, config.offset = .ok n := by
  obtain ⟨part, n, found, listed⟩ := typed.offset
  refine ⟨n, ?_⟩
  rw [offset, found]
  change (part.fieldD "offset" (.int 0) >>= _) = _
  rw [listed]
  rfl

theorem typed_display_length (typed : config.WellTyped) : ∃ n, config.displayLength = .ok n := by
  obtain ⟨part, n, found, listed⟩ := typed.displayLength
  refine ⟨n, ?_⟩
  rw [displayLength, reporting, found]
  change (part.fieldD "display_text_max_length" (.int 80) >>= _) = _
  rw [listed]
  rfl

theorem typed_level (typed : config.WellTyped) :
    ∃ name level, config.logLevel = .ok name ∧ Level.ofName name = .ok level := by
  obtain ⟨part, name, level, found, listed, known⟩ := typed.level
  refine ⟨name.upper, level, ?_, known⟩
  rw [logLevel, found]
  change (part.fieldD "level" (.text "WARNING") >>= _) = _
  rw [listed]
  rfl

theorem typed_reporting (typed : config.WellTyped) :
    ∃ part fields, config.reporting = .ok part ∧ part.fields? = some fields := by
  obtain ⟨part, n, found, listed⟩ := typed.displayLength
  refine ⟨part, ?_⟩
  cases mapping : part.fields? with
  | some fields => exact ⟨fields, found, rfl⟩
  | none =>
      rw [Value.fieldD, Value.field?, mapping] at listed
      cases listed

theorem typed_node_types (typed : config.WellTyped) (fields : Fields Value) (has : config.NodeTypes fields)
    (language : Text) :
    ∃ items, config.nodeTypes language = .ok items ∧ ∃ scalars, (Value.list items).scalars = .ok scalars := by
  have texts : ((fields.get? (.text (.text language))).getD (.list [])).IsTexts := by
    cases given : fields.get? (.text (.text language)) with
    | none => exact ⟨[], rfl⟩
    | some value =>
        obtain ⟨name, member⟩ := Fields.mem_of_get fields _ value given
        exact typed.nodeTypes fields has _ member
  obtain ⟨items, read, scalars⟩ := texts_items _ texts
  exact ⟨items, (node_types_read config fields has language).trans read, scalars⟩

end Config

theorem typed_wanted_types (query : Query) (typed : query.config.WellTyped) (fields : Fields Value)
    (has : query.config.NodeTypes fields) (named : none ∉ query.nodeTypes) (language : Language) :
    ∃ types, FileTree.wantedTypes query language = .ok types := by
  unfold FileTree.wantedTypes
  split
  · obtain ⟨items, listed, scalars, read⟩ := Config.typed_node_types typed fields has language.name
    rw [listed]
    change ∃ types, ((Value.list items).scalars >>= _) = .ok types
    rw [read]
    exact ⟨_, rfl⟩
  · have each : ∀ asked ∈ query.nodeTypes, ∃ type, FileTree.askedType asked = .ok type := by
      intro asked member
      cases asked with
      | none => exact absurd member named
      | some type => exact ⟨_, rfl⟩
    obtain ⟨types, read⟩ := map_all_ok _ _ each
    rw [read]
    exact ⟨_, rfl⟩

end SourceLocator
