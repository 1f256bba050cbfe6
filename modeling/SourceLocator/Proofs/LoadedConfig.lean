import SourceLocator.Proofs.Encoding
import SourceLocator.Proofs.KeyPaths
import SourceLocator.Proofs.LetterCase

set_option autoImplicit false

namespace SourceLocator

theorem is_list_iff (value : Value) : value.isList = true ↔ ∃ items, value.opened = .list items := by
  unfold Value.isList
  cases value.opened <;> simp

namespace Config

abbrev locateKey : Scalar := .ofString "locate"

abbrev nodeTypesKey : Scalar := .ofString "node_types"

inductive LoadsFrom (tree : FileTree) : Option Text → Value → Prop where
  | unnamed (path : Option Text) (blank : path = none ∨ path = some []) : LoadsFrom tree path .emptyMapping
  | json (path : Text) (content : Bytes) (text : Text) (json : Json) (named : path ≠ [])
      (suffix : (Path.ofText path).suffix.map Char.toLower = ".json".toList)
      (stored : tree.read (Path.ofText path) = .ok content) (decoded : decode content = .ok text)
      (parsed : Json.readWithin jsonLimits text = .ok json) :
      LoadsFrom tree (some path) (.ofJson json)
  | yaml (path : Text) (content : Bytes) (text : Text) (graph : Graph) (root : Part) (named : path ≠ [])
      (suffix : (Path.ofText path).suffix.map Char.toLower ≠ ".json".toList)
      (stored : tree.read (Path.ofText path) = .ok content) (decoded : decode content = .ok text)
      (parsed : Yaml.read text = .ok (graph, root)) :
      LoadsFrom tree (some path) (if isVacant (graph.value root) then .emptyMapping else graph.value root)

structure Acceptable (document : Value) : Prop where
  mapping : document.fields? ≠ none
  locate : ∀ part, document.find? [locateKey] = some part → part.fields? ≠ none
  nodeTypes : ∀ part, document.find? [locateKey, nodeTypesKey] = some part →
    ∃ fields, part.fields? = some fields ∧ ∀ field ∈ fields, ∃ items, field.2.opened = .list items

section Documents

variable (document : Value) (fields locate : Fields Value)

theorem holds_lists_iff (value : Value) : holdsLists value = true ↔
    ∃ fields, value.fields? = some fields ∧ ∀ field ∈ fields, ∃ items, field.2.opened = .list items := by
  simp [holdsLists, is_list_iff, Option.any_eq_true]

theorem given_lists_iff (given : Option Value) : holdsLists (given.getD .emptyMapping) = true ↔
    ∀ part, given = some part →
      ∃ fields, part.fields? = some fields ∧ ∀ field ∈ fields, ∃ items, field.2.opened = .list items := by
  cases given with
  | none => exact ⟨fun _ => nofun, fun _ => rfl⟩
  | some part => simp [holds_lists_iff]

theorem find_in_locate (mapping : document.fields? = some fields)
    (located : ((fields.get? locateKey).getD .emptyMapping).fields? = some locate) (key : Scalar) (rest : List Scalar) :
    document.find? (locateKey :: key :: rest) = (locate.get? key).bind fun next => next.find? rest := by
  rw [Value.find_through document fields mapping]
  exact Value.find_given _ locate located key rest

end Documents

variable (path : Text)

theorem located_outcome (document : Value) (fields locate : Fields Value) (mapping : document.fields? = some fields)
    (located : ((fields.get? locateKey).getD .emptyMapping).fields? = some locate) :
    ofDocument path document = if holdsLists ((locate.get? nodeTypesKey).getD .emptyMapping) then
      .ok (overDefaults fields) else .error (.nodeTypesNotLists path) := by
  rw [ofDocument, mapping]
  dsimp only
  rw [located]
  rfl

theorem located_acceptable_iff (document : Value) (fields locate : Fields Value)
    (mapping : document.fields? = some fields)
    (located : ((fields.get? locateKey).getD .emptyMapping).fields? = some locate) :
    Acceptable document ↔ holdsLists ((locate.get? nodeTypesKey).getD .emptyMapping) = true := by
  have inside : document.find? [locateKey, nodeTypesKey] = locate.get? nodeTypesKey := by
    rw [find_in_locate document fields locate mapping located, Value.find_last]
  rw [given_lists_iff, ← inside]
  refine ⟨Acceptable.nodeTypes, fun lists => ⟨by simp [mapping], fun part found => ?_, lists⟩⟩
  rw [Value.find_through document fields mapping] at found
  obtain ⟨given, here, same⟩ := Option.bind_eq_some_iff.mp found
  cases same
  rw [here] at located
  exact Option.ne_none_iff_exists'.mpr ⟨locate, located⟩

theorem document_accepted (document : Value) (acceptable : Acceptable document) :
    ∃ fields, document.fields? = some fields ∧ ofDocument path document = .ok (overDefaults fields) := by
  obtain ⟨fields, mapping⟩ := Option.ne_none_iff_exists'.mp acceptable.mapping
  have part : ((fields.get? locateKey).getD .emptyMapping).fields? ≠ none := by
    cases given : fields.get? locateKey with
    | none => simp [Value.emptyMapping, Value.fields?, Value.opened]
    | some part =>
        refine acceptable.locate part ?_
        rw [Value.find_through document fields mapping, given]
        rfl
  obtain ⟨locate, located⟩ := Option.ne_none_iff_exists'.mp part
  refine ⟨fields, mapping, ?_⟩
  rw [located_outcome path document fields locate mapping located,
    if_pos ((located_acceptable_iff document fields locate mapping located).mp acceptable)]

theorem document_refused (document : Value) (unacceptable : ¬ Acceptable document) :
    ofDocument path document = .error (.configNotMapping path) ∨
      ofDocument path document = .error (.locateNotMapping path) ∨
      ofDocument path document = .error (.nodeTypesNotLists path) := by
  cases mapping : document.fields? with
  | none =>
      left
      rw [ofDocument, mapping]
      rfl
  | some fields =>
      right
      cases located : ((fields.get? locateKey).getD .emptyMapping).fields? with
      | none =>
          left
          rw [ofDocument, mapping]
          dsimp only
          rw [located]
          rfl
      | some locate =>
          right
          rw [located_outcome path document fields locate mapping located,
            if_neg (mt (located_acceptable_iff document fields locate mapping located).mpr unacceptable)]

theorem readable_found (tree : FileTree) (place : Path) (content : Bytes) (stored : tree.read place = .ok content) :
    tree.checkLength place = .ok () ∧ tree.contains place = true := by
  unfold FileTree.read at stored
  rw [FileTree.checkLength, FileTree.contains]
  cases led : tree.at? place with
  | ok entry => exact ⟨rfl, rfl⟩
  | error fault =>
      rw [led] at stored
      cases stored

theorem decode_encoded (text : Text) (lines : unifyLineEnds text = text) : decode (Utf8.encode text) = .ok text := by
  rw [decode, if_pos (Utf8.encode_well_formed _), Utf8.decode_encode, lines]

theorem load_named (tree : FileTree) (path : Text) (named : path ≠ []) :
    load tree (some path) = loadFile tree path := by
  cases path with
  | nil => exact absurd rfl named
  | cons c rest => rfl

theorem load_file (tree : FileTree) (path : Text) (content : Bytes) (text : Text)
    (stored : tree.read (Path.ofText path) = .ok content) (decoded : decode content = .ok text) :
    loadFile tree path = (Config.document (isJsonPath (Path.ofText path)) text >>= ofDocument path) := by
  obtain ⟨short, found⟩ := readable_found tree _ content stored
  rw [loadFile, short, found, stored]
  change (decode content >>= _) = _
  rw [decoded]
  rfl

theorem load_document (tree : FileTree) (path : Option Text) (document : Value)
    (source : LoadsFrom tree path document) : load tree path = ofDocument (path.getD []) document := by
  cases source with
  | unnamed _ blank => rcases blank with rfl | rfl <;> rfl
  | json path content text json named suffix stored decoded parsed =>
      rw [load_named tree path named, load_file tree path content text stored decoded, Config.document,
        (json_path_iff _).mpr suffix, parsed]
      rfl
  | yaml path content text graph root named suffix stored decoded parsed =>
      rw [load_named tree path named, load_file tree path content text stored decoded, Config.document,
        Bool.eq_false_iff.mpr (mt (json_path_iff _).mp suffix), parsed]
      rfl

theorem empty_acceptable : Acceptable .emptyMapping := ⟨nofun, nofun, nofun⟩

theorem refused_named (tree : FileTree) (path : Option Text) (document : Value) (source : LoadsFrom tree path document)
    (unacceptable : ¬ Acceptable document) : ∃ file, path = some file := by
  cases source with
  | unnamed _ blank => exact absurd empty_acceptable unacceptable
  | json path content text json named suffix stored decoded parsed => exact ⟨path, rfl⟩
  | yaml path content text graph root named suffix stored decoded parsed => exact ⟨path, rfl⟩

theorem loaded_document (tree : FileTree) (path : Option Text) (config : Config)
    (loaded : load tree path = .ok config) : ∃ document, LoadsFrom tree path document := by
  unfold load at loaded
  split at loaded
  · exact ⟨_, .unnamed none (.inl rfl)⟩
  · exact ⟨_, .unnamed _ (.inr rfl)⟩
  · rename_i path named
    unfold loadFile at loaded
    obtain ⟨-, -, loaded⟩ := bind_ok _ _ _ loaded
    dsimp only at loaded
    split at loaded
    · cases loaded
    · obtain ⟨content, stored, loaded⟩ := bind_ok _ _ _ loaded
      obtain ⟨text, decoded, loaded⟩ := bind_ok _ _ _ loaded
      obtain ⟨document, found, -⟩ := bind_ok _ _ _ loaded
      unfold Config.document at found
      cases suffix : isJsonPath (Path.ofText path) with
      | true =>
          rw [suffix] at found
          obtain ⟨json, parsed, -⟩ := bind_ok (Json.readWithin jsonLimits text) _ _ found
          exact ⟨_, .json path content text json named ((json_path_iff _).mp suffix) stored decoded parsed⟩
      | false =>
          rw [suffix] at found
          obtain ⟨⟨graph, root⟩, parsed, -⟩ := bind_ok (Yaml.read text) _ _ found
          have other := mt (json_path_iff (Path.ofText path)).mpr (Bool.eq_false_iff.mp suffix)
          exact ⟨_, .yaml path content text graph root named other stored decoded parsed⟩

theorem finite_mapping_of (fields : List (String × Value)) (each : ∀ field ∈ fields, field.2.Finite) :
    (mappingOf fields).Finite := by
  refine .mapping _ fun field listed => ?_
  obtain ⟨named, found, rfl⟩ := List.mem_map.mp listed
  exact each named found

theorem standard_finite : standard.data.Finite := by
  have single : ∀ name value, value.fields? = none → (mappingOf [(name, value)]).Finite :=
    fun _ _ leaf => finite_mapping_of _ (List.forall_mem_singleton.mpr (.leaf _ leaf))
  refine .mapping _ ?_
  simp only [defaultFields, List.forall_mem_cons]
  refine ⟨.leaf _ rfl, single _ _ rfl, finite_mapping_of _ ?_, finite_mapping_of _ ?_, single _ _ rfl, nofun⟩
  · simp only [List.forall_mem_cons]
    exact ⟨.mapping [] nofun, .leaf _ rfl, nofun⟩
  · simp only [List.forall_mem_cons]
    exact ⟨.leaf _ rfl, .leaf _ rfl, nofun⟩

theorem document_lists (path : Text) (document : Value) (config : Config)
    (made : ofDocument path document = .ok config) (language : Text) :
    ∃ listed, config.nodeTypes language = .ok listed ∧
      (document.find? [locateKey, nodeTypesKey, .text (.text language)] = none → listed = []) ∧
      ∀ value, document.find? [locateKey, nodeTypesKey, .text (.text language)] = some value →
        value.opened = .list listed := by
  obtain ⟨fields, locate, mapping, rfl, located, lists⟩ := document_parts path document config made
  obtain ⟨byLanguage, has, given⟩ := parts_node_types fields locate located lists
  have said : document.find? [locateKey, nodeTypesKey, .text (.text language)] =
      byLanguage.get? (.text (.text language)) := by
    rw [find_in_locate document fields locate mapping located]
    exact (Value.find_given _ byLanguage given _ []).trans (Value.find_last _)
  rw [said, node_types_read _ byLanguage has]
  cases found : byLanguage.get? (.text (.text language)) with
  | none => exact ⟨[], rfl, fun _ => rfl, nofun⟩
  | some value =>
      obtain ⟨name, listed⟩ := Fields.mem_of_get byLanguage _ value found
      obtain ⟨_, same, each⟩ := (holds_lists_iff _).mp lists
      cases given.symm.trans same
      obtain ⟨items, opened⟩ := each _ listed
      refine ⟨items, ?_, nofun, fun _ same => ?_⟩
      · rw [Option.getD_some, Value.items, opened]
      · cases same
        exact opened

theorem document_defaults (path : Text) (document : Value) (config : Config)
    (made : ofDocument path document = .ok config) (keys : List Scalar) (value : Value)
    (single : value.fields? = none) : config.data.find? keys = some value ↔
      document.find? keys = some value ∨ standard.data.find? keys = some value ∧ document.Clear keys := by
  obtain ⟨fields, -, mapping, rfl, -, -⟩ := document_parts path document config made
  rw [← Value.find_under document standard.data standard_finite keys value single, standard,
    under_mapping document defaultFields fields mapping, overDefaults]

-- A document is loaded if its node types, as far as there are any, are lists by language. Then the node types of
-- every language are known, and all settings that the document leaves alone are those by default.
theorem loading_guarantees (tree : FileTree) (path : Option Text) :
    (∀ document, LoadsFrom tree path document →
      (Acceptable document → ∃ config, load tree path = .ok config) ∧
      (¬ Acceptable document → ∃ file, path = some file ∧ (load tree path = .error (.configNotMapping file) ∨
        load tree path = .error (.locateNotMapping file) ∨ load tree path = .error (.nodeTypesNotLists file)))) ∧
    ∀ config, load tree path = .ok config → ∃ document, LoadsFrom tree path document ∧
      (∀ language : Text, ∃ listed, config.nodeTypes language = .ok listed ∧
        (document.find? [locateKey, nodeTypesKey, .text (.text language)] = none → listed = []) ∧
        ∀ value, document.find? [locateKey, nodeTypesKey, .text (.text language)] = some value →
          value.opened = .list listed) ∧
      ∀ keys value, value.fields? = none → standard.data.find? keys = some value → document.find? keys = none →
        (∀ front next, front <+: keys → front ≠ keys → document.find? front = some next → next.fields? ≠ none) →
        config.data.find? keys = some value := by
  constructor
  · intro document source
    rw [load_document tree path document source]
    constructor
    · intro acceptable
      obtain ⟨fields, -, made⟩ := document_accepted (path.getD []) document acceptable
      exact ⟨_, made⟩
    · intro unacceptable
      obtain ⟨file, rfl⟩ := refused_named tree path document source unacceptable
      exact ⟨file, rfl, document_refused file document unacceptable⟩
  · intro config loaded
    obtain ⟨document, source⟩ := loaded_document tree path config loaded
    have made := (load_document tree path document source).symm.trans loaded
    refine ⟨document, source, document_lists _ document config made, ?_⟩
    intro keys value single default absent passable
    refine (document_defaults _ document config made keys value single).mpr (.inr ⟨default, absent, ?_⟩)
    intro front next before reached
    refine passable front next before ?_ reached
    rintro rfl
    cases absent.symm.trans reached

theorem listed_types_are_loaded :
    let listing : Text := "\x7b\"locate\": \x7b\"node_types\": \x7b\"python\": [\"call\"]\x7d\x7d\x7d".toList
    let tree := FileTree.ofEntries [("c.json".toList, .file (Utf8.encode listing)),
      ("d.json".toList, .file (Utf8.encode "[]".toList))]
    (∃ config listed, load tree (some "c.json".toList) = .ok config ∧ config.nodeTypes "python".toList = .ok listed) ∧
      ∃ fault, load tree (some "d.json".toList) = .error fault := by
  intro listing tree
  obtain ⟨json, parsed, made⟩ := (Option.any_eq_true _ _).mp (by decide +kernel :
    (Json.readWithin jsonLimits listing).toOption.any
      (fun json => (ofDocument [] (.ofJson json)).toOption.isSome) = true)
  obtain ⟨items, itemsParsed, noMapping⟩ := (Option.any_eq_true _ _).mp (by decide +kernel :
    (Json.readWithin jsonLimits "[]".toList).toOption.any (fun json => (Value.ofJson json).fields?.isNone) = true)
  have source : LoadsFrom tree (some "c.json".toList) (.ofJson json) :=
    .json _ _ listing json (by decide) (by decide +kernel) rfl (decode_encoded listing rfl) (ok_of_option _ json parsed)
  have itemsSource : LoadsFrom tree (some "d.json".toList) (.ofJson items) :=
    .json _ _ "[]".toList items (by decide) (by decide +kernel) rfl (decode_encoded _ rfl) (ok_of_option _ items itemsParsed)
  have acceptable : Acceptable (.ofJson json) := by
    refine Classical.byContradiction fun unacceptable => ?_
    rcases document_refused [] _ unacceptable with refused | refused | refused <;>
      · rw [refused] at made
        cases made
  have unacceptable : ¬ Acceptable (.ofJson items) := fun acceptable =>
    acceptable.mapping (Option.isNone_iff_eq_none.mp noMapping)
  obtain ⟨config, loaded⟩ := ((loading_guarantees tree _).1 _ source).1 acceptable
  obtain ⟨_, -, types, -⟩ := (loading_guarantees tree _).2 config loaded
  obtain ⟨listed, known, -⟩ := types "python".toList
  obtain ⟨file, -, refused | refused | refused⟩ := ((loading_guarantees tree _).1 _ itemsSource).2 unacceptable
  all_goals exact ⟨⟨config, listed, loaded, known⟩, _, refused⟩

end Config

end SourceLocator
