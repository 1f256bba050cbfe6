import SourceLocator.Command
import SourceLocator.Proofs.RangeAgreement
import SourceLocator.Proofs.SourceOrder
import SourceLocator.Proofs.TextReport

set_option autoImplicit false

namespace SourceLocator

namespace Report

def Placeable (location : Location) : Prop := (places location).all DigitBound.standard.admits = true

theorem text_written (length : Int) (locations : List Location) (each : ∀ location ∈ locations, Placeable location) :
    writeText .standard length locations = .ok (text length locations) := by
  have all : (locations.flatMap places).all DigitBound.standard.admits = true := by
    rw [List.all_flatMap, List.all_eq_true]
    exact each
  rw [write_text_writes, DigitBound.write, if_pos all]

end Report

namespace FileTree

variable {tree : FileTree} {parser : Parser}

theorem parsed_placeable (sound : tree.Sound) (path : Text) (parsed : ParsedFile)
    (result : tree.parse parser path none = .ok (some parsed)) (offset : Int) (cursor : Cursor) :
    Report.Placeable (parsed.located offset cursor) := by
  have storable := tree.parsed_storable sound parser path none parsed result
  exact parsed.file.stored_position_writable (tree.parsed_table parser path none parsed result) storable _

theorem file_placeable (sound : tree.Sound) (query : Query) (path : Text) (report : Findings)
    (found : tree.locateFile parser query path = .ok report) :
    ∀ location ∈ report.locations, Report.Placeable location := by
  intro location listed
  cases result : tree.parse parser path none with
  | error fault =>
      rw [locateFile, result] at found
      cases found
  | ok parsed? =>
      cases parsed? with
      | none =>
          rw [locateFile, result] at found
          cases found
          cases listed
      | some parsed =>
          obtain ⟨types, -, located⟩ := located_file report found parsed result
          rw [located] at listed
          obtain ⟨cursor, -, rfl⟩ := List.mem_map.mp listed
          exact parsed_placeable sound path parsed result _ cursor

theorem search_placeable (sound : tree.Sound) (path : Text) (config : Config) (nodeTypes : List (Option Text))
    (offset : Option (Option Int)) (findings : Findings)
    (found : tree.locate parser path config nodeTypes offset = .ok findings) :
    ∀ location ∈ findings.locations, Report.Placeable location := by
  obtain ⟨⟨query, files⟩, -, collected⟩ := bind_ok _ _ findings found
  obtain ⟨reports, each, locations⟩ := Findings.collect_found _ findings collected
  intro location listed
  rw [locations] at listed
  obtain ⟨report, member, listed⟩ := List.mem_flatMap.mp listed
  obtain ⟨file, -, searched⟩ := List.mem_map.mp (each ▸ List.mem_map_of_mem member)
  obtain ⟨source, -, here⟩ := bind_ok _ _ report searched
  exact file_placeable sound query source.text report here location listed

theorem located_range_stored (tree : FileTree) (path : Text) (extent : Extent) (result : Location × Log)
    (found : tree.locateRange path extent = .ok result) : ∃ content, tree.read (Path.ofText path) = .ok content := by
  obtain ⟨_, -, found⟩ := bind_ok _ _ _ found
  split at found
  · rename_i way content led
    exact ⟨content, by rw [read, led]⟩
  · cases found

theorem range_placeable (sound : tree.Sound) (path : Text) (extent : Extent) (location : Location) (log : Log)
    (found : tree.locateRange path extent = .ok (location, log)) :
    Report.Placeable location := by
  obtain ⟨content, stored⟩ := tree.located_range_stored path extent (location, log) found
  have writes := tree.locate_range_writes sound path content extent stored
  have storable := tree.read_storable sound _ content stored
  cases placed : ((SourceFile.ofPath (Utf8.decode content) path).unplaced extent.start).all
      DigitBound.standard.admits with
  | false => cases found.symm.trans (writes.refused placed)
  | true =>
      obtain ⟨_, located⟩ := writes.admitted placed
      cases found.symm.trans located
      exact SourceFile.stored_position_writable _ rfl storable extent.start

end FileTree

namespace Command

theorem found_text_written (files : FileTree) (sound : files.Sound) (parser : Parser) (config : Config)
    (action : Action) (locations : List Location) (log : Log)
    (found : findLocations files parser config action = .ok (locations, log)) (length : Int) :
    Report.writeText .standard length locations = .ok (Report.text length locations) := by
  apply Report.text_written
  cases action with
  | nodes path nodeTypes offset =>
      obtain ⟨findings, located, same⟩ := bind_ok _ _ _ found
      cases same
      exact FileTree.search_placeable sound path config nodeTypes offset findings located
  | range file start stop =>
      have ranged := map_error_ok _ _ _ found
      cases start with
      | none =>
          obtain ⟨_, _, fails⟩ := bind_ok _ _ _ ranged
          cases fails
      | some start =>
          obtain ⟨⟨location, log⟩, located, same⟩ := bind_ok _ _ _ ranged
          cases same
          intro other member
          rw [List.mem_singleton.mp member]
          exact FileTree.range_placeable sound file _ location log located

end Command

end SourceLocator
