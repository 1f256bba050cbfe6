import Mathlib.Algebra.Group.Int.Defs
import SourceLocator.Location.Report
import SourceLocator.Proofs.ArgumentIntegers
import SourceLocator.Proofs.JsonDocuments

set_option autoImplicit false

namespace SourceLocator

theorem admits_iff (bound : DigitBound) (n : Int) :
    bound.admits n = true ↔ ∀ digits ∈ bound, n.natAbs < 10 ^ digits := by
  cases bound with
  | none => simp [DigitBound.admits]
  | some digits =>
      constructor
      · rintro admitted _ ⟨⟩
        rw [DigitBound.admits, Bool.or_eq_true, decide_eq_true_eq, decide_eq_true_eq] at admitted
        rcases admitted with few | below
        · calc n.natAbs
            _ < 2 ^ (n.natAbs.log2 + 1) := Nat.lt_log2_self
            _ ≤ 2 ^ digits := Nat.pow_le_pow_right (by decide) few
            _ ≤ 10 ^ digits := Nat.pow_le_pow_left (by decide) digits
        · exact below
      · intro below
        exact admits_below digits n (below digits rfl)

theorem short_written (bound : DigitBound) (integers : List Int) (text : Text)
    (short : ∀ n ∈ integers, ∀ digits ∈ bound, n.natAbs < 10 ^ digits) : bound.write integers text = .ok text := by
  rw [DigitBound.write, if_pos]
  exact List.all_eq_true.mpr fun n listed => (admits_iff bound n).mpr (short n listed)

theorem long_refused (bound : DigitBound) (integers : List Int) (text : Text)
    (long : ∃ n ∈ integers, ∃ digits ∈ bound, 10 ^ digits ≤ n.natAbs) :
    bound.write integers text = .error .unwritable := by
  rw [DigitBound.write, if_neg]
  intro admitted
  obtain ⟨n, listed, digits, bounded, large⟩ := long
  have below := (admits_iff bound n).mp (List.all_eq_true.mp admitted n listed) digits bounded
  omega

namespace Report

theorem members_exact (members : List (String × Json)) (each : ∀ member ∈ members, Json.Exact member.2) :
    Json.Exact (.ofMembers members) := by
  refine .object _ ?_ ?_
  · intro member listed
    obtain ⟨entry, -, rfl⟩ := List.mem_map.mp listed
    exact ⟨entry.1.toList, rfl⟩
  · intro member listed
    obtain ⟨entry, found, rfl⟩ := List.mem_map.mp listed
    exact each entry found

theorem record_exact (location : Location) : Json.Exact (record location) := by
  apply members_exact
  simp only [List.forall_mem_cons]
  exact ⟨.text _, .int _, .int _, .int _, .int _, .text _, nofun⟩

theorem summary_exact (locations : List Location) : Json.Exact (summary locations) := by
  apply members_exact
  simp only [List.forall_mem_cons]
  exact ⟨.int _, .int _, nofun⟩

theorem document_exact (locations : List Location) : Json.Exact (document locations) := by
  have records : ∀ value ∈ locations.map record, Json.Exact value :=
    List.forall_mem_map.mpr fun location _ => record_exact location
  apply members_exact
  simp only [List.forall_mem_cons]
  exact ⟨summary_exact locations, .array _ records, nofun⟩

theorem record_injective (location other : Location) (same : record location = record other) : location = other := by
  obtain ⟨⟨line, column⟩, ⟨start, stop⟩, displayText, file⟩ := location
  simp only [record, Json.ofMembers, Json.text, List.map_cons, List.map_nil, Json.object.injEq, List.cons.injEq,
    Prod.mk.injEq, Json.string.injEq, Json.int.injEq, Writing.text.injEq] at same
  obtain ⟨⟨-, rfl⟩, ⟨-, rfl⟩, ⟨-, rfl⟩, ⟨-, rfl⟩, ⟨-, rfl⟩, ⟨-, rfl⟩, -⟩ := same
  rfl

theorem document_injective (locations others : List Location) (same : document locations = document others) :
    locations = others := by
  simp only [document, Json.ofMembers, List.map_cons, List.map_nil, Json.object.injEq, List.cons.injEq, Prod.mk.injEq,
    Json.array.injEq] at same
  exact (List.map_inj_right record_injective).mp same.2.1.2

theorem read_report (locations : List Location) : Json.read? (json locations) = some (document locations) :=
  Json.read_print _ (document_exact locations)

theorem json_injective (locations others : List Location) (same : json locations = json others) :
    locations = others := by
  have read := read_report locations
  rw [same, read_report] at read
  exact (document_injective others locations (Option.some.inj read)).symm

theorem all_admitted_iff (bound : DigitBound) (locations : List Location) :
    (locations.flatMap numbers).all bound.admits = true ↔
      ∀ location ∈ locations, ∀ n ∈ numbers location, ∀ digits ∈ bound, n.natAbs < 10 ^ digits := by
  simp only [List.all_eq_true, List.forall_mem_flatMap, admits_iff]

theorem long_number_refused (bound : DigitBound) (locations : List Location)
    (long : ∃ location ∈ locations, ∃ n ∈ numbers location, ∃ digits ∈ bound, 10 ^ digits ≤ n.natAbs) :
    writeJson bound locations = .error .unwritable := by
  obtain ⟨location, listed, n, number, large⟩ := long
  exact long_refused bound _ _ ⟨n, List.mem_flatMap.mpr ⟨location, listed, number⟩, large⟩

-- What is written of a report gives back everything in it. It is written unless an integer has too many digits.
theorem report_is_lossless (bound : DigitBound) (locations : List Location) :
    ((∀ location ∈ locations, ∀ n ∈ numbers location, ∀ digits ∈ bound, n.natAbs < 10 ^ digits) →
      writeJson bound locations = .ok (json locations)) ∧
    ((∃ location ∈ locations, ∃ n ∈ numbers location, ∃ digits ∈ bound, 10 ^ digits ≤ n.natAbs) →
      writeJson bound locations = .error .unwritable) ∧
    Json.read? (json locations) = some (.ofMembers
      [("summary", .ofMembers
        [("count", .int locations.length),
         ("unknown_positions", .int (locations.filter fun location => location.position = ⟨-1, -1⟩).length)]),
       ("locations", .array (locations.map fun location => .ofMembers
        [("file_path", .text location.file), ("line", .int location.position.line),
         ("column", .int location.position.column), ("start", .int location.extent.start),
         ("end", .int location.extent.stop), ("display_text", .text location.displayText)]))]) ∧
    Json.Ascii (json locations) ∧
    ∀ others, json others = json locations → others = locations := by
  refine ⟨fun short => ?_, long_number_refused bound locations, ?_, Json.printed_ascii _ (document_exact locations) 0,
    fun others same => json_injective others locations same⟩
  · rw [writeJson, DigitBound.write, if_pos ((all_admitted_iff bound locations).mpr short)]
  · have unknown : (fun location : Location => decide (location.position = ⟨-1, -1⟩)) =
        fun location => location.position.isUnknown := rfl
    rw [read_report, unknown, ← List.countP_eq_length_filter]
    rfl

theorem escaped_text_is_reported :
    let location : Location := ⟨⟨1, 2⟩, ⟨1, 12⟩, ['\x22', '\\', '\n', '\x7f', Char.ofNat 0x1F600], "a.py".toList⟩
    writeJson .standard [location] = .ok (json [location]) ∧ writeJson (some 1) [location] = .error .unwritable ∧
      ∀ others, json others = json [location] → others = [location] := by
  intro location
  obtain ⟨written, -, -, -, lossless⟩ := report_is_lossless .standard [location]
  obtain ⟨-, refused, -⟩ := report_is_lossless (some 1) [location]
  refine ⟨written ?_, refused ⟨location, List.mem_cons_self, 12, by decide, 1, rfl, by decide⟩, lossless⟩
  exact (all_admitted_iff .standard [location]).mp (by decide +kernel)

theorem long_offset_is_not_written :
    let location : Location := ⟨.unknown, ⟨10 ^ 4300 - 1, 10 ^ 4300 + 2⟩, "f".toList, "a.py".toList⟩
    ¬ ∃ text, writeJson .standard [location] = .ok text := by
  rintro location ⟨text, written⟩
  have stop : (10 ^ 4300 + 2 : Int) ∈ numbers location := .tail _ (.tail _ (.tail _ (.head _)))
  have refused := long_number_refused .standard [location]
    ⟨location, List.mem_cons_self, _, stop, _, rfl, by decide +kernel⟩
  cases refused.symm.trans written

end Report

end SourceLocator
