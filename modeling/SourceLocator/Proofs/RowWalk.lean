import Mathlib.Data.List.Forall2
import Mathlib.Data.List.Nodup
import SourceLocator.Proofs.RowTrees
import SourceLocator.Syntax.ParsedFile

set_option autoImplicit false

namespace SourceLocator

def rowOrder (rows : List SyntaxRow) (i : Nat) : List Nat :=
  i :: (SyntaxTree.childRows rows i).attach.flatMap fun child => rowOrder rows child.1.2
termination_by rows.length - i
decreasing_by
  have later := SyntaxTree.lt_of_mem_childRows child.2
  omega

section RowOrder

variable (rows : List SyntaxRow)

theorem row_order_eq (i : Nat) :
    rowOrder rows i = i :: (SyntaxTree.childRows rows i).flatMap fun child => rowOrder rows child.2 := by
  rw [rowOrder, List.flatMap_def, List.flatMap_def]
  exact congrArg (fun (below : List (List Nat)) => i :: below.flatten)
    (List.attach_map_val (f := fun (child : SyntaxRow × Nat) => rowOrder rows child.2))

theorem mem_row_order (i j : Nat) :
    j ∈ rowOrder rows i ↔ j = i ∨ ∃ child ∈ SyntaxTree.childRows rows i, j ∈ rowOrder rows child.2 := by
  rw [row_order_eq, List.mem_cons, List.mem_flatMap]

theorem row_order_self (i : Nat) : i ∈ rowOrder rows i := (mem_row_order rows i i).mpr (.inl rfl)

theorem row_order_from (i j : Nat) (listed : j ∈ rowOrder rows i) : i ≤ j := by
  induction i using rowOrder.induct rows with
  | case1 i ih =>
      rcases (mem_row_order rows i j).mp listed with rfl | ⟨child, below, inside⟩
      · exact Nat.le_refl j
      · have later := (SyntaxTree.lt_of_mem_childRows below).1
        exact Nat.le_trans (Nat.le_of_lt later) (ih ⟨child, below⟩ inside)

theorem row_order_within (i j : Nat) (listed : j ∈ rowOrder rows i) : j = i ∨ j < rows.length := by
  induction i using rowOrder.induct rows with
  | case1 i ih =>
      rcases (mem_row_order rows i j).mp listed with rfl | ⟨child, below, inside⟩
      · exact .inl rfl
      · rcases ih ⟨child, below⟩ inside with rfl | within
        · exact .inr (SyntaxTree.lt_of_mem_childRows below).2
        · exact .inr within

theorem row_order_parent (i j parent : Nat) (row : SyntaxRow) (present : rows[j]? = some row)
    (above : row.parent = some parent) (less : parent < j) (other : j ≠ i) :
    j ∈ rowOrder rows i ↔ parent ∈ rowOrder rows i := by
  induction i using rowOrder.induct rows with
  | case1 i ih =>
      have isChild : (row, j) ∈ SyntaxTree.childRows rows parent :=
        (SyntaxTree.mem_child_rows rows parent j row).mpr ⟨present, less, above⟩
      rw [mem_row_order, mem_row_order]
      constructor
      · rintro (same | ⟨child, below, inside⟩)
        · exact absurd same other
        · by_cases here : j = child.2
          · obtain ⟨again, -, top⟩ := (SyntaxTree.mem_child_rows rows i child.2 child.1).mp below
            rw [← here, present] at again
            rw [← Option.some.inj again, above] at top
            exact .inl (Option.some.inj top)
          · exact .inr ⟨child, below, (ih ⟨child, below⟩ here).mp inside⟩
      · rintro (rfl | ⟨child, below, inside⟩)
        · exact .inr ⟨(row, j), isChild, row_order_self rows j⟩
        · have apart : j ≠ child.2 := by
            have later := row_order_from rows child.2 parent inside
            omega
          exact .inr ⟨child, below, (ih ⟨child, below⟩ apart).mpr inside⟩

theorem child_rows_ascend (i : Nat) : (SyntaxTree.childRows rows i).Pairwise fun a b => a.2 < b.2 := by
  refine List.Pairwise.filter _ (List.pairwise_map.mp ?_)
  rw [List.zipIdx_map_snd]
  exact List.pairwise_lt_range'

theorem sibling_outside (i : Nat) (a b : SyntaxRow × Nat) (aBelow : a ∈ SyntaxTree.childRows rows i)
    (bBelow : b ∈ SyntaxTree.childRows rows i) (different : a.2 ≠ b.2) : a.2 ∉ rowOrder rows b.2 := by
  intro inside
  obtain ⟨present, less, above⟩ := (SyntaxTree.mem_child_rows rows i a.2 a.1).mp aBelow
  have top := (row_order_parent rows b.2 a.2 i a.1 present above less different).mp inside
  have later := (SyntaxTree.lt_of_mem_childRows bBelow).1
  exact Nat.not_le_of_lt later (row_order_from rows b.2 i top)

variable (proper : ProperRows rows)

include proper

theorem child_orders_disjoint (i : Nat) (a b : SyntaxRow × Nat) (aBelow : a ∈ SyntaxTree.childRows rows i)
    (bBelow : b ∈ SyntaxTree.childRows rows i) (different : a.2 ≠ b.2) :
    (rowOrder rows a.2).Disjoint (rowOrder rows b.2) := by
  intro j
  induction j using Nat.strongRecOn with
  | ind j ih =>
      intro inFirst inSecond
      by_cases first : j = a.2
      · exact sibling_outside rows i a b aBelow bBelow different (first ▸ inSecond)
      · by_cases second : j = b.2
        · exact sibling_outside rows i b a bBelow aBelow (Ne.symm different) (second ▸ inFirst)
        · have within := (row_order_within rows a.2 j inFirst).resolve_left first
          have present := List.getElem?_eq_getElem within
          obtain ⟨-, zero⟩ | ⟨parent, less, above⟩ := proper_row_cases rows proper j _ present
          · have start := row_order_from rows a.2 j inFirst
            have later := (SyntaxTree.lt_of_mem_childRows aBelow).1
            omega
          · exact ih parent less ((row_order_parent rows a.2 j parent _ present above less first).mp inFirst)
              ((row_order_parent rows b.2 j parent _ present above less second).mp inSecond)

theorem row_order_distinct (i : Nat) : (rowOrder rows i).Nodup := by
  induction i using rowOrder.induct rows with
  | case1 i ih =>
      rw [row_order_eq, List.nodup_cons, List.nodup_flatMap]
      refine ⟨?_, fun child below => ih ⟨child, below⟩, ?_⟩
      · intro again
        obtain ⟨child, below, inside⟩ := List.mem_flatMap.mp again
        have later := (SyntaxTree.lt_of_mem_childRows below).1
        exact Nat.not_le_of_lt later (row_order_from rows child.2 i inside)
      · refine (child_rows_ascend rows i).imp_of_mem ?_
        intro a b aBelow bBelow less
        exact child_orders_disjoint rows proper i a b aBelow bBelow (Nat.ne_of_lt less)

theorem row_order_complete (i : Nat) (within : i < rows.length) : i ∈ rowOrder rows 0 := by
  induction i using Nat.strongRecOn with
  | ind i ih =>
      have present := List.getElem?_eq_getElem within
      obtain ⟨-, rfl⟩ | ⟨parent, less, above⟩ := proper_row_cases rows proper i _ present
      · exact row_order_self rows 0
      · have notFirst : i ≠ 0 := Nat.ne_of_gt (Nat.lt_of_le_of_lt (Nat.zero_le parent) less)
        exact (row_order_parent rows 0 i parent _ present above less notFirst).mpr
          (ih parent less (Nat.lt_trans less within))

theorem row_order_perm (nonempty : rows ≠ []) : (rowOrder rows 0).Perm (List.range rows.length) := by
  refine (List.perm_ext_iff_of_nodup (row_order_distinct rows proper 0) List.nodup_range).mpr ?_
  intro i
  rw [List.mem_range]
  constructor
  · intro listed
    rcases row_order_within rows 0 i listed with rfl | within
    · exact List.length_pos_iff.mpr nonempty
    · exact within
  · exact row_order_complete rows proper i

end RowOrder

namespace Cursor

def AtRow (rows : List SyntaxRow) (cursor : Cursor) (i : Nat) : Prop :=
  ∃ chain, RowChain rows i chain ∧ cursor.AtRows rows chain

theorem root_at_row (rows : List SyntaxRow) (proper : ProperRows rows) (root : SyntaxTree)
    (table : SyntaxTree.ofRows? rows = some root) : (atRoot root).AtRow rows 0 := by
  obtain ⟨row, first, rfl⟩ := Option.map_eq_some_iff.mp table
  rw [List.head?_eq_getElem?] at first
  obtain ⟨top, -⟩ | ⟨parent, less, -⟩ := proper_row_cases rows proper 0 row first
  · exact ⟨[0], .root 0 row first top, .cons ⟨row, first, rfl⟩ .nil⟩
  · exact absurd less (Nat.not_lt_zero parent)

theorem at_row_cases (rows : List SyntaxRow) (cursor : Cursor) (i : Nat) (here : cursor.AtRow rows i) :
    ∃ above row, RowChain rows i (i :: above) ∧ cursor.AtRows rows (i :: above) ∧ rows[i]? = some row ∧
      cursor.tree = SyntaxTree.fromRow rows row i := by
  obtain ⟨chain, chained, atRows⟩ := here
  have start : ∃ above, chain = i :: above := by
    cases chained with
    | root _ _ _ _ => exact ⟨[], rfl⟩
    | child _ _ _ above _ _ _ => exact ⟨above, rfl⟩
  obtain ⟨above, rfl⟩ := start
  obtain ⟨row, present, tree⟩ := (List.forall₂_cons.mp atRows).1
  exact ⟨above, row, chained, atRows, present, tree⟩

theorem at_row_label (rows : List SyntaxRow) (cursor : Cursor) (i : Nat) (here : cursor.AtRow rows i) :
    ∃ row, rows[i]? = some row ∧ cursor.label = row.label := by
  obtain ⟨-, row, -, -, present, tree⟩ := at_row_cases rows cursor i here
  exact ⟨row, present, by rw [label, tree, SyntaxTree.row_label]⟩

theorem children_at_rows (rows : List SyntaxRow) (cursor : Cursor) (i : Nat) (here : cursor.AtRow rows i) :
    List.Forall₂ (AtRow rows) cursor.children ((SyntaxTree.childRows rows i).map Prod.snd) := by
  obtain ⟨above, row, chained, atRows, -, tree⟩ := at_row_cases rows cursor i here
  rw [children, tree, SyntaxTree.row_children, ← tree, List.map_map, List.forall₂_map_left_iff,
    List.forall₂_map_right_iff, List.forall₂_same]
  intro child below
  obtain ⟨there, -, parent⟩ := (SyntaxTree.mem_child_rows rows i child.2 child.1).mp below
  exact ⟨child.2 :: i :: above, .child child.2 i child.1 _ there parent chained, .cons ⟨child.1, there, rfl⟩ atRows⟩

theorem visit_at_rows (rows : List SyntaxRow) (stack : List Cursor) (pending : List Nat)
    (atRows : List.Forall₂ (AtRow rows) stack pending) :
    List.Forall₂ (AtRow rows) (visit stack) (pending.flatMap (rowOrder rows)) := by
  fun_induction visit stack generalizing pending with
  | case1 =>
      cases atRows
      exact .nil
  | case2 cursor stack ih =>
      cases atRows with
      | @cons _ i _ later here rest =>
          have next := ih _ (List.rel_append (children_at_rows rows cursor i here) rest)
          rw [List.flatMap_append, List.flatMap_map] at next
          rw [List.flatMap_cons, row_order_eq]
          exact .cons here next

theorem walk_at_rows (rows : List SyntaxRow) (proper : ProperRows rows) (root : SyntaxTree)
    (table : SyntaxTree.ofRows? rows = some root) : List.Forall₂ (AtRow rows) (walk root) (rowOrder rows 0) := by
  have order := visit_at_rows rows [atRoot root] [0] (.cons (root_at_row rows proper root table) .nil)
  rwa [List.flatMap_singleton] at order

-- The loop of a walk, on a stack whose end is its top: the top is taken off and yielded, and its
-- children are laid on the rest, the first one uppermost. From a loop without an end nothing can be derived.
inductive Yields : List Cursor → List Cursor → Prop where
  | done : Yields [] []
  | next (cursor : Cursor) (below yielded : List Cursor)
      (rest : Yields (below ++ cursor.children.reverse) yielded) : Yields (below ++ [cursor]) (cursor :: yielded)

theorem visit_yields (stack : List Cursor) : Yields stack.reverse (visit stack) := by
  fun_induction visit stack with
  | case1 => exact .done
  | case2 cursor stack ih =>
      rw [List.reverse_append] at ih
      rw [List.reverse_cons]
      exact .next cursor stack.reverse _ ih

theorem yields_iff (stack yielded : List Cursor) : Yields stack yielded ↔ yielded = visit stack.reverse := by
  constructor
  · intro yields
    induction yields with
    | done => rw [List.reverse_nil, visit]
    | next cursor below yielded rest ih =>
        rw [ih, List.reverse_append, List.reverse_append, List.reverse_reverse, List.reverse_singleton,
          List.singleton_append, visit]
  · rintro rfl
    have yields := visit_yields stack.reverse
    rwa [List.reverse_reverse] at yields

end Cursor

def wantedRows (rows : List SyntaxRow) (isWanted : String → Bool) (order : List Nat) : List Nat :=
  order.filter fun i => rows[i]?.any fun row => isWanted row.label.type

theorem wanted_at_rows (rows : List SyntaxRow) (isWanted : String → Bool) (cursors : List Cursor) (order : List Nat)
    (atRows : List.Forall₂ (Cursor.AtRow rows) cursors order) :
    List.Forall₂ (Cursor.AtRow rows) (cursors.filter fun cursor => isWanted cursor.label.type)
      (wantedRows rows isWanted order) := by
  refine List.rel_filter ?_ atRows
  intro cursor i here
  obtain ⟨row, present, same⟩ := Cursor.at_row_label rows cursor i here
  dsimp only
  rw [present, Option.any_some, same]

theorem find_among_more (parsed : ParsedFile) (isWanted isOther : String → Bool) :
    parsed.find isWanted =
      (parsed.find fun type => isWanted type || isOther type).filter fun cursor => isWanted cursor.label.type := by
  rw [ParsedFile.find, ParsedFile.find, List.filter_filter]
  refine List.filter_congr ?_
  intro cursor _
  exact Bool.eq_self_and.mpr fun wanted => by rw [wanted, Bool.true_or]

-- The walk ends and comes to every row once, a row before the subtrees of its children, and the nodes
-- of some types are met in the order of the whole walk.
theorem rows_walked_in_preorder (rows : List SyntaxRow) (proper : ProperRows rows) (parsed : ParsedFile)
    (table : SyntaxTree.ofRows? rows = some parsed.root) :
    (∀ yielded, Cursor.Yields [.atRoot parsed.root] yielded ↔ yielded = Cursor.walk parsed.root) ∧
      List.Forall₂ (Cursor.AtRow rows) (Cursor.walk parsed.root) (rowOrder rows 0) ∧
      (rowOrder rows 0).Perm (List.range rows.length) ∧
      (∀ isWanted : String → Bool, List.Forall₂ (Cursor.AtRow rows) (parsed.find isWanted)
        (wantedRows rows isWanted (rowOrder rows 0))) ∧
      ∀ isWanted isOther : String → Bool, parsed.find isWanted =
        (parsed.find fun type => isWanted type || isOther type).filter fun cursor => isWanted cursor.label.type := by
  have walked := Cursor.walk_at_rows rows proper parsed.root table
  have nonempty : rows ≠ [] := by
    rintro rfl
    cases table
  refine ⟨?_, walked, row_order_perm rows proper nonempty, ?_, find_among_more parsed⟩
  · intro yielded
    rw [Cursor.yields_iff, List.reverse_singleton, Cursor.walk]
  · intro isWanted
    exact wanted_at_rows rows isWanted _ _ walked

theorem late_row_walked_early :
    let rows : List SyntaxRow := [⟨⟨"module", 0, 9, true, none⟩, none⟩,
      ⟨⟨"function_definition", 0, 4, true, none⟩, some 0⟩, ⟨⟨"call", 5, 9, true, none⟩, some 0⟩,
      ⟨⟨"call", 1, 3, true, none⟩, some 1⟩]
    ∃ parsed : ParsedFile, SyntaxTree.ofRows? rows = some parsed.root ∧ ProperRows rows ∧
      List.Forall₂ (Cursor.AtRow rows) (Cursor.walk parsed.root) [0, 1, 3, 2] ∧
      List.Forall₂ (Cursor.AtRow rows) (parsed.find fun type => type == "call") [3, 2] := by
  intro rows
  let parsed : ParsedFile := ⟨.inMemory [] ['f'] none, .python, [], SyntaxTree.fromRow rows rows[0] 0⟩
  have proper : ProperRows rows := by decide +kernel
  have order : rowOrder rows 0 = [0, 1, 3, 2] := by decide +kernel
  obtain ⟨-, walked, -, found, -⟩ := rows_walked_in_preorder rows proper parsed rfl
  have wanted := found fun type => type == "call"
  rw [order] at walked wanted
  exact ⟨parsed, rfl, proper, walked, wanted⟩

end SourceLocator
