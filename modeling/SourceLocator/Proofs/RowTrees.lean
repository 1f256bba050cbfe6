import Mathlib.Data.List.Forall2
import SourceLocator.Syntax.Tree

set_option autoImplicit false

namespace SourceLocator

def ProperRows (rows : List SyntaxRow) : Prop :=
  ∀ i (within : i < rows.length), (rows[i].parent = none → i = 0) ∧ ∀ parent ∈ rows[i].parent, parent < i

instance (rows : List SyntaxRow) : Decidable (ProperRows rows) :=
  inferInstanceAs (Decidable (∀ i (within : i < rows.length),
    (rows[i].parent = none → i = 0) ∧ ∀ parent ∈ rows[i].parent, parent < i))

theorem proper_row_cases (rows : List SyntaxRow) (proper : ProperRows rows) (i : Nat) (row : SyntaxRow)
    (present : rows[i]? = some row) : row.parent = none ∧ i = 0 ∨ ∃ parent < i, row.parent = some parent := by
  obtain ⟨within, rfl⟩ := List.getElem?_eq_some_iff.mp present
  obtain ⟨rooted, earlier⟩ := proper i within
  cases above : rows[i].parent with
  | none => exact .inl ⟨rfl, rooted above⟩
  | some parent => exact .inr ⟨parent, earlier parent above, rfl⟩

inductive RowChain (rows : List SyntaxRow) : Nat → List Nat → Prop where
  | root (i : Nat) (row : SyntaxRow) (present : rows[i]? = some row) (top : row.parent = none) : RowChain rows i [i]
  | child (i parent : Nat) (row : SyntaxRow) (chain : List Nat) (present : rows[i]? = some row)
      (below : row.parent = some parent) (further : RowChain rows parent chain) : RowChain rows i (i :: chain)

theorem row_chain_unique (rows : List SyntaxRow) (i : Nat) (chain other : List Nat) (first : RowChain rows i chain)
    (second : RowChain rows i other) : chain = other := by
  induction first generalizing other with
  | root i row present top =>
      cases second with
      | root _ _ _ _ => rfl
      | child _ parent again _ present' below _ =>
          cases Option.some.inj (present.symm.trans present')
          cases top.symm.trans below
  | child i parent row chain present below further ih =>
      cases second with
      | root _ again present' top =>
          cases Option.some.inj (present.symm.trans present')
          cases top.symm.trans below
      | child _ _ again rest present' above later =>
          cases Option.some.inj (present.symm.trans present')
          cases Option.some.inj (below.symm.trans above)
          rw [ih rest later]

namespace SyntaxTree

def IsRow (rows : List SyntaxRow) (tree : SyntaxTree) (i : Nat) : Prop :=
  ∃ row, rows[i]? = some row ∧ tree = fromRow rows row i

theorem row_label (rows : List SyntaxRow) (row : SyntaxRow) (i : Nat) : (fromRow rows row i).label = row.label := by
  rw [fromRow, label]

theorem row_children (rows : List SyntaxRow) (row : SyntaxRow) (i : Nat) :
    (fromRow rows row i).children = (childRows rows i).map fun child => fromRow rows child.1 child.2 := by
  rw [fromRow, children]
  exact List.attach_map_val (f := fun (child : SyntaxRow × Nat) => fromRow rows child.1 child.2)

theorem mem_child_rows (rows : List SyntaxRow) (parent i : Nat) (row : SyntaxRow) :
    (row, i) ∈ childRows rows parent ↔ rows[i]? = some row ∧ parent < i ∧ row.parent = some parent := by
  simp [childRows, List.mem_zipIdx_iff_getElem?]

theorem child_rows_eq (rows : List SyntaxRow) (proper : ProperRows rows) (parent : Nat) :
    childRows rows parent = rows.zipIdx.filter fun entry => entry.1.parent == some parent := by
  refine List.filter_congr ?_
  intro entry listed
  have present := List.mem_zipIdx_iff_getElem?.mp listed
  obtain ⟨top, -⟩ | ⟨other, less, below⟩ := proper_row_cases rows proper entry.2 entry.1 present
  · simp [top]
  · by_cases same : other = parent
    · subst same
      simp [below, less]
    · simp [below, same]

end SyntaxTree

namespace Cursor

theorem stack_visited (stack : List Cursor) : ∀ cursor ∈ stack, cursor ∈ visit stack := by
  fun_induction visit stack with
  | case1 => simp
  | case2 top stack ih =>
      intro cursor member
      rcases List.mem_cons.mp member with rfl | later
      · exact List.mem_cons_self
      · exact List.mem_cons_of_mem top (ih cursor (List.mem_append_right _ later))

theorem children_visited (stack : List Cursor) (cursor child : Cursor) (visited : cursor ∈ visit stack)
    (below : child ∈ cursor.children) : child ∈ visit stack := by
  fun_induction visit stack with
  | case1 => cases visited
  | case2 top stack ih =>
      apply List.mem_cons_of_mem
      rcases List.mem_cons.mp visited with rfl | later
      · exact stack_visited _ child (List.mem_append_left _ below)
      · exact ih later

def AtRows (rows : List SyntaxRow) (cursor : Cursor) (chain : List Nat) : Prop :=
  List.Forall₂ (SyntaxTree.IsRow rows) (cursor.tree :: cursor.ancestors) chain

theorem child_of_row (rows : List SyntaxRow) (cursor : Cursor) (i parent : Nat) (row above : SyntaxRow)
    (present : rows[i]? = some row) (below : row.parent = some parent) (less : parent < i)
    (here : cursor.tree = SyntaxTree.fromRow rows above parent) :
    ⟨SyntaxTree.fromRow rows row i, cursor.tree :: cursor.ancestors⟩ ∈ cursor.children := by
  have child : (row, i) ∈ SyntaxTree.childRows rows parent :=
    (SyntaxTree.mem_child_rows rows parent i row).mpr ⟨present, less, below⟩
  apply List.mem_map_of_mem
  rw [here, SyntaxTree.row_children]
  exact List.mem_map_of_mem child

theorem row_visited (rows : List SyntaxRow) (proper : ProperRows rows) (root : SyntaxTree)
    (table : SyntaxTree.ofRows? rows = some root) (i : Nat) (row : SyntaxRow) (present : rows[i]? = some row) :
    ∃ chain cursor, RowChain rows i chain ∧ chain.length ≤ i + 1 ∧ cursor ∈ walk root ∧ cursor.AtRows rows chain ∧
      cursor.tree = SyntaxTree.fromRow rows row i := by
  induction i using Nat.strongRecOn generalizing row with
  | ind i ih =>
      obtain ⟨top, rfl⟩ | ⟨parent, less, below⟩ := proper_row_cases rows proper i row present
      · rw [SyntaxTree.ofRows?, List.head?_eq_getElem?, present] at table
        cases table
        have visited := stack_visited [atRoot (SyntaxTree.fromRow rows row 0)] _ List.mem_cons_self
        exact ⟨[0], _, .root 0 row present top, Nat.le_refl _, visited, .cons ⟨row, present, rfl⟩ .nil, rfl⟩
      · have within := (List.getElem?_eq_some_iff.mp present).1
        have parentPresent := List.getElem?_eq_getElem (Nat.lt_trans less within)
        obtain ⟨chain, cursor, chained, bounded, visited, atRows, here⟩ := ih parent less _ parentPresent
        have child := child_of_row rows cursor i parent row _ present below less here
        have short : (i :: chain).length ≤ i + 1 := by
          rw [List.length_cons]
          omega
        exact ⟨i :: chain, _, .child i parent row chain present below chained, short,
          children_visited _ cursor _ visited child, .cons ⟨row, present, rfl⟩ atRows, rfl⟩

end Cursor

end SourceLocator
