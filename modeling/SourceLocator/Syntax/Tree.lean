/-!
Syntax trees over the bytes of a source file. A tree may come as a table of rows, each naming an
earlier row as its parent. A cursor is a node together with its ancestors, and the walk visits all
nodes below a cursor with a stack of pending ones.
-/

set_option autoImplicit false

namespace SourceLocator

structure SyntaxLabel where
  type : String
  startByte : Int
  stopByte : Int
  named : Bool
  field : Option String
deriving DecidableEq, Repr

inductive SyntaxTree where
  | node (label : SyntaxLabel) (children : List SyntaxTree)

-- A node in a table; only the first row has no parent.
structure SyntaxRow where
  label : SyntaxLabel
  parent : Option Nat
deriving DecidableEq, Repr

namespace SyntaxTree

def label : SyntaxTree → SyntaxLabel
  | node label _ => label

def children : SyntaxTree → List SyntaxTree
  | node _ children => children

def lone (length : Nat) : SyntaxTree := node ⟨"root", 0, length, true, none⟩ []

-- The children in a table with their indices, in the order of the rows: every later row that names
-- `parent`.
def childRows (rows : List SyntaxRow) (parent : Nat) : List (SyntaxRow × Nat) :=
  rows.zipIdx.filter fun (row, i) => parent < i && row.parent == some parent

theorem lt_of_mem_childRows {rows : List SyntaxRow} {parent : Nat} {child : SyntaxRow × Nat}
    (h : child ∈ childRows rows parent) : parent < child.2 ∧ child.2 < rows.length := by
  obtain ⟨row, i⟩ := child
  simp only [childRows, List.mem_filter, Bool.and_eq_true, decide_eq_true_eq] at h
  have := (List.mem_zipIdx h.1).2.1
  exact ⟨h.2.1, by omega⟩

def fromRow (rows : List SyntaxRow) (row : SyntaxRow) (i : Nat) : SyntaxTree :=
  node row.label ((childRows rows i).attach.map fun ⟨child, h⟩ =>
    have := lt_of_mem_childRows h
    fromRow rows child.1 child.2)
termination_by rows.length - i

def ofRows? (rows : List SyntaxRow) : Option SyntaxTree := rows.head?.map fun row => fromRow rows row 0

mutual
def size : SyntaxTree → Nat
  | node _ children => sizeOfAll children + 1
termination_by structural tree => tree
def sizeOfAll : List SyntaxTree → Nat
  | [] => 0
  | tree :: rest => tree.size + sizeOfAll rest
termination_by structural trees => trees
end

end SyntaxTree

-- A node with its ancestors, the nearest first.
structure Cursor where
  tree : SyntaxTree
  ancestors : List SyntaxTree

namespace Cursor

def atRoot (tree : SyntaxTree) : Cursor := ⟨tree, []⟩

def label (cursor : Cursor) : SyntaxLabel := cursor.tree.label

def children (cursor : Cursor) : List Cursor :=
  cursor.tree.children.map fun child => ⟨child, cursor.tree :: cursor.ancestors⟩

def parentType? (cursor : Cursor) : Option String :=
  cursor.ancestors.head?.map (·.label.type)

def pending (stack : List Cursor) : Nat := SyntaxTree.sizeOfAll (stack.map Cursor.tree)

theorem pending_append (stack rest : List Cursor) :
    pending (stack ++ rest) = pending stack + pending rest := by
  induction stack with
  | nil => simp [pending, SyntaxTree.sizeOfAll]
  | cons cursor stack ih =>
    simp only [pending, List.cons_append, List.map_cons, SyntaxTree.sizeOfAll] at ih ⊢
    omega

theorem pending_children (cursor : Cursor) : pending cursor.children + 1 = cursor.tree.size := by
  obtain ⟨⟨label, below⟩, ancestors⟩ := cursor
  simp [Cursor.children, pending, SyntaxTree.children, SyntaxTree.size, Function.comp_def]

-- Visits the nodes of a stack from its top: a node, then what its children come to, then the rest
-- of the stack.
def visit : List Cursor → List Cursor
  | [] => []
  | cursor :: stack => cursor :: visit (cursor.children ++ stack)
termination_by stack => pending stack
decreasing_by
  have h := pending_children cursor
  rw [pending_append]
  simp only [pending, List.map_cons, SyntaxTree.sizeOfAll] at h ⊢
  omega

def walk (tree : SyntaxTree) : List Cursor := visit [atRoot tree]

end Cursor

end SourceLocator
