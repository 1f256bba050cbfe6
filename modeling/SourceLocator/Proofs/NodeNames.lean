import SourceLocator.Proofs.ParsedText
import SourceLocator.Proofs.RowTrees

set_option autoImplicit false

namespace SourceLocator

structure FirstChild (rows : List SyntaxRow) (parent : Nat) (wanted : SyntaxLabel → Prop) (row : SyntaxRow) : Prop where
  below : row.parent = some parent
  isWanted : wanted row.label
  first : ∃ before after, rows = before ++ row :: after ∧
    ∀ other ∈ before, other.parent = some parent → ¬ wanted other.label

def Childless (rows : List SyntaxRow) (parent : Nat) (wanted : SyntaxLabel → Prop) : Prop :=
  ∀ row ∈ rows, row.parent = some parent → ¬ wanted row.label

namespace SyntaxLabel

def InNameField (label : SyntaxLabel) : Prop := label.field = some "name"

instance : DecidablePred InNameField := fun label => inferInstanceAs (Decidable (label.field = some "name"))

def IsIdentifier (language : Language) (label : SyntaxLabel) : Prop :=
  label.named = true ∧ label.type ∈ language.identifierTypes

instance (language : Language) : DecidablePred (IsIdentifier language) := fun label =>
  inferInstanceAs (Decidable (label.named = true ∧ label.type ∈ language.identifierTypes))

theorem name_field_test (label : SyntaxLabel) : decide label.InNameField = (label.field == some "name") := by
  rw [Bool.eq_iff_iff, decide_eq_true_iff, beq_iff_eq, InNameField]

theorem identifier_test (language : Language) (label : SyntaxLabel) : decide (label.IsIdentifier language) =
    (label.named && language.identifierTypes.contains label.type) := by
  rw [Bool.eq_iff_iff, decide_eq_true_iff, Bool.and_eq_true, List.contains_iff_mem, IsIdentifier]

end SyntaxLabel

inductive NameRow (language : Language) (rows : List SyntaxRow) (parent : Nat) (row : SyntaxRow) : Prop where
  | field (first : FirstChild rows parent SyntaxLabel.InNameField row)
  | identifier (fieldless : Childless rows parent SyntaxLabel.InNameField)
      (first : FirstChild rows parent (SyntaxLabel.IsIdentifier language) row)

section Children

variable (rows : List SyntaxRow) (parent : Nat) (wanted : SyntaxLabel → Prop) [DecidablePred wanted]

def isWantedChild (row : SyntaxRow) : Bool := row.parent == some parent && decide (wanted row.label)

theorem first_child_iff (row : SyntaxRow) :
    rows.find? (isWantedChild parent wanted) = some row ↔ FirstChild rows parent wanted row := by
  simp only [List.find?_eq_some_iff_append, isWantedChild, Bool.and_eq_true, beq_iff_eq, decide_eq_true_eq,
    Bool.not_eq_true', Bool.and_eq_false_imp, decide_eq_false_iff_not]
  constructor
  · rintro ⟨⟨below, isWanted⟩, first⟩
    exact ⟨below, isWanted, first⟩
  · rintro ⟨below, isWanted, first⟩
    exact ⟨⟨below, isWanted⟩, first⟩

theorem childless_iff : rows.find? (isWantedChild parent wanted) = none ↔ Childless rows parent wanted := by
  simp [List.find?_eq_none, isWantedChild, Childless]

theorem first_child_tree (proper : ProperRows rows) (row : SyntaxRow) :
    ((SyntaxTree.fromRow rows row parent).children.find? fun child => decide (wanted child.label)).map SyntaxTree.label =
      (rows.find? (isWantedChild parent wanted)).map SyntaxRow.label := by
  have listed : rows.find? (isWantedChild parent wanted) =
      ((SyntaxTree.childRows rows parent).find? fun child => decide (wanted child.1.label)).map Prod.fst := by
    rw [SyntaxTree.child_rows_eq rows proper, List.find?_filter]
    conv_lhs => rw [← List.zipIdx_map_fst 0 rows, List.find?_map]
    simp [isWantedChild, Function.comp_def, beq_eq_decide]
  rw [SyntaxTree.row_children, List.find?_map, listed]
  simp only [Option.map_map, Function.comp_def, SyntaxTree.row_label]

end Children

def nameRow? (language : Language) (rows : List SyntaxRow) (parent : Nat) : Option SyntaxRow :=
  (rows.find? (isWantedChild parent SyntaxLabel.InNameField)).or
    (rows.find? (isWantedChild parent (SyntaxLabel.IsIdentifier language)))

theorem name_row_iff (language : Language) (rows : List SyntaxRow) (parent : Nat) (row : SyntaxRow) :
    nameRow? language rows parent = some row ↔ NameRow language rows parent row := by
  rw [nameRow?, Option.or_eq_some_iff, first_child_iff, childless_iff, first_child_iff]
  constructor
  · rintro (first | ⟨fieldless, first⟩)
    · exact .field first
    · exact .identifier fieldless first
  · rintro (first | ⟨fieldless, first⟩)
    · exact .inl first
    · exact .inr ⟨fieldless, first⟩

theorem name_node_label (language : Language) (rows : List SyntaxRow) (proper : ProperRows rows) (row : SyntaxRow)
    (i : Nat) : (ParsedFile.nameNode? language (SyntaxTree.fromRow rows row i)).map SyntaxTree.label =
      (nameRow? language rows i).map SyntaxRow.label := by
  rw [nameRow?, Option.map_or, ← first_child_tree rows i _ proper row, ← first_child_tree rows i _ proper row,
    ParsedFile.nameNode?, Option.map_or]
  simp only [SyntaxLabel.name_field_test, SyntaxLabel.identifier_test]

def RowName (parsed : ParsedFile) (rows : List SyntaxRow) (i : Nat) (name : Text) : Prop :=
  ∃ row nameRow, rows[i]? = some row ∧ row.label.type ∈ parsed.language.declarationTypes ∧
    NameRow parsed.language rows i nameRow ∧ parsed.text nameRow.label = name

def RowNameless (parsed : ParsedFile) (rows : List SyntaxRow) (i : Nat) : Prop :=
  ∀ name, RowName parsed rows i name → name = []

structure NearestNamed (parsed : ParsedFile) (rows : List SyntaxRow) (chain : List Nat) (i : Nat) (name : Text) :
    Prop where
  named : RowName parsed rows i name
  nonempty : name ≠ []
  nearest : ∃ nearer further, chain = nearer ++ i :: further ∧ ∀ other ∈ nearer, RowNameless parsed rows other

namespace ParsedFile

variable (parsed : ParsedFile) (rows : List SyntaxRow)

theorem declared_name_iff (proper : ProperRows rows) (tree : SyntaxTree) (i : Nat) (isRow : tree.IsRow rows i)
    (name : Text) : parsed.declaredName? tree = some name ↔ RowName parsed rows i name := by
  obtain ⟨row, present, rfl⟩ := isRow
  have sameNode := name_node_label parsed.language rows proper row i
  have named : (nameNode? parsed.language (SyntaxTree.fromRow rows row i)).map (fun node => parsed.text node.label) =
      (nameRow? parsed.language rows i).map fun nameRow => parsed.text nameRow.label := by
    simpa [Function.comp_def] using congrArg (Option.map parsed.text) sameNode
  rw [declaredName?, SyntaxTree.row_label, named]
  constructor
  · intro declared
    obtain ⟨declares, chosen⟩ := Option.ite_none_right_eq_some.mp declared
    obtain ⟨nameRow, first, same⟩ := Option.map_eq_some_iff.mp chosen
    exact ⟨row, nameRow, present, List.contains_iff_mem.mp declares, (name_row_iff _ rows i nameRow).mp first, same⟩
  · rintro ⟨other, nameRow, again, declares, first, rfl⟩
    cases Option.some.inj (present.symm.trans again)
    rw [if_pos (List.contains_iff_mem.mpr declares), (name_row_iff _ rows i nameRow).mpr first, Option.map_some]

theorem first_name_named (tree : SyntaxTree) (rest : List SyntaxTree) (name : Text) (nonempty : name ≠ [])
    (declared : parsed.declaredName? tree = some name) : parsed.firstName? (tree :: rest) = some name := by
  rw [firstName?, declared]
  cases name with
  | nil => exact absurd rfl nonempty
  | cons c name => rfl

theorem first_name_passed (tree : SyntaxTree) (rest : List SyntaxTree)
    (nameless : ∀ name, parsed.declaredName? tree = some name → name = []) :
    parsed.firstName? (tree :: rest) = parsed.firstName? rest := by
  rw [firstName?]
  split
  · rename_i c name declared
    cases nameless _ declared
  · rfl

theorem first_name_cases (proper : ProperRows rows) (trees : List SyntaxTree) (chain : List Nat)
    (atRows : List.Forall₂ (SyntaxTree.IsRow rows) trees chain) :
    (∃ i name, NearestNamed parsed rows chain i name ∧ parsed.firstName? trees = some name) ∨
      (∀ i ∈ chain, RowNameless parsed rows i) ∧ parsed.firstName? trees = none := by
  induction atRows with
  | nil => exact .inr ⟨nofun, rfl⟩
  | @cons tree i trees chain isRow rest ih =>
      have declared := parsed.declared_name_iff rows proper tree i isRow
      by_cases nameless : RowNameless parsed rows i
      · have passed : parsed.firstName? (tree :: trees) = parsed.firstName? trees :=
          parsed.first_name_passed tree trees fun name given => nameless name ((declared name).mp given)
        rw [passed]
        rcases ih with ⟨j, name, ⟨named, nonempty, nearer, further, rfl, silent⟩, found⟩ | ⟨silent, none⟩
        · have passedOver := List.forall_mem_cons.mpr ⟨nameless, silent⟩
          exact .inl ⟨j, name, ⟨named, nonempty, i :: nearer, further, rfl, passedOver⟩, found⟩
        · exact .inr ⟨List.forall_mem_cons.mpr ⟨nameless, silent⟩, none⟩
      · obtain ⟨name, other⟩ := Classical.not_forall.mp nameless
        obtain ⟨named, nonempty⟩ := Classical.not_imp.mp other
        have found := parsed.first_name_named tree trees name nonempty ((declared name).mpr named)
        exact .inl ⟨i, name, ⟨named, nonempty, [], chain, rfl, nofun⟩, found⟩

end ParsedFile

end SourceLocator
