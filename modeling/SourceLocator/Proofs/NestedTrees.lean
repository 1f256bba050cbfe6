import SourceLocator.Syntax.Tree

set_option autoImplicit false

namespace SourceLocator

namespace SyntaxLabel

def Within (inner outer : SyntaxLabel) : Prop :=
  outer.startByte ≤ inner.startByte ∧ inner.stopByte ≤ outer.stopByte

def Before (first second : SyntaxLabel) : Prop := first.stopByte ≤ second.startByte

end SyntaxLabel

inductive SyntaxTree.WellNested : SyntaxTree → Prop where
  | node (label : SyntaxLabel) (children : List SyntaxTree) (forward : label.startByte ≤ label.stopByte)
      (within : ∀ child ∈ children, child.label.Within label)
      (apart : children.Pairwise fun a b => a.label.Before b.label)
      (nested : ∀ child ∈ children, child.WellNested) : WellNested (.node label children)

theorem nested_forward (tree : SyntaxTree) (nested : tree.WellNested) : tree.label.startByte ≤ tree.label.stopByte := by
  cases nested with
  | node label children forward within apart nested => exact forward

namespace Cursor

structure NestedStack (stack : List Cursor) : Prop where
  nested : ∀ cursor ∈ stack, cursor.tree.WellNested
  apart : stack.Pairwise fun a b => a.label.Before b.label

theorem nested_root (tree : SyntaxTree) (nested : tree.WellNested) : NestedStack [atRoot tree] where
  nested := by simpa [atRoot] using nested
  apart := List.pairwise_singleton _ _

theorem child_within (cursor child : Cursor) (nested : cursor.tree.WellNested) (member : child ∈ cursor.children) :
    child.label.Within cursor.label ∧ child.tree.WellNested := by
  obtain ⟨tree, ancestors⟩ := cursor
  obtain ⟨below, listed, rfl⟩ := List.mem_map.mp member
  cases nested with
  | node label children forward within apart nested => exact ⟨within below listed, nested below listed⟩

theorem children_apart (cursor : Cursor) (nested : cursor.tree.WellNested) :
    cursor.children.Pairwise fun a b => a.label.Before b.label := by
  obtain ⟨tree, ancestors⟩ := cursor
  rw [children, List.pairwise_map]
  cases nested with
  | node label children forward within apart nested => exact apart

theorem nested_step (cursor : Cursor) (stack : List Cursor) (whole : NestedStack (cursor :: stack)) :
    NestedStack (cursor.children ++ stack) := by
  obtain ⟨nested, apart⟩ := whole
  have here := nested cursor List.mem_cons_self
  obtain ⟨before, apartLater⟩ := List.pairwise_cons.mp apart
  constructor
  · intro other member
    rcases List.mem_append.mp member with child | later
    · exact (child_within cursor other here child).2
    · exact nested other (List.mem_cons_of_mem cursor later)
  · refine List.pairwise_append.mpr ⟨children_apart cursor here, apartLater, ?_⟩
    intro child below later behind
    exact Int.le_trans (child_within cursor child here below).1.2 (before later behind)

theorem visit_from (stack : List Cursor) (nested : NestedStack stack) (lower : Int)
    (above : ∀ cursor ∈ stack, lower ≤ cursor.label.startByte) :
    ∀ cursor ∈ visit stack, lower ≤ cursor.label.startByte := by
  fun_induction visit stack with
  | case1 => simp
  | case2 cursor stack ih =>
      have start := above cursor List.mem_cons_self
      have next : ∀ other ∈ cursor.children ++ stack, lower ≤ other.label.startByte := by
        intro other member
        rcases List.mem_append.mp member with child | later
        · have within := (child_within cursor other (nested.nested cursor List.mem_cons_self) child).1
          exact Int.le_trans start within.1
        · exact above other (List.mem_cons_of_mem cursor later)
      intro other member
      rcases List.mem_cons.mp member with rfl | later
      · exact start
      · exact ih (nested_step cursor stack nested) next other later

theorem visit_ascends (stack : List Cursor) (nested : NestedStack stack) :
    (visit stack).Pairwise fun a b => a.label.startByte ≤ b.label.startByte := by
  fun_induction visit stack with
  | case1 => exact .nil
  | case2 cursor stack ih =>
      have next := nested_step cursor stack nested
      have here := nested.nested cursor List.mem_cons_self
      refine List.pairwise_cons.mpr ⟨visit_from _ next cursor.label.startByte ?_, ih next⟩
      intro other member
      rcases List.mem_append.mp member with child | later
      · exact (child_within cursor other here child).1.1
      · exact Int.le_trans (nested_forward cursor.tree here) ((List.pairwise_cons.mp nested.apart).1 other later)

theorem walk_ascends (tree : SyntaxTree) (nested : tree.WellNested) :
    (walk tree).Pairwise fun a b => a.label.startByte ≤ b.label.startByte :=
  visit_ascends _ (nested_root tree nested)

end Cursor

end SourceLocator
