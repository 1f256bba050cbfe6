import SourceLocator.Proofs.NodeNames

set_option autoImplicit false

namespace SourceLocator

namespace Cursor

def ofChain? : List SyntaxTree → Option Cursor
  | [] => none
  | tree :: rest => some ⟨tree, rest⟩

def parent? (cursor : Cursor) : Option Cursor := ofChain? cursor.ancestors

theorem child_parent (cursor child : Cursor) (below : child ∈ cursor.children) : child.parent? = some cursor := by
  obtain ⟨tree, -, rfl⟩ := List.mem_map.mp below
  rfl

theorem parent_visited (stack : List Cursor) (cursor : Cursor) (visited : cursor ∈ visit stack) :
    cursor ∈ stack ∨ ∃ above ∈ visit stack, cursor.parent? = some above := by
  fun_induction visit stack with
  | case1 => cases visited
  | case2 top stack ih =>
      rcases List.mem_cons.mp visited with rfl | later
      · exact .inl List.mem_cons_self
      · rcases ih later with waiting | ⟨above, before, next⟩
        · rcases List.mem_append.mp waiting with child | older
          · exact .inr ⟨top, List.mem_cons_self, child_parent top cursor child⟩
          · exact .inl (List.mem_cons_of_mem top older)
        · exact .inr ⟨above, List.mem_cons_of_mem top before, next⟩

theorem parent_walked (root : SyntaxTree) (cursor above : Cursor) (visited : cursor ∈ walk root)
    (next : cursor.parent? = some above) : above ∈ walk root := by
  rcases parent_visited [atRoot root] cursor visited with top | ⟨other, before, same⟩
  · cases List.mem_singleton.mp top
    cases next
  · cases Option.some.inj (next.symm.trans same)
    exact before

theorem visit_length (stack : List Cursor) : (visit stack).length = pending stack := by
  fun_induction visit stack with
  | case1 => rfl
  | case2 top stack ih =>
      have below := pending_children top
      rw [List.length_cons, ih, pending_append]
      simp only [pending, List.map_cons, SyntaxTree.sizeOfAll] at below ⊢
      omega

theorem tree_size_le_pending (stack : List Cursor) : ∀ cursor ∈ stack, cursor.tree.size ≤ pending stack := by
  induction stack with
  | nil => exact nofun
  | cons top stack ih =>
      simp only [pending, List.map_cons, SyntaxTree.sizeOfAll] at ih ⊢
      intro cursor member
      rcases List.mem_cons.mp member with rfl | later
      · exact Nat.le_add_right _ _
      · exact Nat.le_trans (ih cursor later) (Nat.le_add_left _ _)

theorem child_depth (cursor child : Cursor) (below : child ∈ cursor.children) :
    child.ancestors.length + child.tree.size ≤ cursor.ancestors.length + cursor.tree.size := by
  have smaller := tree_size_le_pending cursor.children child below
  have all := pending_children cursor
  obtain ⟨tree, -, rfl⟩ := List.mem_map.mp below
  simp only [List.length_cons] at smaller ⊢
  omega

theorem visited_depth (stack : List Cursor) (cursor : Cursor) (visited : cursor ∈ visit stack) :
    ∃ start ∈ stack, cursor.ancestors.length + cursor.tree.size ≤ start.ancestors.length + start.tree.size := by
  fun_induction visit stack with
  | case1 => cases visited
  | case2 top stack ih =>
      rcases List.mem_cons.mp visited with rfl | later
      · exact ⟨cursor, List.mem_cons_self, Nat.le_refl _⟩
      · obtain ⟨start, waiting, bounded⟩ := ih later
        rcases List.mem_append.mp waiting with child | older
        · exact ⟨top, List.mem_cons_self, Nat.le_trans bounded (child_depth top start child)⟩
        · exact ⟨start, List.mem_cons_of_mem top older, bounded⟩

theorem walk_depth (root : SyntaxTree) (cursor : Cursor) (visited : cursor ∈ walk root) :
    cursor.ancestors.length < (walk root).length := by
  obtain ⟨start, top, bounded⟩ := visited_depth [atRoot root] cursor visited
  cases List.mem_singleton.mp top
  have own := pending_children cursor
  rw [walk, visit_length]
  simp only [atRoot, List.length_nil, pending, List.map_cons, List.map_nil, SyntaxTree.sizeOfAll] at bounded own ⊢
  omega

end Cursor

namespace ParsedFile

inductive Searches (parsed : ParsedFile) : Option Cursor → List Cursor → Option Text → Prop where
  | top : Searches parsed none [] none
  | named (cursor : Cursor) (name : Text) (declared : parsed.declaredName? cursor.tree = some name)
      (nonempty : name ≠ []) : Searches parsed (some cursor) [cursor] (some name)
  | passed (cursor : Cursor) (reads : List Cursor) (found : Option Text)
      (nameless : ∀ name, parsed.declaredName? cursor.tree = some name → name = [])
      (further : Searches parsed cursor.parent? reads found) : Searches parsed (some cursor) (cursor :: reads) found

theorem chain_search (parsed : ParsedFile) (chain : List SyntaxTree) : ∃ reads,
    parsed.Searches (Cursor.ofChain? chain) reads (parsed.firstName? chain) ∧ reads.length ≤ chain.length := by
  induction chain with
  | nil => exact ⟨[], .top, Nat.le_refl 0⟩
  | cons tree rest ih =>
      by_cases nameless : ∀ name, parsed.declaredName? tree = some name → name = []
      · obtain ⟨reads, further, bounded⟩ := ih
        rw [parsed.first_name_passed tree rest nameless]
        exact ⟨_ :: reads, .passed ⟨tree, rest⟩ reads _ nameless further, Nat.succ_le_succ bounded⟩
      · obtain ⟨name, other⟩ := Classical.not_forall.mp nameless
        obtain ⟨declared, nonempty⟩ := Classical.not_imp.mp other
        rw [parsed.first_name_named tree rest name nonempty declared]
        exact ⟨_, .named ⟨tree, rest⟩ name declared nonempty, Nat.succ_le_succ (Nat.zero_le _)⟩

theorem searches_in_tree (parsed : ParsedFile) (start : Option Cursor) (reads : List Cursor) (found : Option Text)
    (searches : parsed.Searches start reads found) (inTree : ∀ cursor ∈ start, cursor ∈ Cursor.walk parsed.root) :
    ∀ cursor ∈ reads, cursor ∈ Cursor.walk parsed.root := by
  induction searches with
  | top => exact nofun
  | named cursor name declared nonempty => exact List.forall_mem_singleton.mpr (inTree cursor rfl)
  | passed cursor reads found nameless further ih =>
      have here := inTree cursor rfl
      exact List.forall_mem_cons.mpr ⟨here, ih fun above next => Cursor.parent_walked parsed.root cursor above here next⟩

theorem tree_search_ends (parsed : ParsedFile) (cursor : Cursor) (visited : cursor ∈ Cursor.walk parsed.root) :
    ∃ reads, parsed.Searches (some cursor) reads (parsed.nearestName? cursor) ∧
      (∀ node ∈ reads, node ∈ Cursor.walk parsed.root) ∧ reads.length ≤ (Cursor.walk parsed.root).length := by
  obtain ⟨reads, searches, bounded⟩ := parsed.chain_search (cursor.tree :: cursor.ancestors)
  have inTree := parsed.searches_in_tree _ reads _ searches fun node same => Option.some.inj same ▸ visited
  exact ⟨reads, searches, inTree, Nat.le_trans bounded (Cursor.walk_depth parsed.root cursor visited)⟩

end ParsedFile

end SourceLocator
