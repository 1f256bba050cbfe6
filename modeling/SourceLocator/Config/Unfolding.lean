import SourceLocator.Config.Value

/-!
The parts of a graph as values. What does not lead into a circle is a tree; only what does stays in
the graph.
-/

set_option autoImplicit false

namespace SourceLocator

abbrev Unfolded := Array (Option Value)

namespace Graph

def tree? (unfolded : Unfolded) : Part → Option Value
  | .scalar value => some (.scalar value)
  | .collection number => (unfolded[number]?).join

-- Makes a collection a tree if all its parts are.
def unfoldOne (graph : Graph) (unfolded : Unfolded) (number : Nat) : Unfolded :=
  match graph[number]? with
  | some collection =>
    if collection.parts.all fun part => (tree? unfolded part).isSome then
      unfolded.setIfInBounds number
        (some (Value.ofCollection (fun part => (tree? unfolded part).getD .emptyMapping) collection))
    else unfolded
  | none => unfolded

def knots (unfolded : Unfolded) : List Nat :=
  ((List.range unfolded.size).filter fun number => (tree? unfolded (.collection number)).isNone).reverse

def unfoldAll (graph : Graph) (unfolded : Unfolded) : Unfolded :=
  let next := (knots unfolded).foldl graph.unfoldOne unfolded
  if (knots next).length < (knots unfolded).length then unfoldAll graph next else next
termination_by (knots unfolded).length

def value (graph : Graph) (part : Part) : Value :=
  let unfolded := graph.unfoldAll (Array.replicate graph.size none)
  (tree? unfolded part).getD (part.value graph)

end Graph

end SourceLocator
