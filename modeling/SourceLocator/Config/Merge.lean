import SourceLocator.Config.Value

/-!
Laying one mapping over another: mappings under the same key are merged in turn, and anything else
replaces what the key had. The keys of the mapping below come first, in their order.
-/

set_option autoImplicit false

namespace SourceLocator

def Fields.without {α β : Type} (fields : Fields α) (others : Fields β) : Fields α :=
  fields.filter fun (key, _) => (others.get? key).isNone

mutual
def Value.under (value : Value) : Value → Value
  | .mapping base =>
    match value.fields? with
    | some fields => .mapping (Fields.replaced fields base ++ Fields.without fields base)
    | none => value
  | .scalar _ | .list _ | .pair _ _ | .set _ | .knot _ _ => value
termination_by structural old => old
def Fields.replaced (fields : Fields Value) : List (Scalar × Value) → Fields Value
  | [] => []
  | (key, old) :: rest =>
    (key, match fields.get? key with
      | some value => value.under old
      | none => old) :: Fields.replaced fields rest
termination_by structural base => base
end

def Fields.merge (base fields : Fields Value) : Fields Value :=
  Fields.replaced fields base ++ Fields.without fields base

end SourceLocator
