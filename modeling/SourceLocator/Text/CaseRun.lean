import SourceLocator.Text

/-!
Letter case by runs. Most letters have their other case at a fixed distance that they share with
their neighbours, so a map between cases is a table of runs.
-/

set_option autoImplicit false

namespace SourceLocator

-- Every `step`-th code point from `first` to `last` has its other case `shift` further on.
structure CaseRun where
  first : Nat
  last : Nat
  step : Nat
  shift : Int

namespace CaseRun

def covers (run : CaseRun) (n : Nat) : Bool :=
  run.first ≤ n && n ≤ run.last && (n - run.first) % run.step == 0

def apply (runs : List CaseRun) (n : Nat) : Nat :=
  match runs.find? (·.covers n) with
  | some run => (n + run.shift).toNat
  | none => n

end CaseRun

end SourceLocator
