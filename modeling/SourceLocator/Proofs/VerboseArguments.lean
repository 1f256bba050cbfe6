import SourceLocator.Command.Arguments
import SourceLocator.Proofs.Outcomes

set_option autoImplicit false

namespace SourceLocator.Command

namespace Given

def loud (given : Given) : Given := { given with verbose := true }

variable (given : Given)

theorem fill_loud (slot : Slot) (taken : List Text) :
    given.loud.fill slot taken = (given.fill slot taken).map loud := by
  unfold fill
  split
  · rfl
  · rfl
  · exact bind_carried_last _ _ _ loud fun _ => rfl
  · rfl
  · exact bind_carried_last _ _ _ loud fun _ => rfl
  · rfl

theorem give_loud (setting : Setting) (value : Text) :
    given.loud.give setting value = (given.give setting value).map loud := by
  cases setting with
  | offset => exact bind_carried_last _ _ _ loud fun _ => rfl
  | format =>
      unfold give
      dsimp only
      generalize (if value = ['-', '-'] then none else some value) = said
      split <;> rfl
  | help => rfl
  | version => rfl
  | verbose => rfl
  | nodeType => rfl
  | config => rfl
  | output => rfl

theorem turn_on_loud (setting : Setting) : given.loud.turnOn setting = (given.turnOn setting).map loud := by
  cases setting <;> rfl

theorem use_loud (use : Use) : given.loud.use use = (given.use use).map loud := by
  unfold Given.use
  split
  · exact give_loud given _ _
  · exact turn_on_loud given _

theorem leave_over_loud (run : List Argument) : given.loud.leaveOver run = (given.leaveOver run).loud := rfl

end Given

def loudly (taken : Given × List Slot) : Given × List Slot := (taken.1.loud, taken.2)

def Invocation.loud (invocation : Invocation) : Invocation := { invocation with verbose := true }

section Take

variable (given : Given)

theorem use_all_loud (uses : List Use) (value : Option Text) :
    useAll given.loud uses value = (useAll given uses value).map Given.loud := by
  have fold := fun list : List Use => fold_carried list Given.use Given.loud Given.use_loud given
  unfold useAll
  split
  · split
    · split
      · rfl
      · exact fold _
    · exact fold _
  · rfl

theorem fill_slots_loud (slots : List Slot) (run : List Argument) :
    fillSlots given.loud slots run = (fillSlots given slots run).map loudly := by
  induction slots generalizing given run with
  | nil => rfl
  | cons slot slots ih =>
      rw [fillSlots, fillSlots]
      dsimp only
      split
      · rfl
      · rw [Given.fill_loud]
        exact bind_carried _ Given.loud _ _ loudly fun next => ih next _

theorem fill_run_loud (slots : List Slot) (run : List Argument) :
    fillRun given.loud slots run = (fillRun given slots run).map loudly := by
  unfold fillRun
  split
  · rfl
  · exact fill_slots_loud given slots run

theorem take_all_loud (flags : List Flag) (given : Given) (slots : List Slot) (run arguments : List Argument) :
    takeAll flags given.loud slots run arguments = (takeAll flags given slots run arguments).map loudly := by
  match arguments with
  | [] => exact fill_slots_loud given slots run
  | .plain text :: rest => exact take_all_loud flags given slots _ rest
  | .dashes :: rest => exact take_all_loud flags given slots _ rest
  | .option flag attached :: rest =>
      rw [takeAll, takeAll, fill_run_loud]
      refine bind_carried _ loudly _ _ loudly ?_
      rintro ⟨filled, left⟩
      dsimp only [loudly]
      split
      · rw [Given.leave_over_loud]
        exact take_all_loud flags _ left [] _
      · refine bind_carried_last _ _ _ loudly fun uses => ?_
        rw [use_all_loud]
        exact bind_carried _ Given.loud _ _ loudly fun used => take_all_loud flags used left _ _
      · refine bind_carried_last _ _ _ loudly fun uses => ?_
        rw [use_all_loud]
        exact bind_carried _ Given.loud _ _ loudly fun used => take_all_loud flags used left [] _
termination_by arguments.length

theorem read_command_loud (flags : List Flag) (slots : List Slot) (arguments : List Text) :
    readCommand flags slots given.loud arguments = (readCommand flags slots given arguments).map Given.loud := by
  rw [readCommand, readCommand]
  refine bind_carried_last _ _ _ Given.loud fun classified => ?_
  rw [take_all_loud]
  refine bind_carried _ loudly _ _ Given.loud ?_
  rintro ⟨filled, left⟩
  change (if filled.surplus || left.any Slot.required then _ else _) = _
  dsimp only
  split <;> rfl

theorem invoke_loud (name : Text) (arguments : List Text) :
    invoke given.loud name arguments = (invoke given name arguments).map Invocation.loud := by
  rw [invoke, invoke]
  split
  · rw [read_command_loud]
    exact bind_carried _ Given.loud _ _ Invocation.loud fun _ => rfl
  · split
    · rw [read_command_loud]
      exact bind_carried _ Given.loud _ _ Invocation.loud fun _ => rfl
    · rfl

theorem take_command_loud (arguments : List (Argument × Text)) :
    takeCommand given.loud arguments = (takeCommand given arguments).map Invocation.loud := by
  induction arguments generalizing given with
  | nil => rfl
  | cons argument rest ih =>
      unfold takeCommand
      split
      · rename_i impossible
        cases impossible
      · rename_i same
        cases same
        exact ih (given.leaveOver [.dashes])
      · rename_i same
        cases same
        refine bind_carried_last _ _ _ Invocation.loud fun uses => ?_
        rw [use_all_loud]
        exact bind_carried _ Given.loud _ _ Invocation.loud fun used => ih used
      · rename_i same
        cases same
        exact invoke_loud given _ _

end Take

def verboseFlag : Flag := ⟨.verbose, ["-v", "--verbose"], false⟩

theorem verbose_classified (name : String) (named : name ∈ verboseFlag.names) (arguments : List Text) :
    classifyAll generalFlags (name.toList :: arguments) =
      (classifyAll generalFlags arguments).map (.option (some verboseFlag) none :: ·) := by
  have single : name.toList ≠ ['-', '-'] ∧
      classify generalFlags name.toList = .ok (.option (some verboseFlag) none) := by
    have either : name = "-v" ∨ name = "--verbose" := by simpa [verboseFlag] using named
    rcases either with rfl | rfl
    · exact ⟨by decide, rfl⟩
    · exact ⟨by decide, rfl⟩
  rw [classifyAll, if_neg single.1, single.2]
  cases classifyAll generalFlags arguments <;> rfl

theorem verbose_read (name : String) (named : name ∈ verboseFlag.names) (arguments : List Text) :
    readArguments (name.toList :: arguments) = (readArguments arguments).map Invocation.loud := by
  have taken : ∀ classified : List Argument,
      takeCommand {} ((.option (some verboseFlag) none :: classified).zip (name.toList :: arguments)) =
        takeCommand (Given.loud {}) (classified.zip arguments) := fun _ => rfl
  rw [readArguments, readArguments, verbose_classified name named]
  refine bind_carried _ _ _ _ Invocation.loud fun classified => ?_
  rw [taken]
  exact take_command_loud {} _

end SourceLocator.Command
