import Mathlib.Algebra.Group.Nat.Defs
import SourceLocator.Command.Arguments
import SourceLocator.Proofs.Outcomes

set_option autoImplicit false

namespace SourceLocator

theorem digits_bounded (base : Nat) (digits : List Nat) (small : ∀ d ∈ digits, d < base) (n : Nat) :
    digits.foldl (fun n d => n * base + d) n < (n + 1) * base ^ digits.length := by
  induction digits generalizing n with
  | nil => simp
  | cons d rest ih =>
      have first : n * base + d + 1 ≤ (n + 1) * base := by
        have := small d List.mem_cons_self
        rw [Nat.add_mul]
        omega
      calc (d :: rest).foldl (fun n d => n * base + d) n
        _ < (n * base + d + 1) * base ^ rest.length := ih (fun e member => small e (List.mem_cons_of_mem d member)) _
        _ ≤ (n + 1) * base * base ^ rest.length := Nat.mul_le_mul_right _ first
        _ = (n + 1) * base ^ (d :: rest).length := by rw [List.length_cons, Nat.pow_succ', Nat.mul_assoc]

theorem of_digits_bounded (base : Nat) (digits : List Nat) (small : ∀ d ∈ digits, d < base) :
    ofDigits base digits < base ^ digits.length := by
  have bounded := digits_bounded base digits small 0
  rwa [Nat.zero_add, Nat.one_mul] at bounded

theorem digits_in_base (base : Nat) (run : Text) (d : Nat) (member : d ∈ run.filterMap (digitIn? base)) : d < base := by
  obtain ⟨c, -, found⟩ := List.mem_filterMap.mp member
  obtain ⟨-, small⟩ := Option.filter_eq_some_iff.mp found
  exact of_decide_eq_true small

theorem admits_below (digits : Nat) (n : Int) (below : n.natAbs < 10 ^ digits) :
    DigitBound.admits (some digits) n = true := by
  rw [DigitBound.admits, Bool.or_eq_true]
  exact .inr (decide_eq_true below)

theorem read_integer_writable (text : Text) (n : Int) (read : text.readInteger = .ok n) :
    DigitBound.standard.admits n = true := by
  unfold Text.readInteger readIntegerAs at read
  generalize splitSign (trimNumber (text.map plainDigit)) = parts at read
  obtain ⟨negative, unsigned⟩ := parts
  dsimp only at read
  generalize (dropBaseMark 10 unsigned).takeWhile _ = run at read
  split at read
  · cases read
  · split at read
    · cases read
    · rename_i few
      split at read
      · cases read
      · cases read
        have short : (run.filterMap (digitIn? 10)).length ≤ Fault.digitLimit := by
          apply Nat.le_of_not_lt
          intro long
          exact few ⟨rfl, long⟩
        apply admits_below
        have magnitude : ∀ n : Nat, (if negative then -(n : Int) else n).natAbs = n := by
          intro n
          split <;> omega
        rw [magnitude]
        exact Nat.lt_of_lt_of_le (of_digits_bounded 10 _ (digits_in_base 10 run))
          (Nat.pow_le_pow_right (by decide) short)

namespace Command

def IsRead (n : Int) : Prop := ∃ text : Text, text.readInteger = .ok n

structure Given.AllRead (given : Given) : Prop where
  start : ∀ n, given.start = some (some n) → IsRead n
  stop : ∀ n, given.stop = some n → IsRead n

def Given.Keeps (outcome : Except Stop Given) : Prop := Ensures outcome Given.AllRead

namespace Given

theorem read_int_reads (text : Text) : Ensures (readInt text) IsRead := by
  rw [readInt]
  cases read : text.readInteger with
  | error fault => exact ensures_error _ _
  | ok n => exact ensures_ok n _ ⟨text, read⟩

variable {given : Given}

theorem fill_keeps (read : given.AllRead) (slot : Slot) (taken : List Text) : Keeps (given.fill slot taken) := by
  unfold fill
  split
  · exact ensures_ok _ _ ⟨read.start, read.stop⟩
  · exact ensures_ok _ _ ⟨read.start, read.stop⟩
  · refine ensures_bind _ _ _ _ (read_int_reads _) fun n isRead => ?_
    exact ensures_ok _ _ ⟨fun m same => by cases same; exact isRead, read.stop⟩
  · exact ensures_ok _ _ ⟨nofun, read.stop⟩
  · refine ensures_bind _ _ _ _ (read_int_reads _) fun n isRead => ?_
    exact ensures_ok _ _ ⟨read.start, fun m same => by cases same; exact isRead⟩
  · exact ensures_ok _ _ read

theorem give_keeps (read : given.AllRead) (setting : Setting) (value : Text) :
    Keeps (given.give setting value) := by
  unfold give
  cases setting with
  | nodeType => exact ensures_ok _ _ ⟨read.start, read.stop⟩
  | offset =>
      refine ensures_bind _ _ (fun _ => True) _ (fun _ _ => trivial) fun offset _ => ?_
      exact ensures_ok _ _ ⟨read.start, read.stop⟩
  | config => exact ensures_ok _ _ ⟨read.start, read.stop⟩
  | format =>
      dsimp only
      generalize (if value = ['-', '-'] then none else some value) = said
      split
      · exact ensures_ok _ _ ⟨read.start, read.stop⟩
      · exact ensures_error _ _
  | output => exact ensures_ok _ _ ⟨read.start, read.stop⟩
  | help => exact ensures_ok _ _ read
  | version => exact ensures_ok _ _ read
  | verbose => exact ensures_ok _ _ read

theorem turn_on_keeps (read : given.AllRead) (setting : Setting) : Keeps (given.turnOn setting) := by
  unfold turnOn
  split
  · exact ensures_error _ _
  · exact ensures_error _ _
  · exact ensures_ok _ _ ⟨read.start, read.stop⟩
  · exact ensures_ok _ _ read

theorem use_keeps (read : given.AllRead) (use : Use) : Keeps (given.use use) := by
  unfold Given.use
  split
  · exact give_keeps read _ _
  · exact turn_on_keeps read _

theorem leave_over_read (read : given.AllRead) (run : List Argument) : (given.leaveOver run).AllRead :=
  ⟨read.start, read.stop⟩

end Given

section Take

variable {given : Given}

theorem use_all_keeps (read : given.AllRead) (uses : List Use) (value : Option Text) :
    Given.Keeps (useAll given uses value) := by
  have fold : ∀ uses : List Use, Given.Keeps (uses.foldlM Given.use given) := fun uses =>
    ensures_fold uses Given.use _ (fun _ use held => Given.use_keeps held use) given read
  unfold useAll
  split
  · split
    · split
      · exact ensures_error _ _
      · exact fold _
    · exact fold _
  · exact ensures_ok _ _ read

theorem fill_slots_keeps (read : given.AllRead) (slots : List Slot) (run : List Argument) :
    Ensures (fillSlots given slots run) fun result => result.1.AllRead := by
  induction slots generalizing given run with
  | nil => exact ensures_ok _ _ (Given.leave_over_read read run)
  | cons slot slots ih =>
      rw [fillSlots]
      dsimp only
      split
      · exact ensures_ok _ _ (Given.leave_over_read read run)
      · exact ensures_bind _ _ _ _ (Given.fill_keeps read slot _) fun next held => ih held _

theorem fill_run_keeps (read : given.AllRead) (slots : List Slot) (run : List Argument) :
    Ensures (fillRun given slots run) fun result => result.1.AllRead := by
  unfold fillRun
  split
  · exact ensures_ok _ _ read
  · exact fill_slots_keeps read slots run

theorem take_all_keeps (flags : List Flag) (given : Given) (read : given.AllRead) (slots : List Slot)
    (run arguments : List Argument) :
    Ensures (takeAll flags given slots run arguments) fun result => result.1.AllRead := by
  match arguments with
  | [] => exact fill_slots_keeps read slots run
  | .plain text :: rest => exact take_all_keeps flags given read slots _ rest
  | .dashes :: rest => exact take_all_keeps flags given read slots _ rest
  | .option flag attached :: rest =>
      rw [takeAll]
      refine ensures_bind _ _ _ _ (fill_run_keeps read slots run) ?_
      rintro ⟨filled, left⟩ held
      dsimp only at held ⊢
      split
      · exact take_all_keeps flags _ (Given.leave_over_read held _) left [] _
      · refine ensures_bind _ _ (fun _ => True) _ (fun _ _ => trivial) fun uses _ => ?_
        refine ensures_bind _ _ _ _ (use_all_keeps held uses _) fun used keeps => ?_
        exact take_all_keeps flags used keeps left _ _
      · refine ensures_bind _ _ (fun _ => True) _ (fun _ _ => trivial) fun uses _ => ?_
        refine ensures_bind _ _ _ _ (use_all_keeps held uses none) fun used keeps => ?_
        exact take_all_keeps flags used keeps left [] _
termination_by arguments.length

theorem read_command_keeps (read : given.AllRead) (flags : List Flag) (slots : List Slot) (arguments : List Text) :
    Given.Keeps (readCommand flags slots given arguments) := by
  rw [readCommand]
  refine ensures_bind _ _ (fun _ => True) _ (fun _ _ => trivial) fun classified _ => ?_
  refine ensures_bind _ _ _ _ (take_all_keeps flags given read slots [] classified) ?_
  rintro ⟨filled, left⟩ held
  dsimp only at held ⊢
  split
  · exact ensures_error _ _
  · exact ensures_ok _ _ held

def Invocation.AllRead (invocation : Invocation) : Prop :=
  ∀ file start stop, invocation.action = .range file start stop →
    (∀ n, start = some n → IsRead n) ∧ ∀ n, stop = some n → IsRead n

theorem invoke_keeps (read : given.AllRead) (name : Text) (arguments : List Text) :
    Ensures (invoke given name arguments) Invocation.AllRead := by
  rw [invoke]
  split
  · refine ensures_bind _ _ _ _ (read_command_keeps read locateFlags locateSlots arguments) fun done _ => ?_
    exact ensures_ok _ _ (by rintro file start stop ⟨⟩)
  · split
    · refine ensures_bind _ _ _ _ (read_command_keeps read rangeFlags rangeSlots arguments) fun done held => ?_
      apply ensures_ok
      rintro file start stop ⟨⟩
      refine ⟨fun n joined => held.start n ?_, held.stop⟩
      rwa [Option.join_eq_some_iff] at joined
    · exact ensures_error _ _

theorem take_command_keeps (read : given.AllRead) (arguments : List (Argument × Text)) :
    Ensures (takeCommand given arguments) Invocation.AllRead := by
  induction arguments generalizing given with
  | nil => exact ensures_error _ _
  | cons argument rest ih =>
      unfold takeCommand
      split
      · exact ensures_error _ _
      · rename_i same
        cases same
        exact ih (Given.leave_over_read read _)
      · rename_i same
        cases same
        refine ensures_bind _ _ (fun _ => True) _ (fun _ _ => trivial) fun uses _ => ?_
        exact ensures_bind _ _ _ _ (use_all_keeps read uses none) fun used held => ih held
      · exact invoke_keeps read _ _

end Take

theorem range_arguments_read (arguments : List Text) : Ensures (readArguments arguments) Invocation.AllRead := by
  rw [readArguments]
  refine ensures_bind _ _ (fun _ => True) _ (fun _ _ => trivial) fun classified _ => ?_
  have nothing : Given.AllRead {} := ⟨nofun, nofun⟩
  exact take_command_keeps nothing _

end Command

end SourceLocator
