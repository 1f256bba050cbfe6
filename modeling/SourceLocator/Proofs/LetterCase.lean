import SourceLocator.Config.Load

set_option autoImplicit false

namespace SourceLocator

theorem lower_run_kinds : ∀ run ∈ lowerRuns, (run.first = 0x41 ∧ run.last = 0x5A ∧ run.shift = 0x20) ∨
    (run.first = 0x212A ∧ run.last = 0x212A ∧ run.shift = -0x20BF) ∨
    (0x80 ≤ run.first ∧ 0x80 ≤ run.first + run.shift) := by
  decide +kernel

structure LowersPlainly (c : Char) : Prop where
  some : 0 < c.toNat
  ascii : c.toNat < 0x80
  small : c.toNat < 0x41 ∨ 0x5A < c.toNat
  notI : c ≠ 'i'
  notK : c.toNat ≠ 0x6B

theorem lowered_number_iff (n t : Nat) (ascii : t < 0x80) (small : t < 0x41 ∨ 0x5A < t) (notK : t ≠ 0x6B) :
    CaseRun.apply lowerRuns n = t ↔ n = t ∨ 0x41 ≤ n ∧ n ≤ 0x5A ∧ n + 0x20 = t := by
  rw [CaseRun.apply]
  cases found : lowerRuns.find? (·.covers n) with
  | none =>
      have capitals := List.find?_eq_none.mp found ⟨0x41, 0x5A, 1, 0x20⟩ List.mem_cons_self
      simp only [CaseRun.covers, Bool.and_eq_true, decide_eq_true_eq, beq_iff_eq] at capitals
      dsimp only
      omega
  | some run =>
      have covers := List.find?_some found
      simp only [CaseRun.covers, Bool.and_eq_true, decide_eq_true_eq] at covers
      dsimp only
      rcases lower_run_kinds run (List.mem_of_find?_eq_some found) with capitals | kelvin | far <;> omega

theorem of_number_iff (n : Nat) (c : Char) (some : 0 < c.toNat) : Char.ofNat n = c ↔ n = c.toNat := by
  constructor
  · rintro rfl
    by_cases valid : n.isValidChar
    · rw [Char.ofNat, dif_pos valid]
      rfl
    · rw [Char.ofNat, dif_neg valid] at some
      cases some
  · rintro rfl
    exact Char.ofNat_toNat c

theorem to_lower_number (c : Char) : c.toLower.toNat =
    if 0x41 ≤ c.toNat ∧ c.toNat ≤ 0x5A then c.toNat + 0x20 else c.toNat := by
  have capital : (c.val ≥ 'A'.val ∧ c.val ≤ 'Z'.val) ↔ 0x41 ≤ c.toNat ∧ c.toNat ≤ 0x5A := Iff.rfl
  delta Char.toLower
  by_cases range : 0x41 ≤ c.toNat ∧ c.toNat ≤ 0x5A
  · rw [dif_pos (capital.mpr range), if_pos range]
    change (c.val + 0x20).toNat = _
    rw [UInt32.toNat_add]
    exact Nat.mod_eq_of_lt (by change c.toNat + 0x20 < _; omega)
  · rw [dif_neg (mt capital.mp range), if_neg range]

variable (c t : Char) (plain : LowersPlainly t)

include plain

theorem to_lower_iff : c.toLower = t ↔
    c.toNat = t.toNat ∨ 0x41 ≤ c.toNat ∧ c.toNat ≤ 0x5A ∧ c.toNat + 0x20 = t.toNat := by
  have small := plain.small
  rw [← Char.toNat_inj, to_lower_number]
  split <;> omega

theorem lower_char_iff : lowerChar c = [t] ↔ c.toLower = t := by
  rw [lowerChar]
  by_cases dotted : c = dottedCapitalI
  · subst dotted
    rw [if_pos rfl]
    refine ⟨nofun, fun same => absurd plain.ascii ?_⟩
    rw [← same]
    decide
  · rw [if_neg dotted, List.singleton_inj, of_number_iff _ t plain.some,
      lowered_number_iff _ _ plain.ascii plain.small plain.notK, to_lower_iff c t plain]

theorem lowered_front (sigma : Char) (greek : 0x80 ≤ sigma.toNat) : ∃ head tail,
    (if c = capitalSigma then [sigma] else lowerChar c) = head :: tail ∧ (head = t ↔ c.toLower = t) ∧
      (head = t → tail = []) := by
  have ascii := plain.ascii
  by_cases isSigma : c = capitalSigma
  · subst isSigma
    refine ⟨sigma, [], if_pos rfl, ⟨fun same => ?_, fun same => ?_⟩, fun _ => rfl⟩
    · subst same
      omega
    · subst same
      exact absurd ascii (by decide)
  · rw [if_neg isSigma]
    by_cases dotted : c = dottedCapitalI
    · subst dotted
      refine ⟨'i', ['\u0307'], rfl, ⟨fun same => absurd same.symm plain.notI, fun same => ?_⟩,
        fun same => absurd same.symm plain.notI⟩
      subst same
      exact absurd ascii (by decide)
    · have whole := lower_char_iff c t plain
      rw [lowerChar, if_neg dotted] at whole ⊢
      exact ⟨_, [], rfl, by rwa [List.singleton_inj] at whole, fun _ => rfl⟩

omit plain

theorem lowered_some (sigma : Char) : (if c = capitalSigma then [sigma] else lowerChar c) ≠ [] := by
  rw [lowerChar]
  split
  · nofun
  · split <;> nofun

theorem lowered_text_iff (goal : Text) (each : ∀ t ∈ goal, LowersPlainly t) (text : Text) (cased : Bool) :
    lowerBehind cased text = goal ↔ text.map Char.toLower = goal := by
  induction text generalizing goal cased with
  | nil => rfl
  | cons c rest ih =>
      rw [lowerBehind, List.map_cons]
      cases goal with
      | nil => exact ⟨fun same => absurd (List.append_eq_nil_iff.mp same).1 (lowered_some c _), nofun⟩
      | cons t others =>
          obtain ⟨here, later⟩ := List.forall_mem_cons.mp each
          have greek : 0x80 ≤ (if cased && !goesOn rest then finalSigma else smallSigma).toNat := by
            split <;> decide
          obtain ⟨head, tail, lowered, same, lone⟩ := lowered_front c t here _ greek
          rw [lowered, List.cons_append, List.cons.injEq, List.cons.injEq, same]
          refine and_congr_right fun lower => ?_
          rw [lone (same.mpr lower), List.nil_append]
          exact ih others later _

theorem json_path_iff (path : Path) :
    Config.isJsonPath path = true ↔ path.suffix.map Char.toLower = ".json".toList := by
  have each : ∀ t ∈ ".json".toList, 0 < t.toNat ∧ t.toNat < 0x80 ∧ (t.toNat < 0x41 ∨ 0x5A < t.toNat) ∧
      t ≠ 'i' ∧ t.toNat ≠ 0x6B := by simp
  rw [Config.isJsonPath, beq_iff_eq, Path.foldedSuffix, Text.lower]
  refine lowered_text_iff _ (fun t listed => ?_) path.suffix false
  obtain ⟨some, ascii, small, notI, notK⟩ := each t listed
  exact ⟨some, ascii, small, notI, notK⟩

end SourceLocator
