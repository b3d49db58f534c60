import CounterMachine.Proofs.Machine.Runs
import Mathlib.Data.ENat.Lattice

/-!
# First times

The number of steps to an event may be infinite.  `firstTime P` is the first number with
the property `P`, or `⊤`, and `Machine.haltTime` is the number of steps to the halt of a
machine.

A run is cut short at a number of steps or at an event, whichever comes first;
`toNat_min_firstTime` says what is known of the number of steps that it takes.
-/

namespace CounterMachine

/-- The first number with a property, infinite if there is none. -/
noncomputable def firstTime (P : Nat → Prop) : ℕ∞ := ⨅ k, ⨅ _ : P k, (k : ℕ∞)

variable {P : Nat → Prop}

theorem coe_le_firstTime_iff {n : Nat} : (n : ℕ∞) ≤ firstTime P ↔ ∀ i < n, ¬ P i := by
  rw [firstTime, le_iInf₂_iff]
  constructor
  · intro h i hi hP
    exact absurd (Nat.cast_le.1 (h i hP)) (Nat.not_le.2 hi)
  · intro h i hP
    exact Nat.cast_le.2 (Nat.le_of_not_lt fun hi => h i hi hP)

theorem firstTime_eq_top (h : ∀ k, ¬ P k) : firstTime P = ⊤ :=
  top_le_iff.1 (le_iInf₂ fun k hk => absurd hk (h k))

theorem firstTime_eq_coe_iff {k : Nat} : firstTime P = k ↔ P k ∧ ∀ i < k, ¬ P i := by
  constructor
  · intro h
    have hbefore : ∀ i < k, ¬ P i := coe_le_firstTime_iff.1 (le_of_eq h.symm)
    refine ⟨?_, hbefore⟩
    -- otherwise the first time would be at least one later
    by_contra hk
    have hlater : ((k + 1 : Nat) : ℕ∞) ≤ firstTime P := by
      refine coe_le_firstTime_iff.2 fun i hi => ?_
      rcases Nat.lt_succ_iff_lt_or_eq.1 hi with hlt | rfl
      · exact hbefore i hlt
      · exact hk
    rw [h, Nat.cast_le] at hlater
    omega
  · rintro ⟨hk, hbefore⟩
    exact le_antisymm (iInf₂_le k hk) (coe_le_firstTime_iff.2 hbefore)

theorem exists_firstTime_eq_coe (h : ∃ k, P k) : ∃ k : Nat, firstTime P = k := by
  classical
  exact ⟨Nat.find h, firstTime_eq_coe_iff.2 ⟨Nat.find_spec h, fun _ hi => Nat.find_min h hi⟩⟩

theorem toNat_min_firstTime (P : Nat → Prop) (n : Nat) :
    let k := (min (n : ℕ∞) (firstTime P)).toNat
    k ≤ n ∧ (∀ i < k, ¬ P i) ∧ (k = n ∨ P k) ∧ (firstTime P < n ↔ k < n)
      ∧ (firstTime P ≤ n ↔ P k) := by
  intro k
  by_cases h : ∃ j, P j
  · obtain ⟨j, hj⟩ := exists_firstTime_eq_coe h
    obtain ⟨hP, hbefore⟩ := firstTime_eq_coe_iff.1 hj
    have hk : k = min n j := by
      change (min (n : ℕ∞) (firstTime P)).toNat = min n j
      rw [hj]
      rcases Nat.le_total n j with hle | hle
      · rw [min_eq_left (Nat.cast_le.2 hle), ENat.toNat_natCast, min_eq_left hle]
      · rw [min_eq_right (Nat.cast_le.2 hle), ENat.toNat_natCast, min_eq_right hle]
    rw [hj, Nat.cast_lt, Nat.cast_le, hk]
    rcases Nat.lt_or_ge n j with hlt | hge
    · rw [Nat.min_eq_left (Nat.le_of_lt hlt)]
      exact ⟨Nat.le_refl n, fun i hi => hbefore i (by omega), Or.inl rfl, by omega,
        iff_of_false (Nat.not_le.2 hlt) (hbefore n hlt)⟩
    · rw [Nat.min_eq_right hge]
      exact ⟨hge, hbefore, Or.inr hP, Iff.rfl, iff_of_true hge hP⟩
  · have hnone : ∀ j, ¬ P j := fun j hj => h ⟨j, hj⟩
    have hk : k = n := by
      change (min (n : ℕ∞) (firstTime P)).toNat = n
      rw [firstTime_eq_top hnone, min_eq_left le_top, ENat.toNat_natCast]
    rw [hk, firstTime_eq_top hnone]
    exact ⟨Nat.le_refl n, fun i _ => hnone i, Or.inl rfl, by simp, by simp [hnone]⟩

namespace Machine

/-- The number of steps to the halt, infinite if the machine never halts. -/
noncomputable def haltTime (m : Machine) : ℕ∞ :=
  firstTime fun k => (next^[k] m).status ≠ .running

theorem coe_le_haltTime_iff {m : Machine} {n : Nat} :
    (n : ℕ∞) ≤ m.haltTime ↔ ∀ i < n, (next^[i] m).status = .running := by
  rw [haltTime, coe_le_firstTime_iff]
  simp only [not_not]

theorem haltTime_eq_coe_iff {m : Machine} {k : Nat} :
    m.haltTime = k ↔ ∃ o, HaltsIn m k o := by
  rw [haltTime, firstTime_eq_coe_iff]
  constructor
  · rintro ⟨hk, hbefore⟩
    obtain ⟨o, ho⟩ := exists_outcome_of_not_running hk
    exact ⟨o, fun i hi => not_not.1 (hbefore i hi), ho⟩
  · rintro ⟨o, h⟩
    exact ⟨not_running_of_outcome h.outcome, fun i hi => not_not.2 (h.running i hi)⟩

end Machine

end CounterMachine
