/-!
# Decimal numerals

Numerals of any length, written and read with ASCII digits. A number's own
numeral has no leading zeros, and reading ignores them.
-/

namespace CounterMachine.Text

def numeral (ds : List Char) : Nat :=
  Nat.ofDigitChars 10 ds 0

/-- The number a text stands for when it is a non-empty row of digits. -/
def numeral? (cs : List Char) : Option Nat :=
  if cs ≠ [] ∧ cs.all Char.isDigit then some (numeral cs) else none

theorem numeral?_eq_some_iff {cs : List Char} {n : Nat} :
    numeral? cs = some n ↔ (cs ≠ [] ∧ cs.all Char.isDigit) ∧ numeral cs = n := by
  rw [numeral?, Option.ite_none_right_eq_some, Option.some.injEq]

@[simp] theorem numeral_toDigits (n : Nat) : numeral (Nat.toDigits 10 n) = n :=
  Nat.ofDigitChars_toDigits (by decide) (by decide)

@[simp] theorem numeral_repr (n : Nat) : numeral n.repr.toList = n := by
  rw [Nat.toList_repr, numeral_toDigits]

theorem isDigit_of_mem_repr {n : Nat} {c : Char} (h : c ∈ n.repr.toList) : c.isDigit = true :=
  Nat.isDigit_of_mem_toDigits (by decide) (by decide) (Nat.toList_repr ▸ h)

theorem not_mem_repr {c : Char} (hc : c.isDigit = false) (n : Nat) : c ∉ n.repr.toList := by
  intro h
  rw [isDigit_of_mem_repr h] at hc
  cases hc

theorem head?_repr_ne {c : Char} (hc : c.isDigit = false) (n : Nat) :
    n.repr.toList.head? ≠ some c :=
  fun h => not_mem_repr hc n (List.mem_of_mem_head? h)

theorem repr_toList_ne_nil (n : Nat) : n.repr.toList ≠ [] := by
  rw [Nat.toList_repr]
  exact List.ne_nil_of_length_pos Nat.length_toDigits_pos

@[simp] theorem numeral?_repr (n : Nat) : numeral? n.repr.toList = some n := by
  have h : n.repr.toList.all Char.isDigit = true :=
    List.all_eq_true.2 fun _ hc => isDigit_of_mem_repr hc
  rw [numeral?, if_pos ⟨repr_toList_ne_nil n, h⟩, numeral_repr]

theorem repr_injective {m n : Nat} (h : m.repr = n.repr) : m = n := by
  rw [← numeral_repr m, h, numeral_repr]

end CounterMachine.Text
