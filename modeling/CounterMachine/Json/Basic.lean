/-!
# JSON values

The values that a JSON text stands for. Members of an object keep their order
and may repeat. Two things that the grammar allows have no value of their own
and are kept as such: a string with half of a surrogate pair, and a number
beyond the double-precision numbers. `Json.isReadable` refuses both, and
nesting that is too deep. `JsonNumber.overflows_natural_of_lt` says that no
number of 64 bits is refused.
-/

namespace CounterMachine

/-- The value of a number: a row of digits, or a number with a sign, a fraction
or an exponent. -/
inductive JsonNumber where
  | natural (n : Nat)
  /-- `digits` times ten to the power `exponent`. -/
  | decimal (negative : Bool) (digits : Nat) (exponent : Int)
deriving DecidableEq

/-- A JSON value. A string is `none` if an escape in it stands for half of a
surrogate pair. -/
inductive Json where
  | null
  | bool (b : Bool)
  | number (n : JsonNumber)
  | string (s : Option String)
  | array (elements : List Json)
  | object (members : List (Option String × Json))
deriving Inhabited

def wordBound : Nat := 1 <<< 64

namespace JsonNumber

/-- The least number that is rounded beyond the double-precision numbers. -/
def doubleBound : Nat := (1 <<< 1024) - (1 <<< 970)

/-- A natural number rounded to 53 binary digits, to the even side when it lies
halfway. -/
def nearestDouble (n : Nat) : Nat :=
  let unit := 1 <<< (n.log2 - 52)
  let below := n / unit
  let rest := n % unit
  if 2 * rest < unit ∨ (2 * rest = unit ∧ below % 2 = 0) then below * unit
  else (below + 1) * unit

def leading (digits : Nat) (exponent : Int) : Nat × Int :=
  if digits < wordBound then (digits, exponent) else leading (digits / 10) (exponent + 1)
termination_by digits
decreasing_by
  simp only [wordBound] at *
  omega

/-- Whether `digits` times ten to the power `exponent` is beyond the
double-precision numbers, when both factors are rounded before they are
multiplied. -/
def productOverflows (digits : Nat) : Int → Bool
  | .ofNat e =>
    digits ≠ 0 && (308 < e || doubleBound ≤ nearestDouble digits * nearestDouble (Nat.pow 10 e))
  | .negSucc _ => false

/-- Whether a number is beyond the double-precision numbers. It is computed in
double precision from its leading digits and its exponent. -/
def overflows : JsonNumber → Bool
  | natural n =>
    let (digits, exponent) := leading n 0
    productOverflows digits exponent
  | decimal _ n e =>
    let (digits, exponent) := leading n e
    productOverflows digits exponent

theorem leading_of_lt {n : Nat} (h : n < wordBound) (e : Int) : leading n e = (n, e) := by
  rw [leading, if_pos h]

theorem nearestDouble_le (n : Nat) : nearestDouble n ≤ 2 * n := by
  rcases Nat.eq_zero_or_pos n with rfl | hn
  · decide
  · have hu : 1 <<< (n.log2 - 52) ≤ n := by
      rw [Nat.one_shiftLeft]
      exact Nat.le_trans (Nat.pow_le_pow_right (by decide) (Nat.sub_le _ _))
        (Nat.log2_self_le (Nat.ne_of_gt hn))
    have hq := Nat.div_mul_le_self n (1 <<< (n.log2 - 52))
    rw [nearestDouble]
    split
    · omega
    · rw [Nat.add_mul]
      omega

theorem overflows_natural_of_lt {n : Nat} (h : n < wordBound) :
    (natural n).overflows = false := by
  have hn := nearestDouble_le n
  have hb : 2 * wordBound ≤ doubleBound := by decide +kernel
  have h1 : nearestDouble (Nat.pow 10 0) = 1 := by decide
  rw [overflows, leading_of_lt h]
  simp only [productOverflows, h1]
  simp
  omega

/-- The largest power of ten does not overflow, and the next one does. -/
example : (decimal false 1 308).overflows = false ∧ (decimal false 1 309).overflows = true := by
  decide +kernel

end JsonNumber

namespace Json

def ofString (s : String) : Json := string (some s)

def ofNat (n : Nat) : Json := number (.natural n)

def ofMembers (members : List (String × Json)) : Json :=
  object (members.map fun (key, value) => (some key, value))

mutual

/-- Whether every string in a value is a text, no number overflows, and arrays
and objects are nested at most `levels` deep. -/
def isReadable (levels : Nat) : Json → Bool
  | null => true
  | bool _ => true
  | number n => !n.overflows
  | string s => s.isSome
  | array xs => 0 < levels && elementsReadable (levels - 1) xs
  | object ms => 0 < levels && membersReadable (levels - 1) ms

def elementsReadable (levels : Nat) : List Json → Bool
  | [] => true
  | x :: xs => isReadable levels x && elementsReadable levels xs

def membersReadable (levels : Nat) : List (Option String × Json) → Bool
  | [] => true
  | (key, x) :: ms => key.isSome && isReadable levels x && membersReadable levels ms

end

end Json

end CounterMachine
