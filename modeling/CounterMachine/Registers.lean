/-!
# Registers

A row of counters that is as long as it has to be: reading beyond its end
gives zero, and an instruction that works on a register beyond the end first
fills the row up with zeros. No register above `Registers.highest` can be
worked on.

`get` is the view in which registers are a function from numbers to numbers,
and `size` the length of the row. The main statements say what each operation
does to the two: `get_growTo` and `size_growTo`, `get_modify` and
`size_modify`, and below them which of the operations are refused.
-/

namespace CounterMachine

inductive Fault where
  | registerTooHigh (register : Nat)
deriving DecidableEq, Inhabited

/-- The values of the registers from `r0` on. -/
structure Registers where
  values : Array Nat
deriving DecidableEq, Inhabited

namespace Registers

def highest : Nat := 65535

def empty : Registers := ⟨#[]⟩

def ofList (values : List Nat) : Registers := ⟨values.toArray⟩

def toList (rs : Registers) : List Nat := rs.values.toList

def size (rs : Registers) : Nat := rs.values.size

def isEmpty (rs : Registers) : Bool := rs.values.isEmpty

/-- The value of a register, zero beyond the end of the row. -/
def get (rs : Registers) (i : Nat) : Nat := rs.values.getD i 0

def isZero (rs : Registers) (i : Nat) : Bool := rs.get i == 0

def growTo (rs : Registers) (n : Nat) : Registers := ⟨rs.values.rightpad n 0⟩

def modify (rs : Registers) (i : Nat) (f : Nat → Nat) : Registers :=
  ⟨(rs.growTo (i + 1)).values.modify i f⟩

/-- The row made long enough to hold a register. -/
def ensure (rs : Registers) (i : Nat) : Except Fault Registers :=
  if i ≤ highest then .ok (rs.growTo (i + 1)) else .error (.registerTooHigh i)

def increment (rs : Registers) (i : Nat) : Except Fault Registers :=
  if i ≤ highest then .ok (rs.modify i (· + 1)) else .error (.registerTooHigh i)

/-- One taken from a register unless it is zero, and whether it was taken. The
row is made long enough in either case. -/
def decrement (rs : Registers) (i : Nat) : Except Fault (Bool × Registers) :=
  if i ≤ highest then
    if rs.isZero i then .ok (false, rs.growTo (i + 1)) else .ok (true, rs.modify i (· - 1))
  else .error (.registerTooHigh i)

/-- The values in parentheses; a single one is followed by a comma. -/
def text (rs : Registers) : String :=
  "(" ++ ", ".intercalate (rs.toList.map Nat.repr) ++ (if rs.size = 1 then ",)" else ")")

/-! ## The view of each operation -/

@[ext] theorem ext_values {a b : Registers} (h : a.values = b.values) : a = b := by
  cases a; cases b; cases h; rfl

@[simp] theorem toList_ofList (vs : List Nat) : (ofList vs).toList = vs := by
  simp [ofList, toList]

@[simp] theorem ofList_toList (rs : Registers) : ofList rs.toList = rs := by
  simp [ofList, toList]

theorem get_eq (rs : Registers) (i : Nat) : rs.get i = rs.values[i]?.getD 0 := by
  simp [get]

theorem isZero_iff {rs : Registers} {i : Nat} : rs.isZero i = true ↔ rs.get i = 0 := by
  simp [isZero]

@[simp] theorem size_growTo (rs : Registers) (n : Nat) : (rs.growTo n).size = max rs.size n := by
  simp only [growTo, size, Array.size_rightpad]
  omega

@[simp] theorem get_growTo (rs : Registers) (n i : Nat) : (rs.growTo n).get i = rs.get i := by
  simp only [get_eq, growTo, Array.rightpad, Array.getElem?_append, Array.getElem?_replicate]
  split
  · rfl
  · next h =>
    rw [Array.getElem?_eq_none (Nat.le_of_not_lt h)]
    split <;> rfl

@[simp] theorem size_modify (rs : Registers) (i : Nat) (f : Nat → Nat) :
    (rs.modify i f).size = max rs.size (i + 1) := by
  rw [← size_growTo]
  simp [modify, size]

theorem get_modify (rs : Registers) (i : Nat) (f : Nat → Nat) (j : Nat) :
    (rs.modify i f).get j = if j = i then f (rs.get i) else rs.get j := by
  have hi : i < (rs.growTo (i + 1)).values.size := by
    have := size_growTo rs (i + 1)
    simp only [size] at this
    omega
  rw [get_eq, modify, Array.getElem?_modify]
  by_cases h : j = i
  · subst h
    rw [if_pos rfl, if_pos rfl, ← get_growTo rs (j + 1) j, get_eq, Array.getElem?_eq_getElem hi]
    rfl
  · rw [if_neg (Ne.symm h), if_neg h, ← get_eq, get_growTo]

theorem get_ofList (vs : List Nat) (i : Nat) : (ofList vs).get i = vs[i]?.getD 0 := by
  simp [get_eq, ofList]

@[simp] theorem size_ofList (vs : List Nat) : (ofList vs).size = vs.length := by
  simp [size, ofList]

theorem eq_of_size_of_get {a b : Registers} (hsize : a.size = b.size) (hget : a.get = b.get) :
    a = b := by
  ext1
  refine Array.ext hsize fun i ha hb => ?_
  have hi : a.get i = b.get i := congrFun hget i
  rw [get_eq, get_eq, Array.getElem?_eq_getElem ha, Array.getElem?_eq_getElem hb] at hi
  exact hi

theorem growTo_growTo {m n : Nat} (h : m ≤ n) (rs : Registers) :
    (rs.growTo m).growTo n = rs.growTo n := by
  apply eq_of_size_of_get
  · simp only [size_growTo]
    omega
  · funext i
    simp only [get_growTo]

theorem modify_growTo (rs : Registers) (i : Nat) (f : Nat → Nat) :
    (rs.growTo (i + 1)).modify i f = rs.modify i f := by
  rw [modify, modify, growTo_growTo (Nat.le_refl _)]

/-! ## When an operation is refused -/

theorem ensure_of_le {rs : Registers} {i : Nat} (h : i ≤ highest) :
    rs.ensure i = .ok (rs.growTo (i + 1)) := if_pos h

theorem ensure_of_gt {rs : Registers} {i : Nat} (h : highest < i) :
    rs.ensure i = .error (.registerTooHigh i) := if_neg (Nat.not_le.2 h)

theorem increment_of_le {rs : Registers} {i : Nat} (h : i ≤ highest) :
    rs.increment i = .ok (rs.modify i (· + 1)) := if_pos h

theorem increment_of_gt {rs : Registers} {i : Nat} (h : highest < i) :
    rs.increment i = .error (.registerTooHigh i) := if_neg (Nat.not_le.2 h)

theorem decrement_of_zero {rs : Registers} {i : Nat} (h : i ≤ highest) (hz : rs.get i = 0) :
    rs.decrement i = .ok (false, rs.growTo (i + 1)) := by
  rw [decrement, if_pos h, if_pos (isZero_iff.2 hz)]

theorem decrement_of_ne_zero {rs : Registers} {i : Nat} (h : i ≤ highest) (hz : rs.get i ≠ 0) :
    rs.decrement i = .ok (true, rs.modify i (· - 1)) := by
  rw [decrement, if_pos h, if_neg (mt isZero_iff.1 hz)]

theorem decrement_of_gt {rs : Registers} {i : Nat} (h : highest < i) :
    rs.decrement i = .error (.registerTooHigh i) := if_neg (Nat.not_le.2 h)

end Registers

namespace Fault

def message : Fault → String
  | registerTooHigh i =>
    "register index " ++ i.repr ++ " exceeds r" ++ Registers.highest.repr

end Fault

end CounterMachine
