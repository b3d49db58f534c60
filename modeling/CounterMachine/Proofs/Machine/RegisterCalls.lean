import CounterMachine.Proofs.Machine.Growth
import CounterMachine.Proofs.Machine.InPlace
import CounterMachine.Proofs.Machine.Textbook

/-!
# Calls on a row of registers

A row of registers is used through five calls: two of them look at a register, three
may change one.  From outside the row is a map with a value for every number, and a
mark that says how far the row has been filled up.  The calls are described on a row
that gives a new row, `Call.on`, and on a row that is changed in place, `Call.act`.

* `Leads` has a case for each way a call is carried out, and `on_eq_error_iff` says
  which calls are refused;
* `run_act_eq_ok_iff` and `run_act_eq_error_iff`: in place the same is done, and a
  refused call has changed nothing;
* `get_leaves` and `size_leaves`: what a call does to the map and to the mark.

Main statement: after any calls whatsoever on any initial values the row is the map
that the increments and the successful decrements give, filled up as far as the
highest register that a successful change has asked for, `calls_track`.
-/

namespace CounterMachine

namespace Registers

inductive Call where
  | get (i : Nat)
  | isZero (i : Nat)
  | ensure (i : Nat)
  | increment (i : Nat)
  | decrement (i : Nat)
deriving DecidableEq

inductive Answer where
  | value (n : Nat)
  | truth (b : Bool)
  | done
deriving DecidableEq

namespace Call

def changed? : Call → Option Nat
  | get _ => none
  | isZero _ => none
  | ensure i => some i
  | increment i => some i
  | decrement i => some i

def reached? (c : Call) : Option Nat := c.changed?.filter (· ≤ highest)

def on : Call → Registers → Except Fault (Answer × Registers)
  | get i, rs => .ok (.value (rs.get i), rs)
  | isZero i, rs => .ok (.truth (rs.isZero i), rs)
  | ensure i, rs => do
    let rs' ← rs.ensure i
    return (.done, rs')
  | increment i, rs => do
    let rs' ← rs.increment i
    return (.done, rs')
  | decrement i, rs => do
    let (taken, rs') ← rs.decrement i
    return (.truth taken, rs')

/-- The call on a row that is changed in place. -/
def act : Call → EStateM Fault Registers Answer
  | get i => do
    let rs ← getThe Registers
    return .value (rs.get i)
  | isZero i => do
    let rs ← getThe Registers
    return .truth (rs.isZero i)
  | ensure i => do
    InPlace.ensure i
    return .done
  | increment i => do
    InPlace.increment i
    return .done
  | decrement i => do
    let taken ← InPlace.decrement i
    return .truth taken

def leaves (c : Call) (rs : Registers) : Registers :=
  match c.act.run rs with
  | .ok _ rs' => rs'
  | .error _ rs' => rs'

/-- What a call does to a map with a value for every number. -/
def count : Call → (Nat → Nat) → Nat → Nat
  | get _, value => value
  | isZero _, value => value
  | ensure _, value => value
  | increment i, value =>
    if i ≤ highest then Function.update value i (value i + 1) else value
  | decrement i, value =>
    if i ≤ highest ∧ 0 < value i then Function.update value i (value i - 1) else value

end Call

def after (calls : List Call) (rs : Registers) : Registers :=
  calls.foldl (fun rs c => c.leaves rs) rs

def countAfter (calls : List Call) (value : Nat → Nat) : Nat → Nat :=
  calls.foldl (fun value c => c.count value) value

/-! ## How a call is carried out -/

namespace Call

/-- `Leads c rs a rs'`: on the row `rs` the call `c` is carried out, answers `a` and
gives the row `rs'`. -/
inductive Leads : Call → Registers → Answer → Registers → Prop where
  | get (i : Nat) (rs : Registers) : Leads (get i) rs (.value (rs.get i)) rs
  | isZero (i : Nat) (rs : Registers) : Leads (isZero i) rs (.truth (rs.isZero i)) rs
  | ensure {i : Nat} {rs : Registers} (h : i ≤ highest) :
      Leads (ensure i) rs .done (rs.growTo (i + 1))
  | increment {i : Nat} {rs : Registers} (h : i ≤ highest) :
      Leads (increment i) rs .done (rs.modify i (· + 1))
  | decrementZero {i : Nat} {rs : Registers} (h : i ≤ highest) (hz : rs.get i = 0) :
      Leads (decrement i) rs (.truth false) (rs.growTo (i + 1))
  | decrementNonzero {i : Nat} {rs : Registers} (h : i ≤ highest) (hz : rs.get i ≠ 0) :
      Leads (decrement i) rs (.truth true) (rs.modify i (· - 1))

def Refused (c : Call) (f : Fault) : Prop :=
  ∃ i, c.changed? = some i ∧ highest < i ∧ f = .registerTooHigh i

variable {c : Call} {rs rs' : Registers} {a : Answer} {f : Fault}

theorem le_of_not_refused (h : ¬ ∃ f, Refused c f) {i : Nat} (hc : c.changed? = some i) :
    i ≤ highest :=
  Nat.not_lt.1 fun hi => h ⟨.registerTooHigh i, i, hc, hi, rfl⟩

theorem leads_or_refused (c : Call) (rs : Registers) :
    (∃ a rs', Leads c rs a rs') ∨ ∃ f, Refused c f := by
  by_cases hf : ∃ f, Refused c f
  · exact Or.inr hf
  · left
    cases c with
    | get i => exact ⟨_, _, .get i rs⟩
    | isZero i => exact ⟨_, _, .isZero i rs⟩
    | ensure i => exact ⟨_, _, .ensure (le_of_not_refused hf rfl)⟩
    | increment i => exact ⟨_, _, .increment (le_of_not_refused hf rfl)⟩
    | decrement i =>
        by_cases hz : rs.get i = 0
        · exact ⟨_, _, .decrementZero (le_of_not_refused hf rfl) hz⟩
        · exact ⟨_, _, .decrementNonzero (le_of_not_refused hf rfl) hz⟩

theorem Leads.on_eq (h : Leads c rs a rs') : c.on rs = .ok (a, rs') := by
  cases h with
  | get => rfl
  | isZero => rfl
  | ensure h => rw [on, ensure_of_le h]; rfl
  | increment h => rw [on, increment_of_le h]; rfl
  | decrementZero h hz => rw [on, decrement_of_zero h hz]; rfl
  | decrementNonzero h hz => rw [on, decrement_of_ne_zero h hz]; rfl

theorem Refused.on_eq (h : Refused c f) (rs : Registers) : c.on rs = .error f := by
  obtain ⟨i, hc, hi, rfl⟩ := h
  cases c with
  | get => cases hc
  | isZero => cases hc
  | ensure => cases hc; rw [on, ensure_of_gt hi]; rfl
  | increment => cases hc; rw [on, increment_of_gt hi]; rfl
  | decrement => cases hc; rw [on, decrement_of_gt hi]; rfl

theorem Leads.run_act (h : Leads c rs a rs') : c.act.run rs = .ok a rs' := by
  cases h with
  | get => rfl
  | isZero => rfl
  | ensure h => rw [act, InPlace.run_bind_of_ok (InPlace.run_ensure h), EStateM.run_pure]
  | increment h => rw [act, InPlace.run_bind_of_ok (InPlace.run_increment h), EStateM.run_pure]
  | decrementZero h hz =>
      rw [act, InPlace.run_bind_of_ok (InPlace.run_decrement_of_zero h hz), EStateM.run_pure]
  | decrementNonzero h hz =>
      rw [act, InPlace.run_bind_of_ok (InPlace.run_decrement_of_ne_zero h hz), EStateM.run_pure]

theorem Refused.run_act (h : Refused c f) (rs : Registers) : c.act.run rs = .error f rs := by
  obtain ⟨i, hc, hi, rfl⟩ := h
  have hensure : (InPlace.ensure i).run rs = .error (.registerTooHigh i) rs :=
    InPlace.run_ensure_of_gt hi
  cases c with
  | get => cases hc
  | isZero => cases hc
  | ensure =>
      cases hc
      rw [act, InPlace.run_bind_of_error hensure]
  | increment =>
      cases hc
      have hincrement : (InPlace.increment i).run rs = .error (.registerTooHigh i) rs :=
        InPlace.run_bind_of_error hensure _
      rw [act, InPlace.run_bind_of_error hincrement]
  | decrement =>
      cases hc
      have hdecrement : (InPlace.decrement i).run rs = .error (.registerTooHigh i) rs :=
        InPlace.run_bind_of_error hensure _
      rw [act, InPlace.run_bind_of_error hdecrement]

theorem on_eq_ok_iff : c.on rs = .ok (a, rs') ↔ Leads c rs a rs' := by
  refine ⟨fun h => ?_, Leads.on_eq⟩
  obtain ⟨b, rs'', hl⟩ | ⟨f, hf⟩ := leads_or_refused c rs
  · rw [hl.on_eq] at h
    cases h
    exact hl
  · rw [hf.on_eq] at h
    cases h

theorem on_eq_error_iff : c.on rs = .error f ↔ Refused c f := by
  refine ⟨fun h => ?_, fun h => h.on_eq rs⟩
  obtain ⟨b, rs'', hl⟩ | ⟨f', hf⟩ := leads_or_refused c rs
  · rw [hl.on_eq] at h
    cases h
  · rw [hf.on_eq] at h
    cases h
    exact hf

/-- In place a call does what it does with a new row. -/
theorem run_act_eq_ok_iff : c.act.run rs = .ok a rs' ↔ c.on rs = .ok (a, rs') := by
  refine ⟨fun h => ?_, fun h => (on_eq_ok_iff.1 h).run_act⟩
  obtain ⟨b, rs'', hl⟩ | ⟨f, hf⟩ := leads_or_refused c rs
  · rw [hl.run_act] at h
    cases h
    exact hl.on_eq
  · rw [hf.run_act] at h
    cases h

theorem run_act_eq_error_iff : c.act.run rs = .error f rs' ↔ Refused c f ∧ rs' = rs := by
  constructor
  · intro h
    obtain ⟨b, rs'', hl⟩ | ⟨f', hf⟩ := leads_or_refused c rs
    · rw [hl.run_act] at h
      cases h
    · rw [hf.run_act] at h
      cases h
      exact ⟨hf, rfl⟩
  · rintro ⟨hf, rfl⟩
    exact hf.run_act rs'

/-! ## What a call leaves -/

theorem Leads.leaves_eq (h : Leads c rs a rs') : c.leaves rs = rs' := by
  rw [leaves, h.run_act]

theorem Refused.leaves_eq (h : Refused c f) (rs : Registers) : c.leaves rs = rs := by
  rw [leaves, h.run_act]

theorem reached?_of_le {i : Nat} (hc : c.changed? = some i) (hi : i ≤ highest) :
    c.reached? = some i := by
  rw [reached?, hc, Option.filter_some, if_pos (decide_eq_true hi)]

theorem Refused.reached?_eq (h : Refused c f) : c.reached? = none := by
  obtain ⟨i, hc, hi, rfl⟩ := h
  rw [reached?, hc, Option.filter_some, if_neg (by simpa using hi)]

theorem Refused.count_eq (h : Refused c f) (value : Nat → Nat) : c.count value = value := by
  obtain ⟨i, hc, hi, rfl⟩ := h
  cases c with
  | get => rfl
  | isZero => rfl
  | ensure => rfl
  | increment => cases hc; exact if_neg (Nat.not_le.2 hi)
  | decrement => cases hc; exact if_neg fun h => Nat.not_le.2 hi h.1

theorem Leads.get_eq (h : Leads c rs a rs') : rs'.get = c.count rs.get := by
  cases h with
  | get => rfl
  | isZero => rfl
  | ensure h => exact get_growTo_eq rs _
  | increment h => rw [get_modify_eq_update, count, if_pos h]
  | decrementZero h hz =>
      rw [get_growTo_eq, count, if_neg fun hpos => Nat.ne_of_gt hpos.2 hz]
  | decrementNonzero h hz =>
      rw [get_modify_eq_update, count, if_pos ⟨h, Nat.pos_of_ne_zero hz⟩]

theorem Leads.size_eq (h : Leads c rs a rs') :
    rs'.size = max rs.size (lengthFor c.reached?) := by
  cases h with
  | get => exact (Nat.max_zero _).symm
  | isZero => exact (Nat.max_zero _).symm
  | ensure h => rw [reached?_of_le rfl h, size_growTo, lengthFor]
  | increment h => rw [reached?_of_le rfl h, size_modify, lengthFor]
  | decrementZero h hz => rw [reached?_of_le rfl h, size_growTo, lengthFor]
  | decrementNonzero h hz => rw [reached?_of_le rfl h, size_modify, lengthFor]

theorem get_leaves (c : Call) (rs : Registers) : (c.leaves rs).get = c.count rs.get := by
  obtain ⟨a, rs', h⟩ | ⟨f, h⟩ := leads_or_refused c rs
  · rw [h.leaves_eq, h.get_eq]
  · rw [h.leaves_eq, h.count_eq]

theorem size_leaves (c : Call) (rs : Registers) :
    (c.leaves rs).size = max rs.size (lengthFor c.reached?) := by
  obtain ⟨a, rs', h⟩ | ⟨f, h⟩ := leads_or_refused c rs
  · rw [h.leaves_eq, h.size_eq]
  · rw [h.leaves_eq, h.reached?_eq, lengthFor, Nat.max_zero]

end Call

/-! ## What a list of calls leaves -/

theorem get_after (calls : List Call) (rs : Registers) :
    (after calls rs).get = countAfter calls rs.get := by
  induction calls generalizing rs with
  | nil => rfl
  | cons c calls ih =>
      have hcount : countAfter (c :: calls) rs.get = countAfter calls (c.count rs.get) := rfl
      rw [hcount, ← c.get_leaves]
      exact ih (c.leaves rs)

theorem size_after (calls : List Call) (rs : Registers) :
    (after calls rs).size = max rs.size (lengthFor (calls.filterMap Call.reached?).max?) := by
  induction calls generalizing rs with
  | nil => exact (Nat.max_zero _).symm
  | cons c calls ih =>
      have hmax : lengthFor ((c :: calls).filterMap Call.reached?).max?
          = max (lengthFor c.reached?) (lengthFor (calls.filterMap Call.reached?).max?) := by
        rw [List.filterMap_cons]
        cases c.reached? with
        | none => exact (Nat.zero_max _).symm
        | some i => exact lengthFor_max?_append [i] _
      calc
        (after calls (c.leaves rs)).size
            = max (c.leaves rs).size (lengthFor (calls.filterMap Call.reached?).max?) :=
              ih (c.leaves rs)
        _ = max rs.size (lengthFor ((c :: calls).filterMap Call.reached?).max?) := by
              rw [c.size_leaves, hmax, Nat.max_assoc]

theorem Call.count_decrement_increment (i : Nat) (value : Nat → Nat) :
    (decrement i).count ((increment i).count value) = value := by
  by_cases hi : i ≤ highest
  · rw [show (increment i).count value = Function.update value i (value i + 1) from if_pos hi,
      count, Function.update_self, if_pos ⟨hi, Nat.succ_pos _⟩, Nat.add_sub_cancel,
      Function.update_idem, Function.update_eq_self]
  · rw [show (increment i).count value = value from if_neg hi, count, if_neg fun h => hi h.1]

theorem after_increment_decrement (i : Nat) (rs : Registers) :
    after [.increment i, .decrement i] rs = after [.ensure i] rs := by
  have hlast : after [.increment i, .decrement i] rs
      = (Call.decrement i).leaves ((Call.increment i).leaves rs) := rfl
  have hensure : after [.ensure i] rs = (Call.ensure i).leaves rs := rfl
  rw [hlast, hensure]
  apply eq_of_size_of_get
  case hsize =>
    -- all three calls ask for the same register
    have hincrement : (Call.increment i).reached? = (Call.ensure i).reached? := rfl
    have hdecrement : (Call.decrement i).reached? = (Call.ensure i).reached? := rfl
    rw [Call.size_leaves, Call.size_leaves, Call.size_leaves, hincrement, hdecrement,
      Nat.max_assoc, Nat.max_self]
  case hget =>
    rw [Call.get_leaves, Call.get_leaves, Call.get_leaves, Call.count_decrement_increment]
    rfl

/-! ## A map with a mark -/

/-- The row `rs` is the map `value` filled up to the mark `length`, and the calls on
it are calls on this map. -/
structure Tracks (rs : Registers) (value : Nat → Nat) (length : Nat) : Prop where
  get_eq : ∀ i, rs.get i = value i
  size_eq : rs.size = length
  get : ∀ i, (Call.get i).act.run rs = .ok (.value (value i)) rs
  isZero : ∀ i, (Call.isZero i).act.run rs = .ok (.truth (decide (value i = 0))) rs
  refused : ∀ (c : Call) (f : Fault) (rs' : Registers),
    c.act.run rs = .error f rs' ↔
      (∃ i, c.changed? = some i ∧ highest < i ∧ f = .registerTooHigh i) ∧ rs' = rs
  decrement : ∀ i ≤ highest, ∃ rs',
    (Call.decrement i).act.run rs = .ok (.truth (decide (0 < value i))) rs'
  restored : ∀ i, after [.increment i, .decrement i] rs = after [.ensure i] rs
  on_eq : ∀ (c : Call) (a : Answer) (rs' : Registers),
    c.act.run rs = .ok a rs' ↔ c.on rs = .ok (a, rs')
  on_refused : ∀ (c : Call) (f : Fault), c.act.run rs = .error f rs ↔ c.on rs = .error f

theorem tracks_self (rs : Registers) : Tracks rs rs.get rs.size where
  get_eq _ := rfl
  size_eq := rfl
  get i := (Call.Leads.get i rs).run_act
  isZero i := (Call.Leads.isZero i rs).run_act
  refused _ _ _ := Call.run_act_eq_error_iff
  decrement i hi := by
    by_cases hz : rs.get i = 0
    · have hnot : decide (0 < rs.get i) = false := decide_eq_false (by omega)
      exact ⟨_, hnot ▸ (Call.Leads.decrementZero hi hz).run_act⟩
    · have hpos : decide (0 < rs.get i) = true := decide_eq_true (by omega)
      exact ⟨_, hpos ▸ (Call.Leads.decrementNonzero hi hz).run_act⟩
  restored i := after_increment_decrement i rs
  on_eq _ _ _ := Call.run_act_eq_ok_iff
  on_refused _ _ := by
    rw [Call.run_act_eq_error_iff, Call.on_eq_error_iff, and_iff_left rfl]

/-- **A row of registers is a map with a mark.**  On whatever values it starts and
whatever is called, a row is the map that the increments and the successful decrements
make of the initial values, zero beyond them, and it is as long as the initial list or
as the highest register that a change carried out has asked for needs. -/
theorem calls_track (vs : List Nat) (calls : List Call) :
    Tracks (after calls (ofList vs)) (countAfter calls fun i => vs[i]?.getD 0)
      (max vs.length (lengthFor (calls.filterMap Call.reached?).max?)) := by
  have hinitial : (ofList vs).get = fun i => vs[i]?.getD 0 := funext (get_ofList vs)
  have hself := tracks_self (after calls (ofList vs))
  rwa [get_after, size_after, hinitial, size_ofList] at hself

end Registers

end CounterMachine
