import CounterMachine.Proofs.Machine.TraceLaw
import CounterMachine.Proofs.SavedState.RoundTrip

/-!
# Reports in JSON are read back

A report in JSON is an object with a member for what was seen and one for the outcome.
Its text is read as that object, and each member gives back what it was written for:
labels may hold any characters, because the quote, the backslash and the control
characters are escaped, and register values may be of any size, because those beyond
64 bits are written as text.  Only the counters of steps are numbers in every case.

* `Report.GivesBack`: what the members of such an object give;
* `Report.givesBack_toJson`: they give what the report was written for.

Main statement: the indented text of a report gives back what was seen, in order, and
the outcome, `Report.read_jsonText`.  The counters of a run that was carried out always
fit, so that nothing has to be asked of its report, `Report.read_jsonText_of_execute`.
-/

namespace CounterMachine

open Json (isReadable)

/-! ## What is readable -/

theorem Snapshot.isReadable_toJson (levels : Nat) {s : Snapshot} (h : s.step < wordBound) :
    isReadable (levels + 2) s.toJson = true := by
  have hstep := Json.isReadable_ofNat (levels + 1) h
  apply Json.isReadable_ofMembers
  simp [hstep, Label.isReadable_toJson, Registers.isReadable_toJson levels]

namespace Report

def traceOfJson? (j : Json) : Option (List Snapshot) := do
  let xs ← j.elements?
  xs.mapM Snapshot.ofJson?

/-- The members of an object are those of a report, and nothing in them is refused. -/
structure GivesBack (members : List (Option String × Json)) (trace : List Snapshot)
    (outcome : Outcome) : Prop where
  keys : members.map (·.1) = [some "trace", some "outcome"]
  readable : isReadable nestingLimit (.object members) = true
  trace : (Json.member? "trace" members).bind traceOfJson? = some trace
  outcome : (Json.member? "outcome" members).bind Outcome.ofJson? = some outcome

variable {trace trace' : List Snapshot} {outcome outcome' : Outcome}

theorem GivesBack.unique {members : List (Option String × Json)}
    (h : GivesBack members trace outcome) (h' : GivesBack members trace' outcome') :
    trace = trace' ∧ outcome = outcome' :=
  ⟨Option.some.inj (h.trace.symm.trans h'.trace),
    Option.some.inj (h.outcome.symm.trans h'.outcome)⟩

/-! ## Members of a report -/

theorem traceOfJson?_toJson (h : ∀ s ∈ trace, s.step < wordBound) :
    traceOfJson? (.array (trace.map Snapshot.toJson)) = some trace := by
  rw [traceOfJson?, Json.elements?, Option.bind_eq_bind, Option.bind_some]
  exact mapM_map_eq_some fun s hs => Snapshot.ofJson?_toJson (h s hs)

/-- A report takes four levels: the object, the array, and two for each thing seen. -/
theorem isReadable_toJson (levels : Nat) (htrace : ∀ s ∈ trace, s.step < wordBound)
    (houtcome : outcome.stepCount < wordBound) :
    isReadable (levels + 4) (toJson trace outcome) = true := by
  have hseen : isReadable (levels + 3) (.array (trace.map Snapshot.toJson)) = true := by
    apply Json.isReadable_array
    intro x hx
    obtain ⟨s, hs, rfl⟩ := List.mem_map.1 hx
    exact Snapshot.isReadable_toJson levels (htrace s hs)
  have hend : isReadable (levels + 3) outcome.toJson = true :=
    Outcome.isReadable_toJson (levels + 1) houtcome
  apply Json.isReadable_ofMembers
  simp [hseen, hend]

theorem givesBack_toJson (htrace : ∀ s ∈ trace, s.step < wordBound)
    (houtcome : outcome.stepCount < wordBound) :
    ∃ members, toJson trace outcome = .object members ∧ GivesBack members trace outcome := by
  have hkeys : ([("trace", Json.array (trace.map Snapshot.toJson)),
      ("outcome", outcome.toJson)].map (·.1)).Nodup := by simp
  refine ⟨_, rfl, rfl, isReadable_toJson 123 htrace houtcome, ?_, ?_⟩
  · rw [Json.member?_of_mem hkeys List.mem_cons_self, Option.bind_some,
      traceOfJson?_toJson htrace]
  · rw [Json.member?_of_mem hkeys (List.mem_cons_of_mem _ List.mem_cons_self),
      Option.bind_some, Outcome.ofJson?_toJson houtcome]

/-! ## The text of a report -/

theorem read?_jsonText (trace : List Snapshot) (outcome : Outcome) :
    Json.read? (jsonText trace outcome) = some (toJson trace outcome) :=
  Json.read?_text .indented (toJson trace outcome)

/-- **A report in JSON loses nothing**: its text is that of an object with a member for
what was seen and one for the outcome, which give both back. -/
theorem read_jsonText (htrace : ∀ s ∈ trace, s.step < wordBound)
    (houtcome : outcome.stepCount < wordBound) :
    ∃ members, Json.read? (jsonText trace outcome) = some (.object members)
      ∧ GivesBack members trace outcome := by
  obtain ⟨members, hobject, hgives⟩ := givesBack_toJson htrace houtcome
  exact ⟨members, (read?_jsonText trace outcome).trans (congrArg some hobject), hgives⟩

/-- Labels with control characters, quotes and characters beyond 16 bits, an empty row of
registers, values on both sides of 64 bits, the highest counters and things seen that no
run shows in this order. -/
theorem read_jsonText_odd :
    let trace : List Snapshot :=
      [⟨wordBound - 1, ⟨"\x00\x1f\"\\/\n\u2028\x7f"⟩, .empty⟩,
        ⟨0, ⟨""⟩, .ofList [wordBound, wordBound - 1, 0]⟩, ⟨0, ⟨""⟩, .ofList [0]⟩]
    let outcome : Outcome :=
      ⟨.erroneous, wordBound - 1, ⟨"\t😀\x08"⟩, .ofList [wordBound * wordBound, 0]⟩
    (∀ s ∈ trace, s.step < wordBound) ∧ outcome.stepCount < wordBound
      ∧ ∃ members, Json.read? (jsonText trace outcome) = some (.object members)
        ∧ GivesBack members trace outcome := by
  intro trace outcome
  have htrace : ∀ s ∈ trace, s.step < wordBound := by simp [trace, wordBound]
  have houtcome : outcome.stepCount < wordBound := by decide
  exact ⟨htrace, houtcome, read_jsonText htrace houtcome⟩

/-! ## Reports of runs -/

theorem counters_of_execute {p : Program} {l : Label} {rs : Registers}
    (h : p.execute l rs = .ok (outcome, trace)) :
    (∀ s ∈ trace, s.step < wordBound) ∧ outcome.stepCount < wordBound := by
  obtain ⟨k, hk, hhalts, rfl⟩ := Program.execute_eq_ok_iff.1 h
  have hlaw := hhalts.lawfulTrace
  have hcount : k = outcome.stepCount := by rw [← hlaw.length_eq, Machine.length_trace]
  have hlimit : stepLimit < wordBound := by decide
  refine ⟨fun s hs => ?_, by omega⟩
  obtain ⟨i, hi⟩ := List.mem_iff_getElem?.1 hs
  have hstep := hlaw.step_eq i s hi
  have hlt := (Machine.getElem?_trace_eq_some_iff.1 hi).1
  omega

theorem read_jsonText_of_execute {p : Program} {l : Label} {rs : Registers}
    (h : p.execute l rs = .ok (outcome, trace)) :
    ∃ members, Json.read? (jsonText trace outcome) = some (.object members)
      ∧ GivesBack members trace outcome := by
  obtain ⟨htrace, houtcome⟩ := counters_of_execute h
  obtain ⟨members, hobject, hgives⟩ := givesBack_toJson htrace houtcome
  exact ⟨members, (read?_jsonText trace outcome).trans (congrArg some hobject), hgives⟩

theorem jsonText_injective_on_runs {p p' : Program} {l l' : Label} {rs rs' : Registers}
    (h : p.execute l rs = .ok (outcome, trace)) (h' : p'.execute l' rs' = .ok (outcome', trace'))
    (htext : jsonText trace outcome = jsonText trace' outcome') :
    trace = trace' ∧ outcome = outcome' := by
  obtain ⟨members, hread, hgives⟩ := read_jsonText_of_execute h
  obtain ⟨members', hread', hgives'⟩ := read_jsonText_of_execute h'
  rw [htext, hread', Option.some.injEq, Json.object.injEq] at hread
  exact hgives.unique (hread ▸ hgives')

end Report

end CounterMachine
