import CounterMachine.SavedState.Decode

/-!
# Members of a written object

An object that was written from pairs of a key and a value has each key once. Here
it is shown that `fields?` gives the values of such an object in their order, that
`tagged?` takes off its first member, and what it means that it is readable.
-/

namespace CounterMachine

namespace Json

theorem member?_cons_self {key : String} {value : Json} {ms : List (Option String × Json)}
    (h : ∀ m ∈ ms, m.1 ≠ some key) : member? key ((some key, value) :: ms) = some value := by
  have hrest : ms.filter (·.1 == some key) = [] := by
    rw [List.filter_eq_nil_iff]
    intro m hm
    simpa using h m hm
  rw [member?, List.filter_cons_of_pos (by simp), hrest]

theorem member?_cons_of_ne {key key' : String} (h : key' ≠ key) (value : Json)
    (ms : List (Option String × Json)) :
    member? key ((some key', value) :: ms) = member? key ms := by
  rw [member?, List.filter_cons_of_neg (by simpa using h), member?]

theorem member?_of_mem {ms : List (String × Json)} (hn : (ms.map (·.1)).Nodup)
    {key : String} {value : Json} (h : (key, value) ∈ ms) :
    member? key (ms.map fun (k, v) => (some k, v)) = some value := by
  induction ms with
  | nil => cases h
  | cons m ms ih =>
      obtain ⟨k, v⟩ := m
      rw [List.map_cons, List.nodup_cons] at hn
      rw [List.map_cons]
      rcases List.mem_cons.1 h with heq | hm
      · cases heq
        apply member?_cons_self
        intro m hm
        obtain ⟨m', hm', rfl⟩ := List.mem_map.1 hm
        rw [Ne, Option.some.injEq]
        exact fun heq => hn.1 (List.mem_map.2 ⟨m', hm', heq⟩)
      · rw [member?_cons_of_ne, ih hn.2 hm]
        exact fun heq => hn.1 (List.mem_map.2 ⟨_, hm, heq.symm⟩)

theorem fields?_ofMembers {ms : List (String × Json)} (hn : (ms.map (·.1)).Nodup) :
    (ofMembers ms).fields? (ms.map (·.1)) = some (ms.map (·.2)) := by
  have hkeys : (ms.map fun (k, v) => (some k, v)).all (·.1.isSome) = true := by simp
  rw [ofMembers, fields?, if_pos hkeys, List.mapM_map, mapM_eq_some_map (·.2)]
  exact fun m hm => member?_of_mem hn hm

/-- The first member of a written object is taken off by its key. -/
theorem tagged?_ofMembers {key tag : String} {ms : List (String × Json)}
    (h : key ∉ ms.map (·.1)) :
    (ofMembers ((key, ofString tag) :: ms)).tagged? key = some (tag, ofMembers ms) := by
  have hother : ∀ m ∈ ms.map fun (k, v) => (some k, v), m.1 ≠ some key := by
    intro m hm
    obtain ⟨m', hm', rfl⟩ := List.mem_map.1 hm
    rw [Ne, Option.some.injEq]
    exact fun heq => h (List.mem_map.2 ⟨m', hm', heq⟩)
  have hfilter : (ms.map fun (k, v) => (some k, v)).filter (·.1 != some key)
      = ms.map fun (k, v) => (some k, v) :=
    List.filter_eq_self.2 fun m hm => by simpa using hother m hm
  rw [ofMembers, List.map_cons, tagged?, member?_cons_self hother,
    List.filter_cons_of_neg (by simp), hfilter]
  rfl

/-! ## What is readable -/

theorem isReadable_ofString (levels : Nat) (s : String) :
    isReadable levels (ofString s) = true := rfl

theorem isReadable_ofNat (levels : Nat) {n : Nat} (h : n < wordBound) :
    isReadable levels (ofNat n) = true := by
  rw [ofNat, isReadable, JsonNumber.overflows_natural_of_lt h]
  rfl

theorem isReadable_array {levels : Nat} {xs : List Json}
    (h : ∀ x ∈ xs, isReadable levels x = true) : isReadable (levels + 1) (array xs) = true := by
  have hall : elementsReadable levels xs = true := by
    induction xs with
    | nil => rfl
    | cons x xs ih =>
        rw [elementsReadable, h x List.mem_cons_self,
          ih fun y hy => h y (List.mem_cons_of_mem x hy)]
        rfl
  rw [isReadable, Nat.add_sub_cancel, hall]
  simp

theorem isReadable_ofMembers {levels : Nat} {ms : List (String × Json)}
    (h : ∀ m ∈ ms, isReadable levels m.2 = true) :
    isReadable (levels + 1) (ofMembers ms) = true := by
  have hall : membersReadable levels (ms.map fun (k, v) => (some k, v)) = true := by
    induction ms with
    | nil => rfl
    | cons m ms ih =>
        rw [List.map_cons, membersReadable, h m List.mem_cons_self,
          ih fun m' hm' => h m' (List.mem_cons_of_mem m hm')]
        rfl
  rw [ofMembers, isReadable, Nat.add_sub_cancel, hall]
  simp

end Json

end CounterMachine
