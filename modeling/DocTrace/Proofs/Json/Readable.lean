import DocTrace.Json.Reader
import DocTrace.Proofs.Number.Written
import DocTrace.Proofs.Result

/-! What a reader can hand out. Integers are bounded by their greatest number of
digits, other numbers are in canonical form, the members of an object have different
names, and arrays and objects are nested no deeper than the reader goes. The property
holds along every run: each step puts together values that have it. -/

namespace DocTrace.Json

/-- Documents that are read as they are written, with room for so many arrays and objects
around each other. -/
inductive Readable : ℕ → Json → Prop
  | null {room} : Readable room .null
  | bool {room} (b : Bool) : Readable room (.bool b)
  | int {room} {i : ℤ} (h : i.natAbs < 10 ^ Number.maxDigits) : Readable room (.int i)
  | float {room} {x : Binary64} (h : x.IsCanonical) : Readable room (.float x)
  | str {room} (s : String) : Readable room (.str s)
  | array {room} {items : List Json} (h : ∀ j ∈ items, Readable room j) :
    Readable (room + 1) (.array items)
  | object {room} {members : List (String × Json)} (hkeys : (members.map (·.1)).Nodup)
    (h : ∀ m ∈ members, Readable room m.2) : Readable (room + 1) (.object members)

theorem Readable.mono {room more : ℕ} {j : Json} (h : Readable room j) (hle : room ≤ more) :
    Readable more j := by
  induction h generalizing more with
  | null => exact .null
  | bool b => exact .bool b
  | int h => exact .int h
  | float h => exact .float h
  | str s => exact .str s
  | @array room items _ ih =>
    obtain ⟨n, rfl⟩ : ∃ n, more = n + 1 := ⟨more - 1, by omega⟩
    exact .array fun j hj => ih j hj (by omega)
  | @object room members hkeys _ ih =>
    obtain ⟨n, rfl⟩ : ∃ n, more = n + 1 := ⟨more - 1, by omega⟩
    exact .object hkeys fun m hm => ih m hm (by omega)

/-! ### Atoms -/

theorem readable_of_readNumber {s : List Char} {j : Json} (h : readNumber s = .ok j) (room : ℕ) :
    Readable room j := by
  unfold readNumber at h
  split at h
  · simp at h
  · dsimp only at h
    obtain ⟨j', hvalue, hrest⟩ := exists_of_bind_ok h
    obtain rfl : j' = j := by
      split at hrest
      · exact Except.ok.inj hrest
      · simp at hrest
    split at hvalue
    · split at hvalue
      · next i hi =>
        obtain rfl := Except.ok.inj hvalue
        exact .int (Number.natAbs_lt_of_readInt hi)
      · simp at hvalue
      · simp at hvalue
    · split at hvalue
      · next x hx =>
        obtain rfl := Except.ok.inj hvalue
        exact .float (Number.isCanonical_of_readFloat? hx)
      · simp at hvalue

theorem readable_of_readAtom {s : List Char} {j : Json} (h : readAtom s = .ok j) (room : ℕ) :
    Readable room j := by
  unfold readAtom at h
  split at h
  · exact Except.ok.inj h ▸ .null
  · exact Except.ok.inj h ▸ .bool true
  · exact Except.ok.inj h ▸ .bool false
  · exact Except.ok.inj h ▸ .float trivial
  · exact Except.ok.inj h ▸ .float trivial
  · exact Except.ok.inj h ▸ .float trivial
  · exact readable_of_readNumber h room

/-! ### Runs -/

/-- The values that a frame holds so far. -/
def Frame.values : Frame → List Json
  | .array items => items
  | .object members _ => members.entries.map (·.2)

/-- Every open array and object holds values that leave room for those around it. -/
def StackReadable : List Frame → Prop
  | [] => True
  | f :: rest => rest.length < maxDepth ∧
      (∀ j ∈ f.values, Readable (maxDepth - (rest.length + 1)) j) ∧ StackReadable rest

/-- What holds of the reader at any time. -/
structure State.Sound (s : State) : Prop where
  stack : StackReadable s.stack
  done : ∀ j, s.phase = .done j → Readable maxDepth j

theorem State.Sound.withPhase {s : State} (h : s.Sound) {phase : Phase}
    (hphase : ∀ j, phase ≠ .done j) : State.Sound { s with phase := phase } :=
  ⟨h.stack, fun j hj => absurd hj (hphase j)⟩

theorem State.Sound.supply {s : State} (h : s.Sound) {j : Json}
    (hj : Readable (maxDepth - s.stack.length) j) : (s.supply j).Sound := by
  obtain ⟨stack, phase⟩ := s
  have hstack := h.stack
  match stack with
  | [] =>
    refine ⟨trivial, fun i hi => ?_⟩
    simp only [State.supply, Phase.done.injEq] at hi
    exact hi ▸ hj
  | .array items :: rest =>
    obtain ⟨hdepth, hitems, hrest⟩ := hstack
    refine ⟨⟨hdepth, ?_, hrest⟩, fun i hi => by simp [State.supply] at hi⟩
    intro i hi
    rcases List.mem_append.1 hi with hi | hi
    · exact hitems i hi
    · exact List.mem_singleton.1 hi ▸ hj
  | .object members key :: rest =>
    obtain ⟨hdepth, hmembers, hrest⟩ := hstack
    refine ⟨⟨hdepth, ?_, hrest⟩, fun i hi => by simp [State.supply] at hi⟩
    intro i hi
    obtain ⟨⟨k, v⟩, hm, rfl⟩ := List.mem_map.1 hi
    have hfind := Table.find?_eq_some_iff.2 hm
    rw [Table.find?_put] at hfind
    split at hfind
    · exact Option.some.inj hfind ▸ hj
    · exact hmembers v (List.mem_map.2 ⟨_, Table.find?_eq_some_iff.1 hfind, rfl⟩)

theorem State.Sound.close {s t : State} (h : s.Sound) {bracket : Char}
    (hclose : s.close bracket = .ok t) : t.Sound := by
  obtain ⟨stack, phase⟩ := s
  have hstack := h.stack
  match stack with
  | [] => simp [State.close] at hclose
  | .array items :: rest =>
    obtain ⟨hdepth, hitems, hrest⟩ := hstack
    simp only [State.close] at hclose
    split at hclose
    -- The closed array is one level further out, where there is room for one more.
    · obtain rfl := Except.ok.inj hclose
      refine State.Sound.supply ⟨hrest, fun j hj => by simp at hj⟩ ?_
      obtain ⟨n, hn⟩ : ∃ n, maxDepth - rest.length = n + 1 := ⟨maxDepth - rest.length - 1, by omega⟩
      rw [hn]
      exact .array fun j hj => (hitems j hj).mono (by omega)
    · simp at hclose
  | .object members key :: rest =>
    obtain ⟨hdepth, hmembers, hrest⟩ := hstack
    simp only [State.close] at hclose
    split at hclose
    · obtain rfl := Except.ok.inj hclose
      refine State.Sound.supply ⟨hrest, fun j hj => by simp at hj⟩ ?_
      obtain ⟨n, hn⟩ : ∃ n, maxDepth - rest.length = n + 1 := ⟨maxDepth - rest.length - 1, by omega⟩
      rw [hn]
      refine .object members.distinct fun m hm => (hmembers m.2 ?_).mono (by omega)
      exact List.mem_map.2 ⟨m, hm, rfl⟩
    · simp at hclose

theorem State.Sound.push {s t : State} (h : s.Sound) {frame : Frame} {phase : Phase}
    (hframe : frame.values = []) (hphase : ∀ j, phase ≠ .done j)
    (hpush : push s frame phase = .ok t) : t.Sound := by
  unfold Json.push at hpush
  split at hpush
  · next hdepth =>
    obtain rfl := Except.ok.inj hpush
    exact ⟨⟨hdepth, by simp [hframe], h.stack⟩, fun j hj => absurd hj (hphase j)⟩
  · simp at hpush

theorem State.Sound.stepBetween {s t : State} (h : s.Sound) {c : Char}
    (hstep : stepBetween s c = .ok t) : t.Sound := by
  unfold Json.stepBetween at hstep
  split at hstep
  · exact Except.ok.inj hstep ▸ h
  · split at hstep
    · -- A value is expected.
      split at hstep
      · exact Except.ok.inj hstep ▸ h.withPhase (by simp)
      split at hstep
      · exact h.push rfl (by simp) hstep
      split at hstep
      · exact h.push rfl (by simp) hstep
      split at hstep
      · exact h.close hstep
      split at hstep
      · exact Except.ok.inj hstep ▸ h.withPhase (by simp)
      · simp at hstep
    · -- The name of a member is expected.
      split at hstep
      · exact Except.ok.inj hstep ▸ h.withPhase (by simp)
      split at hstep
      · exact h.close hstep
      · simp at hstep
    · split at hstep
      · exact Except.ok.inj hstep ▸ h.withPhase (by simp)
      · simp at hstep
    · -- A comma or the end of what is open is expected.
      split at hstep
      · split at hstep
        · exact Except.ok.inj hstep ▸ h.withPhase (by simp)
        · exact Except.ok.inj hstep ▸ h.withPhase (by simp)
        · simp at hstep
      · exact h.close hstep
    · simp at hstep

theorem unitPhase_ne_done (isName : Bool) (chars : List Char) (high : Option ℕ) (n : ℕ) (j : Json) :
    unitPhase isName chars high n ≠ .done j := by
  unfold unitPhase
  split
  · split <;> simp
  · split <;> simp

theorem State.Sound.stepString {s t : State} (h : s.Sound) {isName : Bool} {chars : List Char}
    {high : Option ℕ} {escape : EscapeState} {c : Char}
    (hstep : stepString s isName chars high escape c = .ok t) : t.Sound := by
  unfold Json.stepString at hstep
  split at hstep
  · split at hstep
    · dsimp only at hstep
      split at hstep
      · split at hstep
        · next members key rest hstack =>
          obtain rfl := Except.ok.inj hstep
          have hframe := h.stack
          rw [hstack] at hframe
          exact ⟨hframe, by simp⟩
        · simp at hstep
      · exact Except.ok.inj hstep ▸ h.supply (.str _)
    split at hstep
    · exact Except.ok.inj hstep ▸ h.withPhase (by simp)
    split at hstep
    · simp at hstep
    · exact Except.ok.inj hstep ▸ h.withPhase (by simp)
  · split at hstep
    · exact Except.ok.inj hstep ▸ h.withPhase (by simp)
    split at hstep
    · exact Except.ok.inj hstep ▸ h.withPhase (by simp)
    · simp at hstep
  · split at hstep
    · simp at hstep
    split at hstep
    · exact Except.ok.inj hstep ▸ h.withPhase (unitPhase_ne_done _ _ _ _)
    · exact Except.ok.inj hstep ▸ h.withPhase (by simp)

theorem State.Sound.step {s t : State} (h : s.Sound) {c : Char} (hstep : step s c = .ok t) :
    t.Sound := by
  unfold Json.step at hstep
  split at hstep
  · exact h.stepString hstep
  · split at hstep
    · exact Except.ok.inj hstep ▸ h.withPhase (by simp)
    · obtain ⟨j, hj, hnext⟩ := exists_of_bind_ok hstep
      exact (h.supply (readable_of_readAtom hj _)).stepBetween hnext
  · exact h.stepBetween hstep

theorem State.Sound.run {s t : State} (h : s.Sound) {cs : List Char} (hrun : run s cs = .ok t) :
    t.Sound := by
  induction cs generalizing s with
  | nil => exact Except.ok.inj hrun ▸ h
  | cons c cs ih =>
    unfold Json.run at hrun
    split at hrun
    · next hstep => exact ih (h.step hstep) hrun
    · simp at hrun

theorem State.Sound.finish {s : State} (h : s.Sound) {j : Json} (hfinish : finish s = .ok j) :
    Readable maxDepth j := by
  unfold Json.finish at hfinish
  split at hfinish
  · next hphase => exact Except.ok.inj hfinish ▸ h.done _ hphase
  · exact readable_of_readAtom hfinish _
  · obtain ⟨_, -, hnone⟩ := exists_of_bind_ok hfinish
    simp at hnone
  · simp at hfinish

/-- Every document that is read leaves room for no more than the reader can go through. -/
theorem readable_of_read {s : String} {j : Json} (h : read s = .ok j) : Readable maxDepth j := by
  obtain ⟨t, hrun, hfinish⟩ := exists_of_bind_ok h
  have hstart : State.Sound {} := ⟨trivial, by simp⟩
  exact (hstart.run hrun).finish hfinish

end DocTrace.Json
