import DocTrace.Notice
import Mathlib.Data.List.Forall2

/-! Results of steps that can break off, one after the other and over a list. -/

namespace DocTrace

theorem bind_eq_ok_iff {x : Except ε α} {f : α → Except ε β} {b : β} :
    x.bind f = .ok b ↔ ∃ a, x = .ok a ∧ f a = .ok b := by
  cases x <;> simp [Except.bind]

theorem exists_of_bind_ok {x : Except ε α} {f : α → Except ε β} {b : β} (h : x.bind f = .ok b) :
    ∃ a, x = .ok a ∧ f a = .ok b := bind_eq_ok_iff.1 h

theorem exists_of_map_ok {x : Except ε α} {f : α → β} {b : β} (h : x.map f = .ok b) :
    ∃ a, x = .ok a ∧ f a = b := by
  cases x with
  | error e => simp [Except.map] at h
  | ok a => exact ⟨a, rfl, Except.ok.inj h⟩

theorem mapError_eq_ok_iff {f : ε → δ} {x : Except ε α} {a : α} :
    x.mapError f = .ok a ↔ x = .ok a := by
  cases x <;> simp [Except.mapError]

theorem bind_eq_error_iff {x : Except ε α} {f : α → Except ε β} {e : ε} :
    x.bind f = .error e ↔ x = .error e ∨ ∃ a, x = .ok a ∧ f a = .error e := by
  cases x <;> simp [Except.bind]

theorem mapError_eq_error_iff {f : ε → δ} {x : Except ε α} {e : δ} :
    x.mapError f = .error e ↔ ∃ fault, x = .error fault ∧ f fault = e := by
  cases x <;> simp [Except.mapError]

theorem Told.result_andThen (first : Told ε α) (next : α → Told ε β) :
    (first.andThen next).result = first.result.bind fun a => (next a).result := by
  unfold andThen
  split <;> simp [*, Except.bind]

/-- Whether a step breaks off with a fault of some kind. -/
def FailsIn (P : ε → Prop) (x : Except ε α) : Prop := ∃ fault, x = .error fault ∧ P fault

@[simp] theorem not_failsIn_ok {P : ε → Prop} (a : α) : ¬FailsIn P (.ok a) :=
  fun ⟨_, h, _⟩ => nomatch h

@[simp] theorem failsIn_error_iff {P : ε → Prop} {fault : ε} :
    FailsIn P (.error fault : Except ε α) ↔ P fault := by
  simp [FailsIn]

theorem failsIn_bind_iff {P : ε → Prop} {x : Except ε α} {f : α → Except ε β} :
    FailsIn P (x.bind f) ↔ FailsIn P x ∨ ∃ a, x = .ok a ∧ FailsIn P (f a) := by
  cases x <;> simp [Except.bind]

theorem failsIn_map_iff {P : ε → Prop} {x : Except ε α} {f : α → β} :
    FailsIn P (x.map f) ↔ FailsIn P x := by
  cases x <;> simp [Except.map]

theorem exists_mapM_iff (f : α → Except ε β) (items : List α) :
    (∃ found, items.mapM f = .ok found) ↔ ∀ a ∈ items, ∃ b, f a = .ok b := by
  induction items with
  | nil => exact iff_of_true ⟨[], rfl⟩ fun _ h => absurd h List.not_mem_nil
  | cons a rest ih =>
    rw [List.forall_mem_cons, ← ih, List.mapM_cons]
    cases f a with
    | error fault => exact iff_of_false (fun ⟨_, h⟩ => nomatch h) fun ⟨⟨_, h⟩, _⟩ => nomatch h
    | ok b =>
      cases rest.mapM f with
      | error fault => exact iff_of_false (fun ⟨_, h⟩ => nomatch h) fun ⟨_, ⟨_, h⟩⟩ => nomatch h
      | ok more => exact iff_of_true ⟨b :: more, rfl⟩ ⟨⟨b, rfl⟩, more, rfl⟩

theorem mapM_eq_ok_iff {f : α → Except ε β} {items : List α} {found : List β} :
    items.mapM f = .ok found ↔ List.Forall₂ (fun a b => f a = .ok b) items found := by
  induction items generalizing found with
  | nil => cases found <;> simp [pure, Except.pure]
  | cons a rest ih =>
    rw [List.mapM_cons]
    cases ha : f a with
    | error fault => cases found <;> simp [bind, Except.bind, ha]
    | ok b =>
      cases hrest : rest.mapM f <;> cases found <;>
        simp [bind, Except.bind, pure, Except.pure, ← ih, ha, hrest]

/-- A list breaks off at the first of its items that does. -/
theorem mapM_eq_error_iff {f : α → Except ε β} {items : List α} {e : ε} :
    items.mapM f = .error e ↔ ∃ before a after, items = before ++ a :: after ∧
      (∀ b ∈ before, ∃ c, f b = .ok c) ∧ f a = .error e := by
  induction items with
  | nil => simp [pure, Except.pure]
  | cons first rest ih =>
    have hcons : (first :: rest).mapM f = .error e ↔
        f first = .error e ∨ ∃ c, f first = .ok c ∧ rest.mapM f = .error e := by
      rw [List.mapM_cons]
      cases f first <;> cases rest.mapM f <;> simp [bind, Except.bind, pure, Except.pure]
    rw [hcons, ih]
    constructor
    · rintro (hfirst | ⟨c, hfirst, before, a, after, rfl, hbefore, ha⟩)
      · exact ⟨[], first, rest, rfl, by simp, hfirst⟩
      · exact ⟨first :: before, a, after, rfl, List.forall_mem_cons.2 ⟨⟨c, hfirst⟩, hbefore⟩, ha⟩
    · rintro ⟨before, a, after, hitems, hbefore, ha⟩
      cases before with
      | nil =>
        obtain ⟨rfl, -⟩ := List.cons.inj hitems
        exact .inl ha
      | cons b before =>
        obtain ⟨rfl, rfl⟩ := List.cons.inj hitems
        obtain ⟨⟨c, hfirst⟩, hrest⟩ := List.forall_mem_cons.1 hbefore
        exact .inr ⟨c, hfirst, before, a, after, rfl, hrest, ha⟩

theorem exists_of_forall₂ {R : α → β → Prop} {items : List α} {found : List β}
    (h : List.Forall₂ R items found) {a : α} (ha : a ∈ items) : ∃ b ∈ found, R a b := by
  induction h with
  | nil => contradiction
  | @cons first b rest more hfirst _ ih =>
    rcases List.mem_cons.1 ha with rfl | ha
    · exact ⟨b, List.mem_cons_self .., hfirst⟩
    · obtain ⟨c, hc, hrelated⟩ := ih ha
      exact ⟨c, List.mem_cons_of_mem _ hc, hrelated⟩

theorem exists_of_mapM {f : α → Except ε β} {items : List α} {found : List β}
    (h : items.mapM f = .ok found) {a : α} (ha : a ∈ items) : ∃ b ∈ found, f a = .ok b :=
  exists_of_forall₂ (mapM_eq_ok_iff.1 h) ha

theorem exists_of_mem_mapM {f : α → Except ε β} {items : List α} {found : List β}
    (h : items.mapM f = .ok found) {b : β} (hb : b ∈ found) : ∃ a ∈ items, f a = .ok b :=
  exists_of_forall₂ (mapM_eq_ok_iff.1 h).flip hb

end DocTrace
