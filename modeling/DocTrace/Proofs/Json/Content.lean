import DocTrace.Disk
import DocTrace.Proofs.Json.RoundTrip
import DocTrace.Proofs.Text.Utf8

/-! Written documents as the content of a file. On one line they have only printable
characters of ASCII, each of which is one byte, and none of which is changed when the
text of the file is taken. -/

namespace DocTrace.Json

/-- The characters from the blank up to the tilde. -/
def IsPlain (c : Char) : Prop := 32 ≤ c.toNat ∧ c.toNat < 127

theorem isPlain_of_between (low high : Char) {c : Char} (h : low.val ≤ c.val ∧ c.val ≤ high.val)
    (hlow : 32 ≤ low.toNat) (hhigh : high.toNat < 127) : IsPlain c := by
  simp only [UInt32.le_iff_toNat_le] at h
  exact ⟨hlow.trans h.1, h.2.trans_lt hhigh⟩

theorem isPlain_of_isAtomChar {c : Char} (h : isAtomChar c = true) : IsPlain c := by
  simp only [isAtomChar, Char.isAlphanum, Bool.or_eq_true, decide_eq_true_eq] at h
  rcases h with (((hletter | hdigit) | rfl) | rfl) | rfl
  · rcases Bool.or_eq_true_iff.1 hletter with hupper | hlower
    · exact isPlain_of_between 'A' 'Z' (of_decide_eq_true hupper) (by decide) (by decide)
    · have hrange := (Bool.and_eq_true_iff.1 hlower).imp of_decide_eq_true of_decide_eq_true
      exact isPlain_of_between 'a' 'z' hrange (by decide) (by decide)
  · have hrange := Number.toNat_of_isDigit hdigit
    exact ⟨by omega, by omega⟩
  all_goals constructor <;> decide

theorem isPlain_hexDigit (n : ℕ) : IsPlain (hexDigit n) := by
  have hall : ∀ k : Fin 16, 32 ≤ ((Nat.toDigits 16 k).headD '0').toNat ∧
      ((Nat.toDigits 16 k).headD '0').toNat < 127 := by decide
  exact hall ⟨n % 16, Nat.mod_lt _ (by decide)⟩

theorem isPlain_unitEscape (n : ℕ) : ∀ c ∈ unitEscape n, IsPlain c := by
  intro c hc
  simp only [unitEscape, List.mem_cons, List.not_mem_nil, or_false] at hc
  rcases hc with rfl | rfl | rfl | rfl | rfl | rfl
  · constructor <;> decide
  · constructor <;> decide
  all_goals exact isPlain_hexDigit _

theorem isPlain_escape (d : Char) : ∀ c ∈ escape d, IsPlain c := by
  intro c hc
  unfold escape at hc
  dsimp only at hc
  split at hc
  · exact isPlain_unitEscape _ c hc
  · rcases List.mem_append.1 hc with hc | hc
    · exact isPlain_unitEscape _ c hc
    · exact isPlain_unitEscape _ c hc

theorem isPlain_encodeChar (d : Char) : ∀ c ∈ encodeChar .ascii d, IsPlain c := by
  have hencoded := encoded_encodeChar .ascii d
  generalize encodeChar .ascii d = written at hencoded ⊢
  cases hencoded with
  | @simple e he =>
    have hall : ∀ e ∈ ['"', '\\', 'n', 'r', 't', 'f', 'b'], 32 ≤ e.toNat ∧ e.toNat < 127 := by
      simp
    intro c hc
    rcases List.mem_cons.1 hc with rfl | hc
    · constructor <;> decide
    · exact List.mem_singleton.1 hc ▸ hall e he
  | escaped => exact isPlain_escape d
  | plain _ _ hcontrol hascii =>
    intro c hc
    rw [List.mem_singleton.1 hc]
    exact ⟨Nat.not_lt.1 hcontrol, hascii rfl⟩

theorem isPlain_quoted (s : String) : ∀ c ∈ quoted .ascii s, IsPlain c := by
  intro c hc
  simp only [quoted, List.cons_append, List.mem_cons, List.mem_append, List.mem_flatMap,
    List.not_mem_nil, or_false] at hc
  rcases hc with rfl | ⟨d, -, hd⟩ | rfl
  · constructor <;> decide
  · exact isPlain_encodeChar d c hd
  · constructor <;> decide

theorem isPlain_items {items : List Json}
    (h : ∀ j ∈ items, ∀ c ∈ compactChars .ascii j, IsPlain c) :
    ∀ c ∈ compactItems .ascii items, IsPlain c := by
  induction items with
  | nil => simp [compactItems]
  | cons j js ih =>
    have hfirst := h j (List.mem_cons_self ..)
    have hrest := ih fun i hi => h i (List.mem_cons_of_mem j hi)
    cases js with
    | nil => exact hfirst
    | cons k ks =>
      intro c hc
      rw [compactItems, List.mem_append, List.mem_cons] at hc
      rcases hc with hc | rfl | hc
      · exact hfirst c hc
      · constructor <;> decide
      · exact hrest c hc
      · simp

theorem isPlain_members {members : List (String × Json)}
    (h : ∀ m ∈ members, ∀ c ∈ compactChars .ascii m.2, IsPlain c) :
    ∀ c ∈ compactMembers .ascii members, IsPlain c := by
  have hmember (m : String × Json) (hm : ∀ c ∈ compactChars .ascii m.2, IsPlain c) :
      ∀ c ∈ quoted .ascii m.1 ++ ':' :: compactChars .ascii m.2, IsPlain c := by
    intro c hc
    rw [List.mem_append, List.mem_cons] at hc
    rcases hc with hc | rfl | hc
    · exact isPlain_quoted _ c hc
    · constructor <;> decide
    · exact hm c hc
  induction members with
  | nil => simp [compactMembers]
  | cons m ms ih =>
    have hfirst := hmember m (h m (List.mem_cons_self ..))
    have hrest := ih fun i hi => h i (List.mem_cons_of_mem m hi)
    cases ms with
    | nil => exact hfirst
    | cons n ns =>
      intro c hc
      rw [compactMembers, List.mem_append, List.mem_cons] at hc
      rcases hc with hc | rfl | hc
      · exact hfirst c hc
      · constructor <;> decide
      · exact hrest c hc
      · simp

theorem isPlain_compactChars {room : ℕ} {j : Json} (h : Readable room j) :
    ∀ c ∈ compactChars .ascii j, IsPlain c := by
  have hatomic {j : Json} (h : Readable 0 j) (hatom : IsAtom j) :
      ∀ c ∈ compactChars .ascii j, IsPlain c := by
    rw [compactChars_atom hatom]
    exact fun c hc => isPlain_of_isAtomChar ((atom_chars h hatom .ascii).2 c hc)
  induction h with
  | null => exact hatomic .null trivial
  | bool b => exact hatomic (.bool b) trivial
  | int hi => exact hatomic (.int hi) trivial
  | float hx => exact hatomic (.float hx) trivial
  | str s => exact isPlain_quoted s
  | @array _ items _ ih =>
    intro c hc
    rw [compactChars, List.cons_append, List.mem_cons, List.mem_append, List.mem_singleton] at hc
    rcases hc with rfl | hc | rfl
    · constructor <;> decide
    · exact isPlain_items ih c hc
    · constructor <;> decide
  | @object _ members _ _ ih =>
    intro c hc
    rw [compactChars, List.cons_append, List.mem_cons, List.mem_append, List.mem_singleton] at hc
    rcases hc with rfl | hc | rfl
    · constructor <;> decide
    · exact isPlain_members ih c hc
    · constructor <;> decide

/-! ### Files -/

theorem unifyNewlines_eq_self {s : List Char} (h : ∀ c ∈ s, IsPlain c) :
    Text.unifyNewlines s = s := by
  induction s with
  | nil => rfl
  | cons c s ih =>
    have hc : c ≠ '\r' := by
      rintro rfl
      exact absurd (h _ (List.mem_cons_self ..)).1 (by decide)
    have hrest := ih fun d hd => h d (List.mem_cons_of_mem c hd)
    unfold Text.unifyNewlines
    split <;> simp_all

/-- The text of a file that holds a document is the text of the document. -/
theorem textOf_compact {room : ℕ} {j : Json} (h : Readable room j) :
    Disk.textOf (Text.Utf8.encode j.compact.toList) = .ok j.compact := by
  have hplain := isPlain_compactChars h
  rw [compact, String.toList_ofList, Disk.textOf, Text.Utf8.decode_encode]
  simp [Except.map, unifyNewlines_eq_self hplain]

end DocTrace.Json
