import DocTrace.Text.Utf8
import Mathlib.Algebra.Group.Nat.Defs
import Mathlib.Tactic.NormNum

/-! Decoding gives a text just for the bytes that encode it. A character that has begun settles the
high bits of its code point; every further byte brings six more. -/

namespace DocTrace.Text.Utf8

/-! ### Bytes that go on with a character -/

/-- The last bytes of the encoding of a code point, with six bits in each. -/
def tail (n : ℕ) : ℕ → List UInt8
  | 0 => []
  | more + 1 => (0x80 + n / 64 ^ more % 64).toUInt8 :: tail n more

theorem eq_toUInt8_iff {b : UInt8} {n : ℕ} (hn : n < 256) : b = n.toUInt8 ↔ b.toNat = n := by
  rw [← UInt8.toNat_inj]
  simp [Nat.mod_eq_of_lt hn]

/-- The code point has the high bits of an open character, and its next byte is in range. -/
def Open.Admits (o : Open) (n more : ℕ) : Prop :=
  n / 64 ^ (more + 1) = o.value ∧ o.low ≤ 0x80 + n / 64 ^ more % 64 ∧
    0x80 + n / 64 ^ more % 64 ≤ o.high

/-- The character after one more byte, when it goes on still. -/
def Open.next (o : Open) (b : UInt8) : Open :=
  ⟨o.start, o.first, o.read + 1, o.more - 1, 0x80, 0xBF, o.value * 64 + (b.toNat - 0x80)⟩

theorem map_cons_eq_ok_iff {x : Except Fault (List Char)} {c : Char} {s : List Char} :
    x.map (c :: ·) = .ok s ↔ ∃ s', s = c :: s' ∧ x = .ok s' := by
  cases x <;> simp [Except.map, eq_comm]

theorem decodeFrom_open_cons_iff {o : Open} {b : UInt8} {place : ℕ} {bytes : List UInt8}
    {s : List Char} : decodeFrom place (some o) (b :: bytes) = .ok s ↔
      (o.low ≤ b.toNat ∧ b.toNat ≤ o.high) ∧
        if o.more = 1 then
          ∃ s', s = .ofNat (o.next b).value :: s' ∧ decodeFrom (place + 1) none bytes = .ok s'
        else decodeFrom (place + 1) (some (o.next b)) bytes = .ok s := by
  have hcons : decodeFrom place (some o) (b :: bytes) =
      if b.toNat < o.low || o.high < b.toNat then
        .error ⟨o.start, o.read, o.first, .invalidContinuation⟩
      else if o.more = 1 then
        (decodeFrom (place + 1) none bytes).map (.ofNat (o.next b).value :: ·)
      else decodeFrom (place + 1) (some (o.next b)) bytes := rfl
  rw [hcons, ← map_cons_eq_ok_iff]
  by_cases hfits : o.low ≤ b.toNat ∧ b.toNat ≤ o.high
  · have hin : ¬(b.toNat < o.low || o.high < b.toNat) = true := by simpa using hfits
    rw [if_neg hin]
    split <;> simp [hfits]
  · have hout : (b.toNat < o.low || o.high < b.toNat) = true := by
      rw [Bool.or_eq_true, decide_eq_true_eq, decide_eq_true_eq]
      omega
    rw [if_pos hout]
    simp [hfits]

/-- A byte goes on with an open character just as the code points that it leaves say. -/
theorem Open.admits_iff {o : Open} (hlow : 0x80 ≤ o.low) (hhigh : o.high ≤ 0xBF) {b : UInt8}
    {n more : ℕ} {bytes rest : List UInt8} :
    (o.Admits n more ∧ b :: bytes = tail n (more + 1) ++ rest) ↔
      (o.low ≤ b.toNat ∧ b.toNat ≤ o.high) ∧ n / 64 ^ more = (o.next b).value ∧
        bytes = tail n more ++ rest := by
  rw [tail, List.cons_append, List.cons.injEq, eq_toUInt8_iff (by omega), Admits, next, pow_succ,
    ← Nat.div_div_eq_div_mul]
  dsimp only
  generalize n / 64 ^ more = q
  grind

theorem decodeFrom_open_iff {o : Open} {more : ℕ} (hmore : o.more = more + 1) (hlow : 0x80 ≤ o.low)
    (hhigh : o.high ≤ 0xBF) {place : ℕ} {bytes : List UInt8} {s : List Char} :
    decodeFrom place (some o) bytes = .ok s ↔ ∃ n rest s', (o.Admits n more ∧
      bytes = tail n (more + 1) ++ rest) ∧ s = .ofNat n :: s' ∧
        decodeFrom (place + (more + 1)) none rest = .ok s' := by
  induction more generalizing o place bytes with
  | zero =>
    cases bytes with
    | nil => simp [decodeFrom, tail]
    | cons b bytes =>
      rw [decodeFrom_open_cons_iff, if_pos hmore]
      simp only [Open.admits_iff hlow hhigh]
      simp only [pow_zero, Nat.div_one, tail, List.nil_append]
      constructor
      · rintro ⟨hfits, s', rfl, hrest⟩
        exact ⟨_, bytes, s', ⟨hfits, rfl, rfl⟩, rfl, hrest⟩
      · rintro ⟨n, rest, s', ⟨hfits, hn, rfl⟩, rfl, hrest⟩
        rw [hn]
        exact ⟨hfits, s', rfl, hrest⟩
  | succ more ih =>
    cases bytes with
    | nil => simp [decodeFrom, tail]
    | cons b bytes =>
      have hnext : (o.next b).more = more + 1 := by
        rw [Open.next, hmore]
        rfl
      have hadmits (n : ℕ) : (o.next b).Admits n more ↔ n / 64 ^ (more + 1) = (o.next b).value := by
        unfold Open.Admits Open.next
        dsimp only
        omega
      have hplace : place + 1 + (more + 1) = place + (more + 1 + 1) := by omega
      rw [decodeFrom_open_cons_iff, if_neg (by omega), ih hnext le_rfl le_rfl, hplace]
      simp only [Open.admits_iff hlow hhigh, hadmits]
      constructor
      · rintro ⟨hfits, n, rest, s', htail, hrest⟩
        exact ⟨n, rest, s', ⟨hfits, htail⟩, hrest⟩
      · rintro ⟨n, rest, s', ⟨hfits, htail⟩, hrest⟩
        exact ⟨hfits, n, rest, s', htail, hrest⟩

/-! ### First bytes -/

theorem sequence?_spec (b : UInt8) :
    match sequence? b with
    | none => b.toNat < 0xC2 ∨ 0xF4 < b.toNat
    | some (more, low, high) =>
      more = 1 ∧ 0xC2 ≤ b.toNat ∧ b.toNat ≤ 0xDF ∧ low = 0x80 ∧ high = 0xBF ∨
        more = 2 ∧ 0xE0 ≤ b.toNat ∧ b.toNat ≤ 0xEF ∧
          low = (if b.toNat = 0xE0 then 0xA0 else 0x80) ∧
          high = (if b.toNat = 0xED then 0x9F else 0xBF) ∨
        more = 3 ∧ 0xF0 ≤ b.toNat ∧ b.toNat ≤ 0xF4 ∧
          low = (if b.toNat = 0xF0 then 0x90 else 0x80) ∧
          high = (if b.toNat = 0xF4 then 0x8F else 0xBF) := by
  simp only [sequence?, Bool.and_eq_true, decide_eq_true_eq]
  split_ifs
  all_goals grind

/-- The first byte of a code point that takes more bytes, and how many these are. -/
def lead (n : ℕ) : ℕ × ℕ :=
  if n < 0x800 then (0xC0 + n / 64, 1)
  else if n < 0x10000 then (0xE0 + n / 64 ^ 2, 2)
  else (0xF0 + n / 64 ^ 3, 3)

theorem isValidChar_iff {n : ℕ} : n.isValidChar ↔ n < 0xD800 ∨ 0xDFFF < n ∧ n < 0x110000 := Iff.rfl

theorem encodeChar_of_ascii {b : UInt8} {c : Char} (hc : c.toNat = b.toNat) (hb : b.toNat < 0x80) :
    encodeChar c = [b] := by
  unfold encodeChar
  simp [hc, hb]

theorem encodeChar_of_lead {b : UInt8} {c : Char} {count : ℕ} (hc : 0x80 ≤ c.toNat)
    (h : lead c.toNat = (b.toNat, count)) : encodeChar c = b :: tail c.toNat count := by
  obtain ⟨hfirst, rfl⟩ : (lead c.toNat).1 = b.toNat ∧ (lead c.toNat).2 = count := by simp [h]
  have hbyte : b = (lead c.toNat).1.toUInt8 :=
    (eq_toUInt8_iff (hfirst ▸ b.toNat_lt)).2 hfirst.symm
  rw [hbyte]
  unfold encodeChar lead
  simp only [if_neg (not_lt.2 hc)]
  split_ifs <;> simp [tail]

theorem exists_lead {n : ℕ} (hvalid : n.isValidChar) (hn : 0x80 ≤ n) :
    ∃ (b : UInt8) (more low high : ℕ), lead n = (b.toNat, more + 1) ∧
      sequence? b = some (more + 1, low, high) := by
  rw [isValidChar_iff] at hvalid
  have hbyte : (lead n).1 < 256 := by
    unfold lead
    grind
  have hfirst : (lead n).1.toUInt8.toNat = (lead n).1 := (eq_toUInt8_iff hbyte).1 rfl
  have hspec := sequence?_spec (lead n).1.toUInt8
  generalize (lead n).1.toUInt8 = b at hfirst hspec
  unfold lead at hfirst
  cases hsequence : sequence? b with
  | none =>
    rw [hsequence] at hspec
    grind
  | some found =>
    obtain ⟨count, low, high⟩ := found
    rw [hsequence] at hspec
    refine ⟨b, count - 1, low, high, ?_, ?_⟩
    · unfold lead
      grind
    · grind

/-- The code points that a first byte leaves open are those of the characters that it begins. -/
theorem admits_first_iff {b : UInt8} {more low high : ℕ}
    (h : sequence? b = some (more + 1, low, high)) {place n : ℕ} :
    Open.Admits ⟨place, b, 1, more + 1, low, high, payload b (more + 1)⟩ n more ↔
      n.isValidChar ∧ 0x80 ≤ n ∧ lead n = (b.toNat, more + 1) := by
  have hspec := sequence?_spec b
  rw [h] at hspec
  simp only [Open.Admits, payload, Nat.isValidChar, lead]
  rcases hspec with ⟨hmore, hspec⟩ | ⟨hmore, hspec⟩ | ⟨hmore, hspec⟩
  · obtain rfl : more = 0 := by omega
    grind
  · obtain rfl : more = 1 := by omega
    grind
  · obtain rfl : more = 2 := by omega
    grind

/-! ### Texts -/

theorem toNat_ofNat {n : ℕ} (hn : n.isValidChar) : (Char.ofNat n).toNat = n := by
  rw [Char.ofNat, dif_pos hn]
  rfl

theorem length_tail (n more : ℕ) : (tail n more).length = more := by
  induction more with
  | zero => rfl
  | succ more ih => rw [tail, List.length_cons, ih]

theorem decodeFrom_encodeChar_append {c : Char} {place : ℕ} {rest : List UInt8} {s : List Char}
    (h : decodeFrom (place + (encodeChar c).length) none rest = .ok s) :
    decodeFrom place none (encodeChar c ++ rest) = .ok (c :: s) := by
  by_cases hc : c.toNat < 0x80
  · have hbyte : c.toNat = c.toNat.toUInt8.toNat := ((eq_toUInt8_iff (by omega)).1 rfl).symm
    rw [encodeChar_of_ascii hbyte (by omega)] at h ⊢
    rw [List.singleton_append, decodeFrom, if_pos (by omega), map_cons_eq_ok_iff, ← hbyte,
      Char.ofNat_toNat]
    exact ⟨s, rfl, h⟩
  · obtain ⟨b, more, low, high, hlead, hsequence⟩ := exists_lead c.valid (not_lt.1 hc)
    have hfirst := sequence?_spec b
    rw [hsequence] at hfirst
    rw [encodeChar_of_lead (by omega) hlead] at h ⊢
    rw [List.cons_append, decodeFrom, if_neg (by omega), hsequence]
    refine (decodeFrom_open_iff rfl (by grind) (by grind)).2
      ⟨c.toNat, rest, s, ⟨(admits_first_iff hsequence).2 ⟨c.valid, by omega, hlead⟩, rfl⟩, ?_, ?_⟩
    · rw [Char.ofNat_toNat]
    · rw [List.length_cons, length_tail] at h
      rwa [show place + 1 + (more + 1) = place + (more + 1 + 1) by omega]

theorem exists_of_decodeFrom_cons {b : UInt8} {place : ℕ} {bytes : List UInt8} {s : List Char}
    (h : decodeFrom place none (b :: bytes) = .ok s) : ∃ c rest s' place',
      b :: bytes = encodeChar c ++ rest ∧ s = c :: s' ∧ decodeFrom place' none rest = .ok s' := by
  by_cases hb : b.toNat < 0x80
  · rw [decodeFrom, if_pos hb, map_cons_eq_ok_iff] at h
    obtain ⟨s', rfl, hrest⟩ := h
    have hcode : (Char.ofNat b.toNat).toNat = b.toNat := toNat_ofNat (.inl (by omega))
    exact ⟨_, bytes, s', _, by rw [encodeChar_of_ascii hcode hb]; rfl, rfl, hrest⟩
  · have hfirst := sequence?_spec b
    rw [decodeFrom, if_neg hb] at h
    cases hsequence : sequence? b with
    | none => simp [hsequence] at h
    | some found =>
      obtain ⟨count, low, high⟩ := found
      rw [hsequence] at h hfirst
      obtain ⟨more, rfl⟩ : ∃ more, count = more + 1 := ⟨count - 1, by omega⟩
      obtain ⟨n, rest, s', ⟨hadmits, rfl⟩, rfl, hrest⟩ :=
        (decodeFrom_open_iff rfl (by grind) (by grind)).1 h
      obtain ⟨hvalid, hn, hlead⟩ := (admits_first_iff hsequence).1 hadmits
      refine ⟨_, rest, s', _, ?_, rfl, hrest⟩
      rw [← toNat_ofNat hvalid] at hn hlead
      rw [encodeChar_of_lead hn hlead, toNat_ofNat hvalid, List.cons_append]

/-- Decoding gives a text just for the bytes that encode it. -/
theorem decodeFrom_eq_ok_iff {place : ℕ} {bytes : List UInt8} {s : List Char} :
    decodeFrom place none bytes = .ok s ↔ bytes = encode s := by
  constructor
  · intro h
    induction s generalizing place bytes with
    | nil =>
      cases bytes with
      | nil => rfl
      | cons b bytes =>
        obtain ⟨c, rest, s', place', -, hs, -⟩ := exists_of_decodeFrom_cons h
        contradiction
    | cons c s ih =>
      cases bytes with
      | nil => simp [decodeFrom] at h
      | cons b bytes =>
        obtain ⟨c', rest, s', place', hbytes, hs, hrest⟩ := exists_of_decodeFrom_cons h
        obtain ⟨rfl, rfl⟩ := List.cons.inj hs
        rw [hbytes, ih hrest]
        rfl
  · rintro rfl
    induction s generalizing place with
    | nil => rfl
    | cons c s ih => exact decodeFrom_encodeChar_append ih

theorem decode_encode (s : List Char) : decode (encode s) = .ok s := decodeFrom_eq_ok_iff.2 rfl

theorem encodeChar_eq_utf8EncodeChar (c : Char) : encodeChar c = String.utf8EncodeChar c := by
  have hvalid : c.toNat.isValidChar := c.valid
  have hcode : c.val.toNat = c.toNat := rfl
  unfold encodeChar String.utf8EncodeChar
  rw [hcode]
  generalize c.toNat = n at hvalid
  rw [isValidChar_iff] at hvalid
  simp only [Nat.toUInt8_eq]
  grind

/-- The bytes that can be decoded are those that are valid in UTF-8. -/
theorem exists_decode_iff {bytes : List UInt8} :
    (∃ s, decode bytes = .ok s) ↔ bytes.toByteArray.IsValidUTF8 := by
  have hencode (s : List Char) : (encode s).toByteArray = s.utf8Encode := by
    rw [encode, funext encodeChar_eq_utf8EncodeChar]
    rfl
  simp only [decode, decodeFrom_eq_ok_iff]
  constructor
  · rintro ⟨s, rfl⟩
    exact ⟨s, hencode s⟩
  · rintro ⟨s, hbytes⟩
    rw [← hencode] at hbytes
    exact ⟨s, List.toByteArray_inj.1 hbytes⟩

end DocTrace.Text.Utf8
