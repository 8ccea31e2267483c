import DocTrace.Proofs.Json.Atom

/-! Written documents are read back. From a state in which a value may come, the
characters of a document lead to the state in which its value is supplied. The proof
follows the nesting of the document and, inside an array or an object, its list; a
string is read character by character, each with the escape it is written with. -/

namespace DocTrace.Json

theorem run_cons_ok {s t : State} {c : Char} (h : step s c = .ok t) (cs : List Char) :
    run s (c :: cs) = run t cs := by
  rw [run, h]

/-! ### Strings -/

theorem hexValue?_hexDigit (n : ℕ) : hexValue? (hexDigit n) = some (n % 16) := by
  have hall : ∀ k : Fin 16, hexValue? ((Nat.toDigits 16 k).headD '0') = some k.val := by decide
  exact hall ⟨n % 16, Nat.mod_lt _ (by decide)⟩

variable {stack : List Frame} {isName : Bool} {chars : List Char}

theorem run_unitEscape {n : ℕ} (hn : n < 0x10000) (high : Option ℕ) (rest : List Char) :
    run ⟨stack, .string isName chars high .plain⟩ (unitEscape n ++ rest) =
      run ⟨stack, unitPhase isName chars high n⟩ rest := by
  have hvalue : ((n / 4096 % 16 * 16 + n / 256 % 16) * 16 + n / 16 % 16) * 16 + n % 16 = n := by
    omega
  simp [unitEscape, run, step, stepString, hexValue?_hexDigit, hvalue]

theorem toNat_lt (c : Char) : c.toNat < 0x110000 ∧ ¬(0xD800 ≤ c.toNat ∧ c.toNat < 0xE000) := by
  have hvalid : c.toNat.isValidChar := c.valid
  rcases hvalid with h | h <;> constructor <;> omega

theorem run_escape (c : Char) (rest : List Char) :
    run ⟨stack, .string isName chars none .plain⟩ (escape c ++ rest) =
      run ⟨stack, .string isName (c :: chars) none .plain⟩ rest := by
  obtain ⟨hlt, hsurrogate⟩ := toNat_lt c
  unfold escape
  dsimp only
  split
  · next hfirst =>
    have hphase :
      unitPhase isName chars none c.toNat = .string isName (c :: chars) none .plain := by
      rw [unitPhase, if_neg (by simp; omega), if_neg (by simp; omega), settle]
      simp [Char.ofNat_toNat]
    rw [run_unitEscape hfirst, hphase]
  · next hlater =>
    have hhigh : unitPhase isName chars none (0xD800 + (c.toNat - 0x10000) / 1024) =
        .string isName chars (some (0xD800 + (c.toNat - 0x10000) / 1024)) .plain := by
      rw [unitPhase, if_neg (by simp; omega), if_pos (by simp; omega), settle]
      simp
    have hlow : unitPhase isName chars (some (0xD800 + (c.toNat - 0x10000) / 1024))
        (0xDC00 + (c.toNat - 0x10000) % 1024) = .string isName (c :: chars) none .plain := by
      have hvalue : 0x10000 + (0xD800 + (c.toNat - 0x10000) / 1024 - 0xD800) * 1024 +
          (0xDC00 + (c.toNat - 0x10000) % 1024 - 0xDC00) = c.toNat := by omega
      rw [unitPhase, if_pos (by simp; omega)]
      simp only [hvalue, Char.ofNat_toNat]
    rw [List.append_assoc, run_unitEscape (by omega), hhigh, run_unitEscape (by omega), hlow]

/-- How a character stands in a written string. -/
inductive Encoded (charset : Charset) (c : Char) : List Char → Prop
  | simple {d : Char} (hd : d ∈ ['"', '\\', 'n', 'r', 't', 'f', 'b'])
    (hc : simpleEscape? d = some c) : Encoded charset c ['\\', d]
  | escaped : Encoded charset c (escape c)
  | plain (hquote : c ≠ '"') (hslash : c ≠ '\\') (hcontrol : ¬c.toNat < 32)
    (hascii : charset = .ascii → c.toNat < 127) : Encoded charset c [c]

theorem encoded_encodeChar (charset : Charset) (c : Char) :
    Encoded charset c (encodeChar charset c) := by
  unfold encodeChar
  split
  · next h => exact .simple (by simp) (by rw [h]; rfl)
  split
  · next h => exact .simple (by simp) (by rw [h]; rfl)
  split
  · next h => exact .simple (by simp) (by rw [h]; rfl)
  split
  · next h => exact .simple (by simp) (by rw [h]; rfl)
  split
  · next h => exact .simple (by simp) (by rw [h]; rfl)
  split
  · next h =>
    have hc : c = '\x0c' := Char.ext (UInt32.toNat_inj.1 h)
    exact .simple (by simp) (by rw [hc]; rfl)
  split
  · next h =>
    have hc : c = '\x08' := Char.ext (UInt32.toNat_inj.1 h)
    exact .simple (by simp) (by rw [hc]; rfl)
  split
  · exact .escaped
  split
  · next hquote hslash _ _ _ _ _ hcontrol hascii =>
    exact .plain hquote hslash hcontrol fun _ => hascii
  split
  · exact .escaped
  · next hquote hslash _ _ _ _ _ hcontrol _ hunicode =>
    exact .plain hquote hslash hcontrol fun hascii => absurd hascii hunicode

theorem run_encodeChar (charset : Charset) (c : Char) (rest : List Char) :
    run ⟨stack, .string isName chars none .plain⟩ (encodeChar charset c ++ rest) =
      run ⟨stack, .string isName (c :: chars) none .plain⟩ rest := by
  have hencoded := encoded_encodeChar charset c
  generalize encodeChar charset c = written at hencoded ⊢
  cases hencoded with
  | @simple d hd hc =>
    have hunit : d ≠ 'u' := by
      rintro rfl
      simp at hd
    simp [run, step, stepString, settle, hunit, hc]
  | escaped => exact run_escape c rest
  | plain hquote hslash hcontrol =>
    exact run_cons_ok (by simp [step, stepString, settle, hquote, hslash, hcontrol]) rest

theorem run_encoded (charset : Charset) (s : List Char) (rest : List Char) :
    run ⟨stack, .string isName chars none .plain⟩ (s.flatMap (encodeChar charset) ++ rest) =
      run ⟨stack, .string isName (s.reverse ++ chars) none .plain⟩ rest := by
  induction s generalizing chars with
  | nil => rfl
  | cons c s ih =>
    rw [List.flatMap_cons, List.append_assoc, run_encodeChar, ih, List.reverse_cons,
      List.append_assoc]
    rfl

theorem run_quoted (charset : Charset) (s : String) (mayClose : Bool) (rest : List Char) :
    run ⟨stack, .value mayClose⟩ (quoted charset s ++ rest) =
      run (State.supply ⟨stack, .next⟩ (.str s)) rest := by
  have hopen : step ⟨stack, .value mayClose⟩ '"' = .ok ⟨stack, .string false [] none .plain⟩ := rfl
  rw [quoted, List.cons_append, List.cons_append, run_cons_ok hopen, List.append_assoc,
    run_encoded]
  exact run_cons_ok (by simp [step, stepString, settle, State.supply]) rest

theorem run_key (charset : Charset) (key old : String) (members : Table String Json)
    (mayClose : Bool) (rest : List Char) :
    run ⟨.object members old :: stack, .name mayClose⟩ (quoted charset key ++ ':' :: rest) =
      run ⟨.object members key :: stack, .value false⟩ rest := by
  have hopen : step ⟨.object members old :: stack, .name mayClose⟩ '"' =
      .ok ⟨.object members old :: stack, .string true [] none .plain⟩ := rfl
  have hclose :
      step ⟨.object members old :: stack, .string true key.toList.reverse none .plain⟩ '"' =
      .ok ⟨.object members key :: stack, .colon⟩ := by simp [step, stepString, settle]
  have hcolon : step ⟨.object members key :: stack, .colon⟩ ':' =
      .ok ⟨.object members key :: stack, .value false⟩ := rfl
  rw [quoted, List.cons_append, List.cons_append, run_cons_ok hopen, List.append_assoc,
    run_encoded, List.append_nil, List.singleton_append, run_cons_ok hclose, run_cons_ok hcolon]

/-! ### Values -/

/-- No further character of a number or a word comes next. -/
def Delimited (rest : List Char) : Prop := ∃ c s, rest = c :: s ∧ isAtomChar c = false

/-- Wherever a value may come with so much room around it, the characters of the document lead to
its supply. An atom ends only where something else begins. -/
def ReadsBack (charset : Charset) (room : ℕ) (j : Json) : Prop :=
  ∀ (stack : List Frame) (mayClose : Bool) (rest : List Char), stack.length + room ≤ maxDepth →
    (IsAtom j → Delimited rest) →
      run ⟨stack, .value mayClose⟩ (compactChars charset j ++ rest) =
        run (State.supply ⟨stack, .next⟩ j) rest

theorem compactChars_atom {j : Json} (hatom : IsAtom j) (charset : Charset) :
    compactChars charset j = atom charset j := by
  cases j <;> first | rfl | exact hatom.elim

theorem step_value_atomChar {c : Char} (hc : isAtomChar c = true) (mayClose : Bool) :
    step ⟨stack, .value mayClose⟩ c = .ok ⟨stack, .atom [c]⟩ := by
  have hne (d : Char) (hd : isAtomChar d = false) : c ≠ d := by
    rintro rfl
    simp [hc] at hd
  have hspace : isSpace c = false := by
    simp [isSpace, hne ' ' rfl, hne '\t' rfl, hne '\n' rfl, hne '\r' rfl]
  simp [step, stepBetween, hspace, hne '"' rfl, hne '[' rfl, hne '\x7b' rfl, hne ']' rfl, hc]

theorem run_atomChars {s : List Char} (hs : ∀ c ∈ s, isAtomChar c = true) (chars rest : List Char) :
    run ⟨stack, .atom chars⟩ (s ++ rest) = run ⟨stack, .atom (s.reverse ++ chars)⟩ rest := by
  induction s generalizing chars with
  | nil => rfl
  | cons c s ih =>
    have hstep : step ⟨stack, .atom chars⟩ c = .ok ⟨stack, .atom (c :: chars)⟩ := by
      simp [step, hs c (List.mem_cons_self ..)]
    rw [List.cons_append, run_cons_ok hstep, ih fun d hd => hs d (List.mem_cons_of_mem _ hd),
      List.reverse_cons, List.append_assoc]
    rfl

theorem supply_phase (stack : List Frame) (phase other : Phase) (j : Json) :
    State.supply ⟨stack, phase⟩ j = State.supply ⟨stack, other⟩ j := by
  cases stack with
  | nil => rfl
  | cons f rest => cases f <;> rfl

theorem step_supply (stack : List Frame) (phase : Phase) (j : Json) (c : Char) :
    step (State.supply ⟨stack, phase⟩ j) c = stepBetween (State.supply ⟨stack, phase⟩ j) c := by
  cases stack with
  | nil => rfl
  | cons f rest => cases f <;> rfl

theorem readsBack_atom {room : ℕ} {j : Json} (h : Readable room j) (hatom : IsAtom j)
    (charset : Charset) : ReadsBack charset room j := by
  intro stack mayClose rest _ hdelimited
  obtain ⟨d, t, rfl, hd⟩ := hdelimited hatom
  obtain ⟨hne, hchars⟩ := atom_chars h hatom charset
  have hread := readAtom_atom h hatom charset
  obtain ⟨c, s, hs⟩ := List.exists_cons_of_ne_nil hne
  rw [hs] at hchars hread
  have hatoms : run ⟨stack, .atom [c]⟩ (s ++ d :: t) = _ :=
    run_atomChars (fun e he => hchars e (List.mem_cons_of_mem c he)) [c] (d :: t)
  have hend : step ⟨stack, .atom (s.reverse ++ [c])⟩ d =
      step (State.supply ⟨stack, .next⟩ j) d := by
    rw [step_supply, supply_phase stack .next (.atom (s.reverse ++ [c]))]
    simp [step, hd, hread, Except.bind]
  rw [compactChars_atom hatom, hs, List.cons_append,
    run_cons_ok (step_value_atomChar (hchars c (List.mem_cons_self ..)) mayClose), hatoms, run, run,
    hend]

theorem run_items {charset : Charset} {room : ℕ} (hdepth : stack.length + 1 + room ≤ maxDepth)
    {items : List Json} (hitems : ∀ j ∈ items, ReadsBack charset room j) (hne : items ≠ [])
    (done : List Json) (mayClose : Bool) (rest : List Char) :
    run ⟨.array done :: stack, .value mayClose⟩ (compactItems charset items ++ ']' :: rest) =
      run (State.supply ⟨stack, .next⟩ (.array (done ++ items))) rest := by
  induction items generalizing done mayClose with
  | nil => exact absurd rfl hne
  | cons j js ih =>
    have hfirst := hitems j (List.mem_cons_self ..) (.array done :: stack) mayClose
    cases js with
    | nil =>
      rw [compactItems, hfirst (']' :: rest) hdepth fun _ => ⟨']', rest, rfl, rfl⟩]
      exact run_cons_ok rfl rest
    | cons k ks =>
      have hrest :=
        ih (fun i hi => hitems i (List.mem_cons_of_mem j hi)) (by simp) (done ++ [j]) false
      have hcomma : step (State.supply ⟨.array done :: stack, .next⟩ j) ',' =
          .ok ⟨.array (done ++ [j]) :: stack, .value false⟩ := rfl
      rw [compactItems, List.append_assoc, List.cons_append,
        hfirst _ hdepth fun _ => ⟨',', _, rfl, rfl⟩, run_cons_ok hcomma, hrest, List.append_assoc]
      · rfl
      · simp

theorem run_members {charset : Charset} {room : ℕ} (hdepth : stack.length + 1 + room ≤ maxDepth)
    {members : List (String × Json)} (hmembers : ∀ m ∈ members, ReadsBack charset room m.2)
    (hne : members ≠ []) (done : Table String Json)
    (hkeys : ((done.entries ++ members).map (·.1)).Nodup) (old : String) (mayClose : Bool)
    (rest : List Char) :
    run ⟨.object done old :: stack, .name mayClose⟩
        (compactMembers charset members ++ '\x7d' :: rest) =
      run (State.supply ⟨stack, .next⟩ (.object (done.entries ++ members))) rest := by
  induction members generalizing done old mayClose with
  | nil => exact absurd rfl hne
  | cons m ms ih =>
    obtain ⟨key, j⟩ := m
    have hfirst := hmembers (key, j) (List.mem_cons_self ..) (.object done key :: stack) false
    have hnew : key ∉ done.keys := by
      simp only [List.map_append, List.map_cons] at hkeys
      exact fun hk => (List.nodup_append.1 hkeys).2.2 _ hk _ (List.mem_cons_self ..) rfl
    have hput := Table.put_of_not_mem hnew j
    cases ms with
    | nil =>
      have hclose : step (State.supply ⟨.object done key :: stack, .next⟩ j) '\x7d' =
          .ok (State.supply ⟨stack, .next⟩ (.object (done.entries ++ [(key, j)]))) := by
        rw [← hput]
        rfl
      rw [compactMembers, List.append_assoc, List.cons_append, run_key,
        hfirst _ hdepth fun _ => ⟨'\x7d', rest, rfl, rfl⟩, run_cons_ok hclose]
    | cons n ns =>
      have hrest := ih (fun i hi => hmembers i (List.mem_cons_of_mem _ hi)) (by simp)
        (done.put key j) (by simpa [hput] using hkeys) key false
      have hcomma : step (State.supply ⟨.object done key :: stack, .next⟩ j) ',' =
          .ok ⟨.object (done.put key j) key :: stack, .name false⟩ := rfl
      rw [compactMembers, List.append_assoc, List.append_assoc, List.cons_append, run_key,
        List.cons_append, hfirst _ hdepth fun _ => ⟨',', _, rfl, rfl⟩, run_cons_ok hcomma, hrest,
        hput, List.append_assoc]
      · rfl
      · simp

theorem push_ok (hdepth : stack.length < maxDepth) (frame : Frame) (phase other : Phase) :
    push ⟨stack, other⟩ frame phase = .ok ⟨frame :: stack, phase⟩ := if_pos hdepth

theorem readsBack {room : ℕ} {j : Json} (h : Readable room j) (charset : Charset) :
    ReadsBack charset room j := by
  induction h with
  | null => exact readsBack_atom .null trivial charset
  | bool b => exact readsBack_atom (.bool b) trivial charset
  | int hi => exact readsBack_atom (.int hi) trivial charset
  | float hx => exact readsBack_atom (.float hx) trivial charset
  | str s => exact fun stack mayClose rest _ _ => run_quoted charset s mayClose rest
  | @array room items _ ih =>
    intro stack mayClose rest hdepth _
    have hopen : step ⟨stack, .value mayClose⟩ '[' = .ok ⟨.array [] :: stack, .value true⟩ :=
      push_ok (by omega) (.array []) (.value true) (.value mayClose)
    rw [compactChars, List.cons_append, List.cons_append, run_cons_ok hopen, List.append_assoc]
    cases items with
    | nil => exact run_cons_ok rfl rest
    | cons j js => exact run_items (by omega) ih (by simp) [] true rest
  | @object room members hkeys _ ih =>
    intro stack mayClose rest hdepth _
    have hopen : step ⟨stack, .value mayClose⟩ '\x7b' =
        .ok ⟨.object {} "" :: stack, .name true⟩ :=
      push_ok (by omega) (.object {} "") (.name true) (.value mayClose)
    rw [compactChars, List.cons_append, List.cons_append, run_cons_ok hopen, List.append_assoc]
    cases members with
    | nil => exact run_cons_ok rfl rest
    | cons m ms => exact run_members (by omega) ih (by simp) {} (by simpa using hkeys) "" true rest

/-- A document of bounded depth is read back from its text on one line. -/
theorem read_compact {j : Json} (h : Readable maxDepth j) : read j.compact = .ok j := by
  rw [read, compact, String.toList_ofList]
  by_cases hatom : IsAtom j
  · obtain ⟨hne, hchars⟩ := atom_chars h hatom .ascii
    obtain ⟨c, s, hs⟩ := List.exists_cons_of_ne_nil hne
    have hread := readAtom_atom h hatom .ascii
    rw [hs] at hchars hread
    have hatoms : run ⟨[], .atom [c]⟩ (s ++ []) = _ :=
      run_atomChars (fun e he => hchars e (List.mem_cons_of_mem c he)) [c] []
    rw [List.append_nil] at hatoms
    rw [compactChars_atom hatom, hs,
      run_cons_ok (step_value_atomChar (hchars c (List.mem_cons_self ..)) false), hatoms]
    simpa [run, finish, Except.bind] using hread
  · have hrun := readsBack h .ascii [] false [] (by simp) fun h => absurd h hatom
    rw [List.append_nil] at hrun
    rw [hrun]
    rfl

end DocTrace.Json
