import DocTrace.Proofs.Diagram.LineReading
import DocTrace.Proofs.Diagram.Sketch

/-! Messages of a sequence diagram. A name may hold what an arrow begins with, and the sender is the
shortest name with an arrow and a receiver after it. Behind an arrow that is read within the
sender's name the text goes on with words and blanks before any colon, and no receiver is read. -/

namespace DocTrace.Diagram.Sequence

open Text

/-! ### Written messages -/

/-- A message from one name to another. Where no blanks keep the arrow apart from the names, the
sender's name has no hyphen. -/
structure Message where
  source : List Char
  arrow : String
  target : List Char
  label : List Char := []
  spaced : Bool := true
  known : arrow ∈ arrows
  source_ne_nil : source ≠ []
  target_ne_nil : target ≠ []
  source_name : source.all isNameChar = true
  target_name : target.all isNameChar = true
  target_head : target.head? ≠ some '-'
  opening : spaced = true → lowerString (.ofList source) ∉ blockWords
  apart : spaced = false → '-' ∉ source

/-- The label as it is shown. An empty one is none. -/
def shownLabel (s : List Char) : Option (List Char) := (some (trim s)).filter (!·.isEmpty)

namespace Message

def gap (m : Message) : List Char := if m.spaced then [' '] else []

/-- The message with any text after its colon. -/
def line (m : Message) (rest : List Char) : List Char :=
  m.source ++ (m.gap ++ (m.arrow.toList ++ (m.gap ++ (m.target ++ ':' :: rest))))

def text (m : Message) : List Char := m.line (' ' :: m.label)

def endpoints (m : Message) : List String := [.ofList m.source, .ofList m.target]

def edge (m : Message) : Edge :=
  ⟨.ofList m.source, .ofList m.target, (shownLabel m.label).map .ofList⟩

end Message

/-! ### No receiver ends before a blank and another word -/

/-- Texts without blanks and colons. -/
def IsSolid (s : List Char) : Prop := ∀ c ∈ s, isBlank c = false ∧ c ≠ ':'

theorem isSolid_of_isNameChar {s : List Char} (h : ∀ c ∈ s, isNameChar c = true) : IsSolid s := by
  intro c hc
  refine ⟨isBlank_of_isNameChar (h c hc), ?_⟩
  rintro rfl
  exact absurd (h _ hc) (by decide)

theorem isSolid_arrow {arrow : String} (h : arrow ∈ arrows) : IsSolid arrow.toList := by
  have hall : ∀ arrow ∈ arrows, arrow.toList.all (fun c => !isBlank c && c ≠ ':') = true := by
    decide
  intro c hc
  simpa using List.all_eq_true.1 (hall arrow h) c hc

theorem IsSolid.skipBlanks_cons {c : Char} {s : List Char} (h : IsSolid (c :: s))
    (rest : List Char) : skipBlanks (c :: s ++ rest) = c :: s ++ rest :=
  Diagram.skipBlanks_cons (h c (List.mem_cons_self ..)).1 _

theorem IsSolid.tail {c : Char} {s : List Char} (h : IsSolid (c :: s)) : IsSolid s :=
  fun d hd => h d (List.mem_cons_of_mem c hd)

theorem skipBlanks_space (s : List Char) : skipBlanks (' ' :: s) = skipBlanks s := rfl

theorem label?_eq_none {s t : List Char} {c : Char} (h : skipBlanks s = c :: t) (hc : c ≠ ':') :
    label? s = none := by
  unfold label?
  rw [h]
  split
  · next heq => exact absurd heq (List.cons_ne_nil c t)
  · next heq => exact absurd (List.cons.inj heq).1 hc
  · rfl

variable {u v rest : List Char} {c d : Char}

/-- A word and a blank before another word leave no room for a label. -/
theorem receiver?_eq_none (hne : u ≠ []) (hu : IsSolid u) (hv : IsSolid (d :: v)) :
    receiver? (u ++ ' ' :: (d :: v ++ rest)) = none := by
  obtain ⟨c, t, rfl⟩ := List.exists_cons_of_ne_nil hne
  have hstart := hu.skipBlanks_cons (' ' :: (d :: v ++ rest))
  rw [Option.eq_none_iff_forall_ne_some]
  intro found h
  simp only [receiver?, Option.bind_eq_bind, Option.bind_eq_some_iff, hstart] at h
  obtain ⟨cut, hcut, label, hlabel, -⟩ := h
  have hnone : label? cut.2 = none := by
    rw [(eq_of_span1? hcut).2, List.dropWhile_append]
    split
    · have hblank : isNameChar ' ' = false := by decide
      rw [List.dropWhile_cons_of_neg (by simp [hblank])]
      have hnext : skipBlanks (' ' :: (d :: v ++ rest)) = d :: (v ++ rest) :=
        hv.skipBlanks_cons rest
      exact label?_eq_none hnext (hv d (List.mem_cons_self ..)).2
    · next hword =>
      obtain ⟨e, more, hmore⟩ := List.exists_cons_of_ne_nil (by simpa using hword :
        (c :: t).dropWhile isNameChar ≠ [])
      have hsolid : IsSolid (e :: more) := fun e' he' =>
        hu e' (List.dropWhile_subset _ (hmore ▸ he'))
      rw [hmore]
      exact label?_eq_none (hsolid.skipBlanks_cons _) (hsolid e (List.mem_cons_self ..)).2
  rw [hnone] at hlabel
  contradiction

/-- Neither an activation sign nor a name that begins with one makes up for that. -/
theorem delivery?_eq_none (hne : u ≠ []) (hu : IsSolid (c :: u)) (hv : IsSolid (d :: v)) :
    delivery? (c :: u ++ ' ' :: (d :: v ++ rest)) = none := by
  have hwhole : receiver? (c :: u ++ ' ' :: (d :: v ++ rest)) = none :=
    receiver?_eq_none (List.cons_ne_nil c u) hu hv
  have htail : receiver? (u ++ ' ' :: (d :: v ++ rest)) = none := receiver?_eq_none hne hu.tail hv
  rw [delivery?, hu.skipBlanks_cons]
  rw [List.cons_append] at hwhole ⊢
  simp only [hwhole, htail]
  split <;> rfl

/-! ### The sender ends before the arrow -/

theorem exists_arrow {arrow : String} (h : arrow ∈ arrows) :
    ∃ a b more, arrow.toList = a :: b :: more ∧ (a = '-' ∨ a = '<') := by
  simp only [arrows, List.mem_cons, List.not_mem_nil, or_false] at h
  rcases h with rfl | rfl | rfl | rfl | rfl | rfl | rfl | rfl | rfl | rfl <;>
    exact ⟨_, _, _, rfl, by decide⟩

/-- What follows a beginning of a name, the rest of the name and the arrow, is no receiver. -/
theorem delivery?_arrow_eq_none {arrow : String} (h : arrow ∈ arrows) (hu : IsSolid u)
    (hv : IsSolid (d :: v)) :
    delivery? (u ++ ' ' :: (arrow.toList ++ ' ' :: (d :: v ++ rest))) = none := by
  obtain ⟨a, b, more, harrow, -⟩ := exists_arrow h
  have hsolid : IsSolid (a :: b :: more) := harrow ▸ isSolid_arrow h
  rw [harrow]
  cases u with
  | nil =>
    have hnone : delivery? (a :: b :: more ++ ' ' :: (d :: v ++ rest)) = none :=
      delivery?_eq_none (List.cons_ne_nil b more) hsolid hv
    exact hnone
  | cons c t =>
    cases t with
    | cons e t => exact delivery?_eq_none (List.cons_ne_nil e t) hu hsolid
    | nil =>
      -- Only here the sign is all of the word, and what follows it begins with the arrow.
      have hwhole : receiver? ([c] ++ ' ' :: (a :: b :: more ++ ' ' :: (d :: v ++ rest))) = none :=
        receiver?_eq_none (List.cons_ne_nil c []) hu hsolid
      have htail : receiver? (' ' :: (a :: b :: more ++ ' ' :: (d :: v ++ rest))) = none := by
        have hskip : receiver? (' ' :: (a :: b :: more ++ ' ' :: (d :: v ++ rest))) =
            receiver? (a :: b :: more ++ ' ' :: (d :: v ++ rest)) := rfl
        rw [hskip]
        exact receiver?_eq_none (List.cons_ne_nil a _) hsolid hv
      rw [delivery?, hu.skipBlanks_cons]
      rw [List.cons_append, List.nil_append] at hwhole ⊢
      simp only [hwhole, htail]
      split <;> rfl

theorem exists_of_after?_append {start s t rest : List Char}
    (h : after? start (s ++ c :: t) = some rest) (hc : c ∉ start) :
    ∃ u, s = start ++ u ∧ rest = u ++ c :: t := by
  induction start generalizing s with
  | nil => exact ⟨s, rfl, (Option.some.inj h).symm⟩
  | cons p ps ih =>
    rw [List.mem_cons, not_or] at hc
    cases s with
    | nil => simp [after?, Ne.symm hc.1] at h
    | cons d s =>
      obtain ⟨hd, h⟩ := Option.ite_none_right_eq_some.1 h
      obtain ⟨u, rfl, hrest⟩ := ih h hc.2
      exact ⟨u, by rw [hd, List.cons_append], hrest⟩

/-- What follows the name of a sender: an arrow, and the receiver after it. -/
def arrowEnd? (s : List Char) : Option (List Char × Option (List Char)) :=
  firstSome (fun arrow => (after? arrow.toList (skipBlanks s)).bind delivery?) arrows

/-- No message is cut within the sender's name if a blank follows the name. -/
theorem arrowEnd?_eq_none_of_space {arrow : String} (h : arrow ∈ arrows) (hu : IsSolid (c :: u))
    (hv : IsSolid (d :: v)) :
    arrowEnd? (c :: u ++ ' ' :: (arrow.toList ++ ' ' :: (d :: v ++ rest))) = none := by
  rw [Option.eq_none_iff_forall_ne_some]
  intro found hfound
  obtain ⟨early, hearly, hread⟩ := exists_of_firstSome hfound
  obtain ⟨t, hafter, hdelivery⟩ := Option.bind_eq_some_iff.1 hread
  rw [hu.skipBlanks_cons] at hafter
  have hblank : ' ' ∉ early.toList := fun hmem =>
    absurd (isSolid_arrow hearly ' ' hmem).1 (by decide)
  obtain ⟨w, hword, rfl⟩ := exists_of_after?_append hafter hblank
  have hw : IsSolid w := fun e he => hu e (hword ▸ List.mem_append_right _ he)
  rw [delivery?_arrow_eq_none h hw hv] at hdelivery
  contradiction

/-- No arrow begins with a character of a name other than a hyphen. -/
theorem arrowEnd?_eq_none_of_letter (hc : isNameChar c = true) (hdash : c ≠ '-') :
    arrowEnd? (c :: rest) = none := by
  have hsolid : IsSolid [c] := isSolid_of_isNameChar (by simpa using hc)
  rw [Option.eq_none_iff_forall_ne_some]
  intro found hfound
  obtain ⟨early, hearly, hread⟩ := exists_of_firstSome hfound
  obtain ⟨t, hafter, -⟩ := Option.bind_eq_some_iff.1 hread
  obtain ⟨a, b, more, harrow, hfirst⟩ := exists_arrow hearly
  rw [Diagram.skipBlanks_cons (hsolid c (List.mem_singleton_self c)).1, harrow] at hafter
  obtain ⟨rfl, -⟩ := Option.ite_none_right_eq_some.1 hafter
  rcases hfirst with rfl | rfl
  · exact hdash rfl
  · exact absurd hc (by decide)

/-! ### Messages are read -/

theorem toList_arrows : arrows.map String.toList =
    [['<', '<', '-', '-', '>', '>'], ['<', '<', '-', '>', '>'], ['-', '-', '>', '>'],
      ['-', '>', '>'], ['-', '-', '>'], ['-', '>'], ['-', '-', 'x'], ['-', 'x'], ['-', '-', ')'],
      ['-', ')']] := by
  decide

/-- An arrow is read as a whole, for none is continued by what follows it. -/
theorem firstSome_arrows {arrow : String} {found : List Char × Option (List Char)}
    (h : arrow ∈ arrows) (hc : c ≠ '>') (hfound : delivery? (c :: rest) = some found) :
    firstSome (fun other => (after? other.toList (arrow.toList ++ c :: rest)).bind delivery?)
      arrows = some found := by
  have hmem : arrow.toList ∈ arrows.map String.toList := List.mem_map_of_mem h
  rw [← firstSome_map fun start => (after? start (arrow.toList ++ c :: rest)).bind delivery?]
  rw [toList_arrows] at hmem ⊢
  generalize arrow.toList = stroke at hmem ⊢
  simp only [List.mem_cons, List.not_mem_nil, or_false] at hmem
  rcases hmem with rfl | rfl | rfl | rfl | rfl | rfl | rfl | rfl | rfl | rfl <;>
    simp [firstSome, after?, hfound, Ne.symm hc]

namespace Message

variable (m : Message)

theorem isNameChar_source : ∀ c ∈ m.source, isNameChar c = true := List.all_eq_true.1 m.source_name

theorem isNameChar_target : ∀ c ∈ m.target, isNameChar c = true := List.all_eq_true.1 m.target_name

theorem skipBlanks_gap {s : List Char} (h : IsSolid (c :: s)) (rest : List Char) :
    skipBlanks (m.gap ++ (c :: s ++ rest)) = c :: s ++ rest := by
  have hstart := h.skipBlanks_cons rest
  unfold gap
  split
  · exact hstart
  · exact hstart

theorem receiver?_target (rest : List Char) :
    receiver? (m.target ++ ':' :: rest) = some (m.target, shownLabel rest) := by
  obtain ⟨c, t, ht⟩ := List.exists_cons_of_ne_nil m.target_ne_nil
  have hsolid : IsSolid (c :: t) := ht ▸ isSolid_of_isNameChar m.isNameChar_target
  have hcut : span1? isNameChar (m.target ++ ':' :: rest) = some (m.target, ':' :: rest) :=
    span1?_append m.target_ne_nil m.isNameChar_target (forall_head?_cons (by decide) rest)
  have hstart : skipBlanks (m.target ++ ':' :: rest) = m.target ++ ':' :: rest := by
    rw [ht]
    exact hsolid.skipBlanks_cons _
  rw [receiver?, hstart, hcut]
  rfl

theorem delivery?_target (rest : List Char) :
    delivery? (m.gap ++ (m.target ++ ':' :: rest)) = some (m.target, shownLabel rest) := by
  have hreceiver := m.receiver?_target rest
  obtain ⟨c, t, ht⟩ := List.exists_cons_of_ne_nil m.target_ne_nil
  have hname := m.isNameChar_target
  have hdash : c ≠ '-' := fun heq => m.target_head (by rw [ht, heq]; rfl)
  have hplus : c ≠ '+' := by
    rintro rfl
    exact absurd (hname '+' (ht ▸ List.mem_cons_self ..)) (by decide)
  rw [ht] at hreceiver hname ⊢
  rw [delivery?, m.skipBlanks_gap (isSolid_of_isNameChar hname)]
  rw [List.cons_append] at hreceiver ⊢
  simp [hdash, hplus, hreceiver]

theorem arrowEnd?_arrow (rest : List Char) :
    arrowEnd? (m.gap ++ (m.arrow.toList ++ (m.gap ++ (m.target ++ ':' :: rest)))) =
      some (m.target, shownLabel rest) := by
  obtain ⟨a, b, more, harrow, -⟩ := exists_arrow m.known
  have hsolid : IsSolid (a :: b :: more) := harrow ▸ isSolid_arrow m.known
  have hnext : ∃ c t, m.gap ++ (m.target ++ ':' :: rest) = c :: t ∧ c ≠ '>' := by
    obtain ⟨c, t, ht⟩ := List.exists_cons_of_ne_nil m.target_ne_nil
    have hname := m.isNameChar_target c (ht ▸ List.mem_cons_self ..)
    unfold gap
    split
    · exact ⟨' ', _, rfl, by decide⟩
    · refine ⟨c, t ++ ':' :: rest, by rw [ht]; rfl, ?_⟩
      rintro rfl
      exact absurd hname (by decide)
  obtain ⟨c, t, hnext, hc⟩ := hnext
  have hread := m.delivery?_target rest
  rw [hnext] at hread ⊢
  rw [arrowEnd?, harrow, m.skipBlanks_gap hsolid, ← harrow]
  exact firstSome_arrows m.known hc hread

theorem arrowEnd?_source {u : List Char} (hsuffix : c :: u <:+ m.source) (rest : List Char) :
    arrowEnd? (c :: u ++ (m.gap ++ (m.arrow.toList ++ (m.gap ++ (m.target ++ ':' :: rest))))) =
      none := by
  have hname : ∀ d ∈ c :: u, isNameChar d = true := fun d hd =>
    m.isNameChar_source d (hsuffix.subset hd)
  cases hspaced : m.spaced with
  | true =>
    obtain ⟨d, v, hd⟩ := List.exists_cons_of_ne_nil m.target_ne_nil
    have htarget : IsSolid (d :: v) := hd ▸ isSolid_of_isNameChar m.isNameChar_target
    rw [gap, hspaced, hd]
    exact arrowEnd?_eq_none_of_space m.known (isSolid_of_isNameChar hname) htarget
  | false =>
    refine arrowEnd?_eq_none_of_letter (hname c (List.mem_cons_self ..)) ?_
    rintro rfl
    exact m.apart hspaced (hsuffix.subset (List.mem_cons_self ..))

/-- The sender's name is taken as a whole, whatever in it an arrow begins with. -/
theorem message?_line (rest : List Char) :
    message? (m.line rest) = some (.message m.source m.target (shownLabel rest)) := by
  obtain ⟨c, s, hs⟩ := List.exists_cons_of_ne_nil m.source_ne_nil
  have hname := m.isNameChar_source
  rw [hs, List.forall_mem_cons] at hname
  have hcut : shortest? isNameChar arrowEnd?
      (s ++ (m.gap ++ (m.arrow.toList ++ (m.gap ++ (m.target ++ ':' :: rest))))) =
        some (s, m.target, shownLabel rest) := by
    refine shortest?_append hname.2 (fun d u hu => ?_) (m.arrowEnd?_arrow rest)
    exact m.arrowEnd?_source (hs ▸ hu.trans (List.suffix_cons c s)) rest
  have hread : shortest1? isNameChar arrowEnd? (m.line rest) =
      some (m.source, m.target, shownLabel rest) := by
    rw [line, hs, List.cons_append, shortest1?, if_pos hname.1, hcut]
    rfl
  unfold message?
  show Option.map _ (shortest1? isNameChar arrowEnd? (m.line rest)) = _
  rw [hread]
  rfl

end Message

/-! ### No message is a declaration -/

theorem isBlank_fold {c : Char} (h : isBlank c = true) : isBlank (fold c) = true := by
  have hall : ∀ n ∈ blankCodes, isBlank (fold (Char.ofNat n)) = true := by decide +kernel
  rw [← Char.ofNat_toNat c]
  exact hall _ (toNat_mem_blankCodes h)

theorem exists_of_afterFolded? {start s rest : List Char} (h : afterFolded? start s = some rest) :
    ∃ word, s = word ++ rest ∧ word.map fold = start := by
  induction start generalizing s with
  | nil => exact ⟨[], Option.some.inj h, rfl⟩
  | cons p ps ih =>
    cases s with
    | nil => simp [afterFolded?] at h
    | cons c s =>
      obtain ⟨hc, h⟩ := Option.ite_none_right_eq_some.1 h
      obtain ⟨word, rfl, hword⟩ := ih h
      exact ⟨c :: word, rfl, by rw [List.map_cons, hword, hc]⟩

/-- A keyword is the first word of a text, whatever the case of its letters. -/
theorem cut_of_afterKeyword? {word : String} {s rest : List Char}
    (hword : ∀ c ∈ word.toList, isBlank c = false) (h : afterKeyword? word s = some rest) :
    (s.takeWhile fun c => !isBlank c).map fold = word.toList ∧
      rest = skipBlanks (s.dropWhile fun c => !isBlank c) := by
  obtain ⟨t, hfolded, hblank⟩ := Option.bind_eq_some_iff.1 h
  obtain ⟨first, rfl, hfirst⟩ := exists_of_afterFolded? hfolded
  have hplain : ∀ c ∈ first, (!isBlank c) = true := fun c hc => by
    by_contra hc'
    have hfold := hword _ (hfirst ▸ List.mem_map_of_mem hc)
    rw [isBlank_fold (by simpa using hc')] at hfold
    contradiction
  cases t with
  | nil => simp [skipBlanks1?] at hblank
  | cons c t =>
    obtain ⟨hc, hrest⟩ := Option.ite_none_right_eq_some.1 hblank
    have hdrop : (first ++ c :: t).dropWhile (fun c => !isBlank c) = c :: t := by
      rw [List.dropWhile_append_of_pos hplain, List.dropWhile_cons_of_neg (by simp [hc])]
    have htake : (first ++ c :: t).takeWhile (fun c => !isBlank c) = first :=
      takeWhile_append_eq hplain (forall_head?_cons (by simp [hc]) t)
    rw [htake, hdrop, skipBlanks, List.dropWhile_cons_of_pos hc]
    exact ⟨hfirst, (Option.some.inj hrest).symm⟩

/-- The words that open or continue a declaration. -/
def declarationWords : List String := ["create", "participant", "actor", "as"]

theorem notBlank_of_declarationWord {word : String} (h : word ∈ declarationWords) :
    ∀ c ∈ word.toList, isBlank c = false := by
  have hall : ∀ word ∈ declarationWords, word.toList.all (!isBlank ·) = true := by decide
  intro c hc
  simpa using List.all_eq_true.1 (hall word h) c hc

theorem afterKeyword?_eq_none {word : String} {s : List Char} (hword : word ∈ declarationWords)
    (h : ':' ∈ (s.takeWhile fun c => !isBlank c) ∨ '-' ∈ (s.takeWhile fun c => !isBlank c)) :
    afterKeyword? word s = none := by
  have hall : ∀ word ∈ declarationWords, fold ':' ∉ word.toList ∧ fold '-' ∉ word.toList := by
    decide
  obtain ⟨hcolon, hdash⟩ := hall word hword
  rw [Option.eq_none_iff_forall_ne_some]
  intro rest hread
  have hcut := (cut_of_afterKeyword? (notBlank_of_declarationWord hword) hread).1
  rcases h with h | h
  · exact hcolon (hcut ▸ List.mem_map_of_mem h)
  · exact hdash (hcut ▸ List.mem_map_of_mem h)

theorem IsSolid.notBlank {s : List Char} (h : IsSolid s) : ∀ c ∈ s, (!isBlank c) = true :=
  fun c hc => by simp [(h c hc).1]

namespace Message

variable (m : Message)

theorem isSolid_source : IsSolid m.source := isSolid_of_isNameChar m.isNameChar_source

theorem isSolid_target : IsSolid m.target := isSolid_of_isNameChar m.isNameChar_target

theorem colon_mem_takeWhile_target (rest : List Char) :
    ':' ∈ (m.target ++ ':' :: rest).takeWhile fun c => !isBlank c := by
  rw [List.takeWhile_append_of_pos m.isSolid_target.notBlank]
  simp [isBlank]

theorem colon_mem_takeWhile_line (h : m.spaced = false) (rest : List Char) :
    ':' ∈ (m.line rest).takeWhile fun c => !isBlank c := by
  have htarget := m.colon_mem_takeWhile_target rest
  rw [line, gap, h, List.takeWhile_append_of_pos m.isSolid_source.notBlank]
  refine List.mem_append_right _ ?_
  rw [if_neg Bool.false_ne_true, List.nil_append,
    List.takeWhile_append_of_pos (isSolid_arrow m.known).notBlank]
  exact List.mem_append_right _ htarget

theorem skipBlanks_arrow (rest : List Char) :
    skipBlanks (' ' :: (m.arrow.toList ++ rest)) = m.arrow.toList ++ rest := by
  obtain ⟨a, b, more, harrow, -⟩ := exists_arrow m.known
  have hsolid : IsSolid (a :: b :: more) := harrow ▸ isSolid_arrow m.known
  rw [skipBlanks_space, harrow, hsolid.skipBlanks_cons]

/-- If the sender's name is a keyword, then it is the arrow that follows. -/
theorem eq_of_afterKeyword?_line {word : String} (hword : word ∈ declarationWords)
    {rest body : List Char} (h : afterKeyword? word (m.line rest) = some body) :
    body = m.arrow.toList ++ ' ' :: (m.target ++ ':' :: rest) := by
  cases hspaced : m.spaced with
  | false =>
    rw [afterKeyword?_eq_none hword (.inl (m.colon_mem_takeWhile_line hspaced rest))] at h
    contradiction
  | true =>
    have hgap : m.gap = [' '] := by simp [gap, hspaced]
    rw [(cut_of_afterKeyword? (notBlank_of_declarationWord hword) h).2, line, hgap,
      List.dropWhile_append_of_pos m.isSolid_source.notBlank, List.singleton_append,
      List.dropWhile_cons_of_neg (by decide), m.skipBlanks_arrow, List.singleton_append]

theorem alias?_target (rest : List Char) : alias? (' ' :: (m.target ++ ':' :: rest)) = none := by
  obtain ⟨c, t, ht⟩ := List.exists_cons_of_ne_nil m.target_ne_nil
  have hskip :
      skipBlanks1? (' ' :: (m.target ++ ':' :: rest)) = some (m.target ++ ':' :: rest) := by
    have hstart := (ht ▸ m.isSolid_target : IsSolid (c :: t)).skipBlanks_cons (':' :: rest)
    rw [← ht] at hstart
    rw [skipBlanks1?, if_pos (by decide), hstart]
  have hnone : afterKeyword? "as" (m.target ++ ':' :: rest) = none :=
    afterKeyword?_eq_none (by decide) (.inl (m.colon_mem_takeWhile_target rest))
  rw [alias?, if_neg (by simp), hskip, Option.bind_some, hnone]
  rfl

theorem participant?_line (rest : List Char) : participant? (m.line rest) = none := by
  have hsolid := isSolid_arrow m.known
  rw [Option.eq_none_iff_forall_ne_some]
  intro found h
  simp only [participant?, Option.bind_eq_bind, Option.bind_eq_some_iff] at h
  obtain ⟨body, hbody, cut, hcut, name, hname, -⟩ := h
  have hkind {s body : List Char}
      (h : firstSome (fun word => afterKeyword? word s) ["participant", "actor"] = some body) :
      ∃ word ∈ declarationWords, afterKeyword? word s = some body := by
    obtain ⟨word, hword, h⟩ := exists_of_firstSome h
    have hall : ∀ word ∈ ["participant", "actor"], word ∈ declarationWords := by decide
    exact ⟨word, hall word hword, h⟩
  rcases eq_some_of_orElse hbody with hcreate | hbody
  · obtain ⟨t, ht, hbody⟩ := Option.bind_eq_some_iff.1 hcreate
    obtain ⟨word, hword, hbody⟩ := hkind hbody
    have hall : ∀ arrow ∈ arrows, '-' ∈ arrow.toList := by decide
    have hdash : '-' ∈ t.takeWhile fun c => !isBlank c := by
      rw [m.eq_of_afterKeyword?_line (by decide) ht, List.takeWhile_append_of_pos hsolid.notBlank]
      exact List.mem_append_left _ (hall m.arrow m.known)
    rw [afterKeyword?_eq_none hword (.inr hdash)] at hbody
    contradiction
  · obtain ⟨word, hword, hbody⟩ := hkind hbody
    rw [m.eq_of_afterKeyword?_line hword hbody] at hcut
    obtain ⟨a, b, more, harrow, -⟩ := exists_arrow m.known
    have hread : span1? (fun c => !isBlank c && c ≠ ':')
        (m.arrow.toList ++ ' ' :: (m.target ++ ':' :: rest)) =
          some (m.arrow.toList, ' ' :: (m.target ++ ':' :: rest)) :=
      span1?_append (by simp [harrow]) (fun c hc => by simp [hsolid c hc])
        (forall_head?_cons (by decide) _)
    obtain rfl := Option.some.inj (hread.symm.trans hcut)
    rw [m.alias?_target] at hname
    contradiction

theorem firstWord_line (rest : List Char) :
    firstWord (m.line rest) = (m.line rest).takeWhile fun c => !isBlank c := by
  obtain ⟨c, t, ht⟩ := List.exists_cons_of_ne_nil m.source_ne_nil
  have hsolid : IsSolid (c :: t) := ht ▸ m.isSolid_source
  rw [firstWord, line, ht, hsolid.skipBlanks_cons]

theorem not_blockWord_line (rest : List Char) :
    blockWords.contains (.ofList (lower (firstWord (m.line rest)))) = false := by
  by_contra hblock
  rw [Bool.not_eq_false, List.contains_iff_mem, m.firstWord_line] at hblock
  cases hspaced : m.spaced with
  | false =>
    have hcolon := mem_lower (by decide) (by decide) (by decide)
      (m.colon_mem_takeWhile_line hspaced rest)
    have hall : ∀ word ∈ blockWords, ':' ∉ word.toList := by decide
    exact hall _ hblock (by rwa [String.toList_ofList])
  | true =>
    have hgap : m.gap = [' '] := by simp [gap, hspaced]
    have hword : ((m.line rest).takeWhile fun c => !isBlank c) = m.source := by
      rw [line, hgap]
      exact takeWhile_append_eq m.isSolid_source.notBlank (forall_head?_cons (by decide) _)
    rw [hword] at hblock
    refine m.opening hspaced ?_
    rwa [lowerString, String.toList_ofList]

theorem statement?_line (rest : List Char) :
    statement? (m.line rest) = some (.message m.source m.target (shownLabel rest)) := by
  rw [statement?, m.participant?_line, m.not_blockWord_line, m.message?_line]
  rfl

/-! ### Lines of a diagram -/

theorem trim_text : trim m.text = m.line (dropEndWhile isBlank (' ' :: m.label)) := by
  have hsource : IsTight m.source :=
    isTight_of_forall m.source_ne_nil fun c hc => (m.isSolid_source c hc).1
  have hcolon : IsTight [':'] := isTight_singleton (by decide)
  have htight := hsource.append hcolon (m.gap ++ (m.arrow.toList ++ (m.gap ++ m.target)))
  have htrim := htight.trim_append (' ' :: m.label)
  simp only [List.append_assoc, List.singleton_append] at htrim
  exact htrim

theorem statement?_trim_text :
    statement? (trim m.text) = some (.message m.source m.target (shownLabel m.label)) := by
  have hlabel : trim (dropEndWhile isBlank (' ' :: m.label)) = trim m.label :=
    (trim_dropEndWhile _).trans rfl
  rw [m.trim_text, m.statement?_line, shownLabel, hlabel, shownLabel]

theorem opensComment_text : opensComment m.text = false := by
  obtain ⟨c, t, ht⟩ := List.exists_cons_of_ne_nil m.source_ne_nil
  have hname := m.isNameChar_source c (ht ▸ List.mem_cons_self ..)
  rw [text, line, ht]
  exact opensComment_name hname _

end Message

section

variable {s : List Char} {messages : List Message}
  (h : lines s = "sequenceDiagram".toList :: messages.map Message.text)

include h

theorem isUncommented_of_lines : IsUncommented s :=
  .of_lines h (by decide) (by decide) (List.forall_mem_map.2 fun m _ => m.opensComment_text)

theorem marks_of_lines :
    marks s = messages.flatMap fun m => connection m.source m.target (shownLabel m.label) := by
  have hread : statement? ∘ trim ∘ Message.text =
      fun m => some (.message m.source m.target (shownLabel m.label)) :=
    funext Message.statement?_trim_text
  rw [marks_eq, tail_filledLines_clean_of_lines h (isUncommented_of_lines h) (by decide),
    filterMap_filled rfl, List.map_map, List.filterMap_map, hread, List.filterMap_eq_map',
    List.flatMap_map]
  rfl

end

/-- Messages are read exactly. -/
theorem analyze_messages (messages : List Message) {content : String}
    (h : lines content.toList = "sequenceDiagram".toList :: messages.map Message.text) :
    analyze content =
      { diagramType := "sequence"
        nodes := (messages.flatMap Message.endpoints).eraseDups
        edges := messages.map Message.edge } := by
  have hword : keyword? content.toList = some "sequenceDiagram".toList := by
    rw [keyword?_eq_some_iff, (isUncommented_of_lines h).takeWhile_clean, h, List.headD_cons]
    decide
  have hkind : analyze content = DiagramKind.sequence.analyze content :=
    analyze_of_opener hword (by decide)
  have hnodes : nodeNames (marks content.toList) = messages.flatMap Message.endpoints := by
    rw [marks_of_lines h, nodeNames_flatMap]
    exact List.flatMap_congr fun m _ =>
      nodeNames_connection m.source_ne_nil m.target_ne_nil (shownLabel m.label)
  have hedges : (marks content.toList).filterMap Mark.edge? = messages.map Message.edge := by
    rw [marks_of_lines h, List.filterMap_flatMap, List.map_eq_flatMap]
    rfl
  have hlabels : ∀ id text, Mark.label id text ∉ marks content.toList := by
    rw [marks_of_lines h]
    simp [connection]
  rw [hkind, DiagramKind.analyze, DiagramKind.marks, Sketch.toAnalysis, Sketch.nodes_ofMarks,
    Sketch.edges_ofMarks, Sketch.labels_ofMarks hlabels, hnodes, hedges]
  rfl

/-! A name may hold what looks like an arrow, and a label may be blank. -/

def sampleMessages : List Message :=
  [ { source := "web-xray".toList, arrow := "-x", target := "db-1".toList
      label := "ask: now ".toList
      known := by decide, source_ne_nil := by decide, target_ne_nil := by decide
      source_name := by decide, target_name := by decide, target_head := by decide
      opening := by decide, apart := by decide },
    { source := "db.1".toList, arrow := "-->>", target := "xray".toList
      label := [' '], spaced := false
      known := by decide, source_ne_nil := by decide, target_ne_nil := by decide
      source_name := by decide, target_name := by decide, target_head := by decide
      opening := by decide, apart := by decide } ]

def sampleText : String := "sequenceDiagram\nweb-xray -x db-1: ask: now \ndb.1-->>xray:  "

theorem analyze_messages_sample :
    lines sampleText.toList = "sequenceDiagram".toList :: sampleMessages.map Message.text ∧
      analyze sampleText =
        { diagramType := "sequence"
          nodes := ["web-xray", "db-1", "db.1", "xray"]
          edges := [⟨"web-xray", "db-1", some "ask: now"⟩, ⟨"db.1", "xray", none⟩] } := by
  have hlines : lines sampleText.toList =
      "sequenceDiagram".toList :: sampleMessages.map Message.text := by
    decide
  exact ⟨hlines, (analyze_messages sampleMessages hlines).trans (by decide)⟩

end DocTrace.Diagram.Sequence
