import DocTrace.Proofs.Diagram.LineReading
import DocTrace.Proofs.Diagram.Sketch

/-! Links of a requirement diagram, written forward or backward. A name may hold the hyphen that
also stands before the verb and behind it: it is taken as a whole, and from both ends the same link
is read. -/

namespace DocTrace.Diagram.Requirement

open Text

/-- A link between two names. -/
structure Link where
  source : List Char
  verb : List Char
  target : List Char
  source_ne_nil : source ≠ []
  verb_ne_nil : verb ≠ []
  target_ne_nil : target ≠ []
  source_name : source.all isNameChar = true
  verb_word : verb.all isWord = true
  target_name : target.all isNameChar = true

/-- The end from which a link is written. -/
inductive Direction where
  | forward
  | backward
deriving DecidableEq

/-- A verb between two names, with a mark on either side of it. -/
def verbLine (first opening verb closing second : List Char) : List Char :=
  first ++ ' ' :: (opening ++ ' ' :: (verb ++ ' ' :: (closing ++ ' ' :: second)))

namespace Link

def text (l : Link) : Direction → List Char
  | .forward => verbLine l.source ['-'] l.verb ['-', '>'] l.target
  | .backward => verbLine l.target ['<', '-'] l.verb ['-'] l.source

def endpoints (l : Link) : List String := [.ofList l.source, .ofList l.target]

def edge (l : Link) : Edge := ⟨.ofList l.source, .ofList l.target, some (.ofList l.verb)⟩

variable (l : Link)

theorem isNameChar_source : ∀ c ∈ l.source, isNameChar c = true := List.all_eq_true.1 l.source_name

theorem isWord_verb : ∀ c ∈ l.verb, isWord c = true := List.all_eq_true.1 l.verb_word

theorem isNameChar_verb : ∀ c ∈ l.verb, isNameChar c = true := fun c hc =>
  isNameChar_of_isWord (l.isWord_verb c hc)

theorem isNameChar_target : ∀ c ∈ l.target, isNameChar c = true := List.all_eq_true.1 l.target_name

end Link

/-! ### Names and verbs are read -/

/-- Behind a mark and blanks around it a name begins. -/
theorem afterMark_name {mark name : List Char} (hmark : IsTight mark) (hne : name ≠ [])
    (h : ∀ c ∈ name, isNameChar c = true) (rest : List Char) :
    (after? mark (skipBlanks (' ' :: (mark ++ ' ' :: (name ++ rest))))).map skipBlanks =
      some (name ++ rest) :=
  hmark.after?_mark (isTight_name hne h) rest

theorem bare?_name {name : List Char} (hne : name ≠ []) (h : ∀ c ∈ name, isNameChar c = true) :
    bare? name = some name := by
  rw [bare?, span1?_whole hne h]
  rfl

theorem isTight_hyphen : IsTight ['-'] := isTight_singleton (by decide)

theorem isTight_arrow : IsTight ['-', '>'] :=
  isTight_of_forall (by decide) (forall_eq_false_of_all (by decide))

theorem isTight_backArrow : IsTight ['<', '-'] :=
  isTight_of_forall (by decide) (forall_eq_false_of_all (by decide))

namespace Link

variable (l : Link)

theorem span1?_verb (rest : List Char) :
    span1? isWord (l.verb ++ ' ' :: rest) = some (l.verb, ' ' :: rest) :=
  span1?_append l.verb_ne_nil l.isWord_verb (forall_head?_cons (by decide) rest)

theorem forwardRest?_text :
    forwardRest? (' ' :: (['-'] ++ ' ' :: (l.verb ++ ' ' :: (['-', '>'] ++ ' ' :: l.target)))) =
      some (l.verb, l.target) := by
  have hverb := afterMark_name isTight_hyphen l.verb_ne_nil l.isNameChar_verb
    (' ' :: (['-', '>'] ++ ' ' :: l.target))
  have htarget := afterMark_name isTight_arrow l.target_ne_nil l.isNameChar_target []
  rw [List.append_nil] at htarget
  simp only [forwardRest?, hverb, l.span1?_verb, htarget,
    bare?_name l.target_ne_nil l.isNameChar_target, Option.bind_eq_bind, Option.bind_some,
    Option.pure_def]

theorem forward?_text : forward? (l.text .forward) = some ⟨l.source, l.verb, l.target⟩ := by
  have hread : longest1? isNameChar forwardRest? (l.text .forward) =
      some (l.source, l.verb, l.target) :=
    longest1?_append l.source_ne_nil l.isNameChar_source (forall_head?_cons (by decide) _)
      l.forwardRest?_text
  rw [forward?, hread]
  rfl

theorem backward?_text : backward? (l.text .backward) = some ⟨l.source, l.verb, l.target⟩ := by
  have htarget := span1?_append l.target_ne_nil l.isNameChar_target
    (forall_head?_cons (p := isNameChar) (c := ' ') (by decide)
      (['<', '-'] ++ ' ' :: (l.verb ++ ' ' :: (['-'] ++ ' ' :: l.source))))
  have hverb := afterMark_name isTight_backArrow l.verb_ne_nil l.isNameChar_verb
    (' ' :: (['-'] ++ ' ' :: l.source))
  have hsource := afterMark_name isTight_hyphen l.source_ne_nil l.isNameChar_source []
  rw [List.append_nil] at hsource
  simp only [backward?, text, verbLine, htarget, hverb, l.span1?_verb, hsource,
    bare?_name l.source_ne_nil l.isNameChar_source, Option.bind_eq_bind, Option.bind_some,
    Option.pure_def]

end Link

/-! ### Nothing else is read in the line -/

theorem greater_mem_of_forward? {s : List Char} {r : Relation} (h : forward? s = some r) :
    '>' ∈ s := by
  obtain ⟨_, hread, -⟩ := Option.map_eq_some_iff.1 h
  obtain ⟨-, t, rfl, -, ht⟩ := exists_of_longest1? hread
  simp only [forwardRest?, Option.bind_eq_bind, Option.bind_eq_some_iff,
    Option.map_eq_some_iff] at ht
  obtain ⟨_, ⟨u, hu, rfl⟩, cut, hcut, _, ⟨v, hv, rfl⟩, -⟩ := ht
  have harrow : '>' ∈ skipBlanks cut.2 := by
    rw [eq_append_of_after? hv]
    simp
  have hverb := mem_of_span1? hcut (List.dropWhile_subset _ harrow)
  have hrest := mem_of_after? hu (List.dropWhile_subset _ hverb)
  exact List.mem_append_right _ (List.dropWhile_subset _ hrest)

theorem mem_of_blockName? {s : List Char} {cut : List Char × List Char} {c : Char}
    (h : blockName? s = some cut) (hc : c ∈ cut.2) : c ∈ s := by
  unfold blockName? at h
  split at h
  · split at h
    · next _ _ quote rest hspan =>
      obtain rfl := Option.some.inj h
      rw [List.span_eq_takeWhile_dropWhile] at hspan
      have hrest := List.mem_cons_of_mem quote hc
      rw [← (Prod.mk.inj hspan).2] at hrest
      exact List.mem_cons_of_mem '"' (List.dropWhile_subset _ hrest)
    · simp at h
  · exact mem_of_span1? h hc

theorem brace_mem_of_block? {s name : List Char} (h : block? s = some name) : '\x7b' ∈ s := by
  simp only [block?] at h
  split at h
  · simp at h
  · simp only [Option.bind_eq_bind, Option.bind_eq_some_iff] at h
    obtain ⟨cut, ⟨rest, hrest, hcut⟩, _, hafter, -⟩ := h
    have hbrace : '\x7b' ∈ skipBlanks cut.2 := by
      rw [eq_append_of_after? hafter]
      simp
    have hname := mem_of_blockName? hcut (List.dropWhile_subset _ hbrace)
    have hword := mem_of_skipBlanks1? hrest hname
    rw [List.span_eq_takeWhile_dropWhile] at hword
    exact List.dropWhile_subset _ hword

section

variable {first opening verb closing second : List Char}

theorem mem_verbLine {c : Char} (hfirst : ∀ c ∈ first, isNameChar c = true)
    (hverb : ∀ c ∈ verb, isNameChar c = true) (hsecond : ∀ c ∈ second, isNameChar c = true)
    (hc : c ∈ verbLine first opening verb closing second) :
    isNameChar c = true ∨ c = ' ' ∨ c ∈ opening ∨ c ∈ closing := by
  simp only [verbLine, List.mem_append, List.mem_cons] at hc
  rcases hc with hc | hc | hc | hc | hc | hc | hc | hc | hc
  · exact .inl (hfirst c hc)
  · exact .inr (.inl hc)
  · exact .inr (.inr (.inl hc))
  · exact .inr (.inl hc)
  · exact .inl (hverb c hc)
  · exact .inr (.inl hc)
  · exact .inr (.inr (.inr hc))
  · exact .inr (.inl hc)
  · exact .inl (hsecond c hc)

theorem isTight_verbLine (hfirst : IsTight first) (hsecond : IsTight second) :
    IsTight (verbLine first opening verb closing second) := by
  have htight := hfirst.append hsecond
    (' ' :: (opening ++ ' ' :: (verb ++ ' ' :: (closing ++ [' ']))))
  simp only [List.append_assoc, List.cons_append, List.nil_append] at htight
  exact htight

end

namespace Link

variable (l : Link)

theorem relation?_text (d : Direction) :
    relation? (l.text d) = some ⟨l.source, l.verb, l.target⟩ := by
  cases d with
  | forward => rw [relation?, l.forward?_text, Option.orElse_some]
  | backward =>
    have hnone : forward? (l.text .backward) = none := by
      by_contra hforward
      obtain ⟨r, hr⟩ := Option.ne_none_iff_exists'.1 hforward
      have htip := mem_verbLine l.isNameChar_target l.isNameChar_verb l.isNameChar_source
        (greater_mem_of_forward? hr)
      exact absurd htip (by decide)
    rw [relation?, hnone, l.backward?_text]
    rfl

theorem block?_text (d : Direction) : block? (l.text d) = none := by
  by_contra hblock
  obtain ⟨name, hname⟩ := Option.ne_none_iff_exists'.1 hblock
  have hbrace := brace_mem_of_block? hname
  cases d with
  | forward =>
    exact absurd (mem_verbLine l.isNameChar_source l.isNameChar_verb l.isNameChar_target hbrace)
      (by decide)
  | backward =>
    exact absurd (mem_verbLine l.isNameChar_target l.isNameChar_verb l.isNameChar_source hbrace)
      (by decide)

theorem exists_text (d : Direction) : ∃ c rest, l.text d = c :: rest ∧ isNameChar c = true := by
  have hname {name : List Char} (hne : name ≠ []) (h : ∀ c ∈ name, isNameChar c = true)
      (rest : List Char) : ∃ c t, name ++ rest = c :: t ∧ isNameChar c = true := by
    obtain ⟨c, name, rfl⟩ := List.exists_cons_of_ne_nil hne
    exact ⟨c, name ++ rest, rfl, h c (List.mem_cons_self ..)⟩
  cases d with
  | forward => exact hname l.source_ne_nil l.isNameChar_source _
  | backward => exact hname l.target_ne_nil l.isNameChar_target _

theorem trim_text (d : Direction) : trim (l.text d) = l.text d := by
  have hsource := isTight_name l.source_ne_nil l.isNameChar_source
  have htarget := isTight_name l.target_ne_nil l.isNameChar_target
  cases d with
  | forward => exact (isTight_verbLine hsource htarget).trim_eq
  | backward => exact (isTight_verbLine htarget hsource).trim_eq

theorem step_text (d : Direction) :
    step none (l.text d) = (none, connection l.source l.target (some l.verb)) := by
  obtain ⟨c, rest, htext, hc⟩ := l.exists_text d
  have hbrace : (l.text d).head? ≠ some '\x7d' := by
    rw [htext]
    rintro ⟨⟩
    exact absurd hc (by decide)
  rw [step, l.trim_text, l.block?_text, if_neg hbrace, l.relation?_text]
  rfl

theorem opensComment_text (d : Direction) : opensComment (l.text d) = false := by
  obtain ⟨c, rest, htext, hc⟩ := l.exists_text d
  rw [htext]
  exact opensComment_name hc rest

end Link

/-! ### Lines of a diagram -/

theorem marksFrom_links (links : List (Link × Direction)) :
    marksFrom step none (links.map fun link => link.1.text link.2) =
      (links.map Prod.fst).flatMap fun l => connection l.source l.target (some l.verb) := by
  induction links with
  | nil => rfl
  | cons link links ih =>
    rw [List.map_cons, marksFrom, link.1.step_text, ih, List.map_cons, List.flatMap_cons]

section

variable {s : List Char} {links : List (Link × Direction)}
  (h : lines s = "requirementDiagram".toList :: links.map fun link => link.1.text link.2)

include h

theorem isUncommented_of_links : IsUncommented s :=
  .of_lines h (by decide) (by decide) (List.forall_mem_map.2 fun link _ =>
    link.1.opensComment_text link.2)

theorem marks_of_links :
    marks s = (links.map Prod.fst).flatMap fun l => connection l.source l.target (some l.verb) := by
  rw [marks_eq, tail_filledLines_clean_of_lines h (isUncommented_of_links h) (by decide),
    readsFilled.marksFrom_filled, marksFrom_links]

end

/-- Links are read exactly, from whichever end each is written. -/
theorem analyze_links (links : List (Link × Direction)) {content : String}
    (h : lines content.toList =
      "requirementDiagram".toList :: links.map fun link => link.1.text link.2) :
    analyze content =
      { diagramType := "requirement"
        nodes := ((links.map Prod.fst).flatMap Link.endpoints).eraseDups
        edges := (links.map Prod.fst).map Link.edge } := by
  have hword : keyword? content.toList = some "requirementDiagram".toList := by
    rw [keyword?_eq_some_iff, (isUncommented_of_links h).takeWhile_clean, h, List.headD_cons]
    decide
  have hkind : analyze content = DiagramKind.requirement.analyze content :=
    analyze_of_opener hword (by decide)
  rw [hkind, DiagramKind.analyze, DiagramKind.marks, marks_of_links h,
    Sketch.ofMarks_connections _ (fun l _ => l.source_ne_nil) fun l _ => l.target_ne_nil]
  rfl

/-! Names that begin and end with the hyphen around the verb. -/

def sampleLinks : List (Link × Direction) :=
  [ ({ source := "api-".toList, verb := "satisfies".toList, target := "-R.1".toList
       source_ne_nil := by decide, verb_ne_nil := by decide, target_ne_nil := by decide
       source_name := by decide, verb_word := by decide, target_name := by decide }, .forward),
    ({ source := "-".toList, verb := "derives".toList, target := "api-".toList
       source_ne_nil := by decide, verb_ne_nil := by decide, target_ne_nil := by decide
       source_name := by decide, verb_word := by decide, target_name := by decide }, .backward) ]

def linksText : String := "requirementDiagram\napi- - satisfies -> -R.1\napi- <- derives - -"

theorem analyze_links_hyphens :
    lines linksText.toList =
        "requirementDiagram".toList :: sampleLinks.map (fun link => link.1.text link.2) ∧
      analyze linksText =
        { diagramType := "requirement"
          nodes := ["api-", "-R.1", "-"]
          edges := [⟨"api-", "-R.1", some "satisfies"⟩, ⟨"-", "api-", some "derives"⟩] } := by
  have hlines : lines linksText.toList =
      "requirementDiagram".toList :: sampleLinks.map (fun link => link.1.text link.2) := by
    decide
  exact ⟨hlines, (analyze_links sampleLinks hlines).trans (by decide)⟩

end DocTrace.Diagram.Requirement
