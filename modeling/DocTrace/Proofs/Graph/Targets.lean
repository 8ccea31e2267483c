import DocTrace.Proofs.Graph.Stages
import DocTrace.Proofs.Header.Identifiers

/-! The identifiers that the lists of headers bring into the graph. Those from the items of a list
are tidy; a text that stands alone comes as it is. -/

namespace DocTrace.Graph

open Header

/-- A document gives a text alone where a list is expected, in a declaration that is read: its own,
if it has an identifier, or that of an entity with one. -/
inductive GivesAlone (a : Asset) (text : String) : Prop
  | document {key : String} (hid : a.id? ≠ none) (hkey : key ∈ listKeys)
    (hgiven : GivenAlone (a.header.raw.find? key) text) : GivesAlone a text
  | entity {items : List Value} {item : Value} {m : Mapping} {key : String}
    (hitems : (a.header.raw.find? "entities").bind Value.asList? = some items)
    (hitem : item ∈ items) (hmap : item.asMap? = some m) (hid : identifierOf m ≠ none)
    (hkey : key ∈ listKeys) (hgiven : GivenAlone (m.find? key) text) : GivesAlone a text

/-- An identifier that a declaration of a document lists. -/
def Lists (a : Asset) (target : String) : Prop :=
  ∃ id uplink downlinks requirements, Declares a id uplink downlinks requirements ∧
    (target ∈ requirements ∨ target ∈ downlinks)

section Fields

/-! The two lists of a declaration, whose fields are looked up in a header or in an entity. -/

variable {place : Option Nat} (find : String → Option Value) {target : String}

theorem isTidy_or_givenAlone
    (h : target ∈ (listField place "requirements" (find "requirements")).1.getD [] ∨
      target ∈ (listField place "downlinks" (find "downlinks")).1.getD []) :
    IsTidy target ∨ ∃ key ∈ listKeys, GivenAlone (find key) target := by
  have hfield (key : String) (hkey : key ∈ listKeys)
      (hmem : target ∈ (listField place key (find key)).1.getD []) :
      IsTidy target ∨ ∃ key ∈ listKeys, GivenAlone (find key) target := by
    rcases mem_listField_iff.1 hmem with halone | ⟨_, -, _, -, hitem⟩
    · exact .inr ⟨key, hkey, halone⟩
    · exact .inl (isTidy_of_identifier? hitem)
  rcases h with hmem | hmem
  · exact hfield _ (by decide) hmem
  · exact hfield _ (by decide) hmem

theorem listed_of_givenAlone {key : String} (hkey : key ∈ listKeys)
    (h : GivenAlone (find key) target) :
    target ∈ (listField place "requirements" (find "requirements")).1.getD [] ∨
      target ∈ (listField place "downlinks" (find "downlinks")).1.getD [] := by
  rcases mem_listKeys.1 hkey with rfl | rfl
  · exact .inr (mem_listField_iff.2 (.inl h))
  · exact .inl (mem_listField_iff.2 (.inl h))

end Fields

section Documents

variable {a : Asset} {before : List HeaderError} (hheader : a.header = ofFields a.header.raw before)

include hheader

theorem lists_eq :
    a.header.downlinks = (listField none "downlinks" (a.header.raw.find? "downlinks")).1 ∧
      a.header.requirements =
        (listField none "requirements" (a.header.raw.find? "requirements")).1 :=
  ⟨congrArg Header.downlinks hheader, congrArg Header.requirements hheader⟩

theorem mem_entities_iff {e : Entity} : e ∈ a.header.entities ↔ ∃ items item index m id,
    (a.header.raw.find? "entities").bind Value.asList? = some items ∧ items[index]? = some item ∧
      item.asMap? = some m ∧ identifierOf m = some id ∧ e = entityOf index m id := by
  have hentities : a.header.entities = (entitiesField (a.header.raw.find? "entities")).1 :=
    congrArg Header.entities hheader
  rw [hentities, mem_entitiesField_iff]

/-- What a document lists is tidy, or given alone. -/
theorem isTidy_or_givesAlone {target : String} (h : Lists a target) :
    IsTidy target ∨ GivesAlone a target := by
  obtain ⟨id, uplink, downlinks, requirements, hdeclares, htarget⟩ := h
  cases hdeclares with
  | own hid =>
    obtain ⟨hdown, hreq⟩ := lists_eq hheader
    rw [hdown, hreq] at htarget
    refine (isTidy_or_givenAlone a.header.raw.find? htarget).imp_right ?_
    rintro ⟨key, hkey, halone⟩
    exact .document (by simp [hid]) hkey halone
  | entity he =>
    obtain ⟨items, item, index, m, id, hitems, hmem, hmap, hid, rfl⟩ :=
      (mem_entities_iff hheader).1 he
    refine (isTidy_or_givenAlone m.find? htarget).imp_right ?_
    rintro ⟨key, hkey, halone⟩
    exact .entity hitems (List.mem_of_getElem? hmem) hmap (by simp [hid]) hkey halone

theorem lists_of_givesAlone {target : String} (h : GivesAlone a target) : Lists a target := by
  cases h with
  | document hid hkey hgiven =>
    obtain ⟨id, hid⟩ := Option.ne_none_iff_exists'.1 hid
    obtain ⟨hdown, hreq⟩ := lists_eq hheader
    refine ⟨id, _, _, _, .own hid, ?_⟩
    rw [hdown, hreq]
    exact listed_of_givenAlone _ hkey hgiven
  | entity hitems hitem hmap hid hkey hgiven =>
    obtain ⟨id, hid⟩ := Option.ne_none_iff_exists'.1 hid
    obtain ⟨index, hindex⟩ := List.getElem?_of_mem hitem
    have he := (mem_entities_iff hheader).2 ⟨_, _, index, _, id, hitems, hindex, hmap, hid, rfl⟩
    exact ⟨_, _, _, _, .entity he, listed_of_givenAlone _ hkey hgiven⟩

end Documents

/-- A link that is listed, and not the uplink of a declaration. -/
theorem exists_link_iff {s : Sources} {target : String} :
    (∃ l ∈ (build s).1.declaredLinks, l.kind ≠ .uplink ∧ l.target = target) ↔
      ∃ a, s.IsDocument a ∧ Lists a target := by
  rw [(holds_build s).links]
  constructor
  · rintro ⟨l, hl, hkind, rfl⟩
    obtain ⟨a, uplink, downlinks, requirements, ha, -, hdeclares, hcase⟩ := Sources.mem_links.1 hl
    refine ⟨a, ha, l.source, uplink, downlinks, requirements, hdeclares, ?_⟩
    rcases hcase with ⟨huplink, -⟩ | ⟨-, hmem⟩ | ⟨-, hmem⟩
    · contradiction
    · exact .inl hmem
    · exact .inr hmem
  · rintro ⟨a, ha, id, uplink, downlinks, requirements, hdeclares, hmem | hmem⟩
    · exact ⟨⟨id, target, .requirement, a.path⟩, Sources.mem_links.2 ⟨a, uplink, downlinks,
        requirements, ha, rfl, hdeclares, .inr (.inl ⟨rfl, hmem⟩)⟩, nofun, rfl⟩
    · exact ⟨⟨id, target, .downlink, a.path⟩, Sources.mem_links.2 ⟨a, uplink, downlinks,
        requirements, ha, rfl, hdeclares, .inr (.inr ⟨rfl, hmem⟩)⟩, nofun, rfl⟩

namespace Sources

/-- The documents are read from texts. -/
def FromTexts (s : Sources) : Prop := ∀ a ∈ s.assets, ∃ path text, Asset.ofText path text = .ok a

/-- An identifier that comes into the graph through a list of identifiers. -/
def Targets (s : Sources) (target : String) : Prop :=
  ∃ l ∈ (build s).1.declaredLinks, l.kind ≠ .uplink ∧ l.target = target

end Sources

theorem exists_ofFields {a : Asset} {path text : String}
    (hread : Asset.ofText path text = .ok a) :
    ∃ before, a.header = ofFields a.header.raw before := by
  rw [Asset.ofText] at hread
  cases hparse : Header.parse text with
  | error fault => simp [hparse, Except.map] at hread
  | ok read =>
    simp only [hparse, Except.map, Except.ok.injEq] at hread
    obtain rfl := hread
    exact exists_ofFields_of_parse hparse

/-- A text alone means the list with it as its only item where it is tidy or nothing is read, and
only there. What comes into the graph through a list is tidy or such a text, and each such text that
a document gives comes as it is. -/
theorem alone_means_singleton_iff (spot : Spot) (hkey : spot.key ∈ listKeys) (text : String)
    (before : List HeaderError) (s : Sources) (hread : s.FromTexts) (target : String) :
    (SameLists (ofFields (spot.given (.str text)) before)
      (ofFields (spot.given (.list [.str text])) before) ↔ (spot.IsRead → IsTidy text)) ∧
    (s.Targets target → IsTidy target ∨ ∃ a, s.IsDocument a ∧ GivesAlone a target) ∧
    ((∃ a, s.IsDocument a ∧ GivesAlone a target) → s.Targets target) := by
  refine ⟨sameLists_alone_iff spot hkey text before, fun htarget => ?_, fun hgives => ?_⟩
  · obtain ⟨a, ha, hlists⟩ := exists_link_iff.1 htarget
    obtain ⟨path, text, htext⟩ := hread a ha.1
    obtain ⟨before, hheader⟩ := exists_ofFields htext
    exact (isTidy_or_givesAlone hheader hlists).imp_right fun hgives => ⟨a, ha, hgives⟩
  · obtain ⟨a, ha, hgives⟩ := hgives
    obtain ⟨path, text, htext⟩ := hread a ha.1
    obtain ⟨before, hheader⟩ := exists_ofFields htext
    exact exists_link_iff.2 ⟨a, ha, lists_of_givesAlone hheader hgives⟩

/-- A note with a downlink that stands alone and a requirement in a list, both with blanks. -/
def blankNoteText : String :=
  "---\nid: X_1\ndownlinks: ' REQ_A '\nrequirements: [' REQ_B ']\n---\n"

def blankNote : List Asset := (Asset.ofText "x.md" blankNoteText).toOption.toList

/-- The downlinks of a header with an identifier, and those of an entity with one. -/
def someSpots : List Spot :=
  [.document (.ofList [("id", .str "X_1")]) "downlinks",
    .entity (.ofList [("id", .str "X_1")]) [] [(.str "id", .str "X_2")] [] "downlinks"]

theorem alone_means_singleton_note :
    (∀ spot ∈ someSpots, spot.key ∈ listKeys ∧ spot.IsRead ∧
      SameLists (ofFields (spot.given (.str "REQ_A")) [])
        (ofFields (spot.given (.list [.str "REQ_A"])) []) ∧
      ¬SameLists (ofFields (spot.given (.str " REQ_A ")) [])
        (ofFields (spot.given (.list [.str " REQ_A "])) [])) ∧
    ({ assets := blankNote } : Sources).FromTexts ∧
      ({ assets := blankNote } : Sources).Targets " REQ_A " ∧ ¬IsTidy " REQ_A " ∧
      (∃ a, ({ assets := blankNote } : Sources).IsDocument a ∧ GivesAlone a " REQ_A ") ∧
      ({ assets := blankNote } : Sources).Targets "REQ_B" := by
  have htidy : IsTidy "REQ_A" := ⟨⟨_, rfl, by decide⟩, ⟨_, rfl, by decide⟩⟩
  have hblank : ¬IsTidy " REQ_A " := by
    rintro ⟨⟨c, hc, hnot⟩, -⟩
    obtain rfl := Option.some.inj hc
    exact absurd hnot (by decide)
  have hread : ({ assets := blankNote } : Sources).FromTexts := by
    intro a ha
    have hfound := Option.mem_toList.1 ha
    refine ⟨"x.md", blankNoteText, ?_⟩
    cases hnote : Asset.ofText "x.md" blankNoteText with
    | error fault =>
      rw [hnote] at hfound
      contradiction
    | ok note =>
      rw [hnote] at hfound
      rw [Option.some.inj hfound]
  have htarget : ({ assets := blankNote } : Sources).Targets " REQ_A " :=
    ⟨⟨"X_1", " REQ_A ", .downlink, "x.md"⟩, by decide +kernel, nofun, rfl⟩
  have hother : ({ assets := blankNote } : Sources).Targets "REQ_B" :=
    ⟨⟨"X_1", "REQ_B", .requirement, "x.md"⟩, by decide +kernel, nofun, rfl⟩
  have hspots : ∀ spot ∈ someSpots, spot.key ∈ listKeys ∧ spot.IsRead := by
    intro spot hspot
    rcases List.mem_pair.1 hspot with rfl | rfl
    · exact ⟨by decide, trivial⟩
    · exact ⟨by decide, show identifierOf _ ≠ none by decide⟩
  have hblanks (spot : Spot) (hspot : spot ∈ someSpots) :=
    alone_means_singleton_iff spot (hspots spot hspot).1 " REQ_A " [] _ hread " REQ_A "
  refine ⟨fun spot hspot => ?_, hread, htarget, hblank, ?_, hother⟩
  · obtain ⟨hkey, hisRead⟩ := hspots spot hspot
    refine ⟨hkey, hisRead, ?_, fun hsame => ?_⟩
    · exact (alone_means_singleton_iff spot hkey "REQ_A" [] _ hread " REQ_A ").1.2 fun _ => htidy
    · exact hblank ((hblanks spot hspot).1.1 hsame hisRead)
  · exact ((hblanks _ (List.mem_cons_self ..)).2.1 htarget).resolve_left hblank

end DocTrace.Graph
