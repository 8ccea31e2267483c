import DocTrace.Proofs.Graph.Metadata
import DocTrace.Proofs.Graph.Registry
import DocTrace.Proofs.Inspection.Alike

/-! With distinct identifiers the order of documents does not matter to the graph of a project:
graphs from the same documents in another order are alike. -/

namespace DocTrace.Graph

/-! ### What the sources give as it is -/

theorem build_same_start {view : Graph → β}
    (hregister : ∀ g files duplicates,
      view { g with idToFile := files, duplicates := duplicates } = view g)
    (hensure : ∀ g id, view (g.ensure id) = view g)
    (hup : ∀ g child parent, view (g.addUplink child parent) = view g)
    (hdown : ∀ g parent child, view (g.addDownlink parent child) = view g)
    (hrecord : ∀ g links refs,
      view { g with declaredLinks := links, referencedIds := refs } = view g)
    (halias : ∀ g files stems, view { g with idToFile := files, stemIds := stems } = view g)
    (hrefer : ∀ g id, view (g.refer id) = view g)
    (hdescribe : ∀ g id key value, view (g.describe id key value) = view g) (s : Sources) :
    view (build s).1 = view (start s) := by
  have hconnect (g : Graph) (parent child : String) : view (g.connect parent child) = view g :=
    (hdown ..).trans (hup ..)
  calc view (build s).1 = view s.implied := build_same hdescribe s
    _ = view s.addressed := implied_same hrefer hconnect s
    _ = view s.drawn := addressed_same halias s
    _ = view s.registered := drawn_same hensure hup hdown hrecord s
    _ = view (start s) := registered_same hregister s

theorem settings_build (s : Sources) : (build s).1.settings = (start s).settings :=
  build_same_start (fun _ _ _ => rfl) (fun _ _ => rfl) (fun _ _ _ => rfl) (fun _ _ _ => rfl)
    (fun _ _ _ => rfl) (fun _ _ _ => rfl) (fun _ _ => rfl) (fun _ _ _ _ => rfl) s

theorem files_build (s : Sources) : (build s).1.files = s.assets.map (·.path) :=
  build_same_start (fun _ _ _ => rfl) (fun _ _ => rfl) (fun _ _ _ => rfl) (fun _ _ _ => rfl)
    (fun _ _ _ => rfl) (fun _ _ _ => rfl) (fun _ _ => rfl) (fun _ _ _ _ => rfl) s

/-! ### Declarations -/

theorem Declares.mem_allIds {a : Asset} {id : String} {uplink : Option String}
    {downlinks requirements : List String} (h : Declares a id uplink downlinks requirements) :
    id ∈ a.header.allIds := by
  cases h with
  | own hid => exact List.mem_append_left _ (Option.mem_toList.2 hid)
  | entity he => exact List.mem_append_right _ (List.mem_map_of_mem he)

theorem Sources.mem_declarations_of_mem_links {s : Sources} {l : Link} (hl : l ∈ s.links) :
    (l.source, l.file) ∈ s.declarations := by
  obtain ⟨a, uplink, downlinks, requirements, ha, hfile, hdeclares, -⟩ := Sources.mem_links.1 hl
  refine List.mem_flatMap.2 ⟨a, Sources.mem_documents.2 ha, ?_⟩
  rw [hfile]
  exact List.mem_map_of_mem hdeclares.mem_allIds

/-- With distinct identifiers the links of each of them come from one file. -/
theorem Sources.file_of_source {s : Sources} (hdistinct : (s.declarations.map (·.1)).Nodup)
    {l m : Link} (hl : l ∈ s.links) (hm : m ∈ s.links) (hsource : l.source = m.source) :
    l.file = m.file := by
  have hfirst := (firstFile_eq_some_iff hdistinct).2 (Sources.mem_declarations_of_mem_links hl)
  have hsecond := (firstFile_eq_some_iff hdistinct).2 (Sources.mem_declarations_of_mem_links hm)
  rw [hsource, hsecond] at hfirst
  exact (Option.some.inj hfirst).symm

/-! ### Another order -/

section Reordered

variable {s : Sources} {assets : List Asset} (hperm : s.assets.Perm assets)

include hperm

theorem documents_perm : s.documents.Perm ({ s with assets } : Sources).documents :=
  hperm.filter _

theorem isDocument_perm : ({ s with assets } : Sources).IsDocument = s.IsDocument := by
  funext a
  rw [Sources.IsDocument, Sources.IsDocument, hperm.mem_iff]

theorem declaredParents_perm :
    ({ s with assets } : Sources).declaredParents = s.declaredParents := by
  funext id
  rw [Sources.declaredParents, Sources.declaredParents, isDocument_perm hperm]

theorem declaredChildren_perm :
    ({ s with assets } : Sources).declaredChildren = s.declaredChildren := by
  funext id
  rw [Sources.declaredChildren, Sources.declaredChildren, isDocument_perm hperm]

theorem ownershipEdgesOf_perm :
    ({ s with assets } : Sources).ownershipEdgesOf = s.ownershipEdgesOf := by
  have howned : ({ s with assets } : Sources).ownedEdges = s.ownedEdges := by
    funext file found
    rw [Sources.ownedEdges, Sources.ownedEdges, declaredParents_perm hperm]
  funext a
  rw [Sources.ownershipEdgesOf, Sources.ownershipEdgesOf, howned]

theorem hubEdges_perm : ({ s with assets } : Sources).hubEdges = s.hubEdges := by
  rw [Sources.hubEdges, Sources.hubEdges, isDocument_perm hperm]
  rfl

theorem ownershipEdges_perm : ({ s with assets } : Sources).ownershipEdges = s.ownershipEdges := by
  rw [Sources.ownershipEdges, Sources.ownershipEdges, isDocument_perm hperm,
    ownershipEdgesOf_perm hperm]

theorem upEdges_build_perm : (build { s with assets }).1.upEdges = (build s).1.upEdges := by
  rw [(extends_build _).upEdges, (extends_build s).upEdges, upEdges_start, upEdges_start,
    declaredParents_perm hperm, hubEdges_perm hperm, ownershipEdges_perm hperm]

theorem downEdges_build_perm : (build { s with assets }).1.downEdges = (build s).1.downEdges := by
  rw [(extends_build _).downEdges, (extends_build s).downEdges, downEdges_start, downEdges_start,
    declaredChildren_perm hperm, hubEdges_perm hperm, ownershipEdges_perm hperm]

theorem declarations_perm : s.declarations.Perm ({ s with assets } : Sources).declarations :=
  (documents_perm hperm).flatMap_right _

theorem links_perm : s.links.Perm ({ s with assets } : Sources).links :=
  ((documents_perm hperm).flatMap_right _).flatMap_right _

theorem nodeIds_build_perm : (build { s with assets }).1.nodeIds = (build s).1.nodeIds := by
  have hdeclarations := (documents_perm hperm).flatMap_right declarationsOf
  rw [nodeIds_build, nodeIds_build, ownershipEdgesOf_perm hperm]
  simp only [← hdeclarations.mem_iff, ← (documents_perm hperm).mem_iff]
  rfl

theorem referred_build_perm : (build { s with assets }).1.referred = (build s).1.referred := by
  rw [referred_build, referred_build]
  simp only [← (links_perm hperm).mem_iff, ← (documents_perm hperm).mem_iff]
  rfl

theorem isMain_implied_perm :
    s.implied.isMain = ({ s with assets } : Sources).implied.isMain := by
  have hmain (s : Sources) : (build s).1.isMain = s.implied.isMain := by
    rw [build_eq_stages]
    exact isMain_of_extends (.foldl_same extends_describeAsset s.implied s.documents)
  rw [← hmain, ← hmain]
  exact (isMain_congr (upEdges_build_perm hperm) (downEdges_build_perm hperm)).symm

theorem isDeclared_build_perm :
    (build s).1.isDeclared = (build { s with assets }).1.isDeclared := by
  have haliases : s.aliases.Perm ({ s with assets } : Sources).aliases := hperm.flatMap_right _
  funext id
  rw [Bool.eq_iff_iff, isDeclared_build, isDeclared_build,
    ((declarations_perm hperm).map _).mem_iff, (haliases.map _).mem_iff]

theorem declaredIds_build_perm :
    (build s).1.declaredIds.Perm (build { s with assets }).1.declaredIds := by
  rw [List.perm_ext_iff_of_nodup (nodup_declaredIds _) (nodup_declaredIds _)]
  intro id
  rw [mem_declaredIds_build, mem_declaredIds_build, ((declarations_perm hperm).map _).mem_iff]

theorem find?_build_perm (hdistinct : (s.declarations.map (·.1)).Nodup) {id : String}
    (hid : id ∈ (build s).1.declaredIds) :
    (build s).1.idToFile.find? id = (build { s with assets }).1.idToFile.find? id := by
  have hsome := firstFile_isSome.2 ((mem_declaredIds_build s id).1 hid)
  obtain ⟨file, hfile⟩ := Option.isSome_iff_exists.1 hsome
  rw [find?_build, find?_build, ← firstFile_perm hdistinct (declarations_perm hperm), hfile]
  rfl

/-- The graphs of the same documents in two orders are alike. -/
theorem alike_build (hdistinct : (s.documents.flatMap (·.header.allIds)).Nodup) :
    Alike (build s).1 (build { s with assets }).1 := by
  have hids : (s.declarations.map (·.1)).Nodup := s.map_fst_declarations ▸ hdistinct
  have hids' := ((declarations_perm hperm).map (·.1)).nodup_iff.1 hids
  have hedges (s : Sources) : (build s).1.DistinctEdges :=
    (extends_build s).distinct (distinctEdges_start s)
  constructor
  case nodes => exact (nodeIds_build_perm hperm).symm
  case uplinks =>
    intro id
    rw [List.perm_ext_iff_of_nodup (hedges s id).1 (hedges _ id).1]
    intro p
    exact (Set.ext_iff.1 (upEdges_build_perm hperm) (p, id)).symm
  case downlinks =>
    intro id
    rw [List.perm_ext_iff_of_nodup (hedges s id).2 (hedges _ id).2]
    intro c
    exact (Set.ext_iff.1 (downEdges_build_perm hperm) (id, c)).symm
  case metadata =>
    exact (metadata?_build_perm hperm hdistinct (isMain_implied_perm hperm)).symm
  case referred => exact (referred_build_perm hperm).symm
  case declared => exact declaredIds_build_perm hperm
  case addressed => exact isDeclared_build_perm hperm
  -- Only declared identifiers: which of two files a mere name stands for depends on the order.
  case places => exact fun id => find?_build_perm hperm hids
  case duplicates => rw [duplicates_build s hids, duplicates_build _ hids']
  case links =>
    rw [(holds_build s).links, (holds_build _).links]
    exact links_perm hperm
  case files =>
    rw [files_build, files_build]
    exact hperm.map _
  case settings =>
    rw [settings_build, settings_build]
    rfl
  case distinct => exact hedges s
  case sources =>
    intro l hl m hm
    rw [(holds_build s).links] at hl hm
    exact Sources.file_of_source hids hl hm

end Reordered

end DocTrace.Graph
