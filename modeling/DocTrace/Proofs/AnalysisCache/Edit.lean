import DocTrace.AnalysisCache.Pool
import DocTrace.Proofs.AnalysisCache.Document

/-! Changes of a cache in memory. Whatever is asked of a cache, a change of its entries
marks it as dirty, and the entries afterwards are old ones or the ones that were stored.
Entries made of the analyses of their own contents stay right under every such change. -/

namespace DocTrace.AnalysisCache

/-- The cache `d` comes from `c` in memory, and all that it stores is in `stored`. -/
structure Edit (stored : Set (String × Entry)) (c d : AnalysisCache) : Prop where
  path : d.path = c.path
  marked : d.dirty = false → c.dirty = false ∧ d.entries = c.entries
  entries : ∀ e ∈ d.entries.entries, e ∈ c.entries.entries ∨ e ∈ stored

variable {stored more : Set (String × Entry)} {c d : AnalysisCache}

theorem Edit.refl (stored : Set (String × Entry)) (c : AnalysisCache) : Edit stored c c :=
  ⟨rfl, fun h => ⟨h, rfl⟩, fun _ he => .inl he⟩

theorem Edit.mono (h : Edit stored c d) (hsub : stored ⊆ more) : Edit more c d :=
  ⟨h.path, h.marked, fun e he => (h.entries e he).imp_right fun hs => hsub hs⟩

theorem Edit.trans {f : AnalysisCache} (hcd : Edit stored c d) (hdf : Edit stored d f) :
    Edit stored c f where
  path := hdf.path.trans hcd.path
  marked hf := by
    obtain ⟨hd, hfd⟩ := hdf.marked hf
    obtain ⟨hc, hdc⟩ := hcd.marked hd
    exact ⟨hc, hfd.trans hdc⟩
  entries e he := (hdf.entries e he).elim (hcd.entries e) .inr

theorem Edit.forall_entries {P : String × Entry → Prop} (h : Edit stored c d)
    (hold : ∀ e ∈ c.entries.entries, P e) (hnew : ∀ e ∈ stored, P e) :
    ∀ e ∈ d.entries.entries, P e := fun e he => (h.entries e he).elim (hold e) (hnew e)

/-! ### Requests -/

/-- The entry that stands for an analysis of a content. -/
def stamped (now : ℤ) (content : String) (a : Analysis) (filePath : Option String) :
    String × Entry :=
  (contentHash content, .ofAnalysis (contentHash content) now a filePath)

theorem edit_get (c : AnalysisCache) (content : String) : Edit ∅ c (c.get content).2 := by
  unfold get
  dsimp only
  split <;> exact ⟨rfl, fun h => ⟨h, rfl⟩, fun _ he => .inl he⟩

theorem edit_put (c : AnalysisCache) (now : ℤ) (content : String) (a : Analysis)
    (filePath : Option String) :
    Edit {stamped now content a filePath} c (c.put now content a filePath).2 := by
  unfold put
  dsimp only
  split
  · exact ⟨rfl, fun h => ⟨h, rfl⟩, fun _ he => .inl he⟩
  · refine ⟨rfl, fun h => by simp at h, ?_⟩
    exact Table.forall_entries_put
      (P := fun k e => (k, e) ∈ c.entries.entries ∨ (k, e) ∈ _) (fun _ he => .inl he) (.inr rfl)

theorem edit_analyze (c : AnalysisCache) (now : ℤ) (content : String) (filePath : Option String) :
    Edit {stamped now content (DocTrace.analyze content) filePath} c
      (c.analyze now content filePath).2.1 := by
  have hget := (edit_get c content).mono (Set.empty_subset
    {stamped now content (DocTrace.analyze content) filePath})
  unfold analyze
  split
  · next hfound => simpa only [hfound] using hget
  · next hfound =>
    rw [hfound] at hget
    exact hget.trans (edit_put ..)

/-- Entries from before a time that were not used. -/
def isStale (c : AnalysisCache) (time : ℤ) (e : String × Entry) : Bool :=
  e.2.timestamp < time && !c.used.contains e.1

/-- What pruning leaves of a cache: the entries that are not stale, in their order. -/
structure Pruned (c : AnalysisCache) (time : ℤ) (count : ℕ) (d : AnalysisCache) : Prop where
  entries : d.entries.entries = c.entries.entries.filter fun e => !c.isStale time e
  count_eq : count = (c.entries.entries.filter (c.isStale time)).length
  path : d.path = c.path
  used : d.used = c.used
  marked : d.dirty = false → c.dirty = false ∧ d.entries = c.entries

theorem pruned_of_prune {now : ℤ} {limit : AgeLimit} {count : ℕ} {notices : List Notice}
    (h : c.prune now limit = .ok (count, d, notices)) :
    ∃ age, limit.milliseconds = .ok age ∧ Pruned c (now - age) count d := by
  unfold prune at h
  cases hage : limit.milliseconds with
  | error fault => simp [hage, Except.map] at h
  | ok age =>
    simp only [hage, Except.map, Except.ok.injEq] at h
    refine ⟨age, rfl, ?_⟩
    split at h
    · next hnone =>
      obtain ⟨rfl, hrest⟩ := Prod.mk.inj h
      obtain ⟨rfl, -⟩ := Prod.mk.inj hrest
      have hstale : c.entries.entries.filter (c.isStale (now - age)) = [] :=
        List.length_eq_zero_iff.1 hnone
      have hkept : ∀ e ∈ c.entries.entries, (!c.isStale (now - age) e) = true := fun e he => by
        simpa using List.filter_eq_nil_iff.1 hstale e he
      exact ⟨(List.filter_eq_self.2 hkept).symm, by rw [hstale]; rfl, rfl, rfl,
        fun hclean => ⟨hclean, rfl⟩⟩
    · obtain ⟨rfl, hrest⟩ := Prod.mk.inj h
      obtain ⟨rfl, -⟩ := Prod.mk.inj hrest
      exact ⟨rfl, rfl, rfl, rfl, fun hclean => by simp at hclean⟩

theorem edit_prune {now : ℤ} {limit : AgeLimit} {count : ℕ} {notices : List Notice}
    (h : c.prune now limit = .ok (count, d, notices)) : Edit ∅ c d := by
  obtain ⟨age, -, hpruned⟩ := pruned_of_prune h
  exact ⟨hpruned.path, hpruned.marked,
    fun e he => .inl (List.mem_of_mem_filter (hpruned.entries ▸ he))⟩

theorem prune_error {limit : AgeLimit} {fault : AgeLimit.Fault}
    (h : limit.milliseconds = .error fault) (c : AnalysisCache) (now : ℤ) :
    c.prune now limit = .error fault := by
  simp [prune, h, Except.map]

theorem exists_prune {limit : AgeLimit} {age : ℤ} (h : limit.milliseconds = .ok age)
    (c : AnalysisCache) (now : ℤ) :
    ∃ count pruned notices, c.prune now limit = .ok (count, pruned, notices) := by
  unfold prune
  rw [h]
  exact ⟨_, _, _, rfl⟩

theorem prune_empty {limit : AgeLimit} {age : ℤ} (h : limit.milliseconds = .ok age)
    (hc : c.entries = {}) (now : ℤ) : c.prune now limit = .ok (0, c, []) := by
  simp [prune, h, Except.map, hc, Table.filter, Table.size]

theorem edit_clear (c : AnalysisCache) : Edit ∅ c c.clear :=
  ⟨rfl, fun h => by simp [clear] at h, fun e he => by simp [clear] at he⟩

/-! ### Entries that can be written -/

theorem writable_stamped {now : ℤ} (hnow : IsClockTime now) (content : String) (a : Analysis)
    (filePath : Option String) : (stamped now content a filePath).2.Writable :=
  ⟨rfl, hnow.digits, readable_ofOption _ filePath⟩

theorem Edit.writable (h : Edit stored c d) (hc : c.Writable) (hnew : ∀ e ∈ stored, e.2.Writable) :
    d.Writable := h.forall_entries hc hnew

/-! ### Entries of the analyses of their own contents -/

theorem unmarked_analyze (content : String) :
    (DocTrace.analyze content).unmarked = DocTrace.analyze content := by
  have hmark : (DocTrace.analyze content).fromCache = false := by
    unfold DocTrace.analyze analyzeAs
    split <;> rfl
  exact Analysis.unmarked_eq_self hmark

/-- An entry holds what an analysis says. -/
structure Entry.Holds (e : Entry) (a : Analysis) : Prop where
  diagramType : e.diagramType = a.diagramType
  nodes : e.nodes = a.nodes
  edges : e.edges = a.edges
  labels : e.labels = a.labels

theorem Entry.Holds.toAnalysis_eq {e : Entry} {a : Analysis} (h : e.Holds a) :
    e.toAnalysis = { a with fromCache := true } := by
  rw [Entry.toAnalysis, h.diagramType, h.nodes, h.edges, h.labels]

theorem Entry.holds_ofAnalysis (hash : String) (now : ℤ) (a : Analysis)
    (filePath : Option String) : (Entry.ofAnalysis hash now a filePath).Holds a :=
  ⟨rfl, rfl, rfl, rfl⟩

theorem Entry.Holds.unmarked_toAnalysis {e : Entry} {a : Analysis} (h : e.Holds a) :
    e.toAnalysis.unmarked = a.unmarked := by
  rw [h.toAnalysis_eq]
  rfl

/-- An entry is stored under the digest of one of some contents and holds the analysis of it. -/
def IsFresh (contents : Set String) (e : String × Entry) : Prop :=
  ∃ content ∈ contents, e.1 = contentHash content ∧ e.2.Holds (DocTrace.analyze content)

/-- All entries are the analyses of some contents. -/
def Fresh (contents : Set String) (c : AnalysisCache) : Prop :=
  ∀ e ∈ c.entries.entries, IsFresh contents e

theorem isFresh_stamped {contents : Set String} {content : String} (h : content ∈ contents)
    (now : ℤ) (filePath : Option String) :
    IsFresh contents (stamped now content (DocTrace.analyze content) filePath) :=
  ⟨content, h, rfl, Entry.holds_ofAnalysis ..⟩

theorem Edit.fresh {contents : Set String} (h : Edit stored c d) (hc : Fresh contents c)
    (hnew : ∀ e ∈ stored, IsFresh contents e) : Fresh contents d := h.forall_entries hc hnew

/-- Where digests tell contents apart, what is stored under the digest of a content is right. -/
theorem Fresh.holds {contents : Set String} (h : Fresh contents c) {content : String}
    (hdigests : Set.InjOn contentHash (insert content contents)) {e : Entry}
    (he : c.entries.find? (contentHash content) = some e) : e.Holds (DocTrace.analyze content) := by
  obtain ⟨other, hother, hkey, hholds⟩ := h _ (Table.find?_eq_some_iff.1 he)
  have hsame : content = other :=
    hdigests (Set.mem_insert ..) (Set.mem_insert_of_mem _ hother) hkey
  rwa [hsame]

theorem exists_of_get {content : String} {a : Analysis} (ha : (c.get content).1 = some a) :
    ∃ e, c.entries.find? (contentHash content) = some e ∧ e.toAnalysis = a := by
  unfold get at ha
  dsimp only at ha
  split at ha
  · simp at ha
  · next e he => exact ⟨e, he, Option.some.inj ha⟩

end DocTrace.AnalysisCache
