import DocTrace.Proofs.AnalysisCache.Usage
import DocTrace.Proofs.Lint.Transparency

/-! What passes count. Every pass asks its cache once for each diagram. A pass that keeps its cache
leaves a document with an entry for every diagram that it had: what was used is not pruned, and
a cache that has nothing to write agrees with the document. So a pass that comes after it and
has no other diagram bodies misses nothing, whatever else has changed. -/

namespace DocTrace.Lint

open AnalysisCache

variable {course : Course} {disk : Disk} {options : Options} {g h : Gathered}
  {contents : Set String} {cache c : AnalysisCache} {diagrams : List Asset} {e : Examined}

/-! ### Analyzing -/

theorem tallied_callsFor (cache : AnalysisCache) (diagrams : List Asset) :
    Pool.Tallied cache { cache, calls := callsFor diagrams } := by
  have hwaiting : ∀ call ∈ callsFor diagrams, call.progress = .waiting := by
    intro call hcall
    obtain ⟨a, -, rfl⟩ := List.mem_map.1 hcall
    rfl
  refine ⟨?_, fun call hcall ⟨a, ha⟩ => by simp [hwaiting call hcall] at ha⟩
  have hnone : (callsFor diagrams).countP (·.hasBegun) = 0 :=
    List.countP_eq_zero.2 fun call hcall => by simp [Call.hasBegun, hwaiting call hcall]
  rw [hnone, Nat.add_zero]

/-- Analyzing asks once for each diagram, and all their entries are used then. -/
theorem analyzeAll_tally (course : Course) (cache : AnalysisCache) (diagrams : List Asset) :
    (analyzeAll course cache diagrams).2.1.asked = cache.asked + diagrams.length ∧
      ∀ a ∈ diagrams, contentHash a.body ∈ (analyzeAll course cache diagrams).2.1.used := by
  let start : Pool := { cache, calls := callsFor diagrams }
  have hlength : start.calls.length = diagrams.length := List.length_map _
  obtain ⟨hasked, hused⟩ :=
    tallied_complete (tallied_callsFor cache diagrams) course.turns course.analyzing
  refine ⟨hasked.trans (congrArg (cache.asked + ·) hlength), fun a ha => ?_⟩
  have hcontents : (start.complete course.turns course.analyzing).calls.map (·.content) =
      diagrams.map (·.body) := (contents_run start _).trans (callsFor_content diagrams)
  have hbody : a.body ∈ (start.complete course.turns course.analyzing).calls.map (·.content) :=
    hcontents ▸ List.mem_map_of_mem (f := (·.body)) ha
  obtain ⟨call, hcall, hcontent⟩ := List.mem_map.1 hbody
  exact hcontent ▸ hused call hcall

/-- Analyzing misses nothing where every diagram has an entry. -/
theorem misses_analyzeAll (hkeys : ∀ a ∈ diagrams, contentHash a.body ∈ cache.entries.keys)
    (course : Course) : (analyzeAll course cache diagrams).2.1.misses = cache.misses := by
  have hwarm : Pool.IsWarm { cache, calls := callsFor diagrams } := by
    intro content hcontent
    rw [callsFor_content] at hcontent
    obtain ⟨a, ha, rfl⟩ := List.mem_map.1 hcontent
    exact hkeys a ha
  exact misses_run hwarm _

/-- Where the cache of a pass is read from, if it is kept. -/
def Gathered.cachePath (g : Gathered) (options : Options) : Option Path :=
  if isPersistent g.config options then some g.config.cacheFile else none

theorem cache_of_examine (hresult : (examine course disk options g).result = .ok e) :
    e.cache =
      (analyzeAll course (openAt disk (g.cachePath options)).cache g.diagrams).2.1 := by
  unfold Gathered.cachePath
  cases hpersistent : isPersistent g.config options with
  | false =>
    rw [examine_transient hpersistent] at hresult
    obtain rfl := Except.ok.inj hresult
    rfl
  | true =>
    obtain ⟨cache, left, hopen, -, rfl⟩ := exists_of_examine hpersistent hresult
    obtain rfl := eq_of_openCache hopen
    rfl

theorem asked_of_examine (hresult : (examine course disk options g).result = .ok e) :
    e.cache.asked = g.diagrams.length := by
  have hopened : (openAt disk (g.cachePath options)).cache.asked = 0 := asked_load _ disk
  rw [cache_of_examine hresult, (analyzeAll_tally course _ g.diagrams).1, hopened, Nat.zero_add]

/-! ### What a pass leaves -/

/-- Whether the cache of a pass is kept in a file that can be read. -/
structure Gathered.ReadsCache (g : Gathered) (disk : Disk) (options : Options) : Prop where
  persistent : isPersistent g.config options = true
  named : isFilePath g.config.cacheFile = true
  short : disk.isTooLong g.config.cacheFile = false

/-- Whether the cache of a pass is kept in a file that can be read and written. -/
structure Gathered.WritesCache (g : Gathered) (disk : Disk) (options : Options) : Prop extends
    g.ReadsCache disk options where
  replaceable : ∀ content, (replaceFile disk g.config.cacheFile content).2 = true

/-- A cache whose file can be written is stored unless there is nothing to write. -/
theorem storeCache_cases {limit : AgeLimit} {path : Path} {left : Disk × Bool}
    (hstore : (storeCache course disk limit c).result = .ok left) (hpath : c.path = some path)
    (hcan : ∀ content, (replaceFile disk path content).2 = true) :
    ∃ count d notices, c.prune course.pruning limit = .ok (count, d, notices) ∧
      (d.dirty = false ∧ left = (disk, false) ∨
        left.2 = true ∧ left.1.file? path = some (d.written course.saving)) := by
  rw [storeCache_result] at hstore
  cases hprune : c.prune course.pruning limit with
  | error fault => simp [hprune] at hstore
  | ok pruned =>
    obtain ⟨count, d, notices⟩ := pruned
    refine ⟨count, d, notices, rfl, ?_⟩
    simp only [hprune] at hstore
    have hkept : d.path = some path := (edit_prune hprune).path.trans hpath
    cases hdirty : d.dirty with
    | false =>
      rw [save_clean hdirty] at hstore
      exact .inl ⟨rfl, (Except.ok.inj hstore).symm⟩
    | true =>
      cases hname : isFilePath path with
      | false =>
        rw [save_invalid hkept hname hdirty] at hstore
        simp [Except.map, Except.mapError] at hstore
      | true =>
        have hreplace : replaceFile disk path (d.written course.saving) =
            ((replaceFile disk path (d.written course.saving)).1, true) :=
          Prod.ext rfl (hcan (d.written course.saving))
        rw [save_replaced hkept hname hdirty hreplace] at hstore
        obtain rfl := Except.ok.inj hstore
        exact .inr ⟨rfl, file?_replaceFile (isFilePath_name hname) hreplace⟩

/-- What a pass leaves in the file of its cache has an entry for each of its diagrams, and holds
the analyses of their own contents only. -/
structure Leaves (contents : Set String) (g : Gathered) (document? : Option (List UInt8)) :
    Prop where
  fresh : ∀ document, document? = some document → IsFreshDocument contents document
  stored : ∀ a ∈ g.diagrams, ∃ document, document? = some document ∧ Stores document a.body

theorem leaves_of_examine (hcourse : course.IsTimely) (hbodies : g.bodies ⊆ contents)
    (hdigests : Set.InjOn contentHash contents)
    (hreads : ∀ document ∈ g.reads disk options, IsFreshDocument contents document)
    (hwrites : g.WritesCache disk options)
    (hresult : (examine course disk options g).result = .ok e) :
    Leaves contents g (e.disk.file? g.config.cacheFile) := by
  have hfreshStored (hstored : e.stored = true) (document : List UInt8)
      (hfile : e.disk.file? g.config.cacheFile = some document) :
      IsFreshDocument contents document :=
    isFreshDocument_of_stored hcourse hbodies hdigests hreads hresult hstored hfile
  have hread : ∀ document ∈ documentsRead (some g.config.cacheFile) disk,
      IsFreshDocument contents document := fun document h => hreads document ⟨hwrites.persistent, h⟩
  obtain ⟨opened, left, hopen, hstore, rfl⟩ := exists_of_examine hwrites.persistent hresult
  obtain ⟨hfresh, hwritable, hpath⟩ := openCache_fresh hread hopen
  obtain ⟨-, hedit, hkeys⟩ := analyzeAll_spec hcourse hfresh hbodies hdigests
  obtain ⟨count, d, notices, hprune, hleft⟩ :=
    storeCache_cases hstore (hedit.path.trans hpath) hwrites.replaceable
  have hkept : ∀ a ∈ g.diagrams, contentHash a.body ∈ d.entries.keys := fun a ha =>
    mem_keys_prune hprune (hkeys a ha) ((analyzeAll_tally course opened g.diagrams).2 a ha)
  rcases hleft with ⟨hclean, rfl⟩ | ⟨hstored, hfile⟩
  -- Nothing had to be written, so all entries were in the document that was read.
  · refine ⟨fun document hfile => hreads document
      ⟨hwrites.persistent, _, rfl, hwrites.named, hwrites.short, hfile⟩, fun a ha => ?_⟩
    obtain ⟨hclean, hpruned⟩ := (edit_prune hprune).marked hclean
    obtain ⟨-, hanalyzed⟩ := hedit.marked hclean
    have hkey := hkept a ha
    rw [hpruned, hanalyzed, ← eq_of_openCache hopen] at hkey
    exact exists_stores_of_openAt hread hkey
  · have hwritableLeft := (edit_prune hprune).writable
      (hedit.writable hwritable fun _ he => he.2) (by simp)
    exact ⟨hfreshStored hstored, fun a ha =>
      ⟨_, hfile, d, course.saving, hwritableLeft, hcourse.saving, hkept a ha, rfl⟩⟩

/-- A pass that keeps its cache and does not break off has an age limit that can be counted. -/
theorem age_of_examine (hpersistent : isPersistent g.config options = true)
    (hresult : (examine course disk options g).result = .ok e) :
    ∃ age, g.config.maxAge.milliseconds = .ok age := by
  obtain ⟨cache, left, -, hstore, -⟩ := exists_of_examine hpersistent hresult
  cases hage : g.config.maxAge.milliseconds with
  | ok age => exact ⟨age, rfl⟩
  | error fault => simp [storeCache_age hage] at hstore

/-! ### Passes -/

namespace Pass

variable {p q : Pass} {r : Report}

/-- The report of the pass, or why it has none. -/
def report (p : Pass) : Except Fault Report :=
  (ofProjectAlong p.course p.disk p.projectRoot p.cpus p.options).result.map Outcome.report

theorem exists_report_iff : (∃ r, p.report = .ok r) ↔ ∃ f, p.findings = .ok f := by
  unfold report findings
  cases (ofProjectAlong p.course p.disk p.projectRoot p.cpus p.options).result <;>
    simp [Except.map]

/-- A pass with a report has examined its diagrams, and reports what its cache has counted. -/
theorem exists_of_report (hgathered : p.gathered = .ok g) (hreport : p.report = .ok r) :
    ∃ e, (examine p.course p.disk p.options g).result = .ok e ∧
      r.cacheHits = e.cache.hits ∧ r.cacheMisses = e.cache.misses := by
  unfold report at hreport
  rw [result_of_gathered hgathered] at hreport
  cases hexamined : (examine p.course p.disk p.options g).result with
  | error fault => simp [hexamined, Except.bind, Except.map] at hreport
  | ok e =>
    refine ⟨e, rfl, ?_⟩
    simp only [hexamined, Except.bind, conclude] at hreport
    split at hreport
    · simp [Told.result_bind, Except.bind, Except.map] at hreport
    · simp only [Told.result_bind, Told.result_tell, Told.result_pure, Except.bind, Except.map,
        Except.ok.injEq] at hreport
      exact hreport ▸ ⟨rfl, rfl⟩

theorem counts_of_report (hgathered : p.gathered = .ok g) (hreport : p.report = .ok r) :
    r.cacheHits + r.cacheMisses = g.diagrams.length := by
  obtain ⟨e, hexamined, hhits, hmisses⟩ := exists_of_report hgathered hreport
  rw [hhits, hmisses]
  exact asked_of_examine hexamined

theorem left_of_examine (hgathered : p.gathered = .ok g)
    (hexamined : (examine p.course p.disk p.options g).result = .ok e) :
    p.left = (e.disk, e.stored) := by
  simp only [left, hgathered, Except.bind, hexamined]

/-- A pass `q` that comes after a completed pass `p`. Both keep their cache in a file, `q` finds
there what `p` has left, and it has no diagram body that `p` did not have. Anything else may have
changed in between. -/
structure Warms (p q : Pass) (g h : Gathered) : Prop where
  before : p.gathered = .ok g
  completed : ∃ r, p.report = .ok r
  writes : g.WritesCache p.disk p.options
  after : q.gathered = .ok h
  reads : h.ReadsCache q.disk q.options
  document : q.disk.file? h.config.cacheFile = p.left.1.file? g.config.cacheFile
  bodies : h.bodies ⊆ g.bodies

theorem Warms.leaves (hwarms : p.Warms q g h) (hcourse : p.course.IsTimely)
    (hbodies : p.bodies ⊆ contents) (hdigests : Set.InjOn contentHash contents)
    (hreads : ∀ document ∈ p.reads, IsFreshDocument contents document) :
    Leaves contents g (q.disk.file? h.config.cacheFile) := by
  obtain ⟨r, hreport⟩ := hwarms.completed
  obtain ⟨e, hexamined, -⟩ := exists_of_report hwarms.before hreport
  rw [hwarms.document, left_of_examine hwarms.before hexamined]
  exact leaves_of_examine hcourse (bodies_of_gathered hwarms.before ▸ hbodies) hdigests
    (reads_of_gathered hwarms.before ▸ hreads) hwarms.writes hexamined

/-- A pass that finds an entry for every diagram only hits. -/
theorem Warms.counts (hwarms : p.Warms q g h)
    (hleaves : Leaves contents g (q.disk.file? h.config.cacheFile)) (hreport : q.report = .ok r) :
    r.cacheMisses = 0 ∧ r.cacheHits = h.diagrams.length := by
  have hkeys : ∀ a ∈ h.diagrams, contentHash a.body ∈
      (openAt q.disk (h.cachePath q.options)).cache.entries.keys := by
    intro a ha
    obtain ⟨b, hb, hbody⟩ := hwarms.bodies ⟨a, ha, rfl⟩
    obtain ⟨document, hfile, hstores⟩ := hleaves.stored b hb
    rw [Gathered.cachePath, if_pos hwarms.reads.persistent, ← hbody]
    exact hstores.openAt hwarms.reads.named hwarms.reads.short hfile
  have hcounts := counts_of_report hwarms.after hreport
  obtain ⟨e, hexamined, -, hmisses⟩ := exists_of_report hwarms.after hreport
  have hnone : r.cacheMisses = 0 := by
    have hopened : (openAt q.disk (h.cachePath q.options)).cache.asked = 0 := asked_load _ q.disk
    rw [hmisses, cache_of_examine hexamined, misses_analyzeAll hkeys]
    exact (Nat.add_eq_zero_iff.1 hopened).2
  exact ⟨hnone, by omega⟩

/-- A pass after another one is completed if it would be without its cache and its age limit can be
counted, and only then. -/
theorem Warms.completed_iff (hwarms : p.Warms q g h)
    (hleaves : Leaves contents g (q.disk.file? h.config.cacheFile)) (hcourse : q.course.IsTimely)
    (hbodies : q.bodies ⊆ contents) (hdigests : Set.InjOn contentHash contents)
    (huncached : course.IsTimely) :
    (∃ r, q.report = .ok r) ↔ (∃ r, (q.uncached course).report = .ok r) ∧
      ∃ age, h.config.maxAge.milliseconds = .ok age := by
  have hreads : ∀ document ∈ q.reads, IsFreshDocument contents document := by
    rw [reads_of_gathered hwarms.after]
    rintro document ⟨-, path, hpath, -, -, hfile⟩
    exact hleaves.fresh document (Option.some.inj hpath ▸ hfile)
  have hsame := findings_eq_of_fresh hcourse hbodies hdigests hreads huncached
  have husable : (∃ age, h.config.maxAge.milliseconds = .ok age) → q.CanUseCache := by
    rw [canUseCache_of_gathered hwarms.after]
    exact fun hage _ => ⟨hage, by simp [hwarms.reads.named, hwarms.reads.short]⟩
  rw [exists_report_iff, exists_report_iff]
  constructor
  · intro hfound
    obtain ⟨r, hreport⟩ := exists_report_iff.2 hfound
    obtain ⟨e, hexamined, -⟩ := exists_of_report hwarms.after hreport
    have hage := age_of_examine hwarms.reads.persistent hexamined
    exact ⟨hsame.2 (husable hage) ▸ hfound, hage⟩
  · rintro ⟨hfound, hage⟩
    exact (hsame.2 (husable hage)).symm ▸ hfound

end Pass

/-- In every pass the hits and misses are its diagrams. A pass that comes after a completed one, in
any history of passes, and has no other diagram bodies has hits only, whatever has happened to the
rest of the documents, the rules, the configuration and the clock. It comes to an end exactly if it
does without its cache and its age limit can be counted in milliseconds. -/
theorem report_of_warms {passes : List Pass} (hclock : ∀ p ∈ passes, p.course.IsTimely)
    (hreads : ReadsFrom ∅ passes) (hdigests : Set.InjOn contentHash (⋃ p ∈ passes, p.bodies))
    (hcourse : course.IsTimely) :
    (∀ (p : Pass) (g : Gathered) (r : Report), p.gathered = .ok g → p.report = .ok r →
      r.cacheHits + r.cacheMisses = g.diagrams.length) ∧
    ∀ p ∈ passes, ∀ (q : Pass) (g h : Gathered), q.course.IsTimely → p.Warms q g h →
      (∀ r, q.report = .ok r → r.cacheMisses = 0 ∧ r.cacheHits = h.diagrams.length) ∧
      ((∃ r, q.report = .ok r) ↔ (∃ r, (q.uncached course).report = .ok r) ∧
        ∃ age, h.config.maxAge.milliseconds = .ok age) := by
  refine ⟨fun p g r hgathered hreport => Pass.counts_of_report hgathered hreport, ?_⟩
  intro p hp q g h htimely hwarms
  have hbodies (p : Pass) (hp : p ∈ passes) : p.bodies ⊆ ⋃ p ∈ passes, p.bodies :=
    Set.subset_biUnion_of_mem hp
  have hfresh := isFreshDocument_of_reads hreads (by simp) hclock hbodies hdigests p hp
  have hleaves := hwarms.leaves (hclock p hp) (hbodies p hp) hdigests hfresh
  have hsub : q.bodies ⊆ p.bodies := by
    rw [Pass.bodies_of_gathered hwarms.after, Pass.bodies_of_gathered hwarms.before]
    exact hwarms.bodies
  exact ⟨fun r hreport => hwarms.counts hleaves hreport,
    hwarms.completed_iff hleaves htimely (hsub.trans (hbodies p hp)) hdigests hcourse⟩

/-- Where the sample project keeps its cache. -/
def sampleCache : Path := ⟨"/", [".specloom", "cache", "parse-cache.json"]⟩

/-- A project after its diagram was moved below a header of another document, with another
configuration. -/
def movedProject (disk : Disk) (config : String) : Disk :=
  { disk with
    entries := ((disk.removeAt ["docs", "a.mmd"]).entries.put ["docs", "b.mmd"]
      (.file (Text.Utf8.encode "---\nid: B\n---\ngraph TD\nA --> B\n".toList))).put
        [".specloom", "config.yml"] (.file (Text.Utf8.encode config.toList)) }

theorem isTooLong_sampleCache (disk : Disk) : disk.isTooLong sampleCache = false := by
  have hshort : ∀ name ∈ sampleCache.segments, Disk.IsShort name := by
    unfold Disk.IsShort
    decide +kernel
  have htext : sampleCache.toText.utf8ByteSize ≤ Disk.maxPath := by decide +kernel
  simp [Disk.isTooLong, Disk.hasLongName_eq_false hshort, htext]

/-- Moving the diagram leaves the cache alone. -/
theorem file?_movedProject (disk : Disk) (config : String) :
    (movedProject disk config).file? sampleCache = disk.file? sampleCache := by
  have hentries (place : Place) (hmoved : place ≠ ["docs", "b.mmd"])
      (hconfig : place ≠ [".specloom", "config.yml"]) (hdocs : ¬["docs", "a.mmd"] <+: place) :
      Disk.entry? (movedProject disk config) place = disk.entry? place := by
    have hremoved := Disk.entry?_removeAt disk ["docs", "a.mmd"] place
    by_cases htop : place = []
    · simp [ Disk.entry?, htop]
    · simp only [ Disk.entry?, htop, if_false, movedProject, Table.find?_put, hconfig, hmoved]
        at hremoved ⊢
      simpa [hdocs] using hremoved
  have hresolve : (movedProject disk config).resolve? sampleCache = disk.resolve? sampleCache := by
    simp [Disk.resolve?, Disk.startOf, Disk.resolveFrom, Disk.step, sampleCache, hentries]
  unfold Disk.file? Disk.find?
  rw [hresolve]
  cases hplace : disk.resolve? sampleCache with
  | none => rfl
  | some place =>
    obtain rfl : place = sampleCache.segments := by
      simpa [Disk.startOf, Disk.walk, Disk.step, sampleCache] using Disk.resolveFrom_eq_walk hplace
    rw [Option.bind_some, Option.bind_some, hentries _ (by decide) (by decide) (by decide)]

/-- Whether a pass that has gathered what it needs is completed. -/
def Pass.completes (p : Pass) (g : Gathered) : Bool :=
  match (examine p.course p.disk p.options g).result.bind fun e => (conclude g e).result with
  | .ok _ => true
  | .error _ => false

theorem Pass.exists_report {p : Pass} {g : Gathered} (hgathered : p.gathered = .ok g)
    (hcompletes : p.completes g = true) : ∃ r, p.report = .ok r := by
  unfold completes at hcompletes
  unfold report
  rw [result_of_gathered hgathered]
  split at hcompletes
  · next o ho => exact ⟨o.report, by rw [ho]; rfl⟩
  · simp at hcompletes

/-- The one diagram of the sample project, and that its cache is kept. -/
def KeepsSample (g : Gathered) : Prop :=
  isPersistent g.config {} = true ∧ g.config.cacheFile = sampleCache ∧
    g.diagrams.map (·.body) = ["graph TD\nA --> B\n"]

instance : DecidablePred KeepsSample := fun _ => inferInstanceAs (Decidable (_ ∧ _ ∧ _))

theorem KeepsSample.bodies_eq (hkept : KeepsSample g) : g.bodies = {"graph TD\nA --> B\n"} := by
  have hmem : g.bodies = {body | body ∈ g.diagrams.map (·.body)} := by
    ext body
    simp [Gathered.bodies]
  rw [hmem, hkept.2.2]
  ext body
  simp

theorem KeepsSample.readsCache (hkept : KeepsSample g) (disk : Disk) : g.ReadsCache disk {} :=
  ⟨hkept.1, hkept.2.1 ▸ by decide, hkept.2.1 ▸ isTooLong_sampleCache disk⟩

theorem warms_moved (hg : (samplePass (sampleProject "")).gathered = .ok g)
    (hcompleted : ∃ r, (samplePass (sampleProject "")).report = .ok r) (hkept : KeepsSample g)
    {config : String}
    (hh : (samplePass (movedProject (samplePass (sampleProject "")).left.1 config)).gathered =
      .ok h) (hmoved : KeepsSample h) :
    (samplePass (sampleProject "")).Warms
      (samplePass (movedProject (samplePass (sampleProject "")).left.1 config)) g h where
  before := hg
  completed := hcompleted
  writes := by
    refine ⟨hkept.readsCache _, fun content => ?_⟩
    rw [hkept.2.1, replaceFile_snd _ sampleCache content []]
    decide +kernel
  after := hh
  reads := hmoved.readsCache _
  document := by
    rw [hkept.2.1, hmoved.2.1]
    exact file?_movedProject _ config
  bodies := (hmoved.bodies_eq.trans hkept.bodies_eq.symm).subset

/-- A diagram that was moved is found in the cache, also with an age limit of no days. With one that
cannot be counted the pass breaks off, though not without its cache. -/
theorem report_of_warms_moved :
    let first := samplePass (sampleProject "")
    let second := samplePass (movedProject first.left.1 "cache:\n  max_age_days: 0\n")
    let third := samplePass (movedProject first.left.1 "cache:\n  max_age_days: 1.0e+305\n")
    (∃ r, second.report = .ok r ∧ r.cacheMisses = 0 ∧ r.cacheHits = 1) ∧
      (∃ r, (third.uncached (.atOnce 0)).report = .ok r) ∧ ¬∃ r, third.report = .ok r := by
  intro first second third
  obtain ⟨g, hg, hkept, hcompletes⟩ := Pass.exists_gathered (p := first)
    (P := fun g => KeepsSample g ∧ first.completes g = true) (by decide +kernel)
  obtain ⟨h, hh, hsecond, hcounted, hends⟩ := Pass.exists_gathered (p := second)
    (P := fun h => KeepsSample h ∧ h.config.maxAge.milliseconds.toOption.isSome = true ∧
      (second.uncached (.atOnce 0)).completes h = true) (by decide +kernel)
  obtain ⟨k, hk, hthird, hendless, hplain⟩ := Pass.exists_gathered (p := third)
    (P := fun k => KeepsSample k ∧ k.config.maxAge.milliseconds.toOption.isSome = false ∧
      (third.uncached (.atOnce 0)).completes k = true) (by decide +kernel)
  have hcourse : (Course.atOnce 0).IsTimely := isTimely_atOnce (by decide +kernel)
  have hclock : ∀ p ∈ [first], p.course.IsTimely := fun p hp => List.mem_singleton.1 hp ▸ hcourse
  have hreads : ReadsFrom ∅ [first] := by
    refine ⟨?_, trivial⟩
    rw [Pass.reads_of_gathered hg]
    rintro document ⟨-, path, hpath, -, -, hfile⟩
    have habsent : first.disk.file? sampleCache = none := by decide +kernel
    rw [← Option.some.inj hpath, hkept.2.1, habsent] at hfile
    simp at hfile
  have hdigests : Set.InjOn contentHash (⋃ p ∈ [first], p.bodies) := by
    refine (Set.injOn_singleton contentHash "graph TD\nA --> B\n").mono
      (Set.iUnion₂_subset fun p hp => ?_)
    rw [List.mem_singleton.1 hp, Pass.bodies_of_gathered hg, hkept.bodies_eq]
  have hcompleted : ∃ r, first.report = .ok r := Pass.exists_report hg hcompletes
  have hspec := (report_of_warms hclock hreads hdigests hcourse).2 first (List.mem_singleton_self _)
  obtain ⟨hhits, hiff⟩ :=
    hspec second g h hcourse (warms_moved hg hcompleted hkept hh hsecond)
  obtain ⟨-, hiffThird⟩ := hspec third g k hcourse (warms_moved hg hcompleted hkept hk hthird)
  refine ⟨?_, Pass.exists_report ((third.gathered_uncached _).trans hk) hplain, fun hreport => ?_⟩
  · have hage : ∃ age, h.config.maxAge.milliseconds = .ok age := by
      cases hage : h.config.maxAge.milliseconds with
      | error fault => simp [hage, Except.toOption] at hcounted
      | ok age => exact ⟨age, rfl⟩
    obtain ⟨r, hreport⟩ :=
      hiff.2 ⟨Pass.exists_report ((second.gathered_uncached _).trans hh) hends, hage⟩
    have hone : h.diagrams.length = 1 := by
      rw [← List.length_map (f := (·.body)), hsecond.2.2]
      rfl
    exact ⟨r, hreport, hone ▸ hhits r hreport⟩
  · obtain ⟨-, age, hage⟩ := hiffThird.1 hreport
    simp [hage, Except.toOption] at hendless

end DocTrace.Lint
