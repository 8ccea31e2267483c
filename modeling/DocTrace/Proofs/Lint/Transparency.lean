import DocTrace.Proofs.Lint.Stages

/-! A persistent cache does not change what passes find. Over a history of passes the
documents that a cache reads were written by earlier passes, and every one of them holds
the analyses of the diagrams of its pass. So a pass with the cache finds what it finds
without one, unless the cache itself breaks the pass off; when that happens is said
exactly. -/

namespace DocTrace.Lint

open AnalysisCache

variable {course : Course} {disk : Disk} {options : Options} {g : Gathered}
  {contents : Set String}

/-! ### One pass -/

/-- The documents that the cache of a pass is read from. -/
def Gathered.reads (g : Gathered) (disk : Disk) (options : Options) : Set (List UInt8) :=
  {document | isPersistent g.config options = true ∧
    document ∈ documentsRead (some g.config.cacheFile) disk}

/-- Whether nothing about its cache breaks a pass off. A cache that is kept needs an age limit that
can be counted in milliseconds, and a path that names a file and is not too long; any other path
that is not too long to be asked for does where there is no diagram, as nothing is written then. -/
def Gathered.CanUseCache (g : Gathered) (disk : Disk) (options : Options) : Prop :=
  isPersistent g.config options = true →
    (∃ age, g.config.maxAge.milliseconds = .ok age) ∧
      if isFilePath g.config.cacheFile then disk.isTooLong g.config.cacheFile = false
      else g.diagrams = []

variable {c : AnalysisCache} {limit : AgeLimit} {age : ℤ}

theorem storeCache_age {fault : AgeLimit.Fault} (hage : limit.milliseconds = .error fault)
    (course : Course) (disk : Disk) (c : AnalysisCache) :
    (storeCache course disk limit c).result = .error (.age fault) := by
  rw [storeCache_result]
  simp only [prune_error hage]

theorem storeCache_file {path : Path} (hage : limit.milliseconds = .ok age)
    (hpath : c.path = some path) (hname : isFilePath path = true) (course : Course) (disk : Disk) :
    ∃ left, (storeCache course disk limit c).result = .ok left := by
  rw [storeCache_result]
  obtain ⟨count, pruned, notices, hprune⟩ := exists_prune hage c course.pruning
  have hpruned : pruned.path = some path := (edit_prune hprune).path.trans hpath
  obtain ⟨written, hsave⟩ := exists_save hpruned hname disk course.saving
  simp only [hprune, hsave]
  exact ⟨_, rfl⟩

theorem storeCache_invalid {path : Path} (hage : limit.milliseconds = .ok age)
    (hpath : c.path = some path) (hname : isFilePath path = false) (hdirty : c.dirty = true)
    (course : Course) (disk : Disk) :
    (storeCache course disk limit c).result = .error (.cache .invalidPath) := by
  rw [storeCache_result]
  obtain ⟨count, pruned, notices, hprune⟩ := exists_prune hage c course.pruning
  have hedit := edit_prune hprune
  have hmarked : pruned.dirty = true := by
    cases hclean : pruned.dirty with
    | true => rfl
    | false => simp [(hedit.marked hclean).1] at hdirty
  simp only [hprune, save_invalid (hedit.path.trans hpath) hname hmarked]
  rfl

theorem storeCache_empty (hentries : c.entries = {}) (hclean : c.dirty = false)
    (hage : limit.milliseconds = .ok age) (course : Course) (disk : Disk) :
    (storeCache course disk limit c).result = .ok (disk, false) := by
  rw [storeCache_result]
  simp only [prune_empty hage hentries, save_clean hclean]
  rfl

theorem openCache_fresh {path : Option Path} {cache : AnalysisCache}
    (h : ∀ document ∈ documentsRead path disk, IsFreshDocument contents document)
    (hopen : (openCache disk path).result = .ok cache) :
    cache.Fresh contents ∧ cache.Writable ∧ cache.path = path := by
  obtain rfl := eq_of_openCache hopen
  exact ⟨fresh_load h, writable_load _ disk, openAt_path disk path⟩

theorem analyzeAll_nil (course : Course) (c : AnalysisCache) :
    (analyzeAll course c []).2.1 = c := by
  have hvoid (turns : List Turn) : (Pool.run { cache := c, calls := [] } turns).cache = c := by
    induction turns with
    | nil => rfl
    | cons turn rest ih => exact ih
  exact hvoid _

/-- What examining comes to: all diagrams are analyzed, or the cache breaks the pass off. -/
inductive Examination (course : Course) (disk : Disk) (options : Options) (g : Gathered) :
    Prop where
  | analyzed {e : Examined} (usable : g.CanUseCache disk options)
    (result : (examine course disk options g).result = .ok e)
    (fresh : e.analyses.mapValues Analysis.unmarked = g.fresh)
  | stopped (fault : Fault) (unusable : ¬g.CanUseCache disk options)
    (result : (examine course disk options g).result = .error fault)
    (ofCache : fault.isOfCache = true)

theorem examination_of_age {cache : AnalysisCache} {fault : AgeLimit.Fault}
    (hpersistent : isPersistent g.config options = true)
    (hopen : (openCache disk (some g.config.cacheFile)).result = .ok cache)
    (hage : g.config.maxAge.milliseconds = .error fault) : Examination course disk options g := by
  refine .stopped (.age fault) (fun hcan => ?_) ?_ rfl
  · obtain ⟨⟨age, hok⟩, -⟩ := hcan hpersistent
    simp [hage] at hok
  · exact examine_of_not_stored hpersistent hopen (storeCache_age hage ..)

theorem examination_of_file (hcourse : course.IsTimely) (hbodies : g.bodies ⊆ contents)
    (hdigests : Set.InjOn contentHash contents)
    (hreads : ∀ document ∈ g.reads disk options, IsFreshDocument contents document)
    (hpersistent : isPersistent g.config options = true)
    (hname : isFilePath g.config.cacheFile = true) : Examination course disk options g := by
  have hread : ∀ document ∈ documentsRead (some g.config.cacheFile) disk,
      IsFreshDocument contents document := fun document h => hreads document ⟨hpersistent, h⟩
  have hopen := openCache_result disk (some g.config.cacheFile)
  rw [fault_openAt hname hread] at hopen
  cases hlong : disk.isTooLong g.config.cacheFile with
  | true =>
    refine .stopped (.cache .pathTooLong) (fun hcan => ?_) ?_ rfl
    · have hshort := (hcan hpersistent).2
      simp [hname, hlong] at hshort
    · rw [examine_persistent hpersistent, hopen, hlong]
      rfl
  | false =>
    simp only [hlong, Bool.false_eq_true, if_false] at hopen
    obtain ⟨hfresh, -, hpath⟩ := openCache_fresh hread hopen
    obtain ⟨hanalyses, hedit, -⟩ := analyzeAll_spec hcourse hfresh hbodies hdigests
    cases hage : g.config.maxAge.milliseconds with
    | error fault => exact examination_of_age hpersistent hopen hage
    | ok age =>
      obtain ⟨left, hstore⟩ := storeCache_file hage (hedit.path.trans hpath) hname course disk
      exact .analyzed (fun _ => ⟨⟨age, hage⟩, by simp [hname, hlong]⟩)
        (examine_of_stored hpersistent hopen hstore) hanalyses

/-- A pass whose cache has a path that names no file: there is nothing to read, and nothing may
be written. -/
theorem examination_of_no_file (hcourse : course.IsTimely) (hbodies : g.bodies ⊆ contents)
    (hdigests : Set.InjOn contentHash contents)
    (hpersistent : isPersistent g.config options = true)
    (hname : isFilePath g.config.cacheFile = false) : Examination course disk options g := by
  have hempty : Fresh contents { path := some g.config.cacheFile } := by simp [Fresh]
  have hopen := openCache_result disk (some g.config.cacheFile)
  rw [openAt_of_not_isFilePath hname] at hopen
  obtain ⟨hanalyses, hedit, hkeys⟩ := analyzeAll_spec hcourse hempty hbodies hdigests
  cases hage : g.config.maxAge.milliseconds with
  | error fault => exact examination_of_age hpersistent hopen hage
  | ok age =>
    cases hdiagrams : g.diagrams with
    | nil =>
      have hsame : (analyzeAll course { path := some g.config.cacheFile } g.diagrams).2.1 =
          { path := some g.config.cacheFile } := by rw [hdiagrams, analyzeAll_nil]
      have hstore :=
        storeCache_empty (congrArg entries hsame) (congrArg dirty hsame) hage course disk
      exact .analyzed (fun _ => ⟨⟨age, hage⟩, by simp [hname, hdiagrams]⟩)
        (examine_of_stored hpersistent hopen hstore) hanalyses
    | cons a rest =>
      -- The first diagram has left an entry, so there is something to write.
      have hkey := hkeys a (by simp [hdiagrams])
      have hdirty : (analyzeAll course { path := some g.config.cacheFile } g.diagrams).2.1.dirty =
          true := by
        cases hclean : (analyzeAll course { path := some g.config.cacheFile } g.diagrams).2.1.dirty
        · rw [(hedit.marked hclean).2] at hkey
          simp [Table.keys] at hkey
        · rfl
      refine .stopped (.cache .invalidPath) (fun hcan => ?_) ?_ rfl
      · have hnone := (hcan hpersistent).2
        simp [hname, hdiagrams] at hnone
      · exact examine_of_not_stored hpersistent hopen
          (storeCache_invalid hage hedit.path hname hdirty ..)

/-- With fresh documents to read, a pass analyzes all diagrams unless its cache cannot be used. -/
theorem examination (hcourse : course.IsTimely) (hbodies : g.bodies ⊆ contents)
    (hdigests : Set.InjOn contentHash contents)
    (hreads : ∀ document ∈ g.reads disk options, IsFreshDocument contents document) :
    Examination course disk options g := by
  cases hpersistent : isPersistent g.config options with
  | false =>
    have hempty : Fresh contents {} := by simp [Fresh]
    exact .analyzed (fun h => by simp [hpersistent] at h)
      (examine_transient hpersistent course disk)
      (analyzeAll_spec hcourse hempty hbodies hdigests).1
  | true =>
    cases hname : isFilePath g.config.cacheFile with
    | true => exact examination_of_file hcourse hbodies hdigests hreads hpersistent hname
    | false => exact examination_of_no_file hcourse hbodies hdigests hpersistent hname

/-- A cache that was stored is found in its file: the entries were only edited before. -/
theorem storeCache_stored {left : Disk} {path : Path}
    (hstore : (storeCache course disk limit c).result = .ok (left, true))
    (hpath : c.path = some path) :
    ∃ d, Edit ∅ c d ∧ documentAt left path = some (d.written course.saving) := by
  rw [storeCache_result] at hstore
  cases hprune : c.prune course.pruning limit with
  | error fault => simp [hprune] at hstore
  | ok pruned =>
    obtain ⟨count, d, notices⟩ := pruned
    have hedit := edit_prune hprune
    simp only [hprune] at hstore
    rcases save_cases d disk course.saving with hkept | ⟨place, hwrote⟩
    · cases hsave : (d.save disk course.saving).result with
      | error fault => simp [hsave, Except.map, Except.mapError] at hstore
      | ok written =>
        simp only [hsave, Except.map, Except.mapError, Except.ok.injEq, Prod.mk.injEq] at hstore
        exact absurd (hstore.2 ▸ hsave) hkept.result
    · simp only [hwrote.result, Except.map, Except.mapError, Except.ok.injEq,
        Prod.mk.injEq] at hstore
      obtain rfl : path = place :=
        Option.some.inj (hpath.symm.trans (hedit.path.symm.trans hwrote.path_eq))
      exact ⟨d, hedit, hstore.1 ▸ hwrote.documentAt_eq⟩

/-- What a pass stores in the file of its cache is a fresh document. -/
theorem isFreshDocument_of_stored {e : Examined} (hcourse : course.IsTimely)
    (hbodies : g.bodies ⊆ contents) (hdigests : Set.InjOn contentHash contents)
    (hreads : ∀ document ∈ g.reads disk options, IsFreshDocument contents document)
    (hresult : (examine course disk options g).result = .ok e) (hstored : e.stored = true)
    {document : List UInt8} (hfile : e.disk.file? g.config.cacheFile = some document) :
    IsFreshDocument contents document := by
  cases hpersistent : isPersistent g.config options with
  | false =>
    rw [examine_transient hpersistent] at hresult
    obtain rfl := Except.ok.inj hresult
    simp at hstored
  | true =>
    obtain ⟨cache, ⟨left, stored⟩, hopen, hstore, rfl⟩ := exists_of_examine hpersistent hresult
    obtain ⟨hfresh, hwritable, hpath⟩ :=
      openCache_fresh (fun document h => hreads document ⟨hpersistent, h⟩) hopen
    obtain ⟨-, hedit, -⟩ := analyzeAll_spec hcourse hfresh hbodies hdigests
    obtain rfl : stored = true := hstored
    obtain ⟨d, hpruned, hdocument⟩ := storeCache_stored hstore (hedit.path.trans hpath)
    obtain rfl := Option.some.inj (hdocument.symm.trans (documentAt_of_file? hfile))
    have hfreshLeft := hpruned.fresh (hedit.fresh hfresh fun _ he => he.1) (by simp)
    have hwritableLeft := hpruned.writable (hedit.writable hwritable fun _ he => he.2) (by simp)
    exact ⟨d, course.saving, hfreshLeft, hwritableLeft, hcourse.saving, rfl⟩

/-! ### Histories -/

/-- A pass: the project as it is then, what the caller chooses, and when its steps are done. -/
structure Pass where
  course : Course
  disk : Disk
  projectRoot : Path
  cpus : Option ℤ := none
  options : Options := {}

namespace Pass

def gathered (p : Pass) : Except Fault Gathered :=
  (gather p.disk p.projectRoot p.cpus p.options).result

/-- The findings of the pass, or why it has none. -/
def findings (p : Pass) : Except Fault Findings :=
  (ofProjectAlong p.course p.disk p.projectRoot p.cpus p.options).result.map Outcome.findings

/-- The pass on the same files without the persistent cache. -/
def uncached (p : Pass) (course : Course) : Pass :=
  { p with course, options := { p.options with useCache := false } }

/-- The bodies of the diagrams of a pass. -/
def bodies (p : Pass) : Set String := {body | ∃ g, p.gathered = .ok g ∧ body ∈ g.bodies}

/-- The documents that the cache of a pass is read from. -/
def reads (p : Pass) : Set (List UInt8) :=
  {document | ∃ g, p.gathered = .ok g ∧ document ∈ g.reads p.disk p.options}

/-- The documents that a pass leaves in the file of its cache. -/
def writes (p : Pass) : Set (List UInt8) :=
  {document | ∃ g e, p.gathered = .ok g ∧ (examine p.course p.disk p.options g).result = .ok e ∧
    e.stored = true ∧ e.disk.file? g.config.cacheFile = some document}

/-- Whether the pass breaks off before it needs its cache, or can use it. -/
def CanUseCache (p : Pass) : Prop := ∀ g, p.gathered = .ok g → g.CanUseCache p.disk p.options

variable {p : Pass}

theorem bodies_of_gathered (h : p.gathered = .ok g) : p.bodies = g.bodies := by
  ext body
  simp [bodies, h]

theorem reads_of_gathered (h : p.gathered = .ok g) : p.reads = g.reads p.disk p.options := by
  ext document
  simp [reads, h]

theorem canUseCache_of_gathered (h : p.gathered = .ok g) :
    p.CanUseCache ↔ g.CanUseCache p.disk p.options := by
  simp [CanUseCache, h]

theorem result_of_gathered (h : p.gathered = .ok g) :
    (ofProjectAlong p.course p.disk p.projectRoot p.cpus p.options).result =
      (examine p.course p.disk p.options g).result.bind fun e => (conclude g e).result := by
  have hgather : (gather p.disk p.projectRoot p.cpus p.options).result = .ok g := h
  unfold ofProjectAlong
  rw [Told.result_bind, hgather]
  simp only [Except.bind, Told.result_bind]

theorem findings_of_gathered (h : p.gathered = .ok g) :
    p.findings = (examine p.course p.disk p.options g).result.bind fun e =>
      (conclude g e).result.map Outcome.findings := by
  unfold findings
  rw [result_of_gathered h]
  cases (examine p.course p.disk p.options g).result <;> rfl

theorem findings_of_not_gathered {fault : Fault} (h : p.gathered = .error fault) :
    p.findings = .error fault := by
  have hgather : (gather p.disk p.projectRoot p.cpus p.options).result = .error fault := h
  unfold findings ofProjectAlong
  rw [Told.result_bind, hgather]
  rfl

theorem gathered_uncached (p : Pass) (course : Course) :
    (p.uncached course).gathered = p.gathered := rfl

/-- A pass that reads fresh documents finds what it would find without its cache if it can use
its cache, and only then. -/
theorem findings_eq_of_fresh (hcourse : p.course.IsTimely) (hbodies : p.bodies ⊆ contents)
    (hdigests : Set.InjOn contentHash contents)
    (hreads : ∀ document ∈ p.reads, IsFreshDocument contents document)
    (huncached : course.IsTimely) : p.findings = (p.uncached course).findings ↔ p.CanUseCache := by
  cases hgathered : p.gathered with
  | error fault =>
    have hsame := (p.gathered_uncached course).trans hgathered
    rw [findings_of_not_gathered hgathered, findings_of_not_gathered hsame]
    exact ⟨fun _ g hg => by simp [hgathered] at hg, fun _ => rfl⟩
  | ok g =>
    have hsame := (p.gathered_uncached course).trans hgathered
    have hsub : g.bodies ⊆ contents := bodies_of_gathered hgathered ▸ hbodies
    have hverdict : (p.uncached course).findings = g.verdict := by
      have hempty : AnalysisCache.Fresh contents {} := by simp [AnalysisCache.Fresh]
      rw [findings_of_gathered hsame]
      have htransient : isPersistent g.config (p.uncached course).options = false := rfl
      rw [examine_transient htransient]
      exact findings_conclude (analyzeAll_spec huncached hempty hsub hdigests).1
    rw [canUseCache_of_gathered hgathered, hverdict, findings_of_gathered hgathered]
    cases examination hcourse hsub hdigests (reads_of_gathered hgathered ▸ hreads) with
    | analyzed usable result fresh =>
      rw [result]
      exact ⟨fun _ => usable, fun _ => findings_conclude fresh⟩
    | stopped fault unusable result ofCache =>
      -- Without the cache, no pass has a fault of the cache.
      rw [result]
      refine ⟨fun heq => ?_, fun h => absurd h unusable⟩
      unfold Gathered.verdict at heq
      dsimp only [Except.bind] at heq
      split at heq
      · simp at heq
      · obtain rfl := Except.error.inj heq
        simp [Fault.isOfCache] at ofCache

theorem isFreshDocument_of_writes (hcourse : p.course.IsTimely) (hbodies : p.bodies ⊆ contents)
    (hdigests : Set.InjOn contentHash contents)
    (hreads : ∀ document ∈ p.reads, IsFreshDocument contents document) :
    ∀ document ∈ p.writes, IsFreshDocument contents document := by
  rintro document ⟨g, e, hgathered, hresult, hstored, hfile⟩
  exact isFreshDocument_of_stored hcourse (bodies_of_gathered hgathered ▸ hbodies) hdigests
    (reads_of_gathered hgathered ▸ hreads) hresult hstored hfile

end Pass

/-- Every pass reads, if anything, one of some documents or one that an earlier pass has written. -/
def ReadsFrom (documents : Set (List UInt8)) : List Pass → Prop
  | [] => True
  | p :: rest => p.reads ⊆ documents ∧ ReadsFrom (documents ∪ p.writes) rest

/-- All that the passes of a history read is fresh. -/
theorem isFreshDocument_of_reads {documents : Set (List UInt8)} {passes : List Pass}
    (hreads : ReadsFrom documents passes)
    (hdocuments : ∀ document ∈ documents, IsFreshDocument contents document)
    (hclock : ∀ p ∈ passes, p.course.IsTimely) (hbodies : ∀ p ∈ passes, p.bodies ⊆ contents)
    (hdigests : Set.InjOn contentHash contents) :
    ∀ p ∈ passes, ∀ document ∈ p.reads, IsFreshDocument contents document := by
  -- What the first pass writes is fresh because what it reads is, and joins the documents that the
  -- others may read.
  induction passes generalizing documents with
  | nil => simp
  | cons first rest ih =>
    obtain ⟨hfirst, hrest⟩ := hreads
    have hmem := List.mem_cons_self (a := first) (l := rest)
    have hfresh : ∀ document ∈ first.reads, IsFreshDocument contents document :=
      fun document hdocument => hdocuments document (hfirst hdocument)
    have hwritten := Pass.isFreshDocument_of_writes (hclock first hmem) (hbodies first hmem)
      hdigests hfresh
    intro p hp
    rcases List.mem_cons.1 hp with rfl | hp
    · exact hfresh
    · exact ih hrest (fun document h => h.elim (hdocuments document) (hwritten document))
        (fun q hq => hclock q (List.mem_cons_of_mem _ hq))
        (fun q hq => hbodies q (List.mem_cons_of_mem _ hq)) p hp

/-- In every history of passes whose caches are read from absent documents or from those of earlier
passes, a pass finds exactly what it finds without its cache, and breaks off exactly as it does
without, if and only if it can use the cache. Documents, rules and configuration may change from
pass to pass in any way, and so may the clock and the order in which analyses are done. -/
theorem findings_eq_uncached_iff {passes : List Pass} (hclock : ∀ p ∈ passes, p.course.IsTimely)
    (hreads : ReadsFrom ∅ passes) (hdigests : Set.InjOn contentHash (⋃ p ∈ passes, p.bodies))
    {course : Course} (hcourse : course.IsTimely) :
    ∀ p ∈ passes, p.findings = (p.uncached course).findings ↔ p.CanUseCache := by
  intro p hp
  have hbodies (q : Pass) (hq : q ∈ passes) : q.bodies ⊆ ⋃ p ∈ passes, p.bodies :=
    Set.subset_biUnion_of_mem hq
  have hfresh := isFreshDocument_of_reads hreads (by simp) hclock hbodies hdigests p hp
  exact Pass.findings_eq_of_fresh (hclock p hp) (hbodies p hp) hdigests hfresh hcourse

/-- A project with one diagram and a configuration. -/
def sampleProject (config : String) : Disk :=
  { entries := .ofList [(["docs"], .directory),
      (["docs", "a.mmd"], .file (Text.Utf8.encode "graph TD\nA --> B\n".toList)),
      ([".specloom"], .directory),
      ([".specloom", "config.yml"], .file (Text.Utf8.encode config.toList))] }

def samplePass (disk : Disk) : Pass := { course := .atOnce 0, disk, projectRoot := ⟨"/", []⟩ }

theorem disk_samplePass (disk : Disk) : (samplePass disk).disk = disk := rfl

theorem Pass.exists_gathered {p : Pass} {P : Gathered → Prop} [DecidablePred P]
    (hall : (p.gathered.toOption.any fun g => decide (P g)) = true) :
    ∃ g, p.gathered = .ok g ∧ P g := by
  cases hgathered : p.gathered with
  | error fault => simp [hgathered, Except.toOption] at hall
  | ok g => exact ⟨g, rfl, by simpa [hgathered, Except.toOption] using hall⟩

/-- The disk that a pass leaves behind, and whether its cache was stored. -/
def Pass.left (p : Pass) : Disk × Bool :=
  match p.gathered.bind fun g => (examine p.course p.disk p.options g).result with
  | .ok e => (e.disk, e.stored)
  | .error _ => (p.disk, false)

/-- What matters for the cache of a pass: the bodies of its diagrams, the path of the cache, whether
that is too long, whether there is a document, and whether the cache is kept with an age limit that
can be counted. -/
def Pass.sight (p : Pass) : Option (List String × Path × Bool × Bool × Bool) :=
  p.gathered.toOption.map fun g =>
    (g.diagrams.map (·.body), g.config.cacheFile, p.disk.isTooLong g.config.cacheFile,
      (p.disk.file? g.config.cacheFile).isSome,
      isPersistent g.config p.options && g.config.maxAge.milliseconds.toOption.isSome)

theorem Pass.exists_of_sight {p : Pass} {bodies : List String} {file : Path}
    {long there kept : Bool}
    (h : p.sight = some (bodies, file, long, there, kept)) :
    ∃ g, p.gathered = .ok g ∧ g.diagrams.map (·.body) = bodies ∧ g.config.cacheFile = file ∧
      p.disk.isTooLong file = long ∧ (p.disk.file? file).isSome = there ∧
      (isPersistent g.config p.options && g.config.maxAge.milliseconds.toOption.isSome) = kept := by
  cases hgathered : p.gathered with
  | error fault => simp [sight, hgathered, Except.toOption] at h
  | ok g =>
    simp only [sight, hgathered, Except.toOption, Option.map_some, Option.some.injEq,
      Prod.mk.injEq] at h
    obtain ⟨rfl, rfl, rfl, rfl, rfl⟩ := h
    exact ⟨g, rfl, rfl, rfl, rfl, rfl, rfl⟩

theorem Pass.bodies_of_sight {p : Pass} {body : String} {file : Path} {long there kept : Bool}
    (h : p.sight = some ([body], file, long, there, kept)) : p.bodies ⊆ {body} := by
  obtain ⟨g, hgathered, hbodies, -⟩ := exists_of_sight h
  rw [bodies_of_gathered hgathered]
  rintro other ⟨a, ha, rfl⟩
  have hmem := List.mem_map_of_mem (f := (·.body)) ha
  rw [hbodies] at hmem
  exact List.mem_singleton.1 hmem

theorem Pass.file?_of_reads {p : Pass} {bodies : List String} {file : Path} {long there kept : Bool}
    (h : p.sight = some (bodies, file, long, there, kept)) {document : List UInt8}
    (hread : document ∈ p.reads) : p.disk.file? file = some document := by
  obtain ⟨g, hgathered, -, rfl, -⟩ := exists_of_sight h
  rw [reads_of_gathered hgathered] at hread
  obtain ⟨-, path, hpath, -, -, hfile⟩ := hread
  obtain rfl := Option.some.inj hpath
  exact hfile

theorem Pass.reads_of_absent {p : Pass} {bodies : List String} {file : Path} {long kept : Bool}
    (h : p.sight = some (bodies, file, long, false, kept)) : p.reads ⊆ ∅ := by
  intro document hread
  obtain ⟨g, -, -, -, -, habsent, -⟩ := exists_of_sight h
  rw [file?_of_reads h hread] at habsent
  simp at habsent

/-- A pass on what another one has left reads what that one has written. -/
theorem Pass.reads_of_left {p q : Pass} {bodies : List String} {file : Path}
    {long there kept long' there' kept' : Bool} (hdisk : q.disk = p.left.1)
    (hp : p.sight = some (bodies, file, long, there, kept))
    (hq : q.sight = some (bodies, file, long', there', kept')) (hstored : p.left.2 = true) :
    q.reads ⊆ p.writes := by
  intro document hread
  have hfile := file?_of_reads hq hread
  obtain ⟨g, hgathered, -, rfl, -⟩ := exists_of_sight hp
  rw [hdisk] at hfile
  unfold left at hstored hfile
  cases hresult : (examine p.course p.disk p.options g).result with
  | error fault => simp [hgathered, Except.bind, hresult] at hstored
  | ok e =>
    simp only [hgathered, Except.bind, hresult] at hstored hfile
    exact ⟨g, e, hgathered, hresult, hstored, hfile⟩

theorem Pass.canUseCache_of_sight {p : Pass} {bodies : List String} {file : Path}
    {long there : Bool} (h : p.sight = some (bodies, file, long, there, true)) :
    p.CanUseCache ↔ if isFilePath file then long = false else bodies = [] := by
  obtain ⟨g, hgathered, rfl, rfl, rfl, -, hkept⟩ := exists_of_sight h
  obtain ⟨hpersistent, hcounted⟩ := Bool.and_eq_true_iff.1 hkept
  have hage : ∃ age, g.config.maxAge.milliseconds = .ok age := by
    cases hage : g.config.maxAge.milliseconds with
    | error fault => simp [hage, Except.toOption] at hcounted
    | ok age => exact ⟨age, rfl⟩
  rw [canUseCache_of_gathered hgathered, Gathered.CanUseCache, imp_iff_right hpersistent,
    and_iff_right hage]
  simp

/-- A second pass reads what the first one has stored and finds what it would find without it. A
pass whose cache is kept at the top of the disk breaks off instead. -/
theorem findings_eq_uncached_sample :
    let first := samplePass (sampleProject "")
    let second := samplePass first.left.1
    let third := samplePass (sampleProject "cache:\n  path: /\n")
    first.left.2 = true ∧ second.findings = (second.uncached (.atOnce 0)).findings ∧
      third.findings ≠ (third.uncached (.atOnce 0)).findings := by
  intro first second third
  let kept : Path := ⟨"/", [".specloom", "cache", "parse-cache.json"]⟩
  have hstored : first.left.2 = true := by decide +kernel
  have hfirst : first.sight = some (["graph TD\nA --> B\n"], kept, false, false, true) := by
    decide +kernel
  have hsecond : second.sight = some (["graph TD\nA --> B\n"], kept, false, true, true) := by
    decide +kernel
  have hthird : third.sight = some (["graph TD\nA --> B\n"], ⟨"/", []⟩, false, false, true) := by
    decide +kernel
  have hcourse : (Course.atOnce 0).IsTimely := isTimely_atOnce (by decide +kernel)
  have hclock (p : Pass) (hp : p ∈ [first, second, third]) : p.course.IsTimely := by
    simp only [List.mem_cons, List.not_mem_nil, or_false] at hp
    rcases hp with rfl | rfl | rfl <;> exact hcourse
  have hreads : ReadsFrom ∅ [first, second, third] := by
    have hsecondReads : second.reads ⊆ first.writes :=
      Pass.reads_of_left (disk_samplePass first.left.1) hfirst hsecond hstored
    exact ⟨Pass.reads_of_absent hfirst, Set.subset_union_of_subset_right hsecondReads ∅,
      (Pass.reads_of_absent hthird).trans (Set.empty_subset _), trivial⟩
  have hbodies : ⋃ p ∈ [first, second, third], p.bodies ⊆ {"graph TD\nA --> B\n"} := by
    refine Set.iUnion₂_subset fun p hp => ?_
    simp only [List.mem_cons, List.not_mem_nil, or_false] at hp
    rcases hp with rfl | rfl | rfl
    · exact Pass.bodies_of_sight hfirst
    · exact Pass.bodies_of_sight hsecond
    · exact Pass.bodies_of_sight hthird
  have hdigests : Set.InjOn contentHash (⋃ p ∈ [first, second, third], p.bodies) :=
    (Set.injOn_singleton ..).mono hbodies
  have hspec := findings_eq_uncached_iff hclock hreads hdigests hcourse
  have hnoFile : isFilePath ⟨"/", []⟩ = false := by decide
  refine ⟨hstored, ?_, fun heq => ?_⟩
  · have husable : second.CanUseCache := by
      rw [Pass.canUseCache_of_sight hsecond]
      decide +kernel
    exact (hspec second (by simp)).2 husable
  · rw [hspec third (by simp), Pass.canUseCache_of_sight hthird, hnoFile] at heq
    simp at heq

end DocTrace.Lint
