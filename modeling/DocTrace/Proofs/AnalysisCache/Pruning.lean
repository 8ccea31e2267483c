import DocTrace.Config
import DocTrace.Proofs.AnalysisCache.Age
import DocTrace.Proofs.AnalysisCache.Run
import DocTrace.Proofs.AnalysisCache.Usage

/-! Pruning by the age limits that a configuration may have. What counts is what a cache was
asked for since it was opened: an entry that was found or stored since then stays, whatever its
age, also when the document is loaded again. A limit takes effect exactly if it can be counted
in milliseconds, which not all accepted ones can. -/

namespace DocTrace.AnalysisCache

/-! ### What was asked for -/

/-- The cache after a request, with the disk on which it is done. -/
def Request.after (disk : Disk) (c : AnalysisCache) : Request → AnalysisCache
  | .load => (c.load disk).cache
  | .save now => (c.save disk now).cache
  | request => request.edit c

/-- The digests that a request finds or stores. -/
def Request.touches (c : AnalysisCache) : Request → List String
  | .get content => if c.contains content then [contentHash content] else []
  | .put _ content _ _ | .analyze _ content _ => [contentHash content]
  | .contains _ | .prune .. | .clear | .load | .save _ => []

/-- A cache some requests after it was opened, with the digests that these found or stored. The
disk may be another one for every request. -/
inductive Lived : AnalysisCache → List String → Prop
  | opened (disk : Disk) (path : Option Path) : Lived (openAt disk path).cache []
  | asked {c : AnalysisCache} {touched : List String} (h : Lived c touched) (disk : Disk)
    (r : Request) : Lived (r.after disk c) (r.touches c ++ touched)

variable {c d : AnalysisCache} {touched : List String}

theorem used_load (c : AnalysisCache) (disk : Disk) : (c.load disk).cache.used = c.used := by
  obtain ⟨entries, dirty, h⟩ := load_eq c disk
  rw [h]

theorem used_save (c : AnalysisCache) (disk : Disk) (now : ℤ) :
    (c.save disk now).cache.used = c.used := by
  rcases save_cases c disk now with hkept | ⟨path, hwrote⟩
  · rw [hkept.cache]
  · rw [hwrote.cache]

theorem used_get (c : AnalysisCache) (content : String) :
    (c.get content).2.used =
      if c.contains content then addNew c.used (contentHash content) else c.used := by
  unfold get contains
  rw [Table.contains_eq_isSome]
  dsimp only
  split <;> simp [*]

theorem used_analyze (c : AnalysisCache) (now : ℤ) (content : String)
    (filePath : Option String) :
    (c.analyze now content filePath).2.1.used = addNew c.used (contentHash content) := by
  have hget := used_get c content
  have hfound : (c.get content).1.isSome = c.contains content := by
    unfold get contains
    rw [Table.contains_eq_isSome]
    dsimp only
    split <;> simp [*]
  unfold analyze
  split
  · next a after heq =>
    rw [heq] at hget hfound
    rw [hget, ← hfound]
    rfl
  · next after heq =>
    rw [heq] at hget hfound
    rw [used_put, hget, ← hfound]
    rfl

theorem mem_used_after (r : Request) (disk : Disk) {key : String} :
    key ∈ (r.after disk c).used ↔ key ∈ r.touches c ∨ key ∈ c.used := by
  cases r with
  | get content =>
    have hget := used_get c content
    simp only [Request.after, Request.edit, Request.touches, hget]
    split
    · simp [mem_addNew, or_comm]
    · simp
  | put now content a filePath =>
    simp only [Request.after, Request.edit, Request.touches, used_put, mem_addNew,
      List.mem_singleton]
    exact or_comm
  | analyze now content filePath =>
    simp only [Request.after, Request.edit, Request.touches, used_analyze, mem_addNew,
      List.mem_singleton]
    exact or_comm
  | prune now limit =>
    simp only [Request.after, Request.edit, Request.touches, List.not_mem_nil, false_or]
    split
    · next hprune =>
      obtain ⟨age, -, hpruned⟩ := pruned_of_prune hprune
      rw [hpruned.used]
    · rfl
  | load => simp [Request.after, Request.touches, used_load]
  | save now => simp [Request.after, Request.touches, used_save]
  | contains content => simp [Request.after, Request.edit, Request.touches]
  | clear => simp [Request.after, Request.edit, Request.touches, clear]

theorem Lived.mem_used_iff (h : Lived c touched) {key : String} :
    key ∈ c.used ↔ key ∈ touched := by
  induction h with
  | opened disk path => simp [openAt, used_load]
  | asked _ disk r ih => rw [mem_used_after, ih, List.mem_append]

/-! ### What pruning does -/

/-- An entry from before a time under a digest that was neither found nor stored. -/
def IsStale (touched : List String) (time : ℤ) (e : String × Entry) : Prop :=
  e.2.timestamp < time ∧ e.1 ∉ touched

instance (touched : List String) (time : ℤ) (e : String × Entry) :
    Decidable (IsStale touched time e) := inferInstanceAs (Decidable (_ ∧ _))

theorem Lived.isStale_eq (h : Lived c touched) (time : ℤ) (e : String × Entry) :
    c.isStale time e = decide (IsStale touched time e) := by
  rw [Bool.eq_iff_iff, decide_eq_true_iff]
  simp [isStale, IsStale, h.mem_used_iff]

theorem exists_prune_iff {limit : AgeLimit} (c : AnalysisCache) (now : ℤ) :
    (∃ count d notices, c.prune now limit = .ok (count, d, notices)) ↔
      ∃ age, limit.milliseconds = .ok age := by
  constructor
  · rintro ⟨count, d, notices, h⟩
    obtain ⟨age, hage, -⟩ := pruned_of_prune h
    exact ⟨age, hage⟩
  · rintro ⟨age, hage⟩
    exact exists_prune hage c now

theorem isAccepted_of_maxAgeOf {settings : Mapping} {limit : AgeLimit}
    (h : Config.maxAgeOf settings = .ok limit) : limit.IsAccepted := by
  unfold Config.maxAgeOf at h
  split at h
  · obtain rfl := Except.ok.inj h
    simp [Config.defaultMaxAge, AgeLimit.IsAccepted]
  · split at h
    · contradiction
    · next hdays =>
      obtain rfl := Except.ok.inj h
      exact not_lt.1 hdays
  · split at h
    · contradiction
    · next hdays =>
      obtain rfl := Except.ok.inj h
      exact Bool.eq_false_iff.2 hdays
  · contradiction

/-- An accepted age limit takes effect exactly if it can be counted: whole days of any size, and a
finite number of days whose milliseconds are in the range of doubles. Then the entries go that are
older, to the millisecond, and that were neither found nor stored since the cache was opened; the
others stay in their order. -/
theorem prune_of_accepted {settings : Mapping} {limit : AgeLimit}
    (haccepted : Config.maxAgeOf settings = .ok limit) (h : Lived c touched) (now : ℤ) :
    ((∃ count d notices, c.prune now limit = .ok (count, d, notices)) ↔ limit.IsCountable) ∧
      (∀ count d notices, c.prune now limit = .ok (count, d, notices) →
        ∃ r, limit.Amounts r ∧
          d.entries.entries =
            (c.entries.entries.filter fun e => ¬IsStale touched (now - ⌊r⌋) e) ∧
          count = (c.entries.entries.filter fun e => IsStale touched (now - ⌊r⌋) e).length) ∧
      (c.prune now limit = .error .notANumber ↔ limit = .fractional .nan) := by
  have hlimit := isAccepted_of_maxAgeOf haccepted
  refine ⟨?_, fun count d notices hprune => ?_, ?_⟩
  · rw [exists_prune_iff, ← AgeLimit.exists_amounts_iff hlimit]
    simp only [AgeLimit.milliseconds_eq_ok_iff hlimit]
    exact ⟨fun ⟨age, r, hr, _⟩ => ⟨r, hr⟩, fun ⟨r, hr⟩ => ⟨_, r, hr, rfl⟩⟩
  · obtain ⟨age, hage, hpruned⟩ := pruned_of_prune hprune
    obtain ⟨r, hr, rfl⟩ := (AgeLimit.milliseconds_eq_ok_iff hlimit).1 hage
    have hstale : c.isStale (now - ⌊r⌋) = fun e => decide (IsStale touched (now - ⌊r⌋) e) :=
      funext (h.isStale_eq _)
    refine ⟨r, hr, ?_, ?_⟩
    · rw [hpruned.entries, hstale]
      simp only [decide_not]
    · rw [hpruned.count_eq, hstale]
  · rw [← AgeLimit.milliseconds_eq_notANumber_iff hlimit]
    unfold prune
    cases limit.milliseconds with
    | error fault => simp [Except.map]
    | ok age => simp [Except.map]

theorem Lived.put (h : Lived c touched) (now : ClockTime) (content : String) (a : Analysis)
    (filePath : Option String) :
    Lived (c.put now content a filePath).2 (contentHash content :: touched) :=
  h.asked {} (.put now content a filePath)

/-- A cache document with an old entry. -/
def agedDocument : Disk :=
  let fields := "\"nodes\": [], \"relationships\": [], \"diagramType\": \"\", \"timestamp\": 1"
  let text := "\x7b\"version\": 1, \"entries\": \x7b\"old\": \x7b" ++ fields ++ "\x7d\x7d\x7d"
  { entries := .ofList [(["cache.json"], .file (Text.Utf8.encode text.toList))] }

/-- With half a day as the limit the entry of the document goes. One that is as old but was stored
since the cache was opened stays. -/
theorem prune_of_accepted_halfDay :
    let half : Binary64 := .finite false (2 ^ 52) (-53)
    let opened := (openAt agedDocument (some ⟨"", ["cache.json"]⟩)).cache
    let c := (opened.put 2 "x" (DocTrace.analyze "x") none).2
    Config.maxAgeOf [(.str "max_age_days", .float half)] = .ok (.fractional half) ∧
      ∃ count d notices, c.prune 1000000000000 (.fractional half) = .ok (count, d, notices) ∧
        count = 1 ∧ d.entries.keys = [contentHash "x"] := by
  intro half opened c
  have haccepted : Config.maxAgeOf [(.str "max_age_days", .float half)] =
    .ok (.fractional half) := rfl
  have hlived : Lived c [contentHash "x"] :=
    (Lived.opened agedDocument (some ⟨"", ["cache.json"]⟩)).put ⟨2, by decide +kernel⟩ "x" _ none
  have hhalf : half.number? = some (.inl (1 / 2)) := by
    simp only [half, Binary64.number?, Binary64.signed]
    norm_num
  obtain ⟨hreturns, hpruned, -⟩ := prune_of_accepted haccepted hlived 1000000000000
  have hcountable : (AgeLimit.fractional half).IsCountable := by
    refine ⟨1 / 2, hhalf, ?_⟩
    have hone : (1 : ℚ) ≤ 2 ^ Binary64.maxExponent := one_le_zpow₀ (by norm_num) (by decide)
    rw [Binary64.overflowBound_eq]
    calc (1 / 2 : ℚ) * AgeLimit.millisecondsPerDay < 2 ^ 53 - 1 / 2 := by
          norm_num [AgeLimit.millisecondsPerDay]
      _ ≤ (2 ^ 53 - 1 / 2) * 2 ^ Binary64.maxExponent :=
          le_mul_of_one_le_right (by norm_num) hone
  obtain ⟨count, d, notices, hprune⟩ := hreturns.2 hcountable
  obtain ⟨r, hr, hentries, hcount⟩ := hpruned count d notices hprune
  -- Half a day is a whole number of milliseconds, which is its own double.
  have hproduct : Binary64.nearest false (1 / 2 * AgeLimit.millisecondsPerDay) =
      .finite false (43200000 * 2 ^ 27) (-27) := by
    have hcanonical : Binary64.Canonical (43200000 * 2 ^ 27) (-27) :=
      ⟨by decide, by decide, by decide, by decide⟩
    rw [← Binary64.nearest_of_canonical hcanonical false]
    congr 1
    norm_num [AgeLimit.millisecondsPerDay]
  have hr : r = 43200000 := by
    have hvalue := (AgeLimit.amounts_fractional_iff hhalf).1 hr
    rw [hproduct] at hvalue
    simp only [Binary64.number?, Binary64.signed, Option.some.injEq, Sum.inl.injEq] at hvalue
    rw [← hvalue]
    norm_num
  have hage : ⌊r⌋ = 43200000 := by
    rw [hr]
    norm_num
  rw [hage] at hentries hcount
  have hrun : (c.entries.entries.filter
      fun e => IsStale [contentHash "x"] (1000000000000 - 43200000) e).length = 1 ∧
        (c.entries.entries.filter
          fun e => ¬IsStale [contentHash "x"] (1000000000000 - 43200000) e).map Prod.fst =
            [contentHash "x"] := by
    decide +kernel
  refine ⟨haccepted, count, d, notices, hprune, hcount.trans hrun.1, ?_⟩
  rw [Table.keys, hentries]
  exact hrun.2

end DocTrace.AnalysisCache
