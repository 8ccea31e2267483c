import DocTrace.Proofs.AnalysisCache.Usage
import Mathlib.Data.List.Dedup
import Mathlib.Data.List.Nodup

/-! Workers that share a cache. Each does its calls one after the other, and their steps come in any
order. Whatever the order, no entry is replaced; and when all calls are done, each has given the
analysis of its content, and what was added to the entries are the analyses of the contents that
were missing, one for each. -/

namespace DocTrace.AnalysisCache

variable {contents : Set String} {first c d : AnalysisCache} {call next : Call} {now : ℤ}
  {p : Pool} {added : List (String × Entry)}

/-- The entries under the digests of some contents hold the analyses of these. -/
def Consistent (contents : Set String) (c : AnalysisCache) : Prop :=
  ∀ content ∈ contents, ∀ e, c.entries.find? (contentHash content) = some e →
    e.Holds (DocTrace.analyze content)

/-! ### What a step adds -/

def Call.isMissed (call : Call) : Bool :=
  match call.progress with
  | .missed => true
  | .waiting | .done _ => false

theorem Call.IsDone.isMissed (h : call.IsDone) : call.isMissed = false := by
  obtain ⟨a, ha⟩ := h
  simp [Call.isMissed, ha]

theorem entries_put (c : AnalysisCache) (now : ℤ) (content : String) (a : Analysis)
    (filePath : Option String) :
    (c.put now content a filePath).2.entries.entries = c.entries.entries ∨
      (c.put now content a filePath).2.entries.entries =
        c.entries.entries ++ [stamped now content a filePath] := by
  unfold put
  dsimp only
  split
  · exact .inl rfl
  · next hnone =>
    exact .inr (Table.put_of_not_mem (Table.find?_eq_none_iff.1 hnone) _)

/-- A step adds the new analysis of its content at most. A call that has missed makes up for the
entry that it adds. -/
theorem Call.Stepped.adds (h : call.Stepped now c (d, next)) (hcall : call.content ∈ contents) :
    ∃ more, d.entries.entries = c.entries.entries ++ more ∧ (∀ e ∈ more, IsFresh contents e) ∧
      c.misses + more.length + next.isMissed.toNat ≤ d.misses + call.isMissed.toNat := by
  cases h with
  | found before => exact ⟨[], by simp, by simp, by simp [isMissed, before]⟩
  | missed before => exact ⟨[], by simp, by simp, by simp [isMissed, before]⟩
  | stored before =>
    obtain ⟨-, hmisses⟩ :=
      counts_put c now call.content (DocTrace.analyze call.content) call.filePath
    rcases entries_put c now call.content (DocTrace.analyze call.content) call.filePath with h | h
    · exact ⟨[], by simpa using h, by simp, by simp [isMissed, before, hmisses]⟩
    · refine ⟨_, h, fun e he => ?_, by simp [isMissed, before, hmisses]⟩
      obtain rfl := List.mem_singleton.1 he
      exact isFresh_stamped hcall ..
  | idle before => exact ⟨[], by simp, by simp, by simp⟩

/-! ### What a run adds -/

/-- A pool that began with a cache has added some entries. Each of them, and each call that is about
to store one, has been counted as a miss. -/
structure Pool.Adds (contents : Set String) (first : AnalysisCache) (p : Pool)
    (added : List (String × Entry)) : Prop where
  entries : p.cache.entries.entries = first.entries.entries ++ added
  fresh : ∀ e ∈ added, IsFresh contents e
  misses : first.misses + added.length + p.calls.countP (·.isMissed) ≤ p.cache.misses
  right : ∀ call ∈ p.calls, call.IsRight p.cache

namespace Pool.Adds

theorem consistent (h : p.Adds contents first added) (hfirst : first.Consistent contents)
    (hdigests : Set.InjOn contentHash contents) : p.cache.Consistent contents := by
  intro content hcontent e he
  have hmem := Table.find?_eq_some_iff.1 he
  rw [h.entries, List.mem_append] at hmem
  rcases hmem with hold | hnew
  · exact hfirst content hcontent e (Table.find?_eq_some_iff.2 hold)
  · obtain ⟨other, hother, hkey, hholds⟩ := h.fresh _ hnew
    obtain rfl := hdigests hcontent hother hkey
    exact hholds

theorem advance (h : p.Adds contents first added) (hfirst : first.Consistent contents)
    (hdigests : Set.InjOn contentHash contents) (hcalls : ∀ call ∈ p.calls, call.content ∈ contents)
    (turn : Turn) : ∃ more, (p.advance turn).Adds contents first (added ++ more) := by
  cases hcall : p.calls[turn.call]? with
  | none =>
    rw [advance_void turn hcall]
    exact ⟨[], by rwa [List.append_nil]⟩
  | some call =>
    have hmem := List.mem_of_getElem? hcall
    obtain ⟨hlength, hat⟩ := List.getElem?_eq_some_iff.1 hcall
    have hstep := stepped turn.now p.cache call
    obtain ⟨more, hentries, hfresh, hmisses⟩ := hstep.adds (hcalls call hmem)
    rw [advance_eq turn hcall]
    refine ⟨more, ?_, ?_, ?_, fun other hother => ?_⟩
    · rw [hentries, h.entries, List.append_assoc]
    · intro e he
      exact (List.mem_append.1 he).elim (h.fresh e) (hfresh e)
    · have hold := h.misses
      have hcounted := List.boole_getElem_le_countP (p := (·.isMissed)) hlength
      rw [List.countP_set hlength, List.length_append, hat]
      rw [hat] at hcounted
      cases hbefore : call.isMissed <;>
        cases hafter : (call.step turn.now p.cache).2.1.isMissed <;>
        simp only [hbefore, hafter, Bool.toNat_false, Bool.toNat_true, if_true,
          Bool.false_eq_true, if_false] at hmisses hcounted ⊢ <;>
        omega
    -- Keys are never taken away, so what another call stored is still there.
    · rcases List.mem_or_eq_of_mem_set hother with hold | rfl
      · intro a ha
        obtain ⟨hsame, hkey⟩ := h.right other hold a ha
        exact ⟨hsame, hstep.keys_subset hkey⟩
      · have hholds := h.consistent hfirst hdigests call.content (hcalls call hmem)
        exact hstep.isRight hholds (h.right call hmem)

theorem run (h : p.Adds contents first added) (hfirst : first.Consistent contents)
    (hdigests : Set.InjOn contentHash contents) (hcalls : ∀ call ∈ p.calls, call.content ∈ contents)
    (turns : List Turn) : ∃ more, (p.run turns).Adds contents first (added ++ more) := by
  induction turns generalizing p added with
  | nil => exact ⟨[], by rwa [List.append_nil]⟩
  | cons turn rest ih =>
    obtain ⟨more, hnext⟩ := h.advance hfirst hdigests hcalls turn
    have hsame : ∀ call ∈ (p.advance turn).calls, call.content ∈ contents := by
      intro call hcall
      have hcontent := List.mem_map_of_mem (f := (·.content)) hcall
      rw [contents_advance, List.mem_map] at hcontent
      obtain ⟨other, hother, heq⟩ := hcontent
      exact heq ▸ hcalls other hother
    obtain ⟨further, hend⟩ := ih hnext hsame
    exact ⟨more ++ further, by rwa [← List.append_assoc]⟩

end Pool.Adds

/-! ### Workers -/

/-- Workers that share a cache, with the calls of each. -/
structure Crew where
  cache : AnalysisCache
  workers : List (List Call)
  notices : List Notice := []

/-- The step of one worker: the first of its calls that is not done goes on. -/
def workOn (now : ℤ) (c : AnalysisCache) : List Call → AnalysisCache × List Call × List Notice
  | [] => (c, [], [])
  | call :: rest =>
    match call.progress with
    | .done _ =>
      let (c, rest, notices) := workOn now c rest
      (c, call :: rest, notices)
    | .waiting | .missed =>
      let (c, call, notices) := call.step now c
      (c, call :: rest, notices)

/-- The worker whose step comes next, and the time at which it is done. -/
structure Shift where
  worker : ℕ
  now : ℤ

namespace Crew

/-- One step of the worker whose shift it is; a shift of no worker is void. -/
def advance (crew : Crew) (shift : Shift) : Crew :=
  match crew.workers[shift.worker]? with
  | none => crew
  | some calls =>
    let (cache, calls, notices) := workOn shift.now crew.cache calls
    { cache, workers := crew.workers.set shift.worker calls, notices := crew.notices ++ notices }

def run (crew : Crew) (shifts : List Shift) : Crew := shifts.foldl advance crew

/-- Workers that have not begun, each with the contents it is to analyze and where they are. -/
def start (c : AnalysisCache) (tasks : List (List (String × Option String))) : Crew :=
  { cache := c, workers := tasks.map (·.map fun task => { content := task.1, filePath := task.2 }) }

/-- All calls of all workers side by side. -/
def pool (crew : Crew) : Pool := ⟨crew.cache, crew.workers.flatten, crew.notices⟩

def IsDone (crew : Crew) : Prop := ∀ calls ∈ crew.workers, ∀ call ∈ calls, call.IsDone

end Crew

variable {crew : Crew}

theorem workOn_cases (now : ℤ) (c : AnalysisCache) (calls : List Call) :
    ((∀ call ∈ calls, call.IsDone) ∧ workOn now c calls = (c, calls, [])) ∨
    ∃ (i : ℕ) (call : Call), calls[i]? = some call ∧ ¬call.IsDone ∧
      workOn now c calls = ((call.step now c).1, calls.set i (call.step now c).2.1,
        (call.step now c).2.2) := by
  induction calls with
  | nil => exact .inl ⟨by simp, rfl⟩
  | cons call rest ih =>
    cases hprogress : call.progress with
    | done a =>
      have hcall : call.IsDone := ⟨a, hprogress⟩
      rcases ih with ⟨hrest, hwork⟩ | ⟨i, other, hi, hother, hwork⟩
      · exact .inl ⟨by simpa [hcall] using hrest, by simp [workOn, hprogress, hwork]⟩
      · exact .inr ⟨i + 1, other, by simpa using hi, hother, by simp [workOn, hprogress, hwork]⟩
    | waiting | missed =>
      exact .inr ⟨0, call, rfl, by simp [Call.IsDone, hprogress], by simp [workOn, hprogress]⟩

theorem contents_workOn (now : ℤ) (c : AnalysisCache) (calls : List Call) :
    (workOn now c calls).2.1.map (·.content) = calls.map (·.content) := by
  induction calls with
  | nil => rfl
  | cons call rest ih =>
    cases hprogress : call.progress with
    | done a => simp [workOn, hprogress, ih]
    | waiting | missed => simp [workOn, hprogress, (stepped now c call).content_eq]

theorem advance_worker {shift : Shift} {calls : List Call}
    (h : crew.workers[shift.worker]? = some calls) :
    crew.advance shift =
      { cache := (workOn shift.now crew.cache calls).1
        workers := crew.workers.set shift.worker (workOn shift.now crew.cache calls).2.1
        notices := crew.notices ++ (workOn shift.now crew.cache calls).2.2 } := by
  simp only [Crew.advance, h]

theorem advance_nobody {shift : Shift} (h : crew.workers[shift.worker]? = none) :
    crew.advance shift = crew := by
  simp only [Crew.advance, h]

/-- What the calls of each worker are to analyze. -/
def Crew.bodies (crew : Crew) : List (List String) := crew.workers.map (·.map (·.content))

theorem bodies_advance (crew : Crew) (shift : Shift) :
    (crew.advance shift).bodies = crew.bodies := by
  cases hcalls : crew.workers[shift.worker]? with
  | none => rw [advance_nobody hcalls]
  | some calls =>
    obtain ⟨hlength, rfl⟩ := List.getElem?_eq_some_iff.1 hcalls
    have hbound : shift.worker < crew.bodies.length := by simpa [Crew.bodies] using hlength
    have hsame : crew.workers[shift.worker].map (·.content) = crew.bodies[shift.worker] := by
      simp [Crew.bodies]
    rw [advance_worker hcalls, Crew.bodies, List.map_set, contents_workOn, hsame]
    exact List.set_getElem_self hbound

theorem bodies_run (crew : Crew) (shifts : List Shift) :
    (crew.run shifts).bodies = crew.bodies := by
  induction shifts generalizing crew with
  | nil => rfl
  | cons shift rest ih => exact (ih (crew.advance shift)).trans (bodies_advance crew shift)

/-! ### The steps of workers are the steps of a pool -/

theorem flatten_set {lists : List (List α)} {list : List α} {w i : ℕ} {a : α}
    (hlist : lists[w]? = some list) (hi : list[i]? = some a) (b : α) :
    lists.flatten[(lists.take w).flatten.length + i]? = some a ∧
      (lists.set w (list.set i b)).flatten =
        lists.flatten.set ((lists.take w).flatten.length + i) b := by
  obtain ⟨hw, rfl⟩ := List.getElem?_eq_some_iff.1 hlist
  obtain ⟨hlength, -⟩ := List.getElem?_eq_some_iff.1 hi
  have hsplit : lists.flatten =
      (lists.take w).flatten ++ (lists[w] ++ (lists.drop (w + 1)).flatten) := by
    rw [← List.flatten_cons, ← List.flatten_append, ← List.drop_eq_getElem_cons hw,
      List.take_append_drop]
  rw [hsplit]
  constructor
  · rw [List.getElem?_append_right (Nat.le_add_right ..), Nat.add_sub_cancel_left,
      List.getElem?_append_left hlength, hi]
  · rw [List.set_eq_take_append_cons_drop, if_pos hw, List.flatten_append, List.flatten_cons,
      List.set_append_right _ _ (Nat.le_add_right ..), Nat.add_sub_cancel_left,
      List.set_append_left _ _ hlength]

theorem exists_turns_advance (crew : Crew) (shift : Shift) :
    ∃ turns, (crew.advance shift).pool = crew.pool.run turns := by
  cases hcalls : crew.workers[shift.worker]? with
  | none => exact ⟨[], by rw [advance_nobody hcalls]; rfl⟩
  | some calls =>
    rw [advance_worker hcalls]
    rcases workOn_cases shift.now crew.cache calls with ⟨-, hwork⟩ | ⟨i, call, hi, -, hwork⟩
    · obtain ⟨hlength, rfl⟩ := List.getElem?_eq_some_iff.1 hcalls
      refine ⟨[], ?_⟩
      simp [Crew.pool, Pool.run, hwork]
    · obtain ⟨hcall, hset⟩ := flatten_set hcalls hi (call.step shift.now crew.cache).2.1
      refine ⟨[⟨(crew.workers.take shift.worker).flatten.length + i, shift.now⟩], ?_⟩
      rw [Pool.run, List.foldl_cons, List.foldl_nil, advance_eq _ hcall, hwork, Crew.pool]
      simp only [Crew.pool, hset]

theorem exists_turns_run (crew : Crew) (shifts : List Shift) :
    ∃ turns, (crew.run shifts).pool = crew.pool.run turns := by
  induction shifts generalizing crew with
  | nil => exact ⟨[], rfl⟩
  | cons shift rest ih =>
    obtain ⟨turns, hturns⟩ := exists_turns_advance crew shift
    obtain ⟨more, hmore⟩ := ih (crew.advance shift)
    refine ⟨turns ++ more, ?_⟩
    rw [Pool.run, List.foldl_append]
    exact hmore.trans (by rw [hturns]; rfl)

/-! ### Workers come to their end -/

/-- The number of steps that a call needs at most. -/
def Call.stepsLeft (call : Call) : ℕ :=
  match call.progress with
  | .waiting => 2
  | .missed => 1
  | .done _ => 0

theorem Call.stepsLeft_eq_zero_iff : call.stepsLeft = 0 ↔ call.IsDone := by
  cases hprogress : call.progress <;> simp [stepsLeft, IsDone, hprogress]

theorem Call.Stepped.stepsLeft_le (h : call.Stepped now c (d, next)) :
    next.stepsLeft ≤ call.stepsLeft - 1 := by
  cases h with
  | found before => simp [stepsLeft]
  | missed before => simp [stepsLeft, before]
  | stored before => simp [stepsLeft]
  | idle before => rw [stepsLeft_eq_zero_iff.2 before]

def stepsLeft (calls : List Call) : ℕ := (calls.map Call.stepsLeft).sum

theorem stepsLeft_cons (call : Call) (rest : List Call) :
    stepsLeft (call :: rest) = call.stepsLeft + stepsLeft rest := by
  simp [stepsLeft]

theorem stepsLeft_workOn (now : ℤ) (c : AnalysisCache) (calls : List Call) :
    stepsLeft (workOn now c calls).2.1 ≤ stepsLeft calls - 1 := by
  induction calls with
  | nil => simp [workOn, stepsLeft]
  | cons call rest ih =>
    cases hprogress : call.progress with
    | done a =>
      have hwork : (workOn now c (call :: rest)).2.1 = call :: (workOn now c rest).2.1 := by
        simp [workOn, hprogress]
      have hzero : call.stepsLeft = 0 := Call.stepsLeft_eq_zero_iff.2 ⟨a, hprogress⟩
      rw [hwork, stepsLeft_cons, stepsLeft_cons, hzero]
      omega
    | waiting | missed =>
      have hwork : (workOn now c (call :: rest)).2.1 = (call.step now c).2.1 :: rest := by
        simp [workOn, hprogress]
      have hpos : call.stepsLeft ≠ 0 := by simp [Call.stepsLeft, hprogress]
      have hstep := (stepped now c call).stepsLeft_le
      rw [hwork, stepsLeft_cons, stepsLeft_cons]
      omega

theorem exists_worker_run {w : ℕ} {calls : List Call} (h : crew.workers[w]? = some calls)
    (shifts : List Shift) :
    ∃ left, (crew.run shifts).workers[w]? = some left ∧
      stepsLeft left ≤ stepsLeft calls - shifts.countP (·.worker = w) := by
  induction shifts generalizing crew calls with
  | nil => exact ⟨calls, h, by simp⟩
  | cons shift rest ih =>
    have hnext : ∃ left, (crew.advance shift).workers[w]? = some left ∧
        stepsLeft left ≤ stepsLeft calls - if shift.worker = w then 1 else 0 := by
      by_cases hw : shift.worker = w
      · subst hw
        have hlength := (List.getElem?_eq_some_iff.1 h).1
        rw [advance_worker h, if_pos rfl]
        exact ⟨_, List.getElem?_set_self hlength, stepsLeft_workOn ..⟩
      · rw [if_neg hw]
        refine ⟨calls, ?_, le_rfl⟩
        cases hcalls : crew.workers[shift.worker]? with
        | none => rw [advance_nobody hcalls, h]
        | some others => rw [advance_worker hcalls, List.getElem?_set_ne hw, h]
    obtain ⟨left, hleft, hsteps⟩ := hnext
    obtain ⟨last, hlast, hbound⟩ := ih hleft
    refine ⟨last, hlast, hbound.trans ?_⟩
    rw [List.countP_cons]
    simp only [decide_eq_true_eq]
    omega

theorem stepsLeft_le (calls : List Call) : stepsLeft calls ≤ 2 * calls.length := by
  induction calls with
  | nil => simp [stepsLeft]
  | cons call rest ih =>
    have hcall : call.stepsLeft ≤ 2 := by
      cases hprogress : call.progress <;> simp [Call.stepsLeft, hprogress]
    rw [stepsLeft_cons, List.length_cons]
    omega

theorem forall_isDone_of_stepsLeft {calls : List Call} (h : stepsLeft calls = 0) :
    ∀ call ∈ calls, call.IsDone := by
  induction calls with
  | nil => simp
  | cons call rest ih =>
    rw [stepsLeft_cons, Nat.add_eq_zero_iff] at h
    rw [List.forall_mem_cons]
    exact ⟨Call.stepsLeft_eq_zero_iff.1 h.1, ih h.2⟩

/-- A worker that has two shifts for each of its calls is through with them. -/
theorem isDone_run {shifts : List Shift} (h : ∀ w calls, crew.workers[w]? = some calls →
    2 * calls.length ≤ shifts.countP (·.worker = w)) : (crew.run shifts).IsDone := by
  intro left hleft call hcall
  obtain ⟨w, hw, rfl⟩ := List.mem_iff_getElem.1 hleft
  have hlength : (crew.run shifts).workers.length = crew.workers.length := by
    simpa [Crew.bodies] using congrArg List.length (bodies_run crew shifts)
  have hbegun := List.getElem?_eq_getElem (hlength ▸ hw)
  obtain ⟨last, hlast, hsteps⟩ := exists_worker_run hbegun shifts
  obtain rfl := Option.some.inj ((List.getElem?_eq_getElem hw).symm.trans hlast)
  have hzero : stepsLeft (crew.run shifts).workers[w] = 0 := by
    have hneeded := stepsLeft_le crew.workers[w]
    have hgiven := h w _ hbegun
    omega
  exact forall_isDone_of_stepsLeft hzero call hcall

/-! ### What workers leave -/

/-- What the calls of each worker have given, apart from where it came from. -/
def Crew.analyses (crew : Crew) : List (List (Option Analysis)) :=
  crew.workers.map (·.map fun call => call.analysis?.map Analysis.unmarked)

/-- The contents without an entry, each once. -/
def missing (c : AnalysisCache) (bodies : List String) : List String :=
  bodies.dedup.filter fun content => !c.contains content

theorem mem_missing {content : String} {bodies : List String} :
    content ∈ missing c bodies ↔ content ∈ bodies ∧ contentHash content ∉ c.entries.keys := by
  simp [missing, contains, ← Table.contains_iff]

/-- Workers that have not begun have added nothing, counted nothing and used nothing. -/
theorem begun_start (contents : Set String) (c : AnalysisCache)
    (tasks : List (List (String × Option String))) :
    (Crew.start c tasks).pool.Adds contents c [] ∧ (Crew.start c tasks).pool.Tallied c := by
  have hwaiting : ∀ call ∈ (Crew.start c tasks).pool.calls, call.progress = .waiting := by
    intro call hcall
    obtain ⟨calls, hcalls, hmem⟩ := List.mem_flatten.1 hcall
    obtain ⟨list, -, rfl⟩ := List.mem_map.1 hcalls
    obtain ⟨task, -, rfl⟩ := List.mem_map.1 hmem
    rfl
  have hmissed : (Crew.start c tasks).pool.calls.countP (·.isMissed) = 0 :=
    List.countP_eq_zero.2 fun call hcall => by simp [Call.isMissed, hwaiting call hcall]
  have hbegun : (Crew.start c tasks).pool.calls.countP (·.hasBegun) = 0 :=
    List.countP_eq_zero.2 fun call hcall => by simp [Call.hasBegun, hwaiting call hcall]
  constructor
  · refine ⟨by simp [Crew.pool, Crew.start], by simp, ?_, fun call hcall a ha => ?_⟩
    · rw [hmissed]
      exact le_rfl
    · simp [hwaiting call hcall] at ha
  · refine ⟨?_, fun call hcall hdone => ?_⟩
    · rw [hbegun]
      rfl
    · obtain ⟨a, ha⟩ := hdone
      simp [hwaiting call hcall] at ha

theorem bodies_start (c : AnalysisCache) (tasks : List (List (String × Option String))) :
    (Crew.start c tasks).bodies = tasks.map (·.map (·.1)) := by
  simp [Crew.bodies, Crew.start, Function.comp_def]

theorem contents_pool (crew : Crew) :
    crew.pool.calls.map (·.content) = crew.bodies.flatten := by
  simp [Crew.pool, Crew.bodies, List.map_flatten]

theorem Pool.Adds.crewRun (h : crew.pool.Adds contents first added)
    (hfirst : first.Consistent contents) (hdigests : Set.InjOn contentHash contents)
    (hbodies : ∀ content ∈ crew.bodies.flatten, content ∈ contents) (shifts : List Shift) :
    ∃ more, (crew.run shifts).pool.Adds contents first (added ++ more) := by
  obtain ⟨turns, hturns⟩ := exists_turns_run crew shifts
  have hcalls : ∀ call ∈ crew.pool.calls, call.content ∈ contents := fun call hcall =>
    hbodies _ (contents_pool crew ▸ List.mem_map_of_mem hcall)
  exact hturns ▸ h.run hfirst hdigests hcalls turns

theorem Crew.IsDone.pool (h : crew.IsDone) : ∀ call ∈ crew.pool.calls, call.IsDone := by
  intro call hcall
  obtain ⟨calls, hcalls, hmem⟩ := List.mem_flatten.1 hcall
  exact h calls hcalls call hmem

theorem analyses_of_isDone (h : crew.IsDone) (hright : ∀ call ∈ crew.pool.calls,
    call.IsRight crew.cache) :
    crew.analyses = crew.bodies.map (·.map fun content => some (DocTrace.analyze content)) := by
  rw [Crew.analyses, Crew.bodies, List.map_map]
  refine List.map_congr_left fun calls hcalls => ?_
  rw [Function.comp_apply, List.map_map]
  refine List.map_congr_left fun call hcall => ?_
  obtain ⟨a, ha⟩ := h calls hcalls call hcall
  have hsame := (hright call (List.mem_flatten.2 ⟨calls, hcalls, hcall⟩) a ha).1
  simp [Call.analysis?, ha, hsame]

/-- The digests that were added are those of the contents that were missing, each once. -/
theorem Pool.Adds.keys_perm {bodies : List String} (h : p.Adds {b | b ∈ bodies} first added)
    (hdigests : Set.InjOn contentHash {b | b ∈ bodies})
    (hbodies : p.calls.map (·.content) = bodies) (hdone : ∀ call ∈ p.calls, call.IsDone) :
    (added.map (·.1)).Perm ((missing first bodies).map contentHash) := by
  have hkeys : p.cache.entries.keys = first.entries.keys ++ added.map (·.1) := by
    rw [Table.keys, h.entries, List.map_append]
    rfl
  have hnodup : (first.entries.keys ++ added.map (·.1)).Nodup := hkeys ▸ p.cache.entries.distinct
  obtain ⟨-, hadded, hapart⟩ := List.nodup_append.1 hnodup
  have hmissing : ((missing first bodies).map contentHash).Nodup := by
    refine List.Nodup.map_on (fun x hx y hy => ?_) ((List.nodup_dedup bodies).filter _)
    exact hdigests (mem_missing.1 hx).1 (mem_missing.1 hy).1
  refine (List.perm_ext_iff_of_nodup hadded hmissing).2 fun key => ?_
  constructor
  · intro hkey
    obtain ⟨e, he, rfl⟩ := List.mem_map.1 hkey
    obtain ⟨content, hcontent, heq, -⟩ := h.fresh e he
    refine List.mem_map.2 ⟨content, mem_missing.2 ⟨hcontent, fun hold => ?_⟩, heq.symm⟩
    exact hapart _ hold _ hkey heq.symm
  · intro hkey
    obtain ⟨content, hcontent, rfl⟩ := List.mem_map.1 hkey
    obtain ⟨hbody, hold⟩ := mem_missing.1 hcontent
    obtain ⟨call, hcall, rfl⟩ := List.mem_map.1 (hbodies ▸ hbody)
    obtain ⟨a, ha⟩ := hdone call hcall
    have hstored := (h.right call hcall a ha).2
    rw [hkeys, List.mem_append] at hstored
    exact hstored.resolve_left hold

/-- Workers that share a cache, along any shifts: no entry is replaced, and a worker with two shifts
for each of its calls is through. When all are through, each call has given the analysis of its
content, one fresh entry was added for each content that was missing, every call was counted and
has used its entry, and there were no fewer misses than contents missing. -/
theorem crew_run (c : AnalysisCache) (tasks : List (List (String × Option String)))
    (hdigests : Set.InjOn contentHash {content | content ∈ tasks.flatten.map (·.1)})
    (hconsistent : c.Consistent {content | content ∈ tasks.flatten.map (·.1)}) :
    (∀ shifts more, ((Crew.start c tasks).run shifts).cache.entries.entries <+:
      ((Crew.start c tasks).run (shifts ++ more)).cache.entries.entries) ∧
    (∀ shifts, (∀ w calls, tasks[w]? = some calls →
        2 * calls.length ≤ shifts.countP fun shift => shift.worker = w) →
      ((Crew.start c tasks).run shifts).IsDone) ∧
    ∀ shifts, ((Crew.start c tasks).run shifts).IsDone →
      let crew := (Crew.start c tasks).run shifts
      let bodies := tasks.flatten.map (·.1)
      crew.analyses = tasks.map (·.map fun task => some (DocTrace.analyze task.1)) ∧
      (∃ added, crew.cache.entries.entries = c.entries.entries ++ added ∧
        (∀ e ∈ added, IsFresh {content | content ∈ bodies} e) ∧
        (added.map (·.1)).Perm ((missing c bodies).map contentHash)) ∧
      crew.cache.hits + crew.cache.misses = c.hits + c.misses + bodies.length ∧
      c.misses + (missing c bodies).length ≤ crew.cache.misses ∧
      ∀ content ∈ bodies, contentHash content ∈ crew.cache.used := by
  have hbodies : (Crew.start c tasks).bodies.flatten = tasks.flatten.map (·.1) := by
    rw [bodies_start, List.map_flatten]
  have hmem : ∀ content ∈ (Crew.start c tasks).bodies.flatten,
      content ∈ {content | content ∈ tasks.flatten.map (·.1)} := fun _ h => hbodies ▸ h
  obtain ⟨hadds, htallied⟩ := begun_start {content | content ∈ tasks.flatten.map (·.1)} c tasks
  refine ⟨fun shifts more => ?_, fun shifts hshifts => ?_, fun shifts hdone => ?_⟩
  · obtain ⟨earlier, hearlier⟩ := hadds.crewRun hconsistent hdigests hmem shifts
    obtain ⟨later, hlater⟩ := hearlier.crewRun hconsistent hdigests
      (fun content h => hmem content (bodies_run _ shifts ▸ h)) more
    have hrun : (Crew.start c tasks).run (shifts ++ more) =
        ((Crew.start c tasks).run shifts).run more := List.foldl_append
    refine ⟨later, ?_⟩
    rw [hrun]
    exact (congrArg (· ++ later) hearlier.entries).trans
      ((List.append_assoc ..).trans hlater.entries.symm)
  · refine isDone_run fun w calls hcalls => ?_
    simp only [Crew.start, List.getElem?_map, Option.map_eq_some_iff] at hcalls
    obtain ⟨list, hlist, rfl⟩ := hcalls
    simpa using hshifts w list hlist
  · intro crew bodies
    obtain ⟨added, hend⟩ := hadds.crewRun hconsistent hdigests hmem shifts
    obtain ⟨turns, hturns⟩ := exists_turns_run (Crew.start c tasks) shifts
    have hcounted : crew.pool.Tallied c := hturns ▸ tallied_run htallied turns
    obtain ⟨hasked, hused⟩ := hcounted.of_done hdone.pool
    have hcalls : crew.pool.calls.map (·.content) = bodies := by
      rw [contents_pool, bodies_run, hbodies]
    have hkeys := hend.keys_perm hdigests hcalls hdone.pool
    refine ⟨?_, ⟨added, hend.entries, hend.fresh, hkeys⟩, ?_, ?_, fun content hcontent => ?_⟩
    · rw [analyses_of_isDone hdone hend.right, bodies_run, bodies_start, List.map_map]
      refine List.map_congr_left fun list _ => ?_
      simp
    · rw [← hcalls, List.length_map]
      exact hasked
    · have hlength := hkeys.length_eq
      have hmisses := hend.misses
      rw [List.length_map, List.length_map] at hlength
      rw [List.nil_append] at hmisses
      exact hlength ▸ (Nat.le_add_right ..).trans hmisses
    · obtain ⟨call, hcall, rfl⟩ := List.mem_map.1 (hcalls ▸ hcontent)
      exact hused call hcall

/-- One diagram is stored before. Two workers miss another one, both before either stores it. -/
theorem crew_run_two :
    let stored := "graph TD\nA --> B\n"
    let shared := "mindmap\nGoals\n"
    let c := (({} : AnalysisCache).put 5 stored (DocTrace.analyze stored) none).2
    let tasks := [[(stored, none), (shared, some "a.mmd")], [(shared, some "b.mmd")]]
    let shifts : List Shift := [⟨0, 8⟩, ⟨0, 8⟩, ⟨1, 8⟩, ⟨0, 9⟩, ⟨1, 9⟩, ⟨0, 9⟩]
    ((Crew.start c tasks).run shifts).analyses =
      [[some (DocTrace.analyze stored), some (DocTrace.analyze shared)],
        [some (DocTrace.analyze shared)]] ∧
    (∃ added,
      ((Crew.start c tasks).run shifts).cache.entries.entries = c.entries.entries ++ added ∧
      (added.map (·.1)).Perm [contentHash shared]) ∧
    ((Crew.start c tasks).run shifts).cache.hits +
      ((Crew.start c tasks).run shifts).cache.misses = 3 := by
  intro stored shared
  have hapart : contentHash stored ≠ contentHash shared := by decide +kernel
  intro c tasks shifts
  have hcontents : ∀ content ∈ {content | content ∈ tasks.flatten.map (·.1)},
      content = stored ∨ content = shared := by
    intro content hcontent
    simpa [tasks] using hcontent
  have hdigests : Set.InjOn contentHash {content | content ∈ tasks.flatten.map (·.1)} := by
    intro x hx y hy h
    rcases hcontents x hx with rfl | rfl <;> rcases hcontents y hy with rfl | rfl
    · rfl
    · exact absurd h hapart
    · exact absurd h.symm hapart
    · rfl
  have hentries : c.entries.entries = [stamped 5 stored (DocTrace.analyze stored) none] := by
    simp [c, put, Table.put_of_not_mem, Table.keys, stamped]
  have hconsistent : c.Consistent {content | content ∈ tasks.flatten.map (·.1)} := by
    intro content hcontent e he
    have hmem := Table.find?_eq_some_iff.1 he
    rw [hentries, List.mem_singleton] at hmem
    obtain ⟨hkey, rfl⟩ := Prod.mk.inj hmem
    obtain rfl := hdigests hcontent (by simp [tasks]) hkey
    exact Entry.holds_ofAnalysis ..
  have hmissing : missing c (tasks.flatten.map (·.1)) = [shared] := by
    have hne : stored ≠ shared := fun h => hapart (congrArg contentHash h)
    have hstored : c.contains stored = true := by
      simp [contains, Table.contains_iff, Table.keys, hentries, stamped]
    have hshared : c.contains shared = false := by
      simp [contains, ← Bool.not_eq_true, Table.contains_iff, Table.keys, hentries, stamped,
        hapart.symm]
    simp [missing, tasks, hne, hstored, hshared]
  obtain ⟨-, hdone, hleft⟩ := crew_run c tasks hdigests hconsistent
  have hend : ((Crew.start c tasks).run shifts).IsDone := by
    refine hdone shifts ?_
    rintro (_ | _ | w) calls hcalls
    · obtain rfl := Option.some.inj hcalls
      simp [shifts]
    · obtain rfl := Option.some.inj hcalls
      simp [shifts]
    · simp [tasks] at hcalls
  obtain ⟨hanalyses, ⟨added, hadded, -, hkeys⟩, hasked, -⟩ := hleft shifts hend
  rw [hmissing] at hkeys
  refine ⟨hanalyses, ⟨added, hadded, hkeys⟩, hasked.trans ?_⟩
  simp [c, tasks, counts_put]

end DocTrace.AnalysisCache
