import DocTrace.AnalysisCache.Basic

/-!
Analyses side by side. A call looks its content up first and, where nothing is
stored, stores a new analysis in a second step; between the two steps other
calls may go on. Turns say whose step comes next.
-/

namespace DocTrace.AnalysisCache

inductive Progress where
  | waiting
  /-- Nothing was found, and the new analysis is not stored yet. -/
  | missed
  | done (analysis : Analysis)

structure Call where
  content : String
  filePath : Option String
  progress : Progress := .waiting

/-- The next step of a call: the cache and the call after it, and the notices. -/
def Call.step (now : Int) (c : AnalysisCache) (call : Call) :
    AnalysisCache × Call × List Notice :=
  match call.progress with
  | .waiting =>
    match c.get call.content with
    | (some a, c) => (c, { call with progress := .done a }, [])
    | (none, c) => (c, { call with progress := .missed }, unknownNotation call.content)
  | .missed =>
    let a := DocTrace.analyze call.content
    ((c.put now call.content a call.filePath).2, { call with progress := .done a }, [])
  | .done _ => (c, call, [])

def Call.analysis? (call : Call) : Option Analysis :=
  match call.progress with
  | .done a => some a
  | _ => none

/-- The call whose step comes next, and the time at which it is done. -/
structure Turn where
  call : Nat
  now : Int

structure Pool where
  cache : AnalysisCache
  calls : List Call
  notices : List Notice := []

namespace Pool

/-- One step of the call whose turn it is; a turn of no call is void. -/
def advance (p : Pool) (turn : Turn) : Pool :=
  match p.calls[turn.call]? with
  | none => p
  | some call =>
    let (cache, call, notices) := call.step turn.now p.cache
    { cache, calls := p.calls.set turn.call call, notices := p.notices ++ notices }

def run (p : Pool) (turns : List Turn) : Pool := turns.foldl advance p

/-- Two turns for every call, one call after the other. -/
def inOrder (now : Int) (count : Nat) : List Turn :=
  (List.range count).flatMap fun i => [⟨i, now⟩, ⟨i, now⟩]

/-- Runs along some turns, and brings the calls that are not done then to their end. -/
def complete (p : Pool) (turns : List Turn) (now : Int) : Pool :=
  p.run (turns ++ inOrder now p.calls.length)

end Pool

end DocTrace.AnalysisCache
