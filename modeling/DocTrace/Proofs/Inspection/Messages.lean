import DocTrace.Evaluation
import DocTrace.Proofs.Result

/-! The report of a crash is known by its message. No check has a message of its own that
begins with the same letter. Nearly all of them begin with fixed words; the one about the
journeys of a persona begins with the type of the persona. -/

namespace DocTrace

/-- A message that does not begin as the report of a crash does. -/
def Finding.IsOrdinary (message : String) : Prop := message.toList.head? ≠ some 'R'

namespace Inspection

open Finding

variable {g : Graph} {a : Asset}

/-! ### Checks of a document -/

theorem isOrdinary_wrongOpening {keywords : List String} :
    ∀ m ∈ wrongOpening keywords a, IsOrdinary m := by
  unfold wrongOpening
  dsimp only
  split <;> simp [IsOrdinary, toString]

theorem isOrdinary_missingFields {fields : List String} :
    ∀ m ∈ missingFields fields a, IsOrdinary m := by
  intro m hm
  obtain ⟨f, -, rfl⟩ := List.mem_map.1 hm
  simp [IsOrdinary]

theorem isOrdinary_wrongExtension {wanted : String} :
    ∀ m ∈ wrongExtension wanted a, IsOrdinary m := by
  unfold wrongExtension
  dsimp only
  split <;> simp [IsOrdinary]

theorem isOrdinary_missingNodes {nodes : List String} :
    ∀ m ∈ missingNodes nodes g a, IsOrdinary m := by
  intro m hm
  obtain ⟨n, -, rfl⟩ := List.mem_map.1 hm
  simp [IsOrdinary]

theorem isOrdinary_unlinkedIds : ∀ f ∈ unlinkedIds g a, IsOrdinary f.message := by
  intro f hf
  obtain ⟨id, -, rfl⟩ := List.mem_map.1 hf
  simp [IsOrdinary]

theorem isOrdinary_journeyTrace : ∀ m ∈ journeyTrace g a, IsOrdinary m := by
  unfold journeyTrace
  split
  · simp
  · split <;> simp [IsOrdinary]

theorem isOrdinary_footnotesPolicy : ∀ m ∈ footnotesPolicy a, IsOrdinary m := by
  intro m hm
  rcases List.mem_append.1 hm with hm | hm
  · split at hm <;> simp_all [IsOrdinary]
  · exact isOrdinary_missingFields m hm

theorem isOrdinary_filenameId : ∀ m ∈ filenameId a, IsOrdinary m := by
  unfold filenameId
  split
  · simp
  · split <;> simp [IsOrdinary]

theorem isOrdinary_idPrefix : ∀ m ∈ idPrefix g a, IsOrdinary m := by
  unfold idPrefix
  split
  · simp
  · split
    · simp
    · dsimp only
      split <;> simp [IsOrdinary]

theorem isOrdinary_headerSchema : ∀ m ∈ headerSchema a, IsOrdinary m := by
  intro m hm
  obtain ⟨e, -, rfl⟩ := List.mem_map.1 hm
  simp [IsOrdinary]

theorem isOrdinary_personaGateOf (nodes : List String) (labels : Table String String) :
    ∀ m ∈ (personaGateOf nodes labels).messages, IsOrdinary m := by
  have hbranch (b : String) :
      IsOrdinary ("Persona mindmap: missing required branch " ++ quoted b) := by
    simp [IsOrdinary]
  have hsemantic (id : String) : IsOrdinary ("Persona mindmap: missing required semantic id " ++
      quoted id ++ s!" (e.g. {id}[\"...\"])") := by
    simp [IsOrdinary]
  have hgoals : ∀ m ∈ (if nodes.any (Text.beginsWith "GOAL_") then []
      else ["Persona mindmap: missing semantic id \"GOAL_N\" (at least one goal)"]),
      IsOrdinary m := by
    split <;> simp [IsOrdinary]
  have hmissing : IsOrdinary missingTypeMessage := by
    unfold IsOrdinary
    decide
  have hinvalid (value : String) : IsOrdinary (invalidTypeMessage value) := by
    unfold invalidTypeMessage
    simp only [IsOrdinary, String.toList_append]
    simp
  unfold personaGateOf
  dsimp only
  split
  · simp only [List.forall_mem_append, List.forall_mem_map, List.forall_mem_singleton]
    exact ⟨⟨⟨fun b _ => hbranch b, fun id _ => hsemantic id⟩, hgoals⟩, hmissing⟩
  · split
    · simp only [List.forall_mem_append, List.forall_mem_map]
      exact ⟨⟨fun b _ => hbranch b, fun id _ => hsemantic id⟩, hgoals⟩
    · simp only [List.forall_mem_append, List.forall_mem_map, List.forall_mem_singleton]
      exact ⟨⟨⟨fun b _ => hbranch b, fun id _ => hsemantic id⟩, hgoals⟩, hinvalid _⟩

theorem isOrdinary_personaGate : ∀ m ∈ (personaGate g a).messages, IsOrdinary m := by
  unfold personaGate
  split
  · simp
  · exact isOrdinary_personaGateOf _ _

/-! ### Checks of the project -/

theorem isOrdinary_foreignFile {path : String} {findings : List Finding}
    (h : foreignFile path = .ok findings) : ∀ f ∈ findings, IsOrdinary f.message := by
  unfold foreignFile at h
  cases hothers : inOthers path with
  | error crash =>
    rw [hothers] at h
    cases h
  | ok others =>
    rw [hothers] at h
    dsimp [bind, Except.bind, pure, Except.pure] at h
    split at h <;> obtain rfl := Except.ok.inj h <;> simp [IsOrdinary]

theorem isOrdinary_misplacedNote {path : String} {findings : List Finding}
    (h : misplacedNote path = .ok findings) : ∀ f ∈ findings, IsOrdinary f.message := by
  unfold misplacedNote at h
  split at h
  · obtain rfl := Except.ok.inj h
    simp
  · cases hothers : inOthers path with
    | error crash =>
      rw [hothers] at h
      cases h
    | ok others =>
      rw [hothers] at h
      dsimp [bind, Except.bind, pure, Except.pure] at h
      split at h <;> obtain rfl := Except.ok.inj h <;> simp [IsOrdinary]

theorem isOrdinary_documentPlacement {findings : List Finding}
    (h : documentPlacement g = .ok findings) : ∀ f ∈ findings, IsOrdinary f.message := by
  unfold documentPlacement at h
  cases hforeign : g.foreignFiles.mapM foreignFile with
  | error crash =>
    rw [hforeign] at h
    cases h
  | ok foreign =>
    cases hnotes : g.files.mapM misplacedNote with
    | error crash =>
      rw [hforeign, hnotes] at h
      cases h
    | ok notes =>
      rw [hforeign, hnotes] at h
      obtain rfl := Except.ok.inj h
      intro f hf
      rcases List.mem_append.1 hf with hf | hf <;>
        obtain ⟨found, hfound, hf⟩ := List.mem_flatten.1 hf
      · obtain ⟨path, -, hpath⟩ := exists_of_mem_mapM hforeign hfound
        exact isOrdinary_foreignFile hpath f hf
      · obtain ⟨path, -, hpath⟩ := exists_of_mem_mapM hnotes hfound
        exact isOrdinary_misplacedNote hpath f hf

theorem isOrdinary_folderRegistry : ∀ f ∈ folderRegistry g, IsOrdinary f.message := by
  intro f hf
  rcases List.mem_append.1 hf with hf | hf <;> obtain ⟨folder, -, hf⟩ := List.mem_flatMap.1 hf
  · unfold unregistered at hf
    split at hf <;> simp_all [IsOrdinary]
  · unfold sharedClaim at hf
    split at hf <;> simp_all [IsOrdinary]

theorem isOrdinary_duplicateIds : ∀ f ∈ duplicateIds g, IsOrdinary f.message := by
  intro f hf
  obtain ⟨e, -, rfl⟩ := List.mem_map.1 hf
  simp [IsOrdinary]

theorem isOrdinary_danglingReferences : ∀ f ∈ danglingReferences g, IsOrdinary f.message := by
  intro f hf
  obtain ⟨l, -, rfl⟩ := List.mem_map.1 hf
  simp [IsOrdinary]

theorem isOrdinary_globalTraceability : ∀ f ∈ globalTraceability g, IsOrdinary f.message := by
  intro f hf
  obtain ⟨id, -, rfl⟩ := List.mem_map.1 hf
  simp [about, IsOrdinary]

theorem isOrdinary_linkReciprocity : ∀ f ∈ linkReciprocity g, IsOrdinary f.message := by
  intro f hf
  obtain ⟨l, -, rfl⟩ := List.mem_map.1 hf
  simp [IsOrdinary]

theorem isOrdinary_personaDiversity : ∀ m ∈ personaDiversity g, IsOrdinary m := by
  unfold personaDiversity
  dsimp only
  split <;> simp [IsOrdinary]

theorem isOrdinary_personaRequirementTrace :
    ∀ f ∈ personaRequirementTrace g, IsOrdinary f.message := by
  intro f hf
  obtain ⟨id, -, hf⟩ := List.mem_flatMap.1 hf
  split at hf
  · rcases List.mem_append.1 hf with hf | hf
    · split at hf <;> simp_all [about, IsOrdinary]
    · obtain ⟨r, -, rfl⟩ := List.mem_map.1 hf
      simp [about, IsOrdinary]
  · split at hf
    · unfold requirementTrace at hf
      split at hf <;> simp_all [about, IsOrdinary]
    · exact absurd hf List.not_mem_nil

theorem isOrdinary_flowRequirementTrace : ∀ f ∈ flowRequirementTrace g, IsOrdinary f.message := by
  intro f hf
  obtain ⟨id, -, rfl⟩ := List.mem_map.1 hf
  simp [about, IsOrdinary]

theorem eq_of_toUpper {c : Char} (h : c.toUpper = 'R') : c = 'R' ∨ c = 'r' := by
  unfold Char.toUpper at h
  split at h
  · next hsmall =>
    have hcodes : 'R'.val.toNat = 82 ∧ 'r'.val.toNat = 114 ∧ 'a'.val.toNat = 97 ∧
        'z'.val.toNat = 122 ∧ ('A'.val - 'a'.val).toNat = 4294967264 := by decide
    have hval := congrArg (fun c => c.val.toNat) h
    simp only [UInt32.toNat_add] at hval
    rw [UInt32.le_iff_toNat_le, UInt32.le_iff_toNat_le] at hsmall
    refine .inr (Char.ext (UInt32.toNat_inj.1 ?_))
    omega
  · exact .inl h

/-- The types that need a journey do not begin with the letter, however they are written. -/
theorem isOrdinary_capitalize {s : String} (h : Text.lowerString s ∈ behavioralTypes)
    (rest : String) : IsOrdinary (Text.capitalize s ++ rest) := by
  have hfirst : ∀ t ∈ behavioralTypes, t.toList ≠ [] ∧ t.toList.head? ≠ some 'r' := by decide
  obtain ⟨hfilled, hsmall⟩ := hfirst _ h
  cases hs : s.toList with
  | nil => simp [Text.lowerString, Text.lower, Text.lowerFrom, hs] at hfilled
  | cons c cs =>
    intro hopening
    have hupper : c.toUpper = 'R' := by simpa [Text.capitalize, hs] using hopening
    refine hsmall ?_
    rcases eq_of_toUpper hupper with rfl | rfl <;>
      simp [Text.lowerString, hs, Text.lower, Text.lowerFrom] <;> decide

theorem isOrdinary_journeyIntegrity : ∀ f ∈ journeyIntegrity g, IsOrdinary f.message := by
  intro f hf
  rcases List.mem_append.1 hf with hf | hf
  · obtain ⟨id, -, hf⟩ := List.mem_flatMap.1 hf
    dsimp only at hf
    split at hf
    · next hbehavioral =>
      rw [Bool.and_eq_true] at hbehavioral
      have htype := List.contains_iff_mem.1 hbehavioral.1
      obtain rfl := List.mem_singleton.1 hf
      simp only [about, String.append_assoc]
      exact isOrdinary_capitalize htype _
    · exact absurd hf List.not_mem_nil
  · obtain ⟨id, -, rfl⟩ := List.mem_map.1 hf
    simp [about, IsOrdinary]

end Inspection

/-! ### All checks -/

namespace Rule

open Finding

variable {g : Graph} {a : Option Asset} {findings : List Finding}

theorem isOrdinary_of_forDocument {f : Asset → List Finding}
    (hf : ∀ a, ∀ found ∈ f a, IsOrdinary found.message) (h : forDocument a f = .ok findings) :
    ∀ found ∈ findings, IsOrdinary found.message := by
  obtain rfl := Except.ok.inj h
  cases a with
  | none => simp
  | some a => exact hf a

theorem isOrdinary_of_messagesFor {f : Asset → List String}
    (hf : ∀ a, ∀ m ∈ f a, IsOrdinary m) (h : messagesFor a f = .ok findings) :
    ∀ found ∈ findings, IsOrdinary found.message := by
  refine isOrdinary_of_forDocument (fun a found hfound => ?_) h
  obtain ⟨m, hm, rfl⟩ := List.mem_map.1 hfound
  exact hf a m hm

theorem Named.isOrdinary_of_report {check : Named} (h : check.report g a = .ok findings) :
    ∀ found ∈ findings, IsOrdinary found.message := by
  cases check with
  | personaGate => exact isOrdinary_of_messagesFor (fun _ => Inspection.isOrdinary_personaGate) h
  | journeyTrace => exact isOrdinary_of_messagesFor (fun _ => Inspection.isOrdinary_journeyTrace) h
  | footnotesPolicy =>
    exact isOrdinary_of_messagesFor (fun _ => Inspection.isOrdinary_footnotesPolicy) h
  | filenameId => exact isOrdinary_of_messagesFor (fun _ => Inspection.isOrdinary_filenameId) h
  | idPrefix => exact isOrdinary_of_messagesFor (fun _ => Inspection.isOrdinary_idPrefix) h
  | headerSchema => exact isOrdinary_of_messagesFor (fun _ => Inspection.isOrdinary_headerSchema) h
  | documentPlacement => exact Inspection.isOrdinary_documentPlacement h
  | folderRegistry => exact Except.ok.inj h ▸ Inspection.isOrdinary_folderRegistry
  | duplicateIds => exact Except.ok.inj h ▸ Inspection.isOrdinary_duplicateIds
  | danglingReferences => exact Except.ok.inj h ▸ Inspection.isOrdinary_danglingReferences
  | globalTraceability => exact Except.ok.inj h ▸ Inspection.isOrdinary_globalTraceability
  | linkReciprocity => exact Except.ok.inj h ▸ Inspection.isOrdinary_linkReciprocity
  | personaDiversity =>
    obtain rfl := Except.ok.inj h
    intro found hfound
    obtain ⟨m, hm, rfl⟩ := List.mem_map.1 hfound
    exact Inspection.isOrdinary_personaDiversity m hm
  | personaRequirementTrace =>
    exact Except.ok.inj h ▸ Inspection.isOrdinary_personaRequirementTrace
  | journeyIntegrity => exact Except.ok.inj h ▸ Inspection.isOrdinary_journeyIntegrity
  | flowRequirementTrace => exact Except.ok.inj h ▸ Inspection.isOrdinary_flowRequirementTrace

theorem Check.isOrdinary_of_report {check : Check} (h : check.report g a = .ok findings) :
    ∀ found ∈ findings, IsOrdinary found.message := by
  cases check with
  | opensWith => exact isOrdinary_of_messagesFor (fun _ => Inspection.isOrdinary_wrongOpening) h
  | requiredFields =>
    exact isOrdinary_of_messagesFor (fun _ => Inspection.isOrdinary_missingFields) h
  | extension => exact isOrdinary_of_messagesFor (fun _ => Inspection.isOrdinary_wrongExtension) h
  | requiredNodes => exact isOrdinary_of_messagesFor (fun _ => Inspection.isOrdinary_missingNodes) h
  | linked => exact isOrdinary_of_forDocument (fun _ => Inspection.isOrdinary_unlinkedIds) h
  | named => exact Named.isOrdinary_of_report h

/-- What a run of checks finds says nothing that could be taken for the report of a crash. -/
theorem isOrdinary_of_runChecks {writer : String} {checks : List Check}
    (h : (runChecks writer a g checks).1 = .ok findings) :
    ∀ found ∈ findings, IsOrdinary found.message := by
  induction checks generalizing g findings with
  | nil =>
    obtain rfl := Except.ok.inj h
    simp
  | cons check rest ih =>
    unfold runChecks at h
    cases hreport : check.report g a with
    | error crash =>
      rw [hreport] at h
      cases h
    | ok first =>
      rw [hreport] at h
      dsimp only at h
      cases hmore : (runChecks writer a (check.record g a writer).1 rest).1 with
      | error crash =>
        rw [hmore] at h
        contradiction
      | ok more =>
        rw [hmore] at h
        obtain rfl := Except.ok.inj h
        exact List.forall_mem_append.2 ⟨check.isOrdinary_of_report hreport, ih hmore⟩

end Rule

/-! ### Violations -/

namespace Violation

/-- Whether a violation reports that a check broke off. -/
def isCrash (v : Violation) : Bool := Text.beginsWith "Rule crashed: " v.message

theorem isCrash_crashOf (r : Rule) (a : Option Asset) (crash : Finding.Crash) :
    (r.crashOf a crash).isCrash = true := by
  simp [isCrash, Rule.crashOf, Text.beginsWith]

theorem isCrash_violationOf {f : Finding} (h : Finding.IsOrdinary f.message) (r : Rule)
    (a : Option Asset) : (r.violationOf a f).isCrash = false := by
  rw [isCrash, Text.beginsWith, Bool.eq_false_iff, ne_eq, List.isPrefixOf_iff_prefix]
  rintro ⟨rest, hrest⟩
  refine h ?_
  rw [show f.message = (r.violationOf a f).message from rfl, ← hrest]
  rfl

end Violation

end DocTrace
