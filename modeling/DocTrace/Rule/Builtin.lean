import DocTrace.Value.Basic

/-!
The rules that every project starts from, as the mappings that a rule document
would give. Folder rules claim one folder each and govern the identifiers there.
-/

namespace DocTrace.Rule.Builtin

def entry (key value : String) : Value × Value := (.str key, .str value)

def common (id name description level category enforcement : String) : Mapping :=
  [entry "id" id, entry "name" name, entry "description" description, entry "level" level,
    entry "type" category, entry "enforcement" enforcement]

def target (entries : Mapping) : Value × Value := (.str "target", .map entries)

def hub (id title : String) : Mapping := [(.str "hub", .map [entry "id" id, entry "title" title])]

def checks (key : String) (texts : List String) : Value × Value :=
  (.str "checks", .map [(.str key, .list (texts.map .str))])

/-- A folder, the beginning of the identifiers in it, and the keywords of its diagrams. -/
def folder (id name description category folder start : String) (hub : Mapping)
    (keywords : List String) : Mapping :=
  common id name description "folder" category "error" ++
    [target [entry "idPrefix" start, entry "pathPattern" (folder ++ "/*")]] ++ hub ++
    [checks "mermaidType" keywords]

def file (id name description category pattern : String) : Mapping :=
  common id name description "file" category "error" ++ [target [entry "pathPattern" pattern]]

def project (id name description category enforcement : String) : Mapping :=
  common id name description "project" category enforcement

def folderRules : List Mapping :=
  [folder "persona-gate" "Persona Architecture Gate"
      "Personas are mindmaps with Role, Description, Goals and a persona Type."
      "structural" "personas" "PER_" (hub "GRP_Personas" "Personas") ["mindmap"],
    folder "requirement-syntax" "Requirement Strict Syntax"
      "Requirements are requirement diagrams."
      "syntax" "requirements" "REQ_" (hub "GRP_Requirements" "Requirements")
      ["requirementDiagram"],
    folder "journey-syntax" "Journey Strict Syntax"
      "Journeys are sequence diagrams that trace to a persona."
      "syntax" "journeys" "JRN_" (hub "GRP_Journeys" "Journeys") ["sequenceDiagram"],
    folder "component-registration" "Component Registration"
      "Components are class diagrams."
      "structural" "components" "COMP_" (hub "GRP_Components" "Components") ["classDiagram"],
    folder "context-registration" "System Context Registration"
      "Context diagrams are flowcharts."
      "structural" "context" "CTX_" (hub "GRP_Context" "Context") ["graph", "flowchart"],
    folder "boundary-registration" "Boundary Registration"
      "Boundary diagrams are flowcharts."
      "structural" "boundaries" "BND_" (hub "GRP_Boundaries" "Boundaries")
      ["graph", "flowchart"],
    folder "data-registration" "Data Model Registration"
      "Data models are entity-relationship diagrams."
      "structural" "data" "DATA_" [] ["erDiagram"],
    folder "flow-registration" "Flow Registration"
      "Flows are flowcharts."
      "structural" "flows" "FLOW_" [] ["flowchart", "graph"],
    folder "sequence-registration" "Sequence Registration"
      "Technical sequences are sequence diagrams."
      "structural" "sequences" "SEQ_" [] ["sequenceDiagram"],
    folder "state-registration" "State Machine Registration"
      "State machines are state diagrams."
      "structural" "states" "STATE_" [] ["stateDiagram"],
    folder "architecture-registration" "Architecture Registration"
      "Architecture views use the C4 notation."
      "structural" "architecture" "ARCH_" []
      ["C4Context", "C4Container", "C4Component", "C4Dynamic", "C4Deployment"]]

def fileRules : List Mapping :=
  [file "core-metadata" "Core Metadata"
      "Every diagram declares id, title and description."
      "metadata" "**/*.\x7bmermaid,mmd\x7d" ++
      [checks "requiredFrontmatter" ["id", "title", "description"]],
    file "footnotes-policy" "Footnotes Markdown Policy"
      "Footnotes are Markdown notes with core metadata."
      "structural" "**/footnotes/*",
    file "filename-id" "Filename Matches Id"
      "A file's base name equals its declared id."
      "structural" "**/*.\x7bmermaid,mmd,md\x7d",
    file "id-prefix" "Folder Id Prefix"
      "Documents in a governed folder use that folder's id prefix."
      "structural" "**/*.\x7bmermaid,mmd,md\x7d",
    file "front-matter-schema" "Front Matter Schema"
      "Front matter is valid YAML with well-typed values."
      "metadata" "**/*"]

def projectRules : List Mapping :=
  [project "document-placement" "Document Placement"
      "Foreign files live in others/, Markdown notes in a footnotes/ folder."
      "structural" "error",
    project "folder-registry" "Folder Registry"
      "Every folder is claimed by exactly one folder rule or is a system folder."
      "structural" "error",
    project "duplicate-ids" "Unique Identifiers"
      "Each identifier is declared by exactly one file."
      "structural" "error",
    project "dangling-references" "Dangling References"
      "Explicit links point at declared identifiers."
      "traceability" "error",
    project "global-traceability" "Global Document Traceability"
      "Every declared identifier is referenced somewhere in the graph."
      "traceability" "error",
    project "link-reciprocity" "Link Reciprocity"
      "A downlink is matched by an uplink on the other end."
      "traceability" "error",
    project "persona-diversity" "Persona Diversity"
      "The project defines an Actor, an Influencer, a Guardian and a Proxy."
      "structural" "warning",
    project "persona-requirement-trace" "Persona Requirement Connectivity"
      "Personas drive main requirements and main requirements have a persona."
      "traceability" "error",
    project "journey-integrity" "Journey Integrity & Coverage"
      "Behavioral personas and functional requirements are covered by a journey."
      "traceability" "warning",
    project "flow-requirement-trace" "Flow Requirement Trace"
      "Every flow traces to a functional requirement."
      "traceability" "warning"]

def rules : List Mapping := folderRules ++ fileRules ++ projectRules

end DocTrace.Rule.Builtin
