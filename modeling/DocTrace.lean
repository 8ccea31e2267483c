import DocTrace.CommandLine.Session
import DocTrace.Main
import DocTrace.Proofs.AnalysisCache.Freshness
import DocTrace.Proofs.AnalysisCache.Schedule
import DocTrace.Proofs.Graph.Reciprocity
import DocTrace.Proofs.Graph.Unmarked
import DocTrace.Proofs.Json.Content
import DocTrace.Proofs.Lint.Transparency
import DocTrace.Proofs.Rule.DocumentOrder
import DocTrace.Proofs.Rule.Independence
import DocTrace.Graph.Session
import DocTrace.Proofs.Value.Equality
import DocTrace.Proofs.Graph.Session
import DocTrace.Proofs.Graph.Freeze
import DocTrace.Proofs.AnalysisCache.Damage
import DocTrace.Proofs.Graph.Duplicates
import DocTrace.Proofs.Inspection.ReverseLink
import DocTrace.Proofs.Inspection.Orphans
import DocTrace.Proofs.Inspection.Growth
import DocTrace.Proofs.AnalysisCache.Usage
import DocTrace.Proofs.Lint.WarmPass
import DocTrace.Proofs.Diagram.Marks
import DocTrace.Proofs.Diagram.WellFormed
import DocTrace.Proofs.AnalysisCache.Workers
import DocTrace.Proofs.Inspection.Messages
import DocTrace.Proofs.Rule.Enforcement
import DocTrace.Proofs.Value.Mapping
import DocTrace.Proofs.Yaml.Keys
import DocTrace.Proofs.Disk.Rewriting
import DocTrace.Proofs.Rule.Overrides
import DocTrace.Proofs.Lint.Enforcement
import DocTrace.Proofs.Inspection.Opening
import DocTrace.Proofs.Path.Expression
import DocTrace.Proofs.Path.Folder
import DocTrace.Proofs.Header.Fences
import DocTrace.Proofs.AnalysisCache.Pruning
import DocTrace.Proofs.Config.Loading
import DocTrace.Proofs.Lint.RuleDocument
import DocTrace.Proofs.Diagram.HeaderBlock
import DocTrace.Proofs.Header.Reporting
import DocTrace.Proofs.Graph.Targets
import DocTrace.Proofs.Graph.Classification
import DocTrace.Proofs.Inspection.Registry
import DocTrace.Proofs.Rule.Merging
import DocTrace.Proofs.Report.Porcelain
import DocTrace.Proofs.Diagram.Links
import DocTrace.Proofs.Diagram.QuotedLabel
import DocTrace.Proofs.Diagram.Deliveries
import DocTrace.Proofs.Diagram.Branches
import DocTrace.Proofs.Diagram.Appending
import DocTrace.Proofs.Diagram.Associations
import DocTrace.Proofs.Diagram.Layout
import DocTrace.Proofs.Diagram.RequirementLinks
import DocTrace.Proofs.Diagram.Transitions
import DocTrace.Proofs.Diagram.Interior
import DocTrace.Proofs.Diagram.Calls
import DocTrace.Proofs.Collection.Ignoring
