import DocTrace.Json.Printer
import DocTrace.Rule.Basic
import DocTrace.Text.Grid
import DocTrace.Text.Markup

/-!
Lists of rules as a JSON document and as a table. Cells of the table may hold
style tags, which do not show.
-/

namespace DocTrace.Rule

def toJson (r : Rule) : Json :=
  .object [("id", .str r.id), ("name", .str r.name), ("level", .str r.level.name),
    ("type", .str r.category.name), ("enforcement", .str r.enforcement.name),
    ("id_prefix", .ofOption r.target.idPrefix), ("path_pattern", .ofOption r.target.pathPattern),
    ("hub", .ofOption (r.hub.map (·.id)))]

def jsonListing (rules : List Rule) : String :=
  Json.indented .unicode (.array (rules.map toJson))

def Target.toText (t : Target) : String :=
  match [t.idPrefix, t.pathPattern].filterMap (·.filter (· ≠ "")) with
  | [] => "-"
  | criteria => Text.joinWith " | " criteria

/-- The columns of the table and the cells of a rule in them. -/
def listingColumns : List (String × (Rule → String)) := [
  ("ID", (·.id)), ("Level", (·.level.name)), ("Type", (·.category.name)),
  ("Enforcement", (·.enforcement.name)), ("Target", (·.target.toText))]

def terminalColumns : Nat := 1000

/-- The table of the rules. The cells are read column by column before the first one is shown. -/
def tableListing (rules : List Rule) : Except Text.Markup.Fault String := do
  let columns ← listingColumns.mapM fun c => rules.mapM fun r => Text.Markup.shown (c.2 r).toList
  if !columns.all fun cells => cells.all (·.usable) then throw .component
  let grid : Text.Grid :=
    { title := s!"Rules ({rules.length})".toList
      header := listingColumns.map fun c => c.1.toList
      rows := rules.mapIdx fun i _ =>
        columns.map fun cells => ((cells[i]?).map (·.text)).getD [] }
  return .ofList (grid.render terminalColumns)

end DocTrace.Rule
