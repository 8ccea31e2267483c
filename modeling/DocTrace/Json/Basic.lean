import DocTrace.Number.Binary64
import DocTrace.Table

/-!
JSON documents. Integers and other numbers are kept apart, and the members of
an object keep their order.
-/

namespace DocTrace

inductive Json where
  | null
  | bool (b : Bool)
  | int (i : Int)
  | float (x : Binary64)
  | str (s : String)
  | array (items : List Json)
  | object (members : List (String × Json))

instance : Inhabited Json := ⟨.null⟩

namespace Json

def ofOption : Option String → Json
  | none => .null
  | some s => .str s

def member? (key : String) : Json → Option Json
  | .object members => (members.find? fun m => m.1 = key).map (·.2)
  | _ => none

def isNull : Json → Bool
  | .null => true
  | _ => false

end Json

end DocTrace
