/-!
JSON values.  Whole numbers and fractions are told apart, and the fields of an object keep their
order.
-/

namespace Motif

inductive Json where
  | null
  | bool (b : Bool)
  | int (n : Int)
  | float (x : Float)
  | str (s : String)
  | arr (items : List Json)
  | obj (fields : List (String × Json))
deriving Inhabited, BEq

namespace Json

def nat (n : Nat) : Json := int n

def strings (ss : List String) : Json := arr (ss.map str)

/-- The fields that are present. -/
def present (fields : List (Option (String × Json))) : Json := obj (fields.filterMap id)

/-- A field that is left out when there is no value. -/
def optional (key : String) (value : Option Json) : List (String × Json) :=
  match value with
  | some v => [(key, v)]
  | none => []

end Json
end Motif
