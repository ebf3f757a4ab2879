import BuildTags.Json.Fraction

namespace BuildTags.Json

/-- A document. Whole numbers have any size; the members of an object keep the order of their
names. -/
inductive Value
  | null
  | bool (value : Bool)
  | whole (value : Int)
  | fraction (value : Fraction)
  | text (value : Text)
  | list (items : List Value)
  | object (members : List (Text × Value))
  deriving Inhabited, Repr

inductive IsScalar : Value → Prop
  | text (text : Text) : IsScalar (.text text)
  | whole (n : Int) : IsScalar (.whole n)

/-- Sets a member: a name that is there keeps its place, a new one is put last. -/
def put (name : Text) (value : Value) : List (Text × Value) → List (Text × Value)
  | [] => [(name, value)]
  | (other, old) :: members =>
    if other = name then (name, value) :: members else (other, old) :: put name value members

def member? (name : Text) (members : List (Text × Value)) : Option Value :=
  (members.find? fun (other, _) => other = name).map (·.2)

end BuildTags.Json
