import RecordStore.SortedMap

/-!
# Tags

The attributes of a field as data: a map from namespaces to the values listed in them. An attribute
appends to what earlier attributes of its namespace listed, so only the order of the values within
a namespace matters.
-/

namespace RecordStore

/-- **The tags of a field**: for each namespace the values listed in it, in order. -/
structure Tags where
  /-- The values by namespace. A namespace may be present without values. -/
  values : SortedMap (List String) := .empty
  deriving DecidableEq

namespace Tags

/-- No tags. -/
def empty : Tags := {}

instance : Inhabited Tags := ⟨empty⟩

/-- The values listed in a namespace; none if it is absent. -/
def get (tags : Tags) (ns : String) : List String := (tags.values.get? ns).getD []

/-- Whether a namespace lists exactly this value. -/
def contains (tags : Tags) (ns value : String) : Bool := (tags.get ns).contains value

/-- Whether a namespace is present, with values or without. -/
def hasNamespace (tags : Tags) (ns : String) : Bool := tags.values.contains ns

/-- Appends values to a namespace, which is present afterwards. -/
def extend (tags : Tags) (ns : String) (more : List String) : Tags :=
  ⟨tags.values.insert ns (tags.get ns ++ more)⟩

/-- The namespaces in ascending order. -/
def namespaces (tags : Tags) : List String := tags.values.keys

/-- Whether no namespace is present. -/
def isEmpty (tags : Tags) : Bool := tags.values.isEmpty

/-- The tags after a sequence of extensions. -/
def ofList (steps : List (String × List String)) : Tags :=
  steps.foldl (fun tags s => tags.extend s.1 s.2) empty

end Tags

end RecordStore
