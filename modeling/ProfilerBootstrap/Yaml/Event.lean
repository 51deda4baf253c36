import ProfilerBootstrap.Yaml.Mark

namespace ProfilerBootstrap.Yaml

inductive EventKind
  | streamStart
  | streamEnd
  | documentStart
  | documentEnd
  | alias (name : String)
  /-- The tag of a plain scalar without one is found from its text. -/
  | scalar (text : List Nat) (plain : Bool)
  | sequenceStart
  | sequenceEnd
  | mappingStart
  | mappingEnd
  deriving DecidableEq, Repr

/-- An event with the properties of the node that it begins, if it begins one. -/
structure Event where
  kind : EventKind
  mark : Mark
  anchor : Option String
  tag : Option String
  deriving DecidableEq, Repr

def Event.empty (m : Mark) : Event := ⟨.scalar [] true, m, none, none⟩

end ProfilerBootstrap.Yaml
