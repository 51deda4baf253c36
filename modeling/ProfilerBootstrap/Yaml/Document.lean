import ProfilerBootstrap.Yaml.Event.Grammar
import ProfilerBootstrap.Yaml.Token.Layout
import ProfilerBootstrap.Yaml.Value.OfGraph

namespace ProfilerBootstrap.Yaml

/-- The one document in the bytes; an empty stream holds no value. -/
def Document.read (bytes : List UInt8) : Except Error Document := do
  match ← Graph.ofEvents (Event.read (Token.read (Source.read bytes))) with
  | none => return ⟨#[], .null⟩
  | some g => ofGraph g

end ProfilerBootstrap.Yaml
