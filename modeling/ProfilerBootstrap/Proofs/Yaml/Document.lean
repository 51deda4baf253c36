import ProfilerBootstrap.Proofs.Yaml.Construction
import ProfilerBootstrap.Proofs.Yaml.Grammar
import ProfilerBootstrap.Proofs.Yaml.Graph
import ProfilerBootstrap.Proofs.Yaml.Layout
import ProfilerBootstrap.Yaml.Document

namespace ProfilerBootstrap.Yaml

theorem Source.error_of_readBlocks : ∀ (more : Nat) (e : Decoding.Encoding)
    (size offset index : Nat) (left rest : List UInt8) {u : Unusable},
    (readBlocks e size offset index left rest more).error ≠ some (.unusable u)
  | 0, _, _, _, _, _, _, _ => nofun
  | more + 1, e, size, offset, index, left, rest, u => by
    have ih := error_of_readBlocks more e blockSize
    unfold readBlocks
    dsimp only
    split
    · nofun
    · nofun
    · split
      · nofun
      · exact ih _ _ _ _

theorem Source.error_of_read (bytes : List UInt8) (u : Unusable) :
    (Source.read bytes).error ≠ some (.unusable u) := by
  unfold Source.read
  dsimp only
  split
  · exact error_of_readBlocks _ _ _ _ _ _ _
  · exact error_of_readBlocks _ _ _ _ _ _ _

def tokensOf (bytes : List UInt8) : Stream Token := Token.read (Source.read bytes)

def eventsOf (bytes : List UInt8) : Stream Event := Event.read (tokensOf bytes)

theorem unusable_of_tokensOf {bytes : List UInt8} {u : Unusable}
    (h : (tokensOf bytes).error = some (.unusable u)) : u.InToken := by
  cases Token.error_of_read h with
  | earlier h => exact absurd h (Source.error_of_read bytes u)
  | unusable h => exact h

/-- Events end with an unusable scalar only where the tokens do. -/
theorem unusable_of_eventsOf {bytes : List UInt8} {u : Unusable}
    (h : (eventsOf bytes).error = some (.unusable u)) :
    (tokensOf bytes).error = some (.unusable u) := by
  cases Event.error_of_read h with
  | earlier h => exact h
  | unusable h => exact h.elim

/-- The documents that end with an unusable scalar. Either the text of a token is one, and the
events before it make a graph as far as they go; or the events make a graph, and the text of one of
its nodes has no value under the tag of the node. -/
inductive Document.Unreadable (bytes : List UInt8) : Unusable → Prop
  | token {u : Unusable} (kind : u.InToken) (fit : Graph.Fit (eventsOf bytes).items)
    (tokens : (tokensOf bytes).error = some (.unusable u))
    (events : (eventsOf bytes).error = some (.unusable u)) : Unreadable bytes u
  | value {u : Unusable} {g : Graph} (kind : u.InValue g.nodes)
    (read : Graph.ofEvents (eventsOf bytes) = .ok (some g))
    (h : ofGraph g = .error (.unusable u)) : Unreadable bytes u

theorem Document.unusable_of_ofGraph {g : Graph} {u : Unusable}
    (h : ofGraph g = .error (.unusable u)) : u.InValue g.nodes := by
  cases error_of_ofGraph h with
  | earlier h => cases h
  | unusable h => exact h

theorem Document.read_unusable_iff {bytes : List UInt8} {u : Unusable} :
    Document.read bytes = .error (.unusable u) ↔ Unreadable bytes u := by
  constructor
  · intro h
    rcases bind_error h with h | ⟨g?, hg, h⟩
    · have hevents := Graph.ofEvents_unusable_iff.mp h
      have htokens := unusable_of_eventsOf hevents.2
      exact .token (unusable_of_tokensOf htokens) hevents.1 htokens hevents.2
    · cases g? with
      | none => cases h
      | some g => exact .value (unusable_of_ofGraph h) hg h
  · intro h
    unfold Document.read
    change Graph.ofEvents (eventsOf bytes) >>= _ = _
    cases h with
    | token kind fit tokens events =>
      rw [Graph.ofEvents_unusable_iff.mpr ⟨fit, events⟩]
      rfl
    | value kind read h =>
      rw [read]
      exact h

end ProfilerBootstrap.Yaml
