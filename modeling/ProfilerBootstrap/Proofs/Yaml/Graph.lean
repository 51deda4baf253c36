import ProfilerBootstrap.Proofs.Sequence
import ProfilerBootstrap.Proofs.Yaml.Upholds
import ProfilerBootstrap.Yaml.Node

namespace ProfilerBootstrap.Yaml.Graph

theorem error_of_checkAnchor {b : Builder} {e : Event} {f : Error}
    (h : b.checkAnchor e = .error f) : Error.From none Unusable.Never f := by
  unfold Builder.checkAnchor at h
  split at h
  · cases h
  · split at h
    · cases h
    · cases h
      exact .marked ..

theorem error_of_addEvent {b : Builder} {e : Event} {f : Error} (h : b.addEvent e = .error f) :
    Error.From none Unusable.Never f := by
  unfold Builder.addEvent at h
  cases hk : e.kind with
  | streamStart | streamEnd | documentEnd | sequenceEnd | mappingEnd =>
    rw [hk] at h
    cases h
  | documentStart =>
    rw [hk] at h
    dsimp only at h
    split at h
    · cases h
    · cases h
      exact .marked ..
  | «alias» name =>
    rw [hk] at h
    dsimp only at h
    split at h
    · cases h
    · cases h
      exact .marked ..
  | scalar text plain | sequenceStart | mappingStart =>
    rw [hk] at h
    rcases bind_error h with h | ⟨_, -, h⟩
    · exact error_of_checkAnchor h
    · cases h

theorem error_of_foldlM : ∀ (events : List Event) (b : Builder) {f : Error},
    events.foldlM Builder.addEvent b = .error f → Error.From none Unusable.Never f
  | [], _, _, h => by cases h
  | e :: events, b, f, h => by
    rw [List.foldlM_cons] at h
    rcases bind_error h with h | ⟨b', -, h⟩
    · exact error_of_addEvent h
    · exact error_of_foldlM events b' h

def Fit (events : List Event) : Prop :=
  ∃ b, events.foldlM Builder.addEvent ⟨#[], [], [], none⟩ = .ok b

theorem ofEvents_unusable_iff {s : Stream Event} {u : Unusable} :
    ofEvents s = .error (.unusable u) ↔ Fit s.items ∧ s.error = some (.unusable u) := by
  unfold ofEvents Fit
  generalize hb : s.items.foldlM Builder.addEvent ⟨#[], [], [], none⟩ = r
  cases r with
  | error f =>
    have hf := error_of_foldlM _ _ hb
    constructor
    · intro h
      cases h
      -- an event that does not fit is marked, and never unusable
      exact absurd hf nofun
    · intro h
      obtain ⟨⟨b, h⟩, -⟩ := h
      cases h
  | ok b =>
    simp only [bind, Except.bind]
    constructor
    · intro h
      refine ⟨⟨b, rfl⟩, ?_⟩
      split at h
      · next e he =>
        cases h
        exact he
      · cases h
      · cases h
    · intro h
      rw [h.2]
      rfl

end ProfilerBootstrap.Yaml.Graph
