import ProfilerBootstrap.Proofs.Yaml.Upholds
import ProfilerBootstrap.Yaml.Event.Grammar

namespace ProfilerBootstrap.Yaml

namespace Parse

def EndsWith (before : Option Error) (s : Remaining) : Prop := s.error = before

/-- An action of the parser that leaves the error of the tokens where it is, and fails with that or
with a marked one. -/
abbrev Forwards (before : Option Error) (act : Parse α) : Prop :=
  Upholds (EndsWith before) (Error.From before Unusable.Never) act

variable {before : Option Error}

@[grind ←] theorem forwards_peek : Forwards before peek := by
  rintro ⟨tokens, error, handles⟩ (hs : error = before)
  cases tokens with
  | cons t ts => exact ⟨trivial, hs⟩
  | nil =>
    cases error with
    | some e => exact .earlier hs.symm
    | none => exact ⟨trivial, hs⟩

theorem forwards_modify {f : Remaining → Remaining} (h : ∀ s, (f s).error = s.error) :
    Forwards before (modify f : Parse PUnit) :=
  .modify fun s hs => (h s).trans hs

@[grind ←] theorem forwards_next : Forwards before next := by
  refine forwards_peek.bind fun t => (forwards_modify ?_).bind fun _ => .pure t
  intro s
  rfl

@[grind ←] theorem forwards_sees (kinds : List TokenKind) : Forwards before (sees kinds) :=
  forwards_peek.bind fun _ => .pure _

@[grind ←] theorem forwards_refuse (c : Option Context) (m : Option Mark)
    (p : String → GrammarProblem) : Forwards before (refuse c m p : Parse α) :=
  forwards_peek.bind fun _ => .throw (.marked ..)

theorem forwards_directives : ∀ (n : Nat) (versioned : Bool) (handles : List (String × String)),
    Forwards before (directives n versioned handles)
  | 0, _, _ => .pure _
  | n + 1, versioned, handles => by
    have ih := forwards_directives n
    have hset : Forwards before
        (modify fun s => { s with handles := handles ++ standardHandles } : Parse PUnit) :=
      forwards_modify fun _ => rfl
    unfold directives
    refine forwards_peek.bind fun t => ?_
    dsimp only
    split <;> grind

@[grind ←] theorem forwards_properties : Forwards before properties := by
  unfold properties
  refine forwards_peek.bind fun t => ?_
  split
  · refine forwards_next.discard.bind fun _ => forwards_peek.bind fun u => ?_
    split <;> grind
  · refine forwards_next.discard.bind fun _ => forwards_peek.bind fun u => ?_
    split <;> grind
  · exact .pure _

@[grind ←] theorem forwards_resolveHandle (p : Properties) : Forwards before (resolveHandle p) := by
  unfold resolveHandle
  grind

@[grind ←] theorem forwards_event (kind : EventKind) (m : Mark) (goals : List Goal) :
    Forwards before (event kind m goals) :=
  .pure _

@[grind ←] theorem forwards_emptyNode (m : Mark) (goals : List Goal) :
    Forwards before (emptyNode m goals) :=
  .pure _

@[grind ←] theorem forwards_node (block unindented : Bool) :
    Forwards before (node block unindented) := by
  unfold node
  refine forwards_peek.bind fun t => ?_
  split
  · exact forwards_next.discard.bind fun _ => .pure _
  · refine forwards_properties.bind fun p => (forwards_resolveHandle p).bind fun tag => ?_
    refine forwards_peek.bind fun t => ?_
    split
    · exact .pure _
    · dsimp only
      split <;> grind

@[grind ←] theorem forwards_nodeThen (block unindented : Bool) (after : List Goal) :
    Forwards before (nodeThen block unindented after) :=
  (forwards_node block unindented).bind fun _ => .pure _

@[grind ←] theorem forwards_nodeUnless (absent : List TokenKind) (t : Token)
    (block unindented : Bool) (after : List Goal) :
    Forwards before (nodeUnless absent t block unindented after) := by
  unfold nodeUnless
  grind

@[grind ←] theorem forwards_comma (first : Bool) (c : Context) (m : Mark)
    (p : String → GrammarProblem) : Forwards before (comma first c m p) := by
  unfold comma
  grind

theorem forwards_documentStart (first : Bool) : Forwards before (documentStart first) := by
  have hset : Forwards before
      (modify ({ · with handles := standardHandles }) : Parse PUnit) :=
    forwards_modify fun _ => rfl
  have hdrop : Forwards before
      (modify fun s => { s with tokens := s.tokens.dropWhile (·.kind = .documentEnd) } :
        Parse PUnit) :=
    forwards_modify fun _ => rfl
  have hdirectives : ∀ n, Forwards before (directives n false []) := fun n =>
    forwards_directives n false []
  unfold documentStart
  refine forwards_peek.bind fun t => ?_
  split
  · exact hset.bind fun _ => .pure _
  · refine hdrop.bind fun _ => forwards_peek.bind fun t => ?_
    split
    · exact forwards_next.discard.bind fun _ => .pure _
    · refine .bind .get fun s => (hdirectives _).bind fun _ => ?_
      grind

theorem forwards_step (g : Goal) : Forwards before (step g) := by
  cases g with
  | stream => exact forwards_next.bind fun _ => .pure _
  | document first => exact forwards_documentStart first
  | documentContent => simp only [step, documentContent]; grind
  | documentEnd => simp only [step, documentEnd]; grind
  | node block unindented => exact forwards_node block unindented
  | blockItem start => simp only [step, blockItem]; grind
  | unindentedItem => simp only [step, unindentedItem]; grind
  | blockKey start => simp only [step, blockKey]; grind
  | blockValue => simp only [step, blockValue]; grind
  | flowItem start first => simp only [step, flowItem]; grind
  | pairKey => exact forwards_next.bind fun t => forwards_nodeUnless _ t _ _ _
  | pairValue => simp only [step, pairValue]; grind
  | pairEnd => exact forwards_peek.bind fun _ => .pure _
  | flowKey start first => simp only [step, flowKey]; grind
  | flowValue => simp only [step, flowValue]; grind
  | noValue => exact forwards_peek.bind fun _ => .pure _

theorem error_of_readFrom : ∀ (n : Nat) (done : List Event) (goals : List Goal) (s : Remaining)
    {e : Error}, (readFrom n done goals s).error = some e → Error.From s.error Unusable.Never e
  | 0, _, [], _, _, h | 0, _, _ :: _, _, _, h | _ + 1, _, [], _, _, h => by simp [readFrom] at h
  | n + 1, done, g :: goals, s, e, h => by
    have hstep : Forwards s.error (step g) := forwards_step g
    simp only [readFrom] at h
    cases hr : (step g).run s with
    | error e' =>
      rw [hr] at h
      cases h
      exact hstep.error rfl hr
    | ok r =>
      rw [hr] at h
      have hs : r.2.error = s.error := (hstep.ok rfl hr).2
      exact hs ▸ error_of_readFrom n _ _ r.2 h

end Parse

/-- What stops the events is what stops the tokens, or a place where they do not fit together. -/
theorem Event.error_of_read {s : Stream Token} {e : Error} (h : (Event.read s).error = some e) :
    Error.From s.error Unusable.Never e :=
  Parse.error_of_readFrom _ _ _ _ h

end ProfilerBootstrap.Yaml
