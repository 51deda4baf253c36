import ProfilerBootstrap.Proofs.Yaml.Upholds
import ProfilerBootstrap.Yaml.Token.Scalar

namespace ProfilerBootstrap.Yaml

/-- What is found unusable while tokens are read. -/
inductive Unusable.InToken : Unusable → Prop
  | charTooLarge : InToken .charTooLarge
  | charOverflow : InToken .charOverflow
  | tooManyDigits {n : Nat} (h : Scan.greatestDigits < n) : InToken (.tooManyDigits n)

attribute [grind ←] Unusable.InToken.charTooLarge Unusable.InToken.charOverflow
  Unusable.InToken.tooManyDigits

namespace Scan

def EndsWith (before : Option Error) (s : Cursor) : Prop := s.error = before

/-- A reader that leaves the error of the characters where it is, and fails with that or with one
of its own. -/
abbrev Forwards (before : Option Error) (act : Scan α) : Prop :=
  Upholds (EndsWith before) (Error.From before Unusable.InToken) act

variable {before : Option Error}

@[grind ←] theorem forwards_mark : Forwards before mark := .bind .get fun _ => .pure _

@[grind ←] theorem forwards_atEnd (a : α) : Forwards before (atEnd a) := by
  rintro ⟨rest, m, error, limit⟩ (hs : error = before)
  cases error with
  | some e => exact .earlier hs.symm
  | none => exact ⟨trivial, hs⟩

@[grind ←] theorem forwards_peekAt (n : Nat) : Forwards before (peekAt n) := by
  unfold peekAt
  grind

@[grind ←] theorem forwards_peek : Forwards before peek := forwards_peekAt 0

@[grind ←] theorem forwards_fail (c : Option Context) (m : Option Mark) (p : TokenProblem) :
    Forwards before (fail c m p : Scan α) :=
  forwards_mark.bind fun _ => .throw (.marked ..)

theorem forwards_modify {f : Cursor → Cursor} (h : ∀ s, (f s).error = s.error) :
    Forwards before (modify f : Scan PUnit) :=
  .modify fun s hs => (h s).trans hs

@[grind ←] theorem forwards_skip : Forwards before skip := by
  unfold skip
  refine .bind .get fun s => ?_
  split
  · exact forwards_atEnd ()
  · split
    · exact .bind (.pure _) fun next => forwards_modify fun _ => rfl
    · exact .bind (forwards_atEnd _) fun next => forwards_modify fun _ => rfl

@[grind ←] theorem forwards_skipMany : ∀ n, Forwards before (skipMany n)
  | 0 => .pure _
  | n + 1 => forwards_skip.bind fun _ => forwards_skipMany n

@[grind ←] theorem forwards_run2 (p : Char → Char → Bool) : Forwards before (run2 p) := by
  unfold run2
  refine Gives.bind (Gives.get fun s (hs : s.error = before) => hs) fun s hs => ?_
  have hset (rest m) : Forwards before (set { s with rest := rest, mark := m } : Scan PUnit) :=
    .set hs
  show Forwards before _
  grind

@[grind ←] theorem forwards_run (p : Char → Bool) : Forwards before (run p) := forwards_run2 _

theorem forwards_roundsFrom {step : σ → Scan (Bool × σ)} (h : ∀ s, Forwards before (step s)) :
    ∀ n s, Forwards before (roundsFrom step n s)
  | 0, _ => .pure _
  | n + 1, s => by
    refine (h s).bind fun r => ?_
    have ih := forwards_roundsFrom h n r.2
    dsimp only
    split
    · exact ih
    · exact .pure _

@[grind ←] theorem forwards_rounds {step : σ → Scan (Bool × σ)}
    (h : ∀ s, Forwards before (step s)) (s : σ) : Forwards before (rounds step s) :=
  .bind .get fun c => forwards_roundsFrom h c.limit s

@[grind ←] theorem forwards_spaces : Forwards before spaces := forwards_run _

@[grind ←] theorem forwards_spacesUpTo : ∀ n, Forwards before (spacesUpTo n)
  | 0 => .pure _
  | n + 1 => by
    have ih := forwards_spacesUpTo n
    unfold spacesUpTo
    grind

@[grind ←] theorem forwards_comment : Forwards before comment := by
  unfold comment
  grind

@[grind ←] theorem forwards_lineBreak : Forwards before lineBreak := by
  unfold lineBreak
  grind

@[grind ←] theorem forwards_separator : Forwards before separator := by
  unfold separator
  grind

@[grind ←] theorem forwards_hexAhead (c : Context) (m : Mark) (w : Wanted) (n : Nat) :
    Forwards before (hexAhead c m w n) := by
  unfold hexAhead
  grind

@[grind ←] theorem forwards_uriEscapes (c : Context) (m : Mark) :
    Forwards before (uriEscapes c m) := by
  unfold uriEscapes
  refine forwards_mark.bind fun _ => (forwards_rounds (fun bytes => ?_) _).bind fun bytes => ?_
  · grind
  · split <;> grind

@[grind ←] theorem forwards_tagUri (p : TagPlace) : Forwards before (tagUri p) := by
  unfold tagUri
  grind

@[grind ←] theorem forwards_tagHandle (p : TagPlace) : Forwards before (tagHandle p) := by
  unfold tagHandle
  refine forwards_peek.bind fun c =>
    .guarded forwards_peek (fun _ => forwards_fail _ _ _) fun _ => ?_
  grind

@[grind ←] theorem forwards_versionNumber (m : Mark) : Forwards before (versionNumber m) := by
  unfold versionNumber
  grind

@[grind ←] theorem forwards_restOfLine (c : Context) (m : Mark) :
    Forwards before (restOfLine c m) := by
  unfold restOfLine
  grind

@[grind ←] theorem forwards_directive : Forwards before directive := by
  unfold directive
  refine forwards_mark.bind fun start => forwards_skip.bind fun _ => ?_
  have hend (kind : TokenKind) : Forwards before (do
      let stop ← mark
      if kind = .directive then discard <| run (!endsLine ·)
      restOfLine .directive start
      return (⟨kind, start, stop⟩ : Token)) := by
    grind
  refine (forwards_run _).bind fun name => forwards_peek.bind fun c =>
    .guarded forwards_peek (fun _ => forwards_fail _ _ _) fun _ => ?_
  dsimp only
  split
  · refine forwards_spaces.discard.bind fun _ => (forwards_versionNumber _).bind fun major => ?_
    refine forwards_peek.bind fun c =>
      .guarded forwards_peek (fun _ => forwards_fail _ _ _) fun _ => ?_
    refine forwards_skip.bind fun _ => (forwards_versionNumber _).discard.bind fun _ => ?_
    refine forwards_peek.bind fun c =>
      .guarded forwards_peek (fun _ => forwards_fail _ _ _) fun _ => ?_
    exact .bind (.pure _) hend
  · split
    · refine forwards_spaces.discard.bind fun _ => (forwards_tagHandle _).bind fun handle => ?_
      refine forwards_peek.bind fun c =>
        .guarded forwards_peek (fun _ => forwards_fail _ _ _) fun _ => ?_
      refine forwards_spaces.discard.bind fun _ => (forwards_tagUri _).bind fun text => ?_
      refine forwards_peek.bind fun c =>
        .guarded forwards_peek (fun _ => forwards_fail _ _ _) fun _ => ?_
      exact .bind (.pure _) hend
    · exact .bind (.pure _) hend

@[grind ←] theorem forwards_anchor : Forwards before anchor := by
  unfold anchor
  refine forwards_mark.bind fun start => forwards_peek.bind fun c => forwards_skip.bind fun _ => ?_
  refine (forwards_run _).bind fun name => forwards_peek.bind fun next => ?_
  dsimp only
  split
  · exact (forwards_fail _ _ _).bind fun _ => forwards_mark.bind fun _ => .pure _
  · exact forwards_mark.bind fun _ => .pure _

@[grind ←] theorem forwards_hasHandle : Forwards before hasHandle := by
  unfold hasHandle
  grind

@[grind ←] theorem forwards_tag : Forwards before tag := by
  unfold tag
  refine forwards_mark.bind fun start => (forwards_peekAt 1).bind fun next => ?_
  have hend (kind : TokenKind) : Forwards before (do
      if !endsWord (← peek) then fail Context.tag start (.unexpected .space (← peek))
      return (⟨kind, start, ← mark⟩ : Token)) := by
    grind
  dsimp only
  split
  · refine (forwards_skipMany 2).bind fun _ => (forwards_tagUri _).bind fun uri => ?_
    refine forwards_peek.bind fun c =>
      .guarded forwards_peek (fun _ => forwards_fail _ _ _) fun _ => ?_
    exact forwards_skip.bind fun _ => hend _
  · split
    · exact forwards_skip.bind fun _ => hend _
    · refine forwards_hasHandle.bind fun b => ?_
      split
      · exact (forwards_tagHandle _).bind fun _ => (forwards_tagUri _).bind fun _ => hend _
      · exact forwards_skip.bind fun _ => (forwards_tagUri _).bind fun _ => hend _

@[grind ←] theorem forwards_quotedBreaks (m : Mark) : Forwards before (Quoted.breaks m) := by
  unfold Quoted.breaks
  grind

@[grind ←] theorem forwards_escape (m : Mark) : Forwards before (Quoted.escape m) := by
  unfold Quoted.escape
  refine forwards_skip.bind fun _ => forwards_peek.bind fun c => ?_
  split
  · grind
  · split <;> grind

@[grind ←] theorem forwards_words (double : Bool) (m : Mark) (pieces : List (List Nat)) :
    Forwards before (Quoted.words double m pieces) := by
  unfold Quoted.words
  grind

@[grind ←] theorem forwards_quotedGap (m : Mark) : Forwards before (Quoted.gap m) := by
  unfold Quoted.gap
  grind

@[grind ←] theorem forwards_quoted : Forwards before quoted := by
  unfold quoted
  refine forwards_mark.bind fun start => forwards_peek.bind fun q => forwards_skip.bind fun _ => ?_
  refine (forwards_words _ _ _).bind fun pieces =>
    (forwards_rounds (fun pieces => ?_) _).bind fun r => ?_
  · grind
  · exact forwards_skip.bind fun _ => forwards_mark.bind fun _ => .pure _

@[grind ←] theorem forwards_plainBreaks : Forwards before Plain.breaks := by
  unfold Plain.breaks
  grind

@[grind ←] theorem forwards_plainGap : Forwards before Plain.gap := by
  unfold Plain.gap
  grind

@[grind ←] theorem forwards_plain (flow : Bool) (margin : Nat) :
    Forwards before (plain flow margin) := by
  unfold plain
  refine forwards_mark.bind fun start => (forwards_rounds (fun part => ?_) _).bind fun r => .pure _
  refine forwards_peek.bind fun c => ?_
  split
  · exact .pure _
  · grind

@[grind ←] theorem forwards_indentation (m : Mark) : Forwards before (Block.indentation m) := by
  unfold Block.indentation
  grind

@[grind ←] theorem forwards_chomping : Forwards before Block.chomping := by
  unfold Block.chomping
  grind

@[grind ←] theorem forwards_indicators (m : Mark) : Forwards before (Block.indicators m) := by
  unfold Block.indicators
  grind

@[grind ←] theorem forwards_leadingLines : Forwards before Block.leadingLines := by
  unfold Block.leadingLines
  grind

@[grind ←] theorem forwards_emptyLines (n : Nat) : Forwards before (Block.emptyLines n) := by
  unfold Block.emptyLines
  grind

@[grind ←] theorem forwards_hasLine (n : Nat) : Forwards before (Block.hasLine n) := by
  unfold Block.hasLine
  grind

@[grind ←] theorem forwards_block (folded : Bool) (margin : Nat) :
    Forwards before (block folded margin) := by
  unfold block
  refine forwards_mark.bind fun start => forwards_skip.bind fun _ => ?_
  refine (forwards_indicators _).bind fun i => (forwards_restOfLine _ _).bind fun _ => ?_
  dsimp only
  split
  · refine (forwards_emptyLines _).bind fun _ => Upholds.bind (.pure _) fun found => ?_
    refine (forwards_rounds (fun part => ?_) _).bind fun r => forwards_mark.bind fun _ => .pure _
    grind
  · refine forwards_leadingLines.bind fun _ => Upholds.bind (.pure _) fun found => ?_
    refine (forwards_rounds (fun part => ?_) _).bind fun r => forwards_mark.bind fun _ => .pure _
    grind

end Scan

end ProfilerBootstrap.Yaml
