import ProfilerBootstrap.Proofs.Yaml.Scan
import ProfilerBootstrap.Yaml.Token.Layout

namespace ProfilerBootstrap.Yaml

namespace LayoutM

def Forwards (before : Option Error) (act : LayoutM α) : Prop :=
  ∀ l, Scan.Forwards before (act.run l)

variable {before : Option Error}

namespace Forwards

@[grind ←] theorem pure (a : α) : Forwards before (pure a) := fun _ => .pure _

@[grind ←] theorem bind {x : LayoutM α} {f : α → LayoutM β} (hx : Forwards before x)
    (hf : ∀ a, Forwards before (f a)) : Forwards before (x >>= f) :=
  fun l => (hx l).bind fun r => hf r.1 r.2

@[grind ←] theorem get : Forwards before (get : LayoutM Layout) := fun _ => .pure _

@[grind ←] theorem set (l : Layout) : Forwards before (set l : LayoutM PUnit) := fun _ => .pure _

@[grind ←] theorem modify (f : Layout → Layout) : Forwards before (modify f : LayoutM PUnit) :=
  fun _ => .pure _

@[grind ←] theorem lift {x : Scan α} (h : Scan.Forwards before x) :
    Forwards before (liftM x : LayoutM α) :=
  fun l => show Scan.Forwards before (x >>= fun a => Pure.pure (a, l)) from h.bind fun _ => .pure _

theorem ite {c : Prop} [Decidable c] {x y : LayoutM α} (hx : Forwards before x)
    (hy : Forwards before y) : Forwards before (if c then x else y) := by
  split
  · exact hx
  · exact hy

theorem forIn {f : α → PUnit → LayoutM (ForInStep PUnit)} (h : ∀ a, Forwards before (f a ⟨⟩)) :
    ∀ xs : List α, Forwards before (forIn xs ⟨⟩ f)
  | [] => pure _
  | a :: xs => by
    rw [List.forIn_cons]
    refine (h a).bind fun r => ?_
    cases r with
    | done b => exact pure _
    | yield b => exact forIn h xs

end Forwards

@[grind ←] theorem forwards_inBrackets : Forwards before inBrackets := by
  unfold inBrackets
  grind

@[grind ←] theorem forwards_push (t : Token) : Forwards before (push t) := .modify _

@[grind ←] theorem forwards_allowKey (allowed : Bool) : Forwards before (allowKey allowed) :=
  .modify _

@[grind ←] theorem forwards_giveUp (k : Option PendingKey) : Forwards before (giveUp k) := by
  unfold giveUp
  grind

@[grind ←] theorem forwards_dropStale : Forwards before dropStale := by
  unfold dropStale
  refine .bind .get fun l => .bind (.lift Scan.forwards_mark) fun m => ?_
  refine (Forwards.forIn (fun k => ?_) _).bind fun _ => .set _
  grind

@[grind ←] theorem forwards_dropKey : Forwards before dropKey := by
  unfold dropKey
  grind

@[grind ←] theorem forwards_offerKey : Forwards before offerKey := by
  unfold offerKey
  grind

@[grind ←] theorem forwards_openBlock (column : Nat) : Forwards before (openBlock column) := by
  unfold openBlock
  grind

@[grind ←] theorem forwards_closeAll : Forwards before closeAll := by
  unfold closeAll
  grind

@[grind ←] theorem forwards_mark (kind : TokenKind) (width : Nat) :
    Forwards before (mark kind width) := by
  unfold mark
  grind

@[grind ←] theorem forwards_nextToken : Forwards before nextToken := by
  unfold nextToken
  have hblanks : Scan.Forwards before (Scan.rounds (fun ended => do
      discard Scan.spaces
      Scan.comment
      let b ← Scan.lineBreak
      return (!b.isEmpty, ended || !b.isEmpty)) false) := by
    grind
  refine .bind (.lift Scan.forwards_mark) fun m => ?_
  grind

@[grind ←] theorem forwards_streamEnd : Forwards before streamEnd := by
  unfold streamEnd
  grind

@[grind ←] theorem forwards_directive : Forwards before directive := by
  unfold directive
  grind

@[grind ←] theorem forwards_documentMark (kind : TokenKind) :
    Forwards before (documentMark kind) := by
  unfold documentMark
  grind

@[grind ←] theorem forwards_openBracket (kind : TokenKind) :
    Forwards before (openBracket kind) := by
  unfold openBracket
  grind

@[grind ←] theorem forwards_closeBracket (kind : TokenKind) :
    Forwards before (closeBracket kind) := by
  unfold closeBracket
  grind

@[grind ←] theorem forwards_flowEntry : Forwards before flowEntry := by
  unfold flowEntry
  grind

@[grind ←] theorem forwards_openAt (kind : TokenKind) (p : TokenProblem) :
    Forwards before (openAt kind p) := by
  unfold openAt
  grind

@[grind ←] theorem forwards_blockEntry : Forwards before blockEntry := by
  unfold blockEntry
  grind

@[grind ←] theorem forwards_key : Forwards before key := by
  unfold key
  grind

@[grind ←] theorem forwards_value : Forwards before value := by
  unfold value
  refine .bind .get fun m => ?_
  split
  · grind
  · grind

@[grind ←] theorem forwards_node {scan : Scan Token} (h : Scan.Forwards before scan) :
    Forwards before (node scan) := by
  unfold node
  grind

@[grind ←] theorem forwards_block (folded : Bool) : Forwards before (block folded) := by
  unfold block
  grind

@[grind ←] theorem forwards_plain : Forwards before plain := by
  unfold plain
  grind

@[grind ←] theorem forwards_standsAlone : Forwards before standsAlone := by
  unfold standsAlone
  grind

@[grind ←] theorem forwards_otherToken (c : Char) : Forwards before (otherToken c) := by
  unfold otherToken
  grind

theorem forwards_fetch : Forwards before fetch := by
  unfold fetch
  refine forwards_nextToken.bind fun _ => forwards_dropStale.bind fun _ => ?_
  refine .bind (.lift Scan.forwards_mark) fun m => .bind (.modify _) fun _ => ?_
  refine .bind (.lift Scan.forwards_peek) fun c => ?_
  split
  · grind
  · dsimp only
    apply Forwards.ite
    · refine .bind (.lift Scan.forwards_separator) fun separates => ?_
      repeat' apply Forwards.ite
      all_goals grind
    · refine .bind (.pure false) fun separates => ?_
      repeat' apply Forwards.ite
      all_goals grind

end LayoutM

theorem Layout.error_of_readFrom : ∀ (n : Nat) (l : Layout) (c : Cursor) {e : Error},
    (readFrom n l c).error = some e → Error.From c.error Unusable.InToken e
  | 0, _, _, _, h => by simp [readFrom] at h
  | n + 1, l, c, e, h => by
    have hfetch : Scan.Forwards c.error (LayoutM.fetch.run l) := LayoutM.forwards_fetch l
    simp only [readFrom] at h
    cases hr : StateT.run (LayoutM.fetch.run l) c with
    | error e' =>
      rw [hr] at h
      cases h
      exact hfetch.error rfl hr
    | ok r =>
      rw [hr] at h
      have hc : r.2.error = c.error := (hfetch.ok rfl hr).2
      obtain ⟨⟨last, l'⟩, c'⟩ := r
      cases last with
      | true => simp at h
      | false => exact hc ▸ error_of_readFrom n l' c' h

/-- What stops the tokens is what stops the characters, or something that a token adds to it. -/
theorem Token.error_of_read {s : Stream Char} {e : Error} (h : (Token.read s).error = some e) :
    Error.From s.error Unusable.InToken e :=
  Layout.error_of_readFrom _ _ _ h

end ProfilerBootstrap.Yaml
