import ProfilerBootstrap.Console.Markup

namespace ProfilerBootstrap.Console.Markup

theorem untilBracket?_append {body : List Char} (h : ∀ c ∈ body, c ≠ '[' ∧ c ≠ ']')
    (rest : List Char) : untilBracket? (body ++ ']' :: rest) = some (body, rest) := by
  induction body with
  | nil => simp [untilBracket?]
  | cons c body ih =>
    obtain ⟨hc, hbody⟩ := List.forall_mem_cons.1 h
    simp [untilBracket?, hc, ih hbody]

theorem no_bracket_of_untilBracket? {cs body rest : List Char}
    (h : untilBracket? cs = some (body, rest)) : ∀ c ∈ body, c ≠ '[' ∧ c ≠ ']' := by
  induction cs generalizing body rest with
  | nil => simp [untilBracket?] at h
  | cons c cs ih =>
    simp only [untilBracket?] at h
    split at h
    · obtain ⟨rfl, -⟩ : [] = body ∧ cs = rest := by simpa using h
      simp
    · split at h
      · simp at h
      · obtain ⟨⟨b, r⟩, hr, he⟩ := Option.map_eq_some_iff.1 h
        obtain ⟨rfl, rfl⟩ : c :: b = body ∧ r = rest := by simpa using he
        exact List.forall_mem_cons.2 ⟨⟨‹_›, ‹_›⟩, ih hr⟩

/-- Whether a bracket opens a tag depends on the text up to the end of the tag only. -/
theorem body?_append {cs body rest : List Char} (h : body? cs = some (body, rest))
    (after : List Char) : body? (body ++ ']' :: after) = some (body, after) := by
  cases cs with
  | nil => simp [body?] at h
  | cons c cs =>
    simp only [body?] at h
    split at h
    · rename_i hopens
      obtain ⟨⟨b, r⟩, hr, he⟩ := Option.map_eq_some_iff.1 h
      obtain ⟨rfl, rfl⟩ : c :: b = body ∧ r = rest := by simpa using he
      simp [body?, hopens, untilBracket?_append (no_bracket_of_untilBracket? hr)]
    · simp at h

theorem untilBracket?_append_slash (cs : List Char) : untilBracket? (cs ++ ['\\']) =
    (untilBracket? cs).map fun r => (r.1, r.2 ++ ['\\']) := by
  induction cs with
  | nil => rfl
  | cons c cs ih =>
    simp only [List.cons_append, untilBracket?, ih]
    split
    · rfl
    · split
      · rfl
      · cases untilBracket? cs <;> rfl

theorem body?_append_slash (cs : List Char) : body? (cs ++ ['\\']) =
    (body? cs).map fun r => (r.1, r.2 ++ ['\\']) := by
  cases cs with
  | nil => rfl
  | cons c cs =>
    simp only [List.cons_append, body?, untilBracket?_append_slash]
    split
    · cases untilBracket? cs <;> rfl
    · rfl

namespace Token

theorem scan_slash (n : Nat) (cs : List Char) : scan n ('\\' :: cs) = scan (n + 1) cs := by
  rw [scan]
  simp

theorem scan_slashes (n m : Nat) (cs : List Char) :
    scan n (slashesOf m ++ cs) = scan (n + m) cs := by
  induction m generalizing n with
  | zero => simp [slashesOf]
  | succ m ih =>
    rw [slashesOf, List.replicate_succ, List.cons_append, scan_slash, ← slashesOf, ih]
    congr 1
    omega

theorem scan_tag {cs body rest : List Char} (h : body? cs = some (body, rest)) (n : Nat) :
    scan n ('[' :: cs) = tag n body :: scan 0 rest := by
  rw [scan]
  simp only [Char.reduceEq, if_false, if_true]
  split
  · rename_i body' rest' h'
    obtain ⟨rfl, rfl⟩ : body = body' ∧ rest = rest' := by simpa [h] using h'
    rfl
  · simp_all

theorem scan_bracket {cs : List Char} (h : body? cs = none) (n : Nat) :
    scan n ('[' :: cs) = (slashesOf n).map char ++ char '[' :: scan 0 cs := by
  rw [scan]
  simp only [Char.reduceEq, if_false, if_true]
  split
  · simp_all
  · rfl

theorem scan_char {c : Char} (hslash : c ≠ '\\') (hbracket : c ≠ '[') (n : Nat) (cs : List Char) :
    scan n (c :: cs) = (slashesOf n).map char ++ char c :: scan 0 cs := by
  rw [scan]
  simp [hslash, hbracket]

def escapeAll (ts : List Token) : List Char := writeAll (ts.map escape)

theorem escapeAll_append (ts us : List Token) :
    escapeAll (ts ++ us) = escapeAll ts ++ escapeAll us := by
  simp [escapeAll, writeAll_append]

theorem escapeAll_chars (cs : List Char) : escapeAll (cs.map char) = cs := by
  have hescape : escape ∘ char = char := rfl
  rw [escapeAll, List.map_map, hescape, writeAll_chars]

theorem escapeAll_char (c : Char) (ts : List Token) :
    escapeAll (char c :: ts) = c :: escapeAll ts := rfl

theorem escapeAll_tag (n : Nat) (body : List Char) (ts : List Token) :
    escapeAll (tag n body :: ts) =
      slashesOf (2 * n + 1) ++ '[' :: (body ++ ']' :: escapeAll ts) := by
  simp [escapeAll, writeAll, escape, write, bracketed]

theorem escapeAll_scan (n : Nat) (cs : List Char) :
    ∃ rest, escapeAll (scan n cs) = slashesOf n ++ rest := by
  fun_induction scan n cs with
  | case1 n => exact ⟨[], by rw [escapeAll_chars, List.append_nil]⟩
  | case2 n rest ih =>
    obtain ⟨w, hw⟩ := ih
    exact ⟨'\\' :: w, by rw [hw, slashesOf_succ]⟩
  | case3 n rest body after =>
    refine ⟨slashesOf (n + 1) ++ '[' :: (body ++ ']' :: escapeAll (scan 0 after)), ?_⟩
    rw [escapeAll_tag, ← List.append_assoc, slashesOf, slashesOf, slashesOf,
    List.replicate_append_replicate]
    congr 2
    omega
  | case4 n rest => exact ⟨_, by rw [escapeAll_append, escapeAll_chars]⟩
  | case5 n c rest => exact ⟨_, by rw [escapeAll_append, escapeAll_chars]⟩

def closes (cs : List Char) : Bool := (untilBracket? cs).isSome

theorem closes_cons (c : Char) (cs : List Char) :
    closes (c :: cs) = (c = ']' || (c ≠ '[' && closes cs)) := by
  unfold closes
  rw [untilBracket?]
  by_cases hclose : c = ']'
  · simp [hclose]
  · by_cases hopen : c = '[' <;> simp [hclose, hopen]

theorem closes_slashes (n : Nat) (cs : List Char) : closes (slashesOf n ++ cs) = closes cs := by
  induction n with
  | zero => rfl
  | succ n ih =>
    rw [slashesOf, List.replicate_succ, List.cons_append, closes_cons, ← slashesOf, ih]
    simp

theorem closes_escapeAll (n : Nat) (cs : List Char) : closes (escapeAll (scan n cs)) = closes cs := by
  fun_induction scan n cs with
  | case1 n => rw [escapeAll_chars, ← List.append_nil (slashesOf n), closes_slashes]
  | case2 n rest ih => simp [ih, closes_cons]
  | case3 n rest body after => simp [escapeAll_tag, closes_slashes, closes_cons]
  | case4 n rest =>
    simp [escapeAll_append, escapeAll_chars, escapeAll_char, closes_slashes, closes_cons]
  | case5 n c rest hslash hbracket ih =>
    simp [escapeAll_append, escapeAll_chars, escapeAll_char, closes_slashes, closes_cons, ih]

/-- Escaping opens no tag where there is none. -/
theorem body?_escapeAll {cs : List Char} (h : body? cs = none) :
    body? (escapeAll (scan 0 cs)) = none := by
  have hbody (c : Char) (cs : List Char) :
      body? (c :: cs) = none ↔ opensTag c = true → closes cs = false := by
    unfold body? closes
    by_cases hopens : opensTag c = true <;> simp [hopens]
  cases cs with
  | nil => simpa [scan, escapeAll, writeAll, slashesOf] using h
  | cons c cs =>
    rw [hbody] at h
    by_cases hslash : c = '\\'
    · subst hslash
      obtain ⟨rest, hrest⟩ := escapeAll_scan 1 cs
      rw [scan_slash, hrest, slashesOf, List.replicate_one, List.singleton_append, hbody]
      simp [opensTag]
    · by_cases hbracket : c = '['
      · subst hbracket
        cases htag : body? cs with
        | none =>
          rw [scan_bracket htag, escapeAll_append, escapeAll_chars, escapeAll_char]
          simp [slashesOf, hbody, opensTag]
        | some r =>
          rw [scan_tag htag, escapeAll_tag]
          simp [slashesOf, hbody, opensTag]
      · rw [scan_char hslash hbracket, escapeAll_append, escapeAll_chars, escapeAll_char]
        simpa [slashesOf, hbody, closes_escapeAll] using h

/-- An escaped text is made up of the escaped tokens. -/
theorem ofText_escapeAll (n : Nat) (cs : List Char) :
    ofText (escapeAll (scan n cs)) = (scan n cs).map escape := by
  have hchars (n : Nat) : ((slashesOf n).map char).map escape = (slashesOf n).map char := by
    rw [List.map_map]
    rfl
  unfold ofText
  fun_induction scan n cs with
  | case1 n =>
    rw [escapeAll_chars, hchars, ← List.append_nil (slashesOf n), scan_slashes, scan]
    simp
  | case2 n rest ih => exact ih
  | case3 n rest body after found _ ih =>
    rw [escapeAll_tag, scan_slashes, scan_tag (body?_append found _), ih]
    simp [escape]
  | case4 n rest hnone _ ih =>
    rw [escapeAll_append, escapeAll_chars, escapeAll_char, scan_slashes,
      scan_bracket (body?_escapeAll hnone), ih]
    simp [escape, slashesOf]
  | case5 n c rest hslash hbracket ih =>
    rw [escapeAll_append, escapeAll_chars, escapeAll_char, scan_slashes,
      scan_char hslash hbracket, ih]
    simp [escape, slashesOf]

theorem scan_append_slash (n : Nat) (cs : List Char) :
    scan n (cs ++ ['\\']) = scan n cs ++ [char '\\'] := by
  fun_induction scan n cs with
  | case1 n =>
    rw [List.nil_append, scan_slash, scan, slashesOf, List.replicate_succ', List.map_append]
    rfl
  | case2 n rest ih => rw [List.cons_append, scan_slash, ih]
  | case3 n rest body after found _ ih =>
    have hfound : body? (rest ++ ['\\']) = some (body, after ++ ['\\']) := by
      rw [body?_append_slash, found]
      rfl
    rw [List.cons_append, scan_tag hfound, ih, List.cons_append]
  | case4 n rest hnone _ ih =>
    have hnone' : body? (rest ++ ['\\']) = none := by
      rw [body?_append_slash, hnone]
      rfl
    rw [List.cons_append, scan_bracket hnone', ih, List.append_assoc, List.cons_append]
  | case5 n c rest hslash hbracket ih =>
    rw [List.cons_append, scan_char hslash hbracket, ih, List.append_assoc, List.cons_append]

theorem scan_of_no_bracket {cs : List Char} (h : '[' ∉ cs) (n : Nat) :
    scan n cs = (slashesOf n ++ cs).map char := by
  induction cs generalizing n with
  | nil => rw [scan, List.append_nil]
  | cons c cs ih =>
    obtain ⟨hc, hcs⟩ : '[' ≠ c ∧ '[' ∉ cs := by simpa using h
    by_cases hslash : c = '\\'
    · rw [hslash, scan_slash, ih hcs, slashesOf_succ]
    · rw [scan_char hslash hc.symm, ih hcs]
      simp [slashesOf]

/-- Where a text is cut when none of its tags is obeyed: in front of a tag, and of the backslashes
before it, and after it. The text that is pending is in reverse order. -/
def stretches (pending : List Char) : List Token → List (List Char)
  | [] => [pending.reverse]
  | char c :: ts => stretches (c :: pending) ts
  | tag n body :: ts =>
    pending.reverse :: slashesOf n :: bracketed body :: stretches [] ts

theorem flatten_stretches (pending : List Char) (ts : List Token) :
    (stretches pending ts).flatten = pending.reverse ++ writeAll ts := by
  induction ts generalizing pending with
  | nil => simp [stretches, writeAll]
  | cons t ts ih => cases t <;> simp [stretches, ih, writeAll, write]

end Token

def shownText (cs : List Char) : List Char := Emoji.replace (Piece.plainBrackets cs)

theorem shownText_nil : shownText [] = [] := by
  simp [shownText, Piece.plainBrackets, Emoji.replace, Emoji.replaceAfter]

namespace Piece

theorem shown_ofPending (pending : List Char) :
    (ofPending pending).flatMap shown = shownText pending.reverse := by
  unfold ofPending
  split
  · simp_all [shownText_nil]
  · simp [shown, shownText]

theorem plainBrackets_of_no_bracket {cs : List Char} (h : '[' ∉ cs) : plainBrackets cs = cs := by
  fun_induction plainBrackets cs with
  | case1 rest ih => simp at h
  | case2 c rest _ ih => rw [ih fun hrest => h (List.mem_cons_of_mem _ hrest)]
  | case3 => rfl

end Piece

def Piece.isText : Piece → Bool
  | .text _ => true
  | .tag .. => false

theorem Progress.obeyAll_of_texts (events : EventReader) {ps : List Piece}
    (h : ∀ p ∈ ps, p.isText = true) (p : Progress) :
    ∃ n, p.obeyAll events ps = .ok { p with length := n } := by
  induction ps generalizing p with
  | nil => exact ⟨p.length, rfl⟩
  | cons q ps ih =>
    obtain ⟨hq, hps⟩ := List.forall_mem_cons.1 h
    cases q with
    | text cs =>
      exact ih hps { p with length := p.length + (visible (Piece.shown (.text cs))).length }
    | tag body n => exact nomatch hq

def pieces (cs : List Char) : List Piece := Piece.ofTokens [] 0 (Token.ofText cs)

/-- What keeps markup from being shown, if it is not all read. -/
def error? (events : EventReader) (cs : List Char) : Option Error :=
  match Progress.start.obeyAll events (pieces cs) with
  | .error e => some e
  | .ok _ => none

/-- The stretches of markup that cannot be drawn. -/
def broken (events : EventReader) (cs : List Char) : List (Nat × Nat) :=
  match Progress.start.obeyAll events (pieces cs) with
  | .error _ => []
  | .ok p => p.finish

def shown (cs : List Char) : List Char := visible ((pieces cs).flatMap Piece.shown)

namespace Piece

theorem isText_ofPending (pending : List Char) : ∀ p ∈ ofPending pending, p.isText = true := by
  unfold ofPending
  split <;> simp [isText]

theorem ofTokens_chars (pending : List Char) (position : Nat) (cs : List Char) :
    ofTokens pending position (cs.map .char) = ofPending (cs.reverse ++ pending) := by
  induction cs generalizing pending position with
  | nil => rfl
  | cons c cs ih => simp [ofTokens, ih]

theorem isText_ofTokens_escape (pending : List Char) (position : Nat) (ts : List Token) :
    ∀ p ∈ ofTokens pending position (ts.map Token.escape), p.isText = true := by
  induction ts generalizing pending position with
  | nil => exact isText_ofPending pending
  | cons t ts ih =>
    cases t with
    | char c => exact ih (c :: pending) (position + 1)
    | tag n body =>
      have hodd : (2 * n + 1) % 2 = 1 := by omega
      simp only [List.map_cons, Token.escape, ofTokens, hodd, if_true, List.forall_mem_append,
        List.forall_mem_singleton]
      exact ⟨⟨⟨isText_ofPending _, isText_ofPending _⟩, rfl⟩, ih _ _⟩

theorem shown_ofTokens_escape (pending : List Char) (position : Nat) (ts : List Token) :
    (ofTokens pending position (ts.map Token.escape)).flatMap shown =
      (Token.stretches pending ts).flatMap shownText := by
  induction ts generalizing pending position with
  | nil => simp [ofTokens, Token.stretches, shown_ofPending]
  | cons t ts ih =>
    cases t with
    | char c => exact ih (c :: pending) (position + 1)
    | tag n body =>
      have hodd : (2 * n + 1) % 2 = 1 := by omega
      have hhalf : (2 * n + 1) / 2 = n := by omega
      have hreverse : (Token.slashesOf n).reverse = Token.slashesOf n := List.reverse_replicate
      simp only [List.map_cons, Token.escape, ofTokens, hodd, hhalf, if_true, List.flatMap_append,
        shown_ofPending, hreverse, ih, Token.stretches, List.flatMap_cons, List.flatMap_nil,
        List.append_nil, List.append_assoc, shown, shownText]

end Piece

section
variable (events : EventReader) {cs : List Char}

theorem pieces_of_no_bracket (h : '[' ∉ cs) : pieces cs = Piece.ofPending cs.reverse := by
  rw [pieces, Token.ofText, Token.scan_of_no_bracket h, Piece.ofTokens_chars]
  simp [Token.slashesOf]

theorem error?_of_texts (h : ∀ p ∈ pieces cs, p.isText = true) : error? events cs = none := by
  obtain ⟨n, hobey⟩ := Progress.start.obeyAll_of_texts events h
  rw [error?, hobey]

theorem broken_of_texts (h : ∀ p ∈ pieces cs, p.isText = true) : broken events cs = [] := by
  obtain ⟨n, hobey⟩ := Progress.start.obeyAll_of_texts events h
  rw [broken, hobey]
  rfl

/-- Markup fails at the first tag that cannot be obeyed, or shows its texts. -/
theorem render_eq (cs : List Char) : render events cs =
    (error? events cs).elim (.ok ⟨shown cs, broken events cs⟩) .error := by
  unfold render
  split
  · have hpieces : Piece.ofTokens [] 0 (Token.ofText cs) = pieces cs := rfl
    simp only [hpieces, error?, broken]
    cases Progress.start.obeyAll events (pieces cs) <;> rfl
  · rename_i h
    have hbracket : '[' ∉ cs := by simpa using h
    have hpieces := pieces_of_no_bracket hbracket
    have htexts : ∀ p ∈ pieces cs, p.isText = true := hpieces ▸ Piece.isText_ofPending cs.reverse
    rw [error?_of_texts events htexts, broken_of_texts events htexts]
    simp only [shown, hpieces, Piece.shown_ofPending, List.reverse_reverse, shownText,
      Piece.plainBrackets_of_no_bracket hbracket]
    rfl

theorem render_of_texts (h : ∀ p ∈ pieces cs, p.isText = true) :
    render events cs = .ok (.plain (shown cs)) := by
  rw [render_eq, error?_of_texts events h, broken_of_texts events h]
  rfl

end

/-- A text with its last backslash doubled, if this stands alone. -/
def closed (cs : List Char) : List Char := if endsInSlash cs then cs ++ ['\\'] else cs

theorem endsInSlash_concat (cs : List Char) (c : Char) :
    endsInSlash (cs ++ [c]) = (c = '\\' && cs.getLast? ≠ some '\\') := by
  unfold endsInSlash
  rw [List.reverse_concat, List.getLast?_eq_head?_reverse]
  cases cs.reverse with
  | nil => by_cases hc : c = '\\' <;> simp [hc]
  | cons d ds => by_cases hc : c = '\\' <;> by_cases hd : d = '\\' <;> simp [hc, hd]

/-- The written tokens end alike, escaped or not. -/
theorem exists_of_concat (us : List Token) (t : Token) :
    (∃ c, Token.writeAll (us ++ [t]) = Token.writeAll us ++ [c] ∧
      Token.escapeAll (us ++ [t]) = Token.escapeAll us ++ [c]) ∨
    ∃ cs ds, Token.writeAll (us ++ [t]) = cs ++ [']'] ∧ Token.escapeAll (us ++ [t]) = ds ++ [']'] := by
  rw [Token.writeAll_append, Token.escapeAll_append]
  cases t with
  | char c => exact .inl ⟨c, rfl, rfl⟩
  | tag n body =>
    refine .inr ⟨Token.writeAll us ++ Token.slashesOf n ++ '[' :: body,
      Token.escapeAll us ++ Token.slashesOf (2 * n + 1) ++ '[' :: body, ?_, ?_⟩
    · simp [Token.writeAll, Token.write, Token.bracketed]
    · simp [Token.escapeAll, Token.writeAll, Token.escape, Token.write, Token.bracketed]

theorem getLast?_escapeAll (ts : List Token) :
    (Token.escapeAll ts).getLast? = (Token.writeAll ts).getLast? := by
  rcases List.eq_nil_or_concat ts with rfl | ⟨us, t, rfl⟩
  · rfl
  · rw [List.concat_eq_append]
    obtain ⟨c, hwrite, hescape⟩ | ⟨cs, ds, hwrite, hescape⟩ := exists_of_concat us t
    all_goals rw [hwrite, hescape, List.getLast?_concat, List.getLast?_concat]

theorem endsInSlash_escapeAll (ts : List Token) :
    endsInSlash (Token.escapeAll ts) = endsInSlash (Token.writeAll ts) := by
  rcases List.eq_nil_or_concat ts with rfl | ⟨us, t, rfl⟩
  · rfl
  · rw [List.concat_eq_append]
    obtain ⟨c, hwrite, hescape⟩ | ⟨cs, ds, hwrite, hescape⟩ := exists_of_concat us t
    · rw [hwrite, hescape, endsInSlash_concat, endsInSlash_concat, getLast?_escapeAll]
    · rw [hwrite, hescape, endsInSlash_concat, endsInSlash_concat]
      rfl

theorem escape_eq (cs : List Char) : escape cs = Token.escapeAll (Token.ofText (closed cs)) := by
  have hends : endsInSlash (Token.escapeAll (Token.ofText cs)) = endsInSlash cs := by
    rw [endsInSlash_escapeAll, Token.writeAll_ofText]
  change (if endsInSlash (Token.escapeAll (Token.ofText cs)) = true then
    Token.escapeAll (Token.ofText cs) ++ ['\\'] else Token.escapeAll (Token.ofText cs)) = _
  rw [hends, closed]
  split
  · rw [Token.ofText, Token.ofText, Token.scan_append_slash, Token.escapeAll_append]
    rfl
  · rfl

def stretches (cs : List Char) : List (List Char) := Token.stretches [] (Token.ofText cs)

theorem flatten_stretches (cs : List Char) : (stretches cs).flatten = cs := by
  rw [stretches, Token.flatten_stretches, Token.writeAll_ofText]
  rfl

/-- An escaped text never fails, and shows all of its stretches. -/
theorem render_escape (events : EventReader) (cs : List Char) :
    render events (escape cs) =
      .ok (.plain (visible ((stretches (closed cs)).flatMap shownText))) := by
  have hpieces : pieces (escape cs) =
      Piece.ofTokens [] 0 ((Token.ofText (closed cs)).map Token.escape) := by
    rw [pieces, escape_eq, Token.ofText, Token.ofText, ← Token.ofText_escapeAll]
    rfl
  have hshown : shown (escape cs) = visible ((stretches (closed cs)).flatMap shownText) := by
    rw [shown, hpieces, Piece.shown_ofTokens_escape, stretches]
  rw [← hshown]
  exact render_of_texts events (hpieces ▸ Piece.isText_ofTokens_escape _ _ _)

/-- A text that is shown as it is once it is escaped. It does not end in a backslash that stands
alone, no stretch of it holds the code of a picture, or a backslash before a bracket that opens no
tag, and none of its characters is a control. Its tags do not matter. -/
structure Settled (cs : List Char) : Prop where
  slash : endsInSlash cs = false
  stretches : ∀ t ∈ stretches cs, shownText t = t
  controls : ∀ c ∈ cs, isStripped c = false

theorem visible_of_controls {cs : List Char} (h : ∀ c ∈ cs, isStripped c = false) :
    visible cs = cs :=
  List.filter_eq_self.2 fun c hc => by rw [h c hc]; rfl

theorem Settled.render_escape (events : EventReader) {cs : List Char} (h : Settled cs) :
    render events (escape cs) = .ok (.plain cs) := by
  have hclosed : closed cs = cs := if_neg (by rw [h.slash]; exact Bool.false_ne_true)
  have hshown : (Markup.stretches cs).flatMap shownText = cs := by
    rw [List.flatMap_def, List.map_congr_left h.stretches, List.map_id', flatten_stretches]
  rw [Markup.render_escape, hclosed, hshown, visible_of_controls h.controls]

/-- Characters that mean nothing outside of brackets. -/
def IsOrdinary (c : Char) : Prop := c ≠ '\\' ∧ c ≠ ':' ∧ isStripped c = false

instance : DecidablePred IsOrdinary := fun _ => inferInstanceAs (Decidable (_ ∧ _ ∧ _))

theorem replace_of_no_colon {cs : List Char} (h : ':' ∉ cs) : Emoji.replace cs = cs := by
  rw [Emoji.replace, List.splitOn_eq_singleton h]
  simp [Emoji.replaceAfter]

theorem plainBrackets_of_no_slash {cs : List Char} (h : '\\' ∉ cs) :
    Piece.plainBrackets cs = cs := by
  fun_induction Piece.plainBrackets cs with
  | case1 rest ih => simp at h
  | case2 c rest _ ih => rw [ih fun hrest => h (List.mem_cons_of_mem _ hrest)]
  | case3 => rfl

section
variable {cs : List Char} (h : ∀ c ∈ cs, IsOrdinary c)

include h

theorem shownText_of_ordinary : shownText cs = cs := by
  rw [shownText, plainBrackets_of_no_slash fun hc => (h _ hc).1 rfl,
    replace_of_no_colon fun hc => (h _ hc).2.1 rfl]

theorem visible_of_ordinary : visible cs = cs := visible_of_controls fun c hc => (h c hc).2.2

end

namespace Token

def isTag : Token → Bool
  | char _ => false
  | tag .. => true

def text : Token → List Char
  | char c => [c]
  | tag .. => []

theorem text_chars (cs : List Char) : (cs.map char).flatMap text = cs := by
  induction cs with
  | nil => rfl
  | cons c cs ih => exact congrArg (c :: ·) ih

theorem eq_chars {ts : List Token} (h : ∀ t ∈ ts, t.isTag = false) :
    ts = (writeAll ts).map char := by
  induction ts with
  | nil => rfl
  | cons t ts ih =>
    obtain ⟨ht, hts⟩ := List.forall_mem_cons.1 h
    cases t with
    | char c => exact congrArg (char c :: ·) (ih hts)
    | tag n body => exact nomatch ht

theorem length_text_le (ts : List Token) : (ts.flatMap text).length ≤ (writeAll ts).length := by
  induction ts with
  | nil => exact Nat.le_refl 0
  | cons t ts ih => cases t <;> simp [writeAll, text, write] at ih ⊢ <;> omega

/-- Without its tags a text is shorter, unless it has none. -/
theorem no_tag_of_text_eq {ts : List Token} (h : ts.flatMap text = writeAll ts) :
    ∀ t ∈ ts, t.isTag = false := by
  induction ts with
  | nil => simp
  | cons t ts ih =>
    cases t with
    | char c =>
      refine List.forall_mem_cons.2 ⟨rfl, ih (List.cons.inj (h : c :: _ = c :: _)).2⟩
    | tag n body =>
      have hlength := congrArg List.length h
      have hle := length_text_le ts
      simp [writeAll, text, write, bracketed] at hlength hle
      omega

end Token

namespace Piece

theorem shown_ofTokens_of_ordinary {ts : List Token} {pending : List Char}
    (h : ∀ c ∈ Token.writeAll ts, IsOrdinary c) (hpending : ∀ c ∈ pending, IsOrdinary c)
    (position : Nat) :
    (ofTokens pending position ts).flatMap shown = pending.reverse ++ ts.flatMap Token.text := by
  have hreverse {ds : List Char} (hds : ∀ c ∈ ds, IsOrdinary c) : shownText ds.reverse = ds.reverse :=
    shownText_of_ordinary (by simpa using hds)
  induction ts generalizing pending position with
  | nil =>
    rw [ofTokens, shown_ofPending, hreverse hpending]
    exact (List.append_nil _).symm
  | cons t ts ih =>
    have hwrite : Token.writeAll (t :: ts) = t.write ++ Token.writeAll ts := rfl
    rw [hwrite, List.forall_mem_append] at h
    obtain ⟨ht, hts⟩ := h
    cases t with
    | char c =>
      have hpending' : ∀ d ∈ c :: pending, IsOrdinary d :=
        List.forall_mem_cons.2 ⟨ht c (by simp [Token.write]), hpending⟩
      rw [ofTokens, ih hts hpending']
      simp [Token.text]
    | tag n body =>
      -- a backslash in front of a tag would be one of the ordinary characters
      have hslash (hn : n ≠ 0) : False :=
        (ht '\\' (by simp [Token.write, Token.slashesOf, hn])).1 rfl
      obtain rfl : n = 0 := Decidable.not_not.1 hslash
      simp [ofTokens, shown_ofPending, hreverse hpending, Token.slashesOf, shown, shownText_nil,
        ih hts, Token.text]

end Piece

section
variable {cs : List Char} (h : ∀ c ∈ cs, IsOrdinary c)

include h

theorem shown_of_ordinary : shown cs = (Token.ofText cs).flatMap Token.text := by
  have htext : ∀ c ∈ (Token.ofText cs).flatMap Token.text, IsOrdinary c := by
    intro c hc
    obtain ⟨t, ht, hct⟩ := List.mem_flatMap.1 hc
    refine h c ?_
    rw [← Token.writeAll_ofText cs]
    refine List.mem_flatMap.2 ⟨t, ht, ?_⟩
    cases t with
    | char d => exact hct
    | tag n body => exact nomatch hct
  have hshown : (Piece.ofTokens [] 0 (Token.ofText cs)).flatMap Piece.shown =
      (Token.ofText cs).flatMap Token.text :=
    Piece.shown_ofTokens_of_ordinary (by rwa [Token.writeAll_ofText]) (by simp) 0
  rw [shown, pieces, hshown]
  exact visible_of_ordinary htext

omit h in
theorem isText_of_no_tag (htags : ∀ t ∈ Token.ofText cs, t.isTag = false) :
    ∀ p ∈ pieces cs, p.isText = true := by
  rw [pieces, Token.eq_chars htags, Piece.ofTokens_chars]
  exact Piece.isText_ofPending _

/-- Ordinary text is shown as it is just if it holds no tag. -/
theorem shown_eq_self_iff (events : EventReader) :
    error? events cs = none ∧ shown cs = cs ↔ ∀ t ∈ Token.ofText cs, t.isTag = false := by
  rw [shown_of_ordinary h]
  constructor
  · rintro ⟨-, htext⟩
    exact Token.no_tag_of_text_eq (htext.trans (Token.writeAll_ofText cs).symm)
  · intro htags
    refine ⟨error?_of_texts events (isText_of_no_tag htags), ?_⟩
    rw [Token.eq_chars htags, Token.text_chars, Token.writeAll_ofText]

end

theorem render_of_no_bracket (events : EventReader) {cs : List Char} (h : ∀ c ∈ cs, IsOrdinary c)
    (hbracket : '[' ∉ cs) : render events cs = .ok (.plain cs) := by
  have htags : ∀ t ∈ Token.ofText cs, t.isTag = false := by
    rw [Token.ofText, Token.scan_of_no_bracket hbracket]
    simp [Token.slashesOf, Token.isTag]
  have hshown := ((shown_eq_self_iff h events).2 htags).2
  rw [render_of_texts events (isText_of_no_tag htags), hshown]

end ProfilerBootstrap.Console.Markup
