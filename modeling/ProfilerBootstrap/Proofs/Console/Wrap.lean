import Mathlib.Data.List.DropRight
import Mathlib.Data.List.TakeDrop
import ProfilerBootstrap.Console.Wrap
import ProfilerBootstrap.Proofs.Console.Width
import ProfilerBootstrap.Proofs.Text.Cut

namespace ProfilerBootstrap.Console

namespace Wrap

theorem words_eq_nil_iff {cs : List Char} : words cs = [] ↔ cs.dropWhile Text.isBlank = [] := by
  rw [words.eq_def]
  split
  · rename_i h
    exact iff_of_true rfl h
  · rename_i h
    exact iff_of_false (List.cons_ne_nil _ _) (h ▸ List.cons_ne_nil _ _)

/-- Words make up the line, unless there is only white space in it. -/
theorem flatten_words {cs : List Char} (h : words cs ≠ []) : (words cs).flatten = cs := by
  fun_induction words cs with
  | case1 cs found => exact absurd rfl h
  | case2 cs c rest found after ih =>
    have htail : (words (after.dropWhile Text.isBlank)).flatten = after.dropWhile Text.isBlank := by
      by_cases hwords : words (after.dropWhile Text.isBlank) = []
      · have hblank := words_eq_nil_iff.1 hwords
        rw [List.dropWhile_idempotent] at hblank
        rw [hwords, hblank, List.flatten_nil]
      · exact ih hwords
    have hafter : after.takeWhile Text.isBlank ++ after.dropWhile Text.isBlank = after :=
      List.takeWhile_append_dropWhile
    have hrest : rest.takeWhile (!Text.isBlank ·) ++ after = rest := List.takeWhile_append_dropWhile
    have hcs : cs.takeWhile Text.isBlank ++ cs.dropWhile Text.isBlank = cs :=
      List.takeWhile_append_dropWhile
    rw [List.flatten_cons, htail, List.append_assoc, hafter, List.append_assoc, List.cons_append,
      hrest, ← found, hcs]

theorem ne_nil_of_mem_words {cs w : List Char} (h : w ∈ words cs) : w ≠ [] := by
  fun_induction words cs with
  | case1 cs found => exact absurd h List.not_mem_nil
  | case2 cs c rest found after ih =>
    obtain rfl | h := List.mem_cons.1 h
    · simp
    · exact ih h

/-- Each word ends within the cells, counted from where the line begins; the white space after it
may not. -/
def WordsEnd (cells used : Nat) (ws : List (List Char)) : Prop :=
  ∀ before w after, ws = before ++ w :: after →
    used + total (before.map width) + width (Text.dropEnd Text.isBlank w) ≤ cells

theorem wordsEnd_cons {cells used : Nat} {w : List Char} {ws : List (List Char)} :
    WordsEnd cells used (w :: ws) ↔
      used + width (Text.dropEnd Text.isBlank w) ≤ cells ∧ WordsEnd cells (used + width w) ws := by
  constructor
  · intro h
    refine ⟨h [] w ws rfl, fun before v after hws => ?_⟩
    have := h (w :: before) v after (by rw [hws, List.cons_append])
    rw [List.map_cons, total] at this
    omega
  · rintro ⟨hfirst, hrest⟩ before v after hws
    cases before with
    | nil =>
      obtain ⟨rfl, rfl⟩ := List.cons.inj hws
      exact hfirst
    | cons u before =>
      obtain ⟨rfl, hws'⟩ := List.cons.inj hws
      have := hrest before v after hws'
      rw [List.map_cons, total]
      omega

theorem flow_of_wordsEnd {o : Overflow} {cells : Nat} {line : List Char} {used : Nat}
    {ws : List (List Char)} (h : WordsEnd cells used ws) :
    flow o cells line used ws = [line ++ ws.flatten] := by
  induction ws generalizing line used with
  | nil => simp [flow]
  | cons w ws ih =>
    obtain ⟨hfirst, hrest⟩ := wordsEnd_cons.1 h
    rw [flow, if_pos hfirst, ih hrest, List.flatten_cons, List.append_assoc]

theorem flow_ne_nil (o : Overflow) (cells : Nat) (line : List Char) (used : Nat)
    (ws : List (List Char)) : flow o cells line used ws ≠ [] := by
  fun_induction flow o cells line used ws with
  | case1 => exact List.cons_ne_nil _ _
  | case2 line used w ws need hfits ih => exact ih
  | case3 line used w ws need hlong hcells pieces last ih =>
    exact fun h => ih (List.append_eq_nil_iff.1 h).2
  | case4 line used w ws need hlong hcells ih => exact fun h => ih (List.append_eq_nil_iff.1 h).2

theorem width_dropEnd_le (cs : List Char) : width (Text.dropEnd Text.isBlank cs) ≤ width cs := by
  obtain ⟨rest, hrest⟩ : Text.dropEnd Text.isBlank cs <+: cs := List.rdropWhile_prefix _ cs
  exact Nat.le_trans (width_le_append _ rest) (Nat.le_of_eq (congrArg width hrest))

theorem fold_of_ne_nil {cells : Nat} {line w : List Char} (h : line ≠ []) :
    fold cells line w = line :: Cluster.chop cells [] 0 (Cluster.ofText w) := if_neg h

theorem flatten_dropWhile_nil (lines : List (List Char)) :
    (lines.dropWhile (· = [])).flatten = lines.flatten := by
  induction lines with
  | nil => rfl
  | cons l lines ih => cases l <;> simp [ih]

theorem flatten_fold (cells : Nat) (line w : List Char) :
    (fold cells line w).flatten = line ++ w := by
  have hchop : (Cluster.chop cells [] 0 (Cluster.ofText w)).flatten = w := by
    rw [Cluster.flatten_chop, Cluster.textOf_ofText, List.nil_append]
  by_cases hline : line = []
  · rw [fold, if_pos hline, flatten_dropWhile_nil, hchop, hline, List.nil_append]
  · rw [fold_of_ne_nil hline, List.flatten_cons, hchop]

theorem fold_cases (cells : Nat) (line : List Char) {w : List Char} (hw : w ≠ []) :
    2 ≤ (fold cells line w).length ∨ (line = [] ∧ fold cells line w = [w]) := by
  by_cases hline : line = []
  · have hflatten := flatten_fold cells line w
    rw [hline, List.nil_append] at hflatten
    rw [hline]
    match hfold : fold cells [] w with
    | [] =>
      rw [hfold] at hflatten
      exact absurd hflatten.symm hw
    | [p] =>
      rw [hfold, List.flatten_singleton] at hflatten
      exact .inr ⟨rfl, by rw [hflatten]⟩
    | p :: q :: rest =>
      refine .inl ?_
      rw [List.length_cons, List.length_cons]
      omega
  · refine .inl ?_
    have hchop : Cluster.chop cells [] 0 (Cluster.ofText w) ≠ [] := Cluster.chop_ne_nil
    have := List.length_pos_iff.2 hchop
    rw [fold_of_ne_nil hline, List.length_cons]
    omega

theorem flatten_dropLast_append_getLastD (lines : List (List Char)) :
    lines.dropLast.flatten ++ lines.getLastD [] = lines.flatten := by
  obtain rfl | ⟨front, last, rfl⟩ := List.eq_nil_or_concat lines
  · rfl
  · simp

theorem flatten_closed (line : List Char) : (closed line).flatten = line := by
  unfold closed
  split <;> simp_all

/-- No character of a line is lost when it is broken, and none is added. -/
theorem flatten_flow (o : Overflow) (cells : Nat) (line : List Char) (used : Nat)
    (ws : List (List Char)) : (flow o cells line used ws).flatten = line ++ ws.flatten := by
  fun_induction flow o cells line used ws with
  | case1 => simp
  | case2 line used w ws need hfits ih => rw [ih, List.flatten_cons, List.append_assoc]
  | case3 line used w ws need hlong hcells pieces last ih =>
    have hpieces : pieces.dropLast.flatten ++ last = line ++ w :=
      (flatten_dropLast_append_getLastD pieces).trans (flatten_fold cells line w)
    rw [List.flatten_append, ih, List.flatten_cons, ← List.append_assoc, hpieces, List.append_assoc]
  | case4 line used w ws need hlong hcells ih =>
    rw [List.flatten_append, flatten_closed, ih, List.flatten_cons]

/-- A line whose words do not end within the cells is broken, unless it is one word. -/
theorem two_le_length_flow {cells : Nat} {line : List Char} {used : Nat}
    {ws : List (List Char)} (hws : ∀ w ∈ ws, w ≠ []) (hline : line = [] → used = 0)
    (h : ¬WordsEnd cells used ws) :
    2 ≤ (flow .fold cells line used ws).length ∨ (line = [] ∧ ∃ w, ws = [w]) := by
  induction ws generalizing line used with
  | nil => exact absurd (fun before w after h => by simp at h) h
  | cons w ws ih =>
    obtain ⟨hw, hrest⟩ := List.forall_mem_cons.1 hws
    have hflow (last : List Char) (used : Nat) :=
      List.length_pos_iff.2 (flow_ne_nil .fold cells last used ws)
    rw [wordsEnd_cons, not_and_or] at h
    rw [flow]
    dsimp only
    split
    · rename_i hfits
      have hne : line ++ w ≠ [] := fun hempty => hw (List.append_eq_nil_iff.1 hempty).2
      have hbroken := h.resolve_left (not_not_intro hfits)
      exact (ih hrest (fun hempty => absurd hempty hne) hbroken).imp_right fun hempty =>
        absurd hempty.1 hne
    · rename_i hlong
      split
      · rename_i hcells
        obtain hpieces | ⟨rfl, hpieces⟩ := fold_cases cells line hw
        · have := hflow ((fold cells line w).getLastD []) (width ((fold cells line w).getLastD []))
          rw [List.length_append, List.length_dropLast]
          omega
        · rw [hpieces]
          cases ws with
          | nil => exact .inr ⟨rfl, w, rfl⟩
          | cons v vs =>
            -- the word takes up the line, so the next one does not end on it
            have hnext : ¬WordsEnd cells (width w) (v :: vs) := by
              rw [wordsEnd_cons]
              have := width_dropEnd_le w
              omega
            exact (ih hrest (fun hempty => absurd hempty hw) hnext).imp_right
              fun hempty => absurd hempty.1 hw
      · rename_i hcells
        -- the word fits on a line of its own, so there is text before it here
        have hne : line ≠ [] := by
          intro hempty
          rw [hline hempty] at hlong
          exact hcells ⟨rfl, by omega⟩
        have := hflow w (width w)
        rw [List.length_append, closed, if_neg hne, List.length_singleton]
        omega

theorem breakLine_ne_nil (o : Overflow) (cells : Nat) (line : List Char) :
    breakLine o cells line ≠ [] := by
  unfold breakLine
  dsimp only
  split
  · exact List.cons_ne_nil _ _
  · exact flow_ne_nil _ _ _ _ _

theorem breakLine_of_wordsEnd {o : Overflow} {cells : Nat} {line : List Char}
    (h : WordsEnd cells 0 (words line)) : breakLine o cells line = [line] := by
  unfold breakLine
  dsimp only
  split
  · rfl
  · rename_i hne
    rw [flow_of_wordsEnd h, flatten_words hne, List.nil_append]

theorem flatten_breakLine (o : Overflow) (cells : Nat) (line : List Char) :
    (breakLine o cells line).flatten = line := by
  unfold breakLine
  dsimp only
  split
  · exact List.flatten_singleton
  · rename_i hne
    rw [flatten_flow, flatten_words hne, List.nil_append]

/-- A line stays whole just if its words end within the cells, or it is one word. -/
theorem wordsEnd_or_of_breakLine {cells : Nat} {line : List Char}
    (h : (breakLine .fold cells line).length ≤ 1) :
    WordsEnd cells 0 (words line) ∨ words line = [line] := by
  by_contra! hno
  have hne : words line ≠ [] := fun hempty =>
    hno.1 fun before w after h => by simp [hempty] at h
  unfold breakLine at h
  dsimp only at h
  rw [if_neg hne] at h
  have hused : ([] : List Char) = [] → 0 = 0 := fun _ => rfl
  obtain htwo | ⟨-, w, hw⟩ := two_le_length_flow (fun w => ne_nil_of_mem_words) hused hno.1
  · omega
  · have hflatten := flatten_words hne
    rw [hw, List.flatten_singleton] at hflatten
    exact hno.2 (hflatten ▸ hw)

theorem breakLine_of_word {cells : Nat} {line : List Char} (h : words line = [line])
    (hcells : Cluster.cells (Cluster.ofText line) ≤ cells) : breakLine .fold cells line = [line] := by
  have hne : line ≠ [] := ne_nil_of_mem_words (h ▸ List.mem_singleton_self line)
  have hfold : fold cells [] line = [line] := by
    rw [fold, if_pos rfl, Cluster.chop_of_fits (by omega), Cluster.textOf_ofText, List.nil_append]
    simp [hne]
  unfold breakLine
  rw [h, if_neg (List.cons_ne_nil _ _), flow]
  simp [hfold, flow, closed]

theorem dropExcess_start (cells : Nat) (line : List Char) : dropExcess cells line <+: line :=
  List.take_prefix _ line

theorem takeWhile_reverse_eq_nil_iff {line : List Char} :
    line.reverse.takeWhile Text.isBlank = [] ↔
      ∀ c, line.getLast? = some c → Text.isBlank c = false := by
  obtain rfl | ⟨front, d, rfl⟩ := List.eq_nil_or_concat line
  · simp
  · simp [List.takeWhile_cons]

/-- Only white space at the end of a line of too many characters is dropped. -/
theorem dropExcess_eq_self_iff {cells : Nat} {line : List Char} :
    dropExcess cells line = line ↔
      line.length ≤ cells ∨ ∀ c, line.getLast? = some c → Text.isBlank c = false := by
  have htrailing : (line.reverse.takeWhile Text.isBlank).length ≤ line.length := by
    have hle := (List.takeWhile_sublist Text.isBlank (l := line.reverse)).length_le
    rwa [List.length_reverse] at hle
  rw [← takeWhile_reverse_eq_nil_iff, ← List.length_eq_zero_iff, dropExcess, List.take_eq_self_iff]
  omega

theorem expandTabs_of_no_tab {line : List Char} (h : '\t' ∉ line) : expandTabs line = line := by
  rw [expandTabs, List.splitOn_eq_singleton h]
  rfl

theorem count_toStop {c : Char} (hc : c ≠ ' ') (part : List Char) :
    (toStop part).count c = part.count c := by
  have hblanks (n : Nat) : (blanks n).count c = 0 := by
    rw [blanks, List.count_replicate, if_neg (by simpa using hc.symm)]
  have hblank : [' '].count c = 0 := hblanks 1
  rw [toStop, List.count_append, List.count_append, hblanks, hblank, Nat.add_zero]

theorem count_alignTabs {c : Char} (hc : c ≠ ' ') (parts : List (List Char)) :
    (alignTabs parts).count c = parts.flatten.count c := by
  fun_induction alignTabs parts with
  | case1 => rfl
  | case2 p => simp
  | case3 p q rest ih =>
    rw [List.flatten_cons, List.count_append, List.count_append, count_toStop hc, ih]

theorem count_expandTabs_le {c : Char} (hc : c ≠ ' ') (line : List Char) :
    (expandTabs line).count c ≤ line.count c := by
  rw [expandTabs, count_alignTabs hc]
  exact (Text.flatten_splitOn_sublist '\t' line).count_le c

theorem tab_notMem_expandTabs (line : List Char) : '\t' ∉ expandTabs line := by
  rw [← List.count_eq_zero, expandTabs, count_alignTabs (by decide), List.count_eq_zero,
    List.mem_flatten]
  rintro ⟨part, hpart, htab⟩
  exact Text.notMem_of_mem_splitOn hpart htab

def shownLines (cells : Nat) (line : List Char) : List (List Char) :=
  (breakLine .fold cells (expandTabs line)).map fun l => crop cells (dropExcess cells l)

theorem shownLines_ne_nil (cells : Nat) (line : List Char) : shownLines cells line ≠ [] :=
  fun h => breakLine_ne_nil _ _ _ (List.map_eq_nil_iff.1 h)

theorem count_map_crop_le {c : Char} (hc : c ≠ ' ') (cells : Nat) (lines : List (List Char)) :
    (lines.map fun l => crop cells (dropExcess cells l)).flatten.count c ≤ lines.flatten.count c := by
  induction lines with
  | nil => exact Nat.le_refl _
  | cons l lines ih =>
    rw [List.map_cons, List.flatten_cons, List.flatten_cons, List.count_append, List.count_append]
    refine Nat.add_le_add ?_ ih
    exact Nat.le_trans (count_crop_le hc) ((dropExcess_start cells l).sublist.count_le c)

theorem count_shownLines_le_expandTabs {c : Char} (hc : c ≠ ' ') (cells : Nat) (line : List Char) :
    (shownLines cells line).flatten.count c ≤ (expandTabs line).count c :=
  Nat.le_trans (count_map_crop_le hc cells _) (Nat.le_of_eq (by rw [flatten_breakLine]))

theorem count_shownLines_le {c : Char} (hc : c ≠ ' ') (cells : Nat) (line : List Char) :
    (shownLines cells line).flatten.count c ≤ line.count c :=
  Nat.le_trans (count_shownLines_le_expandTabs hc cells line) (count_expandTabs_le hc line)

theorem tab_notMem_shownLines {cells : Nat} {line l : List Char} (h : l ∈ shownLines cells line) :
    '\t' ∉ l := by
  have hcount := count_shownLines_le_expandTabs (c := '\t') (by decide) cells line
  rw [List.count_eq_zero.2 (tab_notMem_expandTabs line), Nat.le_zero, List.count_eq_zero] at hcount
  exact fun htab => hcount (List.mem_flatten_of_mem h htab)

end Wrap

/-- A line that the console leaves as it is. -/
structure Fits (cells : Nat) (line : List Char) : Prop where
  room : 0 < cells
  noTab : '\t' ∉ line
  words : Wrap.WordsEnd cells 0 (Wrap.words line) ∨ Wrap.words line = [line]
  ending : line.length ≤ cells ∨ ∀ c, line.getLast? = some c → Text.isBlank c = false
  width : width line ≤ cells ∨ Cluster.cells (Cluster.ofText line) ≤ cells

namespace Fits

variable {cells : Nat} {line : List Char}

theorem breakLine (h : Fits cells line) : Wrap.breakLine .fold cells line = [line] := by
  rcases h.words with hwords | hword
  · exact Wrap.breakLine_of_wordsEnd hwords
  · rcases h.width with hwidth | hcells
    · refine Wrap.breakLine_of_wordsEnd ?_
      rw [hword, Wrap.wordsEnd_cons]
      have := Wrap.width_dropEnd_le line
      exact ⟨by omega, fun before w after h => by simp at h⟩
    · exact Wrap.breakLine_of_word hword hcells

theorem shownLines (h : Fits cells line) : Wrap.shownLines cells line = [line] := by
  have hsame := Wrap.dropExcess_eq_self_iff.2 h.ending
  have hcrop : crop cells (Wrap.dropExcess cells line) = line := by
    rw [hsame, crop_eq_iff h.room (List.prefix_refl line)]
    exact ⟨rfl, h.width⟩
  rw [Wrap.shownLines, Wrap.expandTabs_of_no_tab h.noTab, h.breakLine, List.map_singleton, hcrop]

end Fits

theorem shownLines_eq_self_iff {cells : Nat} (hroom : 0 < cells) {line : List Char} :
    Wrap.shownLines cells line = [line] ↔ Fits cells line := by
  refine ⟨fun h => ?_, Fits.shownLines⟩
  have htab : '\t' ∉ line := fun htab =>
    Wrap.tab_notMem_shownLines (h ▸ List.mem_singleton_self line) htab
  rw [Wrap.shownLines, Wrap.expandTabs_of_no_tab htab] at h
  obtain ⟨l, hbreak, hcrop⟩ := List.map_eq_singleton_iff.1 h
  obtain rfl : l = line := by
    rw [← Wrap.flatten_breakLine .fold cells line, hbreak, List.flatten_singleton]
  obtain ⟨hsame, hwidth⟩ := (crop_eq_iff hroom (Wrap.dropExcess_start cells l)).1 hcrop
  exact ⟨hroom, htab, Wrap.wordsEnd_or_of_breakLine (by rw [hbreak]; exact Nat.le_refl 1),
    Wrap.dropExcess_eq_self_iff.1 hsame, hsame ▸ hwidth⟩

end ProfilerBootstrap.Console
