import ProfilerBootstrap.Console.Markup
import ProfilerBootstrap.Proofs.Console.Emoji
import ProfilerBootstrap.Proofs.Console.Wrap

namespace ProfilerBootstrap.Console

def written (lines : List (List Char)) : List Char := lines.flatMap (· ++ ['\n'])

theorem written_cons (l : List Char) (lines : List (List Char)) :
    written (l :: lines) = l ++ '\n' :: written lines := by
  simp [written]

theorem written_splitOn (cs : List Char) : written (cs.splitOn '\n') = cs ++ ['\n'] := by
  have hwritten (l : List Char) (lines : List (List Char)) :
      written (l :: lines) = ['\n'].intercalate (l :: lines) ++ ['\n'] := by
    induction lines generalizing l with
    | nil => simp [written]
    | cons m lines ih =>
      rw [written_cons, ih, List.intercalate_cons_cons]
      simp
  have hcs : ['\n'].intercalate (cs.splitOn '\n') = cs := List.intercalate_splitOn '\n'
  cases hlines : cs.splitOn '\n' with
  | nil => exact absurd hlines (List.splitOn_ne_nil '\n' cs)
  | cons l lines => rw [hwritten, ← hlines, hcs]

theorem written_inj {lines lines' : List (List Char)} (h : ∀ l ∈ lines, '\n' ∉ l)
    (h' : ∀ l ∈ lines', '\n' ∉ l) : written lines = written lines' ↔ lines = lines' := by
  refine ⟨fun hsame => ?_, congrArg written⟩
  induction lines generalizing lines' with
  | nil =>
    cases lines' with
    | nil => rfl
    | cons l' lines' => simp [written] at hsame
  | cons l lines ih =>
    cases lines' with
    | nil => simp [written] at hsame
    | cons l' lines' =>
      obtain ⟨hl, hlines⟩ := List.forall_mem_cons.1 h
      obtain ⟨hl', hlines'⟩ := List.forall_mem_cons.1 h'
      rw [written_cons, written_cons] at hsame
      obtain ⟨rfl, hrest⟩ := Text.eq_of_append_first hl hl' hsame
      rw [ih hlines hlines' hrest]

theorem count_written {c : Char} (hc : c ≠ '\n') (lines : List (List Char)) :
    (written lines).count c = lines.flatten.count c := by
  induction lines with
  | nil => rfl
  | cons l lines ih =>
    rw [written_cons, List.flatten_cons, List.count_append, List.count_append,
      List.count_cons_of_ne hc.symm, ih]

section
variable {α : Type} {f : α → List α} (hf : ∀ a, f a ≠ [])

include hf

theorem length_le_flatMap (as : List α) : as.length ≤ (as.flatMap f).length := by
  induction as with
  | nil => exact Nat.le_refl _
  | cons a as ih =>
    have hfirst := List.length_pos_iff.2 (hf a)
    rw [List.flatMap_cons, List.length_append, List.length_cons]
    omega

theorem flatMap_eq_self_iff {as : List α} : as.flatMap f = as ↔ ∀ a ∈ as, f a = [a] := by
  induction as with
  | nil => exact iff_of_true rfl nofun
  | cons a as ih =>
    rw [List.forall_mem_cons, ← ih, List.flatMap_cons]
    refine ⟨fun hsame => ?_, fun ⟨hfirst, hrest⟩ => by rw [hfirst, hrest, List.singleton_append]⟩
    obtain ⟨b, bs, ha⟩ := List.exists_cons_of_ne_nil (hf a)
    rw [ha, List.cons_append, List.cons.injEq] at hsame
    obtain ⟨rfl, hrest⟩ := hsame
    obtain rfl : bs = [] := by
      have hlength := congrArg List.length hrest
      have hle := length_le_flatMap hf as
      rw [List.length_append] at hlength
      exact List.length_eq_zero_iff.1 (by omega)
    exact ⟨ha, hrest⟩

end

section
variable {cells : Nat} {cs ds : List Char}

theorem newline_notMem_shownLines {line l : List Char} (hline : '\n' ∉ line)
    (h : l ∈ Wrap.shownLines cells line) : '\n' ∉ l := by
  have hcount := Wrap.count_shownLines_le (c := '\n') (by decide) cells line
  rw [List.count_eq_zero.2 hline, Nat.le_zero, List.count_eq_zero] at hcount
  exact fun hnewline => hcount (List.mem_flatten_of_mem h hnewline)

theorem paragraph_zero (cs : List Char) : paragraph 0 cs = "" := if_pos rfl

theorem toList_paragraph (hroom : 0 < cells) (cs : List Char) :
    (paragraph cells cs).toList = written ((cs.splitOn '\n').flatMap (Wrap.shownLines cells)) := by
  have hwritten (lines : List (List Char)) :
      (lines.map fun l => String.ofList (crop cells l) ++ "\n").flatMap String.toList =
        written (lines.map (crop cells)) := by
    simp [written, List.flatMap_map]
  rw [paragraph, if_neg (by omega), String.toList_join, hwritten, wrap, List.map_flatMap]
  simp only [List.map_map]
  rfl

theorem paragraph_eq_iff (hroom : 0 < cells) :
    paragraph cells cs = String.ofList ds ++ "\n" ↔
      (cs.splitOn '\n').flatMap (Wrap.shownLines cells) = ds.splitOn '\n' := by
  rw [← String.toList_inj, toList_paragraph hroom, String.toList_append, String.toList_ofList]
  have hds : ds ++ "\n".toList = written (ds.splitOn '\n') := (written_splitOn ds).symm
  rw [hds, written_inj _ fun l => Text.notMem_of_mem_splitOn]
  intro l hl
  obtain ⟨line, hline, hl⟩ := List.mem_flatMap.1 hl
  exact newline_notMem_shownLines (Text.notMem_of_mem_splitOn hline) hl

/-- Nothing but spaces and line feeds is added to a text. -/
theorem count_paragraph_le (cells : Nat) (cs : List Char) {c : Char} (hspace : c ≠ ' ')
    (hnewline : c ≠ '\n') : (paragraph cells cs).toList.count c ≤ cs.count c := by
  have hlines (lines : List (List Char)) :
      (lines.flatMap (Wrap.shownLines cells)).flatten.count c ≤ lines.flatten.count c := by
    induction lines with
    | nil => exact Nat.le_refl _
    | cons line lines ih =>
      rw [List.flatMap_cons, List.flatten_append, List.flatten_cons, List.count_append,
        List.count_append]
      exact Nat.add_le_add (Wrap.count_shownLines_le hspace cells line) ih
  by_cases hroom : 0 < cells
  · rw [toList_paragraph hroom, count_written hnewline]
    exact Nat.le_trans (hlines _) ((Text.flatten_splitOn_sublist '\n' cs).count_le c)
  · obtain rfl : cells = 0 := by omega
    rw [paragraph_zero]
    exact Nat.zero_le _

/-- A text is a paragraph of its own lines just if each of them fits. -/
theorem paragraph_eq_self_iff :
    paragraph cells cs = String.ofList cs ++ "\n" ↔ ∀ line ∈ cs.splitOn '\n', Fits cells line := by
  by_cases hroom : 0 < cells
  · rw [paragraph_eq_iff hroom, flatMap_eq_self_iff (Wrap.shownLines_ne_nil cells)]
    exact forall₂_congr fun _ _ => shownLines_eq_self_iff hroom
  · obtain rfl : cells = 0 := by omega
    refine iff_of_false (fun h => ?_) fun h => ?_
    · have hlength := congrArg (fun s => s.toList.length) h
      simp [paragraph_zero] at hlength
    · obtain ⟨line, hline⟩ := List.exists_mem_of_ne_nil _ (List.splitOn_ne_nil '\n' cs)
      exact absurd (h line hline).room (Nat.lt_irrefl 0)

theorem literal_eq_self_of_paragraph
    (h : paragraph cells (Markup.literal cs) = String.ofList cs ++ "\n") :
    Emoji.replace cs = cs ∧ ∀ c ∈ cs, Markup.isStripped c = false := by
  -- the paragraph has no more of a character than the text that it is made of
  have hcount {c : Char} (hspace : c ≠ ' ') (hnewline : c ≠ '\n') :
      cs.count c ≤ (Markup.literal cs).count c := by
    have hle := count_paragraph_le cells (Markup.literal cs) hspace hnewline
    rw [h, String.toList_append, String.toList_ofList, List.count_append] at hle
    omega
  constructor
  · obtain ⟨-, hsame⟩ | ⟨-, hlt⟩ := Emoji.replace_cases cs
    · exact hsame
    · have hcolons := hcount (c := ':') (by decide) (by decide)
      have hfilter : (Markup.literal cs).count ':' ≤ (Emoji.replace cs).count ':' :=
        List.filter_sublist.count_le ':'
      omega
  · intro c hc
    by_contra hstripped
    rw [Bool.not_eq_false] at hstripped
    have hspace : c ≠ ' ' := by
      rintro rfl
      exact absurd hstripped (by decide)
    have hnewline : c ≠ '\n' := by
      rintro rfl
      exact absurd hstripped (by decide)
    have hnone : c ∉ Markup.literal cs := fun hmem => by
      simpa [hstripped] using (List.mem_filter.1 hmem).2
    have hcs := hcount hspace hnewline
    rw [List.count_eq_zero.2 hnone, Nat.le_zero, List.count_eq_zero] at hcs
    exact hcs hc

/-- A text is shown as it is just if no code in it stands for a picture, no control in it is
stripped, and each of its lines fits. -/
theorem paragraph_literal_eq_self_iff :
    paragraph cells (Markup.literal cs) = String.ofList cs ++ "\n" ↔
      (∀ code ∈ Emoji.codesOf cs, Emoji.picture? code = none) ∧
        (∀ c ∈ cs, Markup.isStripped c = false) ∧ ∀ line ∈ cs.splitOn '\n', Fits cells line := by
  have hliteral (hsame : Emoji.replace cs = cs) (hcontrols : ∀ c ∈ cs, Markup.isStripped c = false) :
      Markup.literal cs = cs := by
    rw [Markup.literal, hsame, Markup.visible, List.filter_eq_self]
    exact fun c hc => by rw [hcontrols c hc]; rfl
  rw [← Emoji.replace_eq_self_iff]
  constructor
  · intro h
    obtain ⟨hsame, hcontrols⟩ := literal_eq_self_of_paragraph h
    rw [hliteral hsame hcontrols] at h
    exact ⟨hsame, hcontrols, paragraph_eq_self_iff.1 h⟩
  · rintro ⟨hsame, hcontrols, hlines⟩
    rw [hliteral hsame hcontrols]
    exact paragraph_eq_self_iff.2 hlines

end

end ProfilerBootstrap.Console
