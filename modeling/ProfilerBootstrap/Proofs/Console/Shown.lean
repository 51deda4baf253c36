import ProfilerBootstrap.Console.Table
import ProfilerBootstrap.Proofs.Console.Wrap

namespace ProfilerBootstrap.Console

namespace Shown

variable {s : Shown}

theorem map_text_partsFrom (sep : List Char) {parts : List (List Char)} {start : Nat}
    (h : s.text.drop start = sep.intercalate parts) :
    (s.partsFrom sep.length start (parts.map List.length)).map text = parts := by
  induction parts generalizing start with
  | nil => rfl
  | cons p parts ih =>
    have hfirst : (s.between start (start + p.length)).text = p := by
      rw [between, List.drop_take, Nat.add_sub_cancel_left, h]
      cases parts <;> simp
    have hrest : s.text.drop (start + p.length + sep.length) = sep.intercalate parts := by
      rw [Nat.add_assoc, ← List.drop_drop, h]
      cases parts <;> simp
    rw [List.map_cons, partsFrom, List.map_cons, ih hrest, hfirst]

theorem map_text_divide (sep : List Char) {parts : List (List Char)} (hne : parts ≠ [])
    (h : sep.intercalate parts = s.text) :
    (s.divide sep.length (parts.map List.length)).map text = parts := by
  unfold divide
  split
  · rename_i hlength
    match parts with
    | [p] => simpa using h.symm
    | p :: q :: rest => simp at hlength
  · have hstart : s.text.drop 0 = sep.intercalate parts := h.symm
    exact map_text_partsFrom sep hstart

theorem nil_intercalate (parts : List (List Char)) : [].intercalate parts = parts.flatten := by
  induction parts with
  | nil => rfl
  | cons p parts ih => cases parts <;> simp_all

theorem map_text_divide_flatten {parts : List (List Char)} (hne : parts ≠ [])
    (h : parts.flatten = s.text) : (s.divide 0 (parts.map List.length)).map text = parts :=
  map_text_divide [] hne ((nil_intercalate parts).trans h)

theorem text_join (ss : List Shown) : (join ss).text = (ss.map text).flatten := by
  induction ss with
  | nil => rfl
  | cons s ss ih =>
    rw [List.map_cons, List.flatten_cons, ← ih]
    rfl

theorem flatten_tabbed (parts : List (List Char)) :
    (tabbed parts).flatten = ['\t'].intercalate parts := by
  fun_induction tabbed parts <;> simp_all

theorem tabbed_ne_nil {parts : List (List Char)} (h : parts ≠ []) : tabbed parts ≠ [] := by
  fun_cases tabbed parts <;> simp_all

def aligned (part : List Char) : List Char :=
  if part.getLast? = some '\t' then Wrap.toStop part.dropLast else part

theorem flatten_map_aligned {parts : List (List Char)} (h : ∀ p ∈ parts, '\t' ∉ p) :
    ((tabbed parts).map aligned).flatten = Wrap.alignTabs parts := by
  fun_induction tabbed parts with
  | case1 => rfl
  | case2 p =>
    have hlast : p.getLast? ≠ some '\t' := fun hlast =>
      h p (List.mem_singleton_self p) (List.mem_of_getLast? hlast)
    simp [aligned, hlast, Wrap.alignTabs]
  | case3 p q rest ih =>
    have hp : aligned (p ++ ['\t']) = Wrap.toStop p := by simp [aligned]
    rw [List.map_cons, List.flatten_cons, hp, ih fun l hl => h l (List.mem_cons_of_mem p hl)]
    rfl

theorem text_expandTabs (s : Shown) : s.expandTabs.text = Wrap.expandTabs s.text := by
  unfold expandTabs
  split
  · have hparts : (s.divide 0 ((tabbed (s.text.splitOn '\t')).map List.length)).map text =
        tabbed (s.text.splitOn '\t') := by
      refine map_text_divide_flatten (tabbed_ne_nil (List.splitOn_ne_nil '\t' s.text)) ?_
      rw [flatten_tabbed, List.intercalate_splitOn]
    have haligned (p : Shown) :
        (if p.text.getLast? = some '\t' then p.toStop else p).text = aligned p.text := by
      unfold aligned
      split <;> rfl
    have hmap := congrArg (List.map aligned) hparts
    rw [List.map_map] at hmap
    rw [text_join, List.map_map, Wrap.expandTabs,
      ← flatten_map_aligned fun p => Text.notMem_of_mem_splitOn, ← hmap]
    exact congrArg List.flatten (List.map_congr_left fun p _ => haligned p)
  · rename_i htab
    exact (Wrap.expandTabs_of_no_tab (by simpa using htab)).symm

/-- What cannot be drawn makes no difference to the lines of a text. -/
theorem map_text_wrap (o : Overflow) (cells : Nat) (s : Shown) :
    (s.wrap o cells).map text = Console.wrap o cells s.text := by
  have hlines : (s.divide 1 ((s.text.splitOn '\n').map List.length)).map text =
      s.text.splitOn '\n' :=
    map_text_divide ['\n'] (List.splitOn_ne_nil '\n' s.text)
      (List.intercalate_splitOn '\n')
  have hparts (line : Shown) :
      (line.divide 0 ((Wrap.breakLine o cells line.text).map List.length)).map text =
        Wrap.breakLine o cells line.text :=
    map_text_divide_flatten (Wrap.breakLine_ne_nil o cells line.text)
      (Wrap.flatten_breakLine o cells line.text)
  rw [Console.wrap, ← hlines, List.flatMap_map, wrap, List.map_flatMap]
  refine congrArg (List.flatMap · _) (funext fun line => ?_)
  rw [← text_expandTabs, ← hparts, List.map_map, List.map_map]
  rfl

def Drawn (s : Shown) : Prop := s.broken = []

theorem Drawn.between (h : s.Drawn) (start stop : Nat) : (s.between start stop).Drawn := by
  have hbroken : s.broken = [] := h
  simp [Drawn, Shown.between, hbroken]

theorem Drawn.partsFrom (h : s.Drawn) (gap start : Nat) (lengths : List Nat) :
    ∀ p ∈ s.partsFrom gap start lengths, p.Drawn := by
  induction lengths generalizing start with
  | nil => exact nofun
  | cons n lengths ih => exact List.forall_mem_cons.2 ⟨h.between _ _, ih _⟩

theorem Drawn.divide (h : s.Drawn) (gap : Nat) (lengths : List Nat) :
    ∀ p ∈ s.divide gap lengths, p.Drawn := by
  unfold Shown.divide
  split
  · exact List.forall_mem_singleton.2 h
  · exact h.partsFrom gap 0 lengths

theorem Drawn.cutTo (h : s.Drawn) (cs : List Char) : (s.cutTo cs).Drawn := by
  have hbroken : s.broken = [] := h
  simp [Drawn, Shown.cutTo, hbroken]

theorem Drawn.append {t : Shown} (h : s.Drawn) (h' : t.Drawn) : (s.append t).Drawn := by
  have hbroken : s.broken = [] := h
  have hbroken' : t.broken = [] := h'
  simp [Drawn, Shown.append, hbroken, hbroken']

theorem drawn_join {ss : List Shown} (h : ∀ s ∈ ss, s.Drawn) : (join ss).Drawn := by
  induction ss with
  | nil => rfl
  | cons s ss ih =>
    obtain ⟨hs, hss⟩ := List.forall_mem_cons.1 h
    exact hs.append (ih hss)

theorem Drawn.toStop (h : s.Drawn) : s.toStop.Drawn := by
  have hbroken : s.broken = [] := h
  simp [Drawn, Shown.toStop, hbroken]

theorem Drawn.expandTabs (h : s.Drawn) : s.expandTabs.Drawn := by
  unfold Shown.expandTabs
  split
  · refine drawn_join fun p hp => ?_
    obtain ⟨q, hq, rfl⟩ := List.mem_map.1 hp
    have hdrawn := h.divide _ _ q hq
    split
    · exact hdrawn.toStop
    · exact hdrawn
  · exact h

theorem Drawn.wrap (h : s.Drawn) (o : Overflow) (cells : Nat) : ∀ l ∈ s.wrap o cells, l.Drawn := by
  intro l hl
  obtain ⟨line, hline, hl⟩ := List.mem_flatMap.1 hl
  obtain ⟨part, hpart, rfl⟩ := List.mem_map.1 hl
  exact ((h.divide _ _ line hline).expandTabs.divide _ _ part hpart).cutTo _

end Shown

namespace Table

variable {s : Shown}

theorem drawn_cellLine (side : Side) (inner : Nat) (h : s.Drawn) :
    (cellLine side inner s).Drawn := by
  cases side with
  | left => exact h.cutTo _
  | right => exact (h.cutTo _).cutTo _

theorem drawn_cellLines (side : Side) (cells : Nat) (h : s.Drawn) :
    ∀ l ∈ cellLines side cells s, l.Drawn := by
  unfold cellLines
  dsimp only
  split
  · exact nofun
  · intro l hl
    obtain ⟨line, hline, rfl⟩ := List.mem_map.1 hl
    exact drawn_cellLine side _ (h.wrap _ _ line hline)

/-- A table is drawn where each of its texts can be. -/
theorem drawsBroken_eq_false {t : Table} (h : ∀ row ∈ t.rows, ∀ s ∈ row, s.Drawn) (cells : Nat) :
    t.drawsBroken cells = false := by
  unfold drawsBroken
  rw [List.any_eq_false]
  intro row hrow hany
  obtain ⟨ls, hls, hany⟩ := List.any_eq_true.1 hany
  obtain ⟨l, hl, hbroken⟩ := List.any_eq_true.1 hany
  rw [Layout.cellLines, ← List.map_uncurry_zip_eq_zipWith] at hls
  obtain ⟨⟨c, s⟩, hcell, rfl⟩ := List.mem_map.1 hls
  have hdrawn := h row hrow s (List.of_mem_zip hcell).2
  exact of_decide_eq_true hbroken (drawn_cellLines c.1 c.2 hdrawn l hl)

end Table

end ProfilerBootstrap.Console
