import ProfilerBootstrap.Path
import ProfilerBootstrap.Proofs.Text.Cut

namespace ProfilerBootstrap.Path

theorem pieces_cons (c : Char) (cs : List Char) :
    pieces (c :: cs) =
      if c = '/' then [] :: pieces cs else (pieces cs).modifyHead (List.cons c) := by
  unfold pieces
  rw [List.splitOn_cons_eq_if_modifyHead]
  simp only [beq_iff_eq]

theorem slash_notMem_of_mem_pieces {cs : List Char} {n : Name} (h : n ∈ pieces cs) : '/' ∉ n :=
  Text.notMem_of_mem_splitOn h

theorem mem_of_mem_pieces {cs : List Char} {n : Name} (h : n ∈ pieces cs) {c : Char} (hc : c ∈ n) :
    c ∈ cs :=
  (Text.flatten_splitOn_sublist '/' cs).subset (List.mem_flatten_of_mem h hc)

/-- The last piece of a text takes up what is added to the text, unless that has a slash. -/
theorem exists_last_piece (cs : List Char) :
    ∃ (front : List Name) (last : Name), ∀ more : List Char, '/' ∉ more →
      pieces (cs ++ more) = front ++ [last ++ more] := by
  induction cs with
  | nil => exact ⟨[], [], fun more h => List.splitOn_eq_singleton h⟩
  | cons c cs ih =>
    obtain ⟨front, last, h⟩ := ih
    by_cases hc : c = '/'
    · refine ⟨[] :: front, last, fun more hm => ?_⟩
      rw [List.cons_append, pieces_cons, if_pos hc, h more hm]
      rfl
    · cases front with
      | nil =>
        refine ⟨[], c :: last, fun more hm => ?_⟩
        rw [List.cons_append, pieces_cons, if_neg hc, h more hm]
        rfl
      | cons m front =>
        refine ⟨(c :: m) :: front, last, fun more hm => ?_⟩
        rw [List.cons_append, pieces_cons, if_neg hc, h more hm]
        rfl

theorem pieces_append {before : List Char} (hbefore : '/' ∉ before) (cs : List Char) :
    pieces (before ++ cs) = (pieces cs).modifyHead (before ++ ·) := by
  induction before with
  | nil => cases h : pieces cs <;> simp [h]
  | cons c before ih =>
    rw [List.mem_cons, not_or] at hbefore
    rw [List.cons_append, pieces_cons, if_neg (Ne.symm hbefore.1), ih hbefore.2]
    cases pieces cs <;> rfl

theorem mem_pieces_append {before cs after : List Char} (hbefore : '/' ∉ before)
    (hafter : '/' ∉ after) {n : Name} (h : n ∈ pieces (before ++ (cs ++ after))) :
    n ∈ pieces cs ∨ before <+: n ∨ after <:+ n := by
  have hlast : ∀ n ∈ pieces (cs ++ after), n ∈ pieces cs ∨ after <:+ n := by
    intro n hn
    obtain ⟨front, last, hpieces⟩ := exists_last_piece cs
    have hself := hpieces [] List.not_mem_nil
    rw [List.append_nil, List.append_nil] at hself
    rw [hpieces after hafter] at hn
    rcases List.mem_append.1 hn with hn | hn
    · exact .inl (hself ▸ List.mem_append_left _ hn)
    · exact .inr ⟨last, (List.mem_singleton.1 hn).symm⟩
  rw [pieces_append hbefore] at h
  cases hp : pieces (cs ++ after) with
  | nil => simp [hp] at h
  | cons m rest =>
    rw [hp] at h hlast
    rcases List.mem_cons.1 h with hm | hmem
    · exact .inr (.inl ⟨m, hm.symm⟩)
    · exact (hlast n (List.mem_cons_of_mem _ hmem)).imp_right .inr

/-- A path as texts give it: a name is not empty, is no point and holds no slash. -/
structure Normal (p : Path) : Prop where
  slashes : p.slashes ≤ 2
  names : ∀ n ∈ p.names, isName n = true ∧ '/' ∉ n

theorem leadingSlashes_le (cs : List Char) : leadingSlashes cs ≤ 2 := by
  unfold leadingSlashes
  split <;> decide

theorem normal_ofChars (cs : List Char) : (ofChars cs).Normal where
  slashes := leadingSlashes_le cs
  names n hn := by
    obtain ⟨hmem, hname⟩ := List.mem_filter.1 hn
    exact ⟨hname, slash_notMem_of_mem_pieces hmem⟩

theorem Normal.snoc {s : Nat} {ns : List Name} (h : Normal ⟨s, ns⟩) {n : Name}
    (hn : isName n = true) (hs : '/' ∉ n) : Normal ⟨s, ns ++ [n]⟩ where
  slashes := h.slashes
  names m hm := by
    rcases List.mem_append.1 hm with hm | hm
    · exact h.names m hm
    · obtain rfl := List.mem_singleton.1 hm
      exact ⟨hn, hs⟩

theorem Normal.init {s : Nat} {ns : List Name} {n : Name} (h : Normal ⟨s, ns ++ [n]⟩) :
    Normal ⟨s, ns⟩ :=
  ⟨h.slashes, fun m hm => h.names m (List.mem_append_left _ hm)⟩

theorem Normal.parent {p : Path} (h : p.Normal) : p.parent.Normal :=
  ⟨h.slashes, fun n hn => h.names n (List.dropLast_subset _ hn)⟩

theorem Normal.exists_snoc {p : Path} (h : p.Normal) (hne : p.names ≠ []) :
    ∃ s front last, last ≠ [] ∧ p = ⟨s, front ++ [last]⟩ ∧ p.parent = ⟨s, front⟩ := by
  obtain ⟨s, ns⟩ := p
  obtain ⟨front, last, rfl⟩ := ns.eq_nil_or_concat.resolve_left hne
  rw [List.concat_eq_append] at h ⊢
  refine ⟨s, front, last, ?_, rfl, by simp [Path.parent]⟩
  rintro rfl
  exact absurd (h.names [] (by simp)).1 (by decide)

def lead (s : Nat) (ns : List Name) : List Char :=
  List.replicate s '/' ++ ns.flatMap (· ++ ['/'])

theorem intercalate_snoc (ns : List Name) (n : Name) :
    ['/'].intercalate (ns ++ [n]) = ns.flatMap (· ++ ['/']) ++ n := by
  induction ns with
  | nil => simp
  | cons m ns ih =>
    rw [List.cons_append, List.intercalate_cons_of_ne_nil (by simp), ih]
    simp

theorem chars_snoc (s : Nat) (ns : List Name) (n : Name) :
    chars ⟨s, ns ++ [n]⟩ = lead s ns ++ n := by
  rw [chars, if_neg (by simp), intercalate_snoc, lead, List.append_assoc]

theorem toList_text (p : Path) : p.text.toList = p.chars := String.toList_ofList

theorem chars_eq_intercalate {s : Nat} {ns : List Name} (h : ns ≠ []) :
    chars ⟨s, ns⟩ = ['/'].intercalate (List.replicate s [] ++ ns) := by
  rw [chars, if_neg (by simp [h])]
  induction s with
  | zero => rfl
  | succ s ih =>
    rw [List.replicate_succ, List.replicate_succ, List.cons_append, List.cons_append, ih,
      List.intercalate_cons_of_ne_nil (by simp [h])]
    rfl

theorem pieces_chars {p : Path} (hp : p.Normal) (h : p.names ≠ []) :
    pieces p.chars = List.replicate p.slashes [] ++ p.names := by
  rw [chars_eq_intercalate h, pieces]
  refine List.splitOn_intercalate '/' (fun n hn => ?_) (by simp [h])
  rcases List.mem_append.1 hn with hn | hn
  · simp [List.eq_of_mem_replicate hn]
  · exact (hp.names n hn).2

theorem pieces_replicate (k : Nat) : pieces (List.replicate k '/') = List.replicate (k + 1) [] := by
  induction k with
  | zero => rfl
  | succ k ih => rw [List.replicate_succ, pieces_cons, if_pos rfl, ih, ← List.replicate_succ]

theorem takeWhile_slash_append (s : Nat) {cs : List Char} (h : cs.head? ≠ some '/') :
    (List.replicate s '/' ++ cs).takeWhile (· = '/') = List.replicate s '/' := by
  induction s with
  | zero =>
    cases cs with
    | nil => rfl
    | cons c cs =>
      have hc : c ≠ '/' := by simpa using h
      exact List.takeWhile_cons_of_neg (by simpa using hc)
  | succ s ih => simpa [List.replicate_succ] using ih

theorem leadingSlashes_replicate {s : Nat} (hs : s ≤ 2) {cs : List Char}
    (h : cs.head? ≠ some '/') : leadingSlashes (List.replicate s '/' ++ cs) = s := by
  rw [leadingSlashes, takeWhile_slash_append s h, List.length_replicate]
  match s with
  | 0 | 1 | 2 => rfl

theorem head?_intercalate {ns : List Name} (h : ∀ n ∈ ns, isName n = true ∧ '/' ∉ n) :
    (['/'].intercalate ns).head? ≠ some '/' := by
  cases ns with
  | nil => simp
  | cons n ns =>
    obtain ⟨hn, hs⟩ := h n List.mem_cons_self
    cases n with
    | nil => simp [isName] at hn
    | cons c n =>
      rw [List.intercalate_cons_cons_left, List.head?_cons]
      rintro ⟨⟩
      exact hs List.mem_cons_self

theorem ofChars_chars {p : Path} (hp : p.Normal) : ofChars p.chars = p := by
  obtain ⟨s, ns⟩ := p
  have hfilter : ns.filter isName = ns := List.filter_eq_self.2 fun n hn => (hp.names n hn).1
  by_cases hns : ns = []
  · subst hns
    have hs := hp.slashes
    match s with
    | 0 | 1 | 2 => decide
  · have hchars : chars ⟨s, ns⟩ = List.replicate s '/' ++ ['/'].intercalate ns := by
      rw [chars, if_neg (by simp [hns])]
    have hslashes : leadingSlashes (chars ⟨s, ns⟩) = s := by
      rw [hchars]
      exact leadingSlashes_replicate hp.slashes (head?_intercalate hp.names)
    rw [ofChars, hslashes, pieces_chars hp hns, List.filter_append, hfilter]
    simp [isName]

theorem ofText_text {p : Path} (hp : p.Normal) : ofText p.text = p := by
  rw [ofText, toList_text, ofChars_chars hp]

theorem normal_ofText (s : String) : (ofText s).Normal := normal_ofChars _

theorem Normal.join {p : Path} (hp : p.Normal) (s : String) : (p.join s).Normal := by
  have hs := normal_ofText s
  unfold Path.join
  simp only
  split
  · refine ⟨hp.slashes, fun n hn => ?_⟩
    rcases List.mem_append.1 hn with hn | hn
    · exact hp.names n hn
    · exact hs.names n hn
  · exact hs

theorem join_name (p : Path) {s : String} (hname : isName s.toList = true) (hslash : '/' ∉ s.toList) :
    p.join s = ⟨p.slashes, p.names ++ [s.toList]⟩ := by
  have hpieces : pieces s.toList = [s.toList] := List.splitOn_eq_singleton hslash
  have hhead : s.toList.head? ≠ some '/' := fun h => hslash (List.mem_of_head? h)
  have hzero : leadingSlashes s.toList = 0 := leadingSlashes_replicate (Nat.zero_le 2) hhead
  rw [join, ofText, ofChars, hzero, hpieces]
  simp [hname]

theorem mem_names_join {p : Path} {s : String} {n : Name} (h : n ∈ (p.join s).names) :
    n ∈ p.names ∨ n ∈ (ofText s).names := by
  unfold Path.join at h
  simp only at h
  split at h
  · exact List.mem_append.1 h
  · exact .inr h

theorem mem_of_mem_names {s : String} {n : Name} (h : n ∈ (ofText s).names) {c : Char} (hc : c ∈ n) :
    c ∈ s.toList :=
  mem_of_mem_pieces (List.mem_filter.1 h).1 hc

/-- A text that begins with no slash and ends in a name adds its names to a path. -/
theorem exists_join (p : Path) {cs : List Char} (hcs : cs ≠ []) (hhead : cs.head? ≠ some '/') :
    ∃ (front : List Name) (last : Name),
      (∃ start, cs = start ++ last) ∧ (∀ n ∈ front, isName n = true ∧ '/' ∉ n) ∧ '/' ∉ last ∧
      ∀ more : List Char, '/' ∉ more → isName (last ++ more) = true →
        p.join (String.ofList (cs ++ more)) = ⟨p.slashes, p.names ++ front ++ [last ++ more]⟩ := by
  obtain ⟨front, last, h⟩ := exists_last_piece cs
  have hself := h [] List.not_mem_nil
  rw [List.append_nil, List.append_nil] at hself
  refine ⟨front.filter isName, last, ?_, ?_, ?_, ?_⟩
  · have hj : ['/'].intercalate (pieces cs) = cs := List.intercalate_splitOn '/'
    rw [hself, intercalate_snoc] at hj
    exact ⟨_, hj.symm⟩
  · intro n hn
    obtain ⟨hmem, hname⟩ := List.mem_filter.1 hn
    have hin : n ∈ pieces cs := hself ▸ List.mem_append_left _ hmem
    exact ⟨hname, slash_notMem_of_mem_pieces hin⟩
  · have hin : last ∈ pieces cs := hself ▸ List.mem_append_right _ (List.mem_singleton_self _)
    exact slash_notMem_of_mem_pieces hin
  · intro more hmore hname
    have hhead' : (cs ++ more).head? ≠ some '/' := by
      obtain ⟨c, rest, rfl⟩ := List.exists_cons_of_ne_nil hcs
      exact hhead
    have hzero : leadingSlashes (cs ++ more) = 0 := leadingSlashes_replicate (Nat.zero_le 2) hhead'
    rw [join, ofText, String.toList_ofList, ofChars]
    simp only [hzero, if_pos, h more hmore, List.filter_append]
    simp [hname]

end ProfilerBootstrap.Path
