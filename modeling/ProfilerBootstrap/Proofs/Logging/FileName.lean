import ProfilerBootstrap.Logging.LogFile

namespace ProfilerBootstrap

namespace FileName

theorem renderFrom_of_no_braces (render : Piece → Except Fault (List Char)) {cs : List Char}
    (hopen : openBrace ∉ cs) (hclose : closeBrace ∉ cs) (shown : Char → List Char)
    (hrender : ∀ c, render (.char c) = .ok (shown c)) :
    renderFrom render .text cs = .ok (cs.flatMap shown) := by
  induction cs with
  | nil => rfl
  | cons c cs ih =>
    rw [List.mem_cons, not_or] at hopen hclose
    have hnext : State.text.next c = .ok (.text, some (.char c)) := by
      rw [State.next, if_neg (Ne.symm hopen.1), if_neg (Ne.symm hclose.1)]
    simp [renderFrom, hnext, hrender, ih hopen.2 hclose.2, bind, Except.bind, pure, Except.pure]

theorem expand_of_no_braces (t : Time) {cs : List Char} (hopen : openBrace ∉ cs)
    (hclose : closeBrace ∉ cs) : expand t cs = .ok cs := by
  have hread : renderFrom (fun _ => .ok []) .text cs = .ok (cs.flatMap fun _ => []) :=
    renderFrom_of_no_braces _ hopen hclose _ fun _ => rfl
  have hexpand : expandAt t 2 cs = .ok (cs.flatMap fun c => [c]) :=
    renderFrom_of_no_braces _ hopen hclose _ fun _ => rfl
  have hsame : cs.flatMap (fun c => [c]) = cs := by simp
  rw [hsame] at hexpand
  rw [expand, hread]
  exact hexpand

end FileName

namespace LogFile

theorem takeWhile_ne_reverse {e : Name} (he : '.' ∉ e) (n : Name) :
    ((n ++ '.' :: e).reverse).takeWhile (· ≠ '.') = e.reverse := by
  rw [List.reverse_append, List.reverse_cons, List.append_assoc, List.takeWhile_append_of_pos]
  · simp
  · intro c hc
    have hne : c ≠ '.' := fun h => he (h ▸ List.mem_reverse.1 hc)
    simpa using hne

/-- The ending of a name begins with its last point, if anything but points comes before it. -/
theorem extension_append {n e : Name} (hn : ∃ c ∈ n, c ≠ '.') (he : '.' ∉ e) :
    extension (n ++ '.' :: e) = '.' :: e := by
  obtain ⟨c, hc⟩ : ∃ c, n.find? (· ≠ '.') = some c := by
    apply Option.isSome_iff_exists.1
    simpa using hn
  obtain ⟨hne, points, rest, rfl, hpoints⟩ := List.find?_eq_some_iff_append.1 hc
  have htake : (points ++ c :: rest ++ '.' :: e).takeWhile (· = '.') = points := by
    rw [List.append_assoc, List.takeWhile_append_of_pos fun a ha => by simpa using hpoints a ha,
      List.cons_append, List.takeWhile_cons_of_neg (by simpa using hne), List.append_nil]
  have hdrop : (points ++ c :: rest ++ '.' :: e).drop points.length = c :: rest ++ '.' :: e := by
    rw [List.append_assoc, List.drop_append_length]
  rw [extension, htake]
  simp only [hdrop, takeWhile_ne_reverse he, List.reverse_reverse]
  rw [if_neg]
  simp only [List.length_reverse, List.length_append, List.length_cons]
  omega

end LogFile

end ProfilerBootstrap
