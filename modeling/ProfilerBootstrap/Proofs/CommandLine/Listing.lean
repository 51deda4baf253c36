import ProfilerBootstrap.CommandLine.Run
import ProfilerBootstrap.Proofs.Console.Paragraph
import ProfilerBootstrap.Proofs.Sequence
import ProfilerBootstrap.Proofs.Variables.Listing

namespace ProfilerBootstrap.CommandLine

open Console

theorem ofTexts_listing : Request.ofTexts ["env"] = .ok ⟨none, .listing⟩ :=
  eq_ok_of_toOption (by decide +kernel)

theorem run_listing {s : Session}
    (h : ∃ name, Environment.isOwn name = true ∧ s.env.contains name = true) :
    s.run ["env"] = (s.showWarnings.print
      (paragraph s.screen.width (Markup.literal s.env.listing.toList)), .ok (.finished 0)) := by
  obtain ⟨name, hown, hcontains⟩ := h
  obtain ⟨value, hvalue⟩ := Option.isSome_iff_exists.1 hcontains
  have hlisting : s.showWarnings.env.listing ≠ "" := fun hempty =>
    List.ne_nil_of_mem (Environment.mem_own_iff.2 ⟨hown, hvalue⟩)
      (Environment.listing_eq_empty_iff.1 hempty)
  unfold Session.run
  rw [ofTexts_listing]
  simp only [Session.prepare, Session.perform, Session.showListing, if_neg hlisting]
  rfl

/-- What the command adds to the output is the listing with a line feed just if no code in it stands
for a picture, no control in it is stripped, and each of its lines fits. -/
theorem run_env {s : Session}
    (h : ∃ name, Environment.isOwn name = true ∧ s.env.contains name = true) :
    ∃ shown, s.run ["env"] = (s.showWarnings.print shown, .ok (.finished 0)) ∧
      (s.run ["env"]).1.logger.stdout = s.logger.stdout ++ shown ∧
      (shown = s.env.listing ++ "\n" ↔
        (∀ code ∈ Emoji.codesOf s.env.listing.toList, Emoji.picture? code = none) ∧
          (∀ c ∈ s.env.listing.toList, Markup.isStripped c = false) ∧
          ∀ line ∈ s.env.listing.toList.splitOn '\n', Fits s.screen.width line) := by
  refine ⟨_, run_listing h, by rw [run_listing h]; rfl, ?_⟩
  rw [← paragraph_literal_eq_self_iff, String.ofList_toList]

/-- The code in the value becomes a picture. -/
theorem run_env_draws_code :
    let s : Session := ⟨.ofList [("ELASTIC_A", "x:a:y")],
      ⟨"Linux", "64", "/var/log", fun _ => none⟩, .initial,
      ⟨.fresh [['r']], [], 0, "", [], "", "", fun _ _ => default⟩, fun _ => ⟨80, 80, fun _ => none⟩⟩
    (∃ name, Environment.isOwn name = true ∧ s.env.contains name = true) ∧
      ∃ shown, s.run ["env"] = (s.showWarnings.print shown, .ok (.finished 0)) ∧
        shown ≠ s.env.listing ++ "\n" := by
  intro s
  have hown : ∃ name, Environment.isOwn name = true ∧ s.env.contains name = true :=
    ⟨"ELASTIC_A", by decide +kernel⟩
  have hcode : "a".toList ∈ Emoji.codesOf s.env.listing.toList := by decide +kernel
  have hpicture : Emoji.picture? "a".toList ≠ none := by decide +kernel
  obtain ⟨shown, hrun, -, hshown⟩ := run_env hown
  exact ⟨hown, shown, hrun, fun hsame => hpicture ((hshown.1 hsame).1 _ hcode)⟩

end ProfilerBootstrap.CommandLine
