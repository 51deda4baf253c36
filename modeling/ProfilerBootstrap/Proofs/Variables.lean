import ProfilerBootstrap.Proofs.Text.Case
import ProfilerBootstrap.Variables

namespace ProfilerBootstrap

open Text (EitherCase Spells)

def TruthText : Bool → String → Prop
  | true, s => s = "1" ∨ EitherCase "true".toList s.toList
  | false, s => s = "0" ∨ EitherCase "false".toList s.toList

/-- A stretch of a text between semicolons or its ends. -/
def IsSegment (s text : List Char) : Prop :=
  ';' ∉ s ∧ ∃ before after, text = before ++ s ++ after ∧
    (before = [] ∨ ∃ more, before = more ++ [';']) ∧ (after = [] ∨ ∃ more, after = ';' :: more)

/-- Some segment of a text is the name of a target, in either case. -/
def NamesTarget (text : String) (t : LogTarget) : Prop :=
  ∃ s, IsSegment s text.toList ∧ EitherCase t.name.toList s

theorem eitherCase_digit {d : Char} (hlower : d.toLower = d) (hupper : d.toUpper = d)
    {s : List Char} : EitherCase [d] s ↔ s = [d] := by
  constructor
  · intro h
    cases h with
    | cons hletter hrest =>
      cases hrest
      rcases hletter with rfl | rfl
      · rw [hlower]
      · rw [hupper]
  · rintro rfl
    exact .cons (.inl hlower.symm) .nil

theorem truthText_iff {b : Bool} {s : String} : TruthText b s ↔
    if b then lowerCase s = "true" ∨ lowerCase s = "1"
    else lowerCase s = "false" ∨ lowerCase s = "0" := by
  have hdigit {d : Char} (hlower : d.toLower = d) (hupper : d.toUpper = d) :
      EitherCase [d] s.toList ↔ s = String.ofList [d] := by
    rw [eitherCase_digit hlower hupper, ← String.toList_inj, String.toList_ofList]
  have hone : lowerCase s = "1" ↔ s = "1" :=
    (lowerCase_eq_iff (by decide) s).trans (hdigit rfl rfl)
  have hzero : lowerCase s = "0" ↔ s = "0" :=
    (lowerCase_eq_iff (by decide) s).trans (hdigit rfl rfl)
  cases b with
  | true => exact or_comm.trans (or_congr (lowerCase_eq_iff (by decide) s) hone).symm
  | false => exact or_comm.trans (or_congr (lowerCase_eq_iff (by decide) s) hzero).symm

theorem parseBool?_eq_some_iff {s : String} {b : Bool} : parseBool? s = some b ↔ TruthText b s := by
  rw [truthText_iff]
  unfold parseBool?
  dsimp only
  split
  · rename_i htrue
    cases b with
    | true => simpa using htrue
    | false => rcases htrue with h | h <;> simp [h]
  · rename_i htrue
    split
    · rename_i hfalse
      cases b with
      | true => simpa using htrue
      | false => simpa using hfalse
    · rename_i hfalse
      cases b with
      | true => simpa using htrue
      | false => simpa using hfalse

theorem isSegment_of_mem_splitOn {s text : List Char} (h : s ∈ text.splitOn ';') :
    IsSegment s text := by
  by_cases hin : ';' ∈ text
  · -- the text before its first semicolon is one segment, the others are those of the text after it
    obtain ⟨front, rest, htext, hfront⟩ := List.eq_append_cons_of_mem hin
    have hshorter : rest.length < text.length := by
      rw [htext, List.length_append, List.length_cons]
      omega
    rw [htext, List.splitOn_append_cons_self_of_not_mem hfront] at h
    rcases List.mem_cons.1 h with rfl | h
    · exact ⟨hfront, [], ';' :: rest, htext, .inl rfl, .inr ⟨rest, rfl⟩⟩
    · obtain ⟨hs, before, after, hrest, hbefore, hafter⟩ := isSegment_of_mem_splitOn h
      refine ⟨hs, front ++ ';' :: before, after, by simp [htext, hrest], .inr ?_, hafter⟩
      rcases hbefore with rfl | ⟨more, rfl⟩
      · exact ⟨front, rfl⟩
      · exact ⟨front ++ ';' :: more, by simp⟩
  · rw [List.splitOn_eq_singleton hin] at h
    obtain rfl := List.mem_singleton.1 h
    exact ⟨hin, [], [], by simp, .inl rfl, .inl rfl⟩
termination_by text.length

theorem mem_splitOn_iff {s text : List Char} : s ∈ text.splitOn ';' ↔ IsSegment s text := by
  refine ⟨isSegment_of_mem_splitOn, ?_⟩
  rintro ⟨hs, before, after, rfl, hbefore, hafter⟩
  have hfirst : s ∈ (s ++ after).splitOn ';' := by
    rcases hafter with rfl | ⟨more, rfl⟩
    · rw [List.append_nil, List.splitOn_eq_singleton hs]
      exact List.mem_singleton_self s
    · rw [List.splitOn_append_cons_self_of_not_mem hs]
      exact List.mem_cons_self
  rcases hbefore with rfl | ⟨more, rfl⟩
  · exact hfirst
  · rw [List.append_assoc, List.append_assoc, List.singleton_append, List.splitOn_append_cons_self]
    exact List.mem_append_right _ hfirst

theorem namesTarget_iff {text : String} {t : LogTarget} : NamesTarget text t ↔
    (Environment.segments text).any (fun s => lowerCase s = t.name) = true := by
  have hword : t.name.toList.all fun w => Case.IsLower w ∧ w.toNat ≠ 0 := by cases t <;> decide
  simp only [NamesTarget, Environment.segments, List.any_map, List.any_eq_true, Function.comp_apply,
    decide_eq_true_eq, lowerCase_eq_iff hword, String.toList_ofList, mem_splitOn_iff]

theorem mem_logTargets_iff {env : Environment} {raw : String}
    (hraw : env.get? Variables.logTargets = some raw) (t : LogTarget) :
    t ∈ env.logTargets ↔ NamesTarget raw t ∨ (t = .file ∧ ∀ u, ¬NamesTarget raw u) := by
  have hall : ∀ u, u ∈ LogTarget.all := by intro u; cases u <;> decide
  unfold Environment.logTargets
  rw [hraw, Option.getD_some]
  dsimp only
  have hfound (u : LogTarget) : u ∈ LogTarget.all.filter (fun t =>
      (Environment.segments raw).any fun s => lowerCase s = t.name) ↔ NamesTarget raw u := by
    rw [List.mem_filter, namesTarget_iff, and_iff_right (hall u)]
  split
  · rename_i hempty
    have hnone : ∀ u, ¬NamesTarget raw u := fun u hu => by
      have := (hfound u).2 hu
      rw [List.isEmpty_iff.1 hempty] at this
      exact List.not_mem_nil this
    rw [List.mem_singleton, or_iff_right (hnone t), and_iff_left hnone]
  · rename_i hsome
    obtain ⟨u, hu⟩ := List.exists_mem_of_ne_nil _ fun h => hsome (List.isEmpty_iff.2 h)
    rw [hfound t, or_iff_left]
    exact fun h => h.2 u ((hfound u).1 hu)

theorem Level.parse?_eq_some_iff {s : String} {l : Level} :
    Level.parse? s = some l ↔ Spells l.name.toList s.toList := by
  have hname : Level.parse? s = some l ↔ upperCase s = l.name := by
    unfold Level.parse?
    constructor
    · intro h
      have hname := List.find?_some h
      simpa using (of_decide_eq_true hname).symm
    · intro h
      rw [h]
      cases l <;> decide
  rw [hname]
  exact upperCase_eq_iff (by cases l <;> decide) (by cases l <;> decide) s

theorem forall_getD_eq_iff {α : Type} {p : Option α} {a : α} (hother : ∃ b, b ≠ a) :
    (∀ default, p.getD default = a) ↔ p = some a := by
  cases p with
  | none =>
    obtain ⟨b, hb⟩ := hother
    exact iff_of_false (fun h => hb (h b)) nofun
  | some b => exact ⟨fun h => congrArg some (h b), fun h _ => Option.some.inj h⟩

theorem getD_eq_default {α : Type} {p : Option α} {P : α → Prop} (hp : ∀ a, p = some a ↔ P a)
    (hnone : ∀ a, ¬P a) (default : α) : p.getD default = default := by
  cases p with
  | none => rfl
  | some a => exact absurd ((hp a).1 rfl) (hnone a)

namespace Environment

variable {env env' : Environment} {key raw raw' : String}

theorem value_readBool (hraw : env.get? key = some raw) (default : Bool) :
    (env.readBool key default).value = (parseBool? raw).getD default := by
  unfold readBool
  rw [hraw]
  cases h : parseBool? raw <;> simp only [h] <;> rfl

theorem value_readLevel (hraw : env.get? key = some raw) (default : Level) :
    (env.readLevel key default).value = (Level.parse? raw).getD default := by
  unfold readLevel
  rw [hraw]
  cases h : Level.parse? raw <;> simp only [h] <;> rfl

/-- The targets are the same where the same segments name one, in whatever order and number. -/
theorem logTargets_congr (hraw : env.get? Variables.logTargets = some raw)
    (hraw' : env'.get? Variables.logTargets = some raw')
    (h : ∀ t : LogTarget, ∀ s, EitherCase t.name.toList s →
      (IsSegment s raw'.toList ↔ IsSegment s raw.toList)) :
    env'.logTargets = env.logTargets := by
  have hnames (t : LogTarget) : (segments raw').any (fun s => lowerCase s = t.name) =
      (segments raw).any fun s => lowerCase s = t.name := by
    rw [Bool.eq_iff_iff, ← namesTarget_iff, ← namesTarget_iff]
    exact exists_congr fun s => and_congr_left fun hs => h t s hs
  unfold logTargets
  simp only [hraw, hraw', Option.getD_some, hnames]

/-- What the readers of the environment make of a text. It is a truth value just as a digit or as an
English word in either ASCII case. It is a level just as the name of one, where a dotless i and the
ligature of two F may stand for their letters. Each of its segments is a target just as the name of
one in either ASCII case, and without any the target is the file. No other text comes to anything
but the default. -/
theorem readers_exact (raw : String) :
    (∀ (env : Environment) (key : String), env.get? key = some raw →
      (∀ b, (∀ default, (env.readBool key default).value = b) ↔ TruthText b raw) ∧
      ((∀ b, ¬TruthText b raw) → ∀ default, (env.readBool key default).value = default) ∧
      (∀ l, (∀ default, (env.readLevel key default).value = l) ↔
        Spells l.name.toList raw.toList) ∧
      ((∀ l : Level, ¬Spells l.name.toList raw.toList) →
        ∀ default, (env.readLevel key default).value = default)) ∧
    (∀ l, Level.parse? raw = some l ↔ Spells l.name.toList raw.toList) ∧
    ∀ env : Environment, env.get? Variables.logTargets = some raw →
      (∀ t, t ∈ env.logTargets ↔ NamesTarget raw t ∨ (t = .file ∧ ∀ u, ¬NamesTarget raw u)) ∧
      env.logTargets ≠ [] ∧
      ∀ (env' : Environment) (raw' : String), env'.get? Variables.logTargets = some raw' →
        (∀ t : LogTarget, ∀ s, EitherCase t.name.toList s →
          (IsSegment s raw'.toList ↔ IsSegment s raw.toList)) →
        env'.logTargets = env.logTargets := by
  refine ⟨fun env key hraw => ?_, fun l => Level.parse?_eq_some_iff, fun env hraw => ?_⟩
  · have hbool (b : Bool) : ∃ d, d ≠ b := ⟨!b, by simp⟩
    have hlevel (l : Level) : ∃ d, d ≠ l := by
      cases l with
      | off => exact ⟨.error, nofun⟩
      | _ => exact ⟨.off, nofun⟩
    simp only [value_readBool hraw, value_readLevel hraw]
    refine ⟨fun b => ?_, getD_eq_default fun _ => parseBool?_eq_some_iff, fun l => ?_,
      getD_eq_default fun _ => Level.parse?_eq_some_iff⟩
    · rw [forall_getD_eq_iff (hbool b), parseBool?_eq_some_iff]
    · rw [forall_getD_eq_iff (hlevel l), Level.parse?_eq_some_iff]
  · refine ⟨mem_logTargets_iff hraw, ?_, fun env' raw' hraw' h => logTargets_congr hraw hraw' h⟩
    unfold logTargets
    dsimp only
    split
    · exact List.cons_ne_nil _ _
    · rename_i hsome
      exact fun h => hsome (List.isEmpty_iff.2 h)

/-- A level with a ligature, and a target among segments that name none. -/
theorem readers_exact_ligature :
    let env := ofList [("L", "o\ufb00"), (Variables.logTargets, "x;sTDout;;STDOUT")]
    (∀ default, (env.readLevel "L" default).value = .off) ∧
      ∀ t, t ∈ env.logTargets ↔ t = .stdout := by
  intro env
  constructor
  · have hspells : Spells Level.off.name.toList "o\ufb00".toList :=
      .letter (by decide) (.ligature .nil)
    exact (((readers_exact "o\ufb00").1 env "L" (by decide +kernel)).2.2.1 .off).2 hspells
  · have hnamed (t : LogTarget) : NamesTarget "x;sTDout;;STDOUT" t ↔ t = .stdout := by
      rw [namesTarget_iff]
      cases t <;> decide +kernel
    intro t
    rw [((readers_exact "x;sTDout;;STDOUT").2.2 env (by decide +kernel)).1 t, hnamed,
      or_iff_left fun h => h.2 .stdout ((hnamed .stdout).2 rfl)]

end Environment

end ProfilerBootstrap
