import Mathlib.Data.List.Sort
import ProfilerBootstrap.Proofs.Text.Cut
import ProfilerBootstrap.Variables

namespace ProfilerBootstrap

namespace Environment

def own (env : Environment) : List (String × String) := env.bindings.filter (isOwn ·.1)

/-- The environments have the same variables that concern the profiler. -/
def AgreeOwn (env env' : Environment) : Prop :=
  ∀ name, isOwn name = true → env.get? name = env'.get? name

theorem lookup_eq_some_iff {l : List (String × String)} (h : l.Pairwise (·.1 < ·.1))
    {name value : String} : l.lookup name = some value ↔ (name, value) ∈ l := by
  induction l with
  | nil => simp
  | cons v l ih =>
    obtain ⟨n, w⟩ := v
    obtain ⟨hfirst, hrest⟩ := List.pairwise_cons.1 h
    rw [Bindings.lookup_cons_eq, List.mem_cons, Prod.mk.injEq]
    split
    · rename_i heq
      subst heq
      have hnot : (name, value) ∉ l := fun h => String.lt_irrefl name (hfirst (name, value) h)
      rw [or_iff_left hnot, and_iff_right rfl, Option.some.injEq, eq_comm]
    · rename_i hne
      rw [or_iff_right fun h => hne h.1]
      exact ih hrest

theorem get?_eq_some_iff {env : Environment} {name value : String} :
    env.get? name = some value ↔ (name, value) ∈ env.bindings :=
  lookup_eq_some_iff env.sorted

theorem mem_own_iff {env : Environment} {name value : String} :
    (name, value) ∈ env.own ↔ isOwn name = true ∧ env.get? name = some value := by
  rw [own, List.mem_filter, get?_eq_some_iff, and_comm]

theorem own_eq_iff {env env' : Environment} : env.own = env'.own ↔ env.AgreeOwn env' := by
  constructor
  · intro h name hown
    have hmem (value : String) : env.get? name = some value ↔ env'.get? name = some value := by
      rw [← and_iff_right (b := env.get? name = some value) hown, ← mem_own_iff, h, mem_own_iff,
        and_iff_right hown]
    exact Option.ext hmem
  · intro h
    have hirrefl : Std.Irrefl fun v w : String × String => v.1 < w.1 := ⟨fun v => String.lt_irrefl v.1⟩
    have hanti : Std.Antisymm fun v w : String × String => v.1 < w.1 :=
      ⟨fun v w hvw hwv => absurd (String.lt_trans hvw hwv) (String.lt_irrefl _)⟩
    refine List.Pairwise.eq_of_mem_iff (env.sorted.filter _) (env'.sorted.filter _) fun v => ?_
    obtain ⟨name, value⟩ := v
    show (name, value) ∈ env.own ↔ (name, value) ∈ env'.own
    rw [mem_own_iff, mem_own_iff]
    exact and_congr_right fun hown => by rw [h name hown]

def line (v : String × String) : List Char :=
  ' ' :: ' ' :: (v.1.toList ++ '=' :: '"' :: (v.2.toList ++ ['"']))

def lines (vs : List (String × String)) : List Char := ['\n'].intercalate (vs.map line)

theorem toList_listing (env : Environment) : env.listing.toList = lines env.own := by
  unfold listing lines own
  rw [String.toList_intercalate, List.map_map]
  have hline : (String.toList ∘ fun v : String × String => s!"  {v.1}=\"{v.2}\"") = line := by
    funext v
    simp [line, toString]
  rw [hline]
  rfl

def linesAfter (vs : List (String × String)) : List Char := if vs = [] then [] else '\n' :: lines vs

theorem lines_cons (v : String × String) (vs : List (String × String)) :
    lines (v :: vs) = line v ++ linesAfter vs := by
  cases vs with
  | nil => simp [lines, linesAfter]
  | cons w vs =>
    rw [lines, List.map_cons, List.map_cons, List.intercalate_cons_cons, List.append_assoc]
    rfl

theorem listing_eq_empty_iff {env : Environment} : env.listing = "" ↔ env.own = [] := by
  rw [← String.toList_inj, toList_listing]
  cases env.own with
  | nil => exact iff_of_true rfl rfl
  | cons v vs =>
    rw [lines_cons]
    exact iff_of_false nofun nofun

/-- The one value goes on, in the other, with what looks like the end of its line and the beginning
of the line of another variable. -/
def Disguises (v v' : String) : Prop :=
  ∃ b ∈ Variables.ownBeginnings, ∃ rest, v' = v ++ "\"\n  " ++ b ++ rest

theorem exists_beginning {name : String} (h : isOwn name = true) :
    ∃ b ∈ Variables.ownBeginnings, ∃ rest, name.toList = b.toList ++ rest := by
  obtain ⟨b, hb, hbegins⟩ := List.any_eq_true.1 h
  obtain ⟨rest, hrest⟩ := List.isPrefixOf_iff_prefix.1 hbegins
  exact ⟨b, hb, rest, hrest.symm⟩

/-- A value that is followed by its closing quote is the beginning of another one only if the two
are equal, or the other one goes on as if the first ended there. -/
theorem eq_or_disguises_of_start {vs : List (String × String)}
    (hvs : ∀ v ∈ vs, isOwn v.1 = true) {value value' : String} {more after : List Char}
    (hmore : value'.toList = value.toList ++ more)
    (h : '"' :: linesAfter vs = more ++ '"' :: after) :
    (value = value' ∧ linesAfter vs = after) ∨ Disguises value value' := by
  cases more with
  | nil => exact .inl ⟨String.toList_inj.1 (by simpa using hmore.symm), (List.cons.inj h).2⟩
  | cons q more =>
    right
    obtain ⟨hq, htail⟩ := List.cons.inj h
    subst hq
    cases vs with
    | nil => simp [linesAfter] at htail
    | cons v vs =>
      -- no quote comes before the next name is begun, so the other value goes on at least so far
      obtain ⟨b, hb, rest, hname⟩ := exists_beginning (hvs v List.mem_cons_self)
      have hstart : linesAfter (v :: vs) = ("\n  ".toList ++ b.toList) ++
          (rest ++ '=' :: '"' :: (v.2.toList ++ ['"']) ++ linesAfter vs) := by
        rw [linesAfter, if_neg (by simp), lines_cons, line, hname]
        simp
      have hquotes : ∀ b ∈ Variables.ownBeginnings, '"' ∉ "\n  ".toList ++ b.toList := by decide
      obtain ⟨rest', rfl, -⟩ := Text.exists_of_append_eq_mark
        (hquotes b hb) (hstart.symm.trans htail)
      exact ⟨b, hb, String.ofList rest', by simp [← String.toList_inj, hmore]⟩

theorem eq_or_disguises_of_value {vs ws : List (String × String)}
    (hvs : ∀ v ∈ vs, isOwn v.1 = true) (hws : ∀ w ∈ ws, isOwn w.1 = true) {value value' : String}
    (h : value.toList ++ '"' :: linesAfter vs = value'.toList ++ '"' :: linesAfter ws) :
    (value = value' ∧ linesAfter vs = linesAfter ws) ∨
      Disguises value value' ∨ Disguises value' value := by
  obtain ⟨more, hmore, hafter⟩ | ⟨more, hmore, hafter⟩ := List.append_eq_append_iff.1 h
  · exact (eq_or_disguises_of_start hvs hmore hafter).imp_right .inl
  · obtain ⟨heq, hsame⟩ | hdisguise := eq_or_disguises_of_start hws hmore hafter
    · exact .inl ⟨heq.symm, hsame.symm⟩
    · exact .inr (.inr hdisguise)

theorem lines_eq_of_linesAfter {vs ws : List (String × String)} (h : linesAfter vs = linesAfter ws) :
    lines vs = lines ws := by
  unfold linesAfter at h
  split at h <;> split at h <;> simp_all

/-- Lines tell the variables whose they are, unless some value looks like the lines of two. -/
theorem eq_or_disguises_of_lines {vs ws : List (String × String)}
    (hvs : ∀ v ∈ vs, isOwn v.1 = true ∧ '=' ∉ v.1.toList)
    (hws : ∀ w ∈ ws, isOwn w.1 = true ∧ '=' ∉ w.1.toList) (h : lines vs = lines ws) :
    vs = ws ∨ ∃ name value value', (name, value) ∈ vs ∧ (name, value') ∈ ws ∧
      (Disguises value value' ∨ Disguises value' value) := by
  induction vs generalizing ws with
  | nil =>
    cases ws with
    | nil => exact .inl rfl
    | cons w ws =>
      rw [lines_cons] at h
      cases h
  | cons v vs ih =>
    cases ws with
    | nil =>
      rw [lines_cons] at h
      cases h
    | cons w ws =>
      obtain ⟨name, value⟩ := v
      obtain ⟨name', value'⟩ := w
      obtain ⟨⟨-, hname⟩, hrest⟩ := List.forall_mem_cons.1 hvs
      obtain ⟨⟨-, hname'⟩, hrest'⟩ := List.forall_mem_cons.1 hws
      rw [lines_cons, lines_cons] at h
      simp only [line, List.cons_append, List.append_assoc, List.cons.injEq, true_and,
        List.nil_append] at h
      -- a name ends at the first equals sign
      obtain ⟨hnames, hvalues⟩ := Text.eq_of_append_first hname hname' h
      obtain rfl : name = name' := String.toList_inj.1 hnames
      obtain ⟨rfl, hafter⟩ | hdisguise := eq_or_disguises_of_value (fun v hv => (hrest v hv).1)
        (fun w hw => (hrest' w hw).1) (List.cons.inj hvalues).2
      · obtain rfl | ⟨n, u, u', hu, hu', hdisguise⟩ := ih hrest hrest'
          (lines_eq_of_linesAfter hafter)
        · exact .inl rfl
        · exact .inr ⟨n, u, u', List.mem_cons_of_mem _ hu, List.mem_cons_of_mem _ hu', hdisguise⟩
      · exact .inr ⟨name, value, value', List.mem_cons_self, List.mem_cons_self, hdisguise⟩

theorem Disguises.ne {v v' : String} (h : Disguises v v') : v ≠ v' := by
  obtain ⟨b, -, rest, rfl⟩ := h
  intro heq
  have hlength := congrArg String.length heq
  simp only [String.length_append, show "\"\n  ".length = 4 by decide] at hlength
  omega

/-- As in every environment that a process can have, no name holds an equals sign. -/
def NamesCanBeSet (env : Environment) : Prop := ∀ v ∈ env.bindings, '=' ∉ v.1.toList

theorem own_plain {env : Environment} (h : env.NamesCanBeSet) :
    ∀ v ∈ env.own, isOwn v.1 = true ∧ '=' ∉ v.1.toList := fun v hv =>
  ⟨(List.mem_filter.1 hv).2, h v (List.mem_filter.1 hv).1⟩

theorem listing_congr {env env' : Environment} (h : env.AgreeOwn env') :
    env.listing = env'.listing := by
  rw [← String.toList_inj, toList_listing, toList_listing, own_eq_iff.2 h]

theorem agreeOwn_or_disguises {env env' : Environment} (h : env.NamesCanBeSet)
    (h' : env'.NamesCanBeSet) (hsame : env.listing = env'.listing) :
    env.AgreeOwn env' ∨ ∃ name value value', isOwn name = true ∧ env.get? name = some value ∧
      env'.get? name = some value' ∧ (Disguises value value' ∨ Disguises value' value) := by
  rw [← String.toList_inj, toList_listing, toList_listing] at hsame
  refine (eq_or_disguises_of_lines (own_plain h) (own_plain h') hsame).imp own_eq_iff.1 ?_
  rintro ⟨name, value, value', hv, hv', hdisguise⟩
  obtain ⟨hown, hvalue⟩ := mem_own_iff.1 hv
  exact ⟨name, value, value', hown, hvalue, (mem_own_iff.1 hv').2, hdisguise⟩

theorem newline_notMem_line {v : String × String} :
    '\n' ∉ line v ↔ '\n' ∉ v.1.toList ∧ '\n' ∉ v.2.toList := by
  simp [line]

/-- There is one line for each variable just if no name and no value goes over two lines. -/
theorem splitOn_lines_iff {vs : List (String × String)} (h : vs ≠ []) :
    (lines vs).splitOn '\n' = vs.map line ↔ ∀ v ∈ vs, '\n' ∉ v.1.toList ∧ '\n' ∉ v.2.toList := by
  rw [lines, Text.splitOn_intercalate_eq_iff (by simpa using h), List.forall_mem_map]
  exact forall₂_congr fun v _ => newline_notMem_line

theorem get?_foldl_insert {vs : List (String × String)} (h : (vs.map (·.1)).Nodup)
    {env : Environment} {name value : String} :
    (vs.foldl (fun env v => env.insert v.1 v.2) env).get? name = some value ↔
      (name, value) ∈ vs ∨ name ∉ vs.map (·.1) ∧ env.get? name = some value := by
  induction vs generalizing env with
  | nil => simp
  | cons v vs ih =>
    obtain ⟨n, w⟩ := v
    rw [List.map_cons, List.nodup_cons] at h
    rw [List.foldl_cons, ih h.2, get?_insert, List.map_cons, List.mem_cons, List.mem_cons, not_or,
      Prod.mk.injEq]
    by_cases hname : name = n
    · subst hname
      have hvalue : (name, value) ∉ vs := fun hv => h.1 (List.mem_map_of_mem (f := (·.1)) hv)
      simp [h.1, hvalue, eq_comm]
    · simp [hname]

theorem get?_ofList {vs : List (String × String)} (h : (vs.map (·.1)).Nodup) {name value : String} :
    (ofList vs).get? name = some value ↔ (name, value) ∈ vs := by
  have hempty : empty.get? name ≠ some value := nofun
  rw [ofList, get?_foldl_insert h, or_iff_left fun h => hempty h.2]

theorem nodup_names (env : Environment) : (env.bindings.map (·.1)).Nodup :=
  List.pairwise_map.2 (env.sorted.imp String.ne_of_lt)

theorem listing_of_perm {env : Environment} {vs : List (String × String)}
    (h : vs.Perm env.bindings) : (ofList vs).listing = env.listing := by
  refine listing_congr fun name _ => Option.ext fun value => ?_
  rw [get?_ofList ((h.map _).nodup_iff.2 env.nodup_names), get?_eq_some_iff, h.mem_iff]

/-- Environments agree on the variables that concern the profiler just if they have the same listing
and no value of the one, in the other, goes on with what looks like a line of its own. The listing
has one line for each variable where no name and no value goes over two, and it is the same in
whatever order the variables are set. -/
theorem agreeOwn_iff_listing_eq {env env' : Environment} (h : env.NamesCanBeSet)
    (h' : env'.NamesCanBeSet) :
    (env.AgreeOwn env' ↔ env.listing = env'.listing ∧
        ∀ name value value', isOwn name = true → env.get? name = some value →
          env'.get? name = some value' → ¬Disguises value value' ∧ ¬Disguises value' value) ∧
      (env.own ≠ [] → (env.listing.toList.splitOn '\n' = env.own.map line ↔
        ∀ v ∈ env.own, '\n' ∉ v.1.toList ∧ '\n' ∉ v.2.toList)) ∧
      ∀ vs, vs.Perm env.bindings → (ofList vs).listing = env.listing := by
  refine ⟨⟨fun hagree => ⟨listing_congr hagree, ?_⟩, ?_⟩, fun hown => ?_, fun vs => listing_of_perm⟩
  · intro name value value' hown hvalue hvalue'
    obtain rfl : value = value' := by
      rw [hagree name hown, hvalue'] at hvalue
      exact (Option.some.inj hvalue).symm
    exact ⟨fun hd => hd.ne rfl, fun hd => hd.ne rfl⟩
  · rintro ⟨hsame, hplain⟩
    obtain hagree | ⟨name, value, value', hown, hvalue, hvalue', hdisguise⟩ :=
      agreeOwn_or_disguises h h' hsame
    · exact hagree
    · obtain ⟨hforth, hback⟩ := hplain name value value' hown hvalue hvalue'
      exact absurd hdisguise (not_or.2 ⟨hforth, hback⟩)
  · rw [toList_listing]
    exact splitOn_lines_iff hown

/-- One variable is listed as two would be, and only the disguise in its value keeps it from being
them. -/
theorem agreeOwn_iff_listing_eq_disguised :
    let env : Environment := .ofList [("ELASTIC_A", "x\"\n  ELASTIC_B=\"y")]
    let env' : Environment := .ofList [("ELASTIC_A", "x"), ("ELASTIC_B", "y")]
    env.NamesCanBeSet ∧ env'.NamesCanBeSet ∧ env.listing = env'.listing ∧ ¬env.AgreeOwn env' ∧
      ¬∀ name value value', isOwn name = true → env.get? name = some value →
        env'.get? name = some value' → ¬Disguises value value' ∧ ¬Disguises value' value := by
  intro env env'
  have hnames : env.NamesCanBeSet := by
    show ∀ v ∈ env.bindings, '=' ∉ v.1.toList
    decide +kernel
  have hnames' : env'.NamesCanBeSet := by
    show ∀ v ∈ env'.bindings, '=' ∉ v.1.toList
    decide +kernel
  have hsame : env.listing = env'.listing := by decide +kernel
  have hagree : ¬env.AgreeOwn env' := fun hagree =>
    absurd (hagree "ELASTIC_B" (by decide +kernel)) (by decide +kernel)
  refine ⟨hnames, hnames', hsame, hagree, fun hplain => hagree ?_⟩
  exact (agreeOwn_iff_listing_eq hnames hnames').1.2 ⟨hsame, hplain⟩

end Environment

end ProfilerBootstrap
