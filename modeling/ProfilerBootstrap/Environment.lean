import ProfilerBootstrap.Bindings

namespace ProfilerBootstrap

/-- The variables, sorted by name; no name occurs twice. -/
structure Environment where
  bindings : List (String × String)
  sorted : bindings.Pairwise (·.1 < ·.1) := by decide

inductive VariableError
  | nullCharacter
  | illegalName
  | emptyName
  deriving DecidableEq, Repr

def VariableError.message : VariableError → String
  | .nullCharacter => "embedded null byte"
  | .illegalName => "illegal environment variable name"
  | .emptyName => "[Errno 22] Invalid argument"

namespace Environment

def empty : Environment := ⟨[], .nil⟩

def get? (env : Environment) (name : String) : Option String := env.bindings.lookup name

def contains (env : Environment) (name : String) : Bool := (env.get? name).isSome

def insertSorted (name value : String) : List (String × String) → List (String × String)
  | [] => [(name, value)]
  | (n, v) :: rest =>
    if name < n then (name, value) :: (n, v) :: rest
    else if n = name then (name, value) :: rest
    else (n, v) :: insertSorted name value rest

theorem mem_insertSorted {name value : String} {l : List (String × String)} {e : String × String}
    (h : e ∈ insertSorted name value l) : e.1 = name ∨ e ∈ l := by
  induction l with
  | nil => simp_all [insertSorted]
  | cons x rest ih =>
    obtain ⟨n, v⟩ := x
    unfold insertSorted at h
    split at h
    · rcases List.mem_cons.1 h with rfl | h
      · exact .inl rfl
      · exact .inr h
    · split at h
      · rcases List.mem_cons.1 h with rfl | h
        · exact .inl rfl
        · exact .inr (List.mem_cons_of_mem _ h)
      · rcases List.mem_cons.1 h with rfl | h
        · exact .inr List.mem_cons_self
        · rcases ih h with h | h
          · exact .inl h
          · exact .inr (List.mem_cons_of_mem _ h)

theorem sorted_insertSorted (name value : String) {l : List (String × String)}
    (h : l.Pairwise (·.1 < ·.1)) : (insertSorted name value l).Pairwise (·.1 < ·.1) := by
  induction l with
  | nil => simp [insertSorted]
  | cons x rest ih =>
    obtain ⟨n, v⟩ := x
    have hx := List.pairwise_cons.1 h
    unfold insertSorted
    split
    · rename_i hlt
      refine List.pairwise_cons.2 ⟨fun e he => ?_, h⟩
      rcases List.mem_cons.1 he with rfl | he
      · exact hlt
      · exact String.lt_trans hlt (hx.1 e he)
    · rename_i hlt
      split
      · rename_i heq
        subst heq
        exact List.pairwise_cons.2 ⟨hx.1, hx.2⟩
      · rename_i hne
        refine List.pairwise_cons.2 ⟨fun e he => ?_, ih hx.2⟩
        rcases mem_insertSorted he with h' | h'
        · rw [h']
          exact Std.lt_of_le_of_ne (Std.not_lt.1 hlt) hne
        · exact hx.1 e h'

theorem lookup_insertSorted (name value m : String) (l : List (String × String)) :
    (insertSorted name value l).lookup m = if m = name then some value else l.lookup m := by
  induction l with
  | nil => exact Bindings.lookup_cons_eq name m value []
  | cons x rest ih =>
    obtain ⟨n, v⟩ := x
    unfold insertSorted
    split
    · exact Bindings.lookup_cons_eq name m value _
    · rw [Bindings.lookup_cons_eq]
      split
      · rename_i heq
        rw [Bindings.lookup_cons_eq, heq]
        by_cases hm : m = name
        · rw [if_pos hm, if_pos hm]
        · rw [if_neg hm, if_neg hm, if_neg hm]
      · rename_i hne
        rw [Bindings.lookup_cons_eq, ih]
        by_cases hm : m = name
        · have hn : m ≠ n := fun h => hne (h.symm.trans hm)
          rw [if_neg hn, if_pos hm, if_pos hm]
        · rw [if_neg hm, if_neg hm]

def insert (env : Environment) (name value : String) : Environment :=
  ⟨insertSorted name value env.bindings, sorted_insertSorted name value env.sorted⟩

theorem get?_insert (env : Environment) (name value m : String) :
    (env.insert name value).get? m = if m = name then some value else env.get? m :=
  lookup_insertSorted name value m env.bindings

def erase (env : Environment) (name : String) : Environment :=
  ⟨env.bindings.filter (·.1 ≠ name), env.sorted.filter _⟩

theorem get?_erase (env : Environment) (name m : String) :
    (env.erase name).get? m = if m = name then none else env.get? m :=
  Bindings.lookup_filter_ne name m env.bindings

/-- Sets a variable. Its name has to be there and holds no equals sign. -/
def set (env : Environment) (name value : String) : Except VariableError Environment :=
  if name.toList.contains '\x00' || value.toList.contains '\x00' then .error .nullCharacter
  else if name.toList.contains '=' then .error .illegalName
  else if name = "" then .error .emptyName
  else .ok (env.insert name value)

def ofList (vs : List (String × String)) : Environment :=
  vs.foldl (fun env v => env.insert v.1 v.2) empty

end Environment

end ProfilerBootstrap
