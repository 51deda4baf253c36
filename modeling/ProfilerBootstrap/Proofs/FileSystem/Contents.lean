import ProfilerBootstrap.Proofs.FileSystem.Frame
import ProfilerBootstrap.Proofs.FileSystem.Sound

namespace ProfilerBootstrap.FileSystem

def Stocked (fs : FileSystem) : Prop :=
  ∀ e ∈ fs.entries, ∀ id, e.2 = .file id → id < fs.contents.size

theorem Sound.stocked {fs : FileSystem} (hs : fs.Sound) : fs.Stocked := hs.files

section
variable {fs : FileSystem} {l : Location}

theorem Stocked.id_lt (h : fs.Stocked) {id : FileId} (hl : fs.find? l = some (.file id)) :
    id < fs.contents.size :=
  h _ (mem_of_find? hl (ne_nil_of_find? hl (by simp))) id rfl

theorem Stocked.erase (h : fs.Stocked) (l : Location) : (fs.erase l).Stocked :=
  fun e he => h e (List.mem_filter.1 he).1

theorem Stocked.insert_dir (h : fs.Stocked) (l : Location) : (fs.insert l .dir).Stocked := by
  intro e he id hid
  rcases List.mem_cons.1 he with rfl | he
  · simp at hid
  · exact h.erase l e he id hid

theorem Stocked.create (h : fs.Stocked) (l : Location) : (fs.create l).1.Stocked := by
  have hsize : (fs.create l).1.contents.size = fs.contents.size + 1 := Array.size_push _
  intro e he id hid
  rw [hsize]
  rcases List.mem_cons.1 he with rfl | he
  · obtain rfl := by simpa using hid
    exact Nat.lt_succ_self _
  · exact Nat.lt_succ_of_lt (h e (List.mem_filter.1 he).1 id hid)

theorem Stocked.move (h : fs.Stocked) (l m : Location) : (fs.move l m).Stocked := by
  intro e he id hid
  obtain ⟨x, hx, rfl⟩ := List.mem_map.1 he
  refine h x (List.mem_filter.1 hx).1 id ?_
  split at hid <;> exact hid

theorem Stocked.append (h : fs.Stocked) (id : FileId) (bytes : ByteArray) :
    (fs.append id bytes).Stocked := by
  intro e he i hi
  rw [FileSystem.append, Array.size_modify]
  exact h e he i hi

end

theorem kept_stocked : Kept Stocked where
  mkdir hdone h := by
    obtain ⟨l, -, rfl⟩ := mkdir_ok hdone
    exact h.insert_dir l
  unlink hdone h := by
    obtain ⟨q, -, rfl⟩ := unlink_ok hdone
    exact h.erase _
  rename hdone h := by
    obtain ⟨p, q, e, -, -, -, ⟨-, rfl⟩ | ⟨-, rfl⟩⟩ := rename_ok hdone
    · exact h
    · exact h.move _ _
  openAppend hdone h := by
    obtain rfl | ⟨l, rfl⟩ := openAppend_ok hdone
    · exact h
    · exact h.create l
  append id bytes h := h.append id bytes

theorem read_create_eq (fs : FileSystem) (l : Location) (id : FileId) :
    (fs.create l).1.read id = fs.read id := by
  by_cases h : id < fs.contents.size
  · exact read_create fs l h
  · -- a file that is made is empty, as is one that is not there
    have hold : fs.read id = .empty := by simp [read, Array.getD, h]
    rw [hold]
    by_cases hid : id = fs.contents.size
    · rw [hid, read_create_self]
    · have hsize : (fs.create l).1.contents.size = fs.contents.size + 1 := Array.size_push _
      have h' : ¬ id < (fs.create l).1.contents.size := by
        rw [hsize]
        exact fun hlt => hid (Nat.le_antisymm (Nat.le_of_lt_succ hlt) (Nat.not_lt.1 h))
      simp [read, Array.getD, h']

theorem keptByEntries_read (fs : FileSystem) :
    KeptByEntries fun fs' => ∀ id, fs'.read id = fs.read id where
  mkdir hdone h := by
    obtain ⟨l, -, rfl⟩ := mkdir_ok hdone
    exact h
  unlink hdone h := by
    obtain ⟨q, -, rfl⟩ := unlink_ok hdone
    exact h
  rename hdone h := by
    obtain ⟨p, q, e, -, -, -, ⟨-, rfl⟩ | ⟨-, rfl⟩⟩ := rename_ok hdone <;> exact h
  openAppend hdone h := by
    obtain rfl | ⟨l, rfl⟩ := openAppend_ok hdone
    · exact h
    · exact fun id => (read_create_eq _ l id).trans (h id)

end ProfilerBootstrap.FileSystem
