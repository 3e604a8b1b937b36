import FrameTee.Proofs.Sink.Gauge
import FrameTee.Proofs.Storage.View

/-!
# Positions of writers and files

Writers and files move with requests that are granted and with no others, so every handle of a
storage has a gauge (`Storage.gauge`), and it ignores all other handles.
-/

namespace FrameTee

namespace Storage

variable {s : Storage} {handle : Handle} {st : SinkState}

/-- A write that fails leaves the bytes and the position. -/
theorem look_write_of_error {bytes : Bytes} {source : IoError} (h : look handle s = some st)
    (herror : (Medium.write handle bytes s).1 = .error source) :
    look handle (Medium.write handle bytes s).2 = some st := by
  cases handle with
  | writer number =>
      obtain ⟨writer, hwriter, rfl⟩ := exists_writer_of_look h
      have hwrite : Medium.write (Handle.writer number) bytes s = _ :=
        s.withWriter_of_getElem? (·.write bytes) hwriter
      rw [hwrite] at herror ⊢
      rw [look_setWriter hwriter]
      simp only [BufferWriter.write] at herror ⊢
      split at herror
      · rfl
      · cases herror
  | file opened =>
      obtain ⟨number, data, hfile, -, -⟩ := exists_file_of_look h
      change (s.writeFile opened bytes).1 = _ at herror
      rw [writeFile, hfile] at herror
      cases herror

/-- A seek that fails leaves the bytes and the position. -/
theorem look_seek_of_error {distance : Int} {source : IoError} (h : look handle s = some st)
    (herror : (Medium.seek handle distance s).1 = .error source) :
    look handle (Medium.seek handle distance s).2 = some st := by
  cases handle with
  | writer number =>
      obtain ⟨writer, hwriter, rfl⟩ := exists_writer_of_look h
      have hseek : Medium.seek (Handle.writer number) distance s = _ :=
        s.withWriter_of_getElem? (·.seek distance) hwriter
      rw [hseek] at herror ⊢
      rw [look_setWriter hwriter]
      simp only [BufferWriter.seek] at herror ⊢
      split at herror
      · rfl
      · split at herror
        · rename_i hstart
          rw [if_pos hstart]
        · cases herror
  | file opened =>
      obtain ⟨number, data, hfile, -, -⟩ := exists_file_of_look h
      change (s.seekFile opened distance).1 = _ at herror
      change look (.file opened) (s.seekFile opened distance).2 = _
      rw [seekFile, hfile] at herror ⊢
      dsimp only at herror ⊢
      split at herror
      · rename_i hstart
        rw [if_pos hstart]
        exact h
      · cases herror

/-- Positions of writers and files. -/
def gauge (handle : Handle) : Gauge Storage handle where
  position s := (look handle s).map (·.position)
  write_full := by
    intro s p bytes h hbytes hok
    obtain ⟨st, hlook, rfl⟩ := Option.map_eq_some_iff.mp h
    have hafter : look handle (Medium.write handle bytes s).2 = some (st.append bytes) :=
      (view handle).look_write hlook hbytes hok
    rw [hafter]
    rfl
  write_failed := by
    intro s p source bytes h _ herror
    obtain ⟨st, hlook, rfl⟩ := Option.map_eq_some_iff.mp h
    rw [look_write_of_error hlook herror]
    rfl
  seek_back := by
    intro s p told distance h hok
    obtain ⟨st, hlook, rfl⟩ := Option.map_eq_some_iff.mp h
    obtain ⟨hle, hback⟩ := (view handle).look_seek distance told hlook hok
    have hafter : look handle (Medium.seek handle (-(distance : Int)) s).2 =
        some (st.back distance) := hback
    refine ⟨hle, ?_⟩
    rw [hafter]
    rfl
  seek_failed := by
    intro s p source distance h herror
    obtain ⟨st, hlook, rfl⟩ := Option.map_eq_some_iff.mp h
    rw [look_seek_of_error hlook herror]
    rfl

/-- A writer is reached through one handle only. -/
theorem look_withWriter_of_ne {α : Type} {number : Nat} (hne : Handle.writer number ≠ handle)
    (s : Storage) (action : BufferWriter → Except IoError α × BufferWriter) :
    look handle (s.withWriter number action).2 = look handle s := by
  cases hwriter : s.writers[number]? with
  | none => rw [withWriter, hwriter]
  | some writer =>
      rw [s.withWriter_of_getElem? action hwriter]
      cases handle with
      | writer other =>
          have hother : number ≠ other := fun h => hne (congrArg _ h)
          simp only [look, Array.getElem?_setIfInBounds_ne hother]
      | file opened => rfl

/-- What is written through one open file leaves the positions of all others. -/
theorem position_writeFile_of_ne {opened : Nat} (hne : Handle.file opened ≠ handle) (s : Storage)
    (bytes : Bytes) :
    (look handle (s.writeFile opened bytes).2).map (·.position) =
      (look handle s).map (·.position) := by
  rw [writeFile]
  split
  · rfl
  · split
    · split <;> rfl
    · cases handle with
      | writer number => rfl
      | file other =>
          have hother : opened ≠ other := fun h => hne (congrArg _ h)
          simp only [look, Array.getElem?_setIfInBounds_ne hother, Array.getElem?_modify]
          cases s.openFiles[other]? with
          | none => rfl
          | some file =>
              simp only [Option.bind_some]
              cases file.target with
              | full => rfl
              | file number =>
                  dsimp only
                  split <;> simp [Function.comp_def]

/-- Moving one open file leaves all others. -/
theorem look_seekFile_of_ne {opened : Nat} (hne : Handle.file opened ≠ handle) (s : Storage)
    (distance : Int) : look handle (s.seekFile opened distance).2 = look handle s := by
  rw [seekFile]
  split
  · rfl
  · split
    · rfl
    · dsimp only
      split
      · rfl
      · cases handle with
        | writer number => rfl
        | file other =>
            have hother : opened ≠ other := fun h => hne (congrArg _ h)
            simp only [look, Array.getElem?_setIfInBounds_ne hother]

/-- A position moves with requests through its own handle only, also where two handles reach the
same bytes. -/
theorem ignores_gauge {other : Handle} (hne : other ≠ handle) :
    (gauge handle).Ignores other where
  ne := hne
  write := by
    intro s bytes
    cases other with
    | writer number => exact congrArg (Option.map _) (look_withWriter_of_ne hne s _)
    | file opened => exact position_writeFile_of_ne hne s bytes
  seek := by
    intro s distance
    cases other with
    | writer number => exact congrArg (Option.map _) (look_withWriter_of_ne hne s _)
    | file opened => exact congrArg (Option.map _) (look_seekFile_of_ne hne s distance)

end Storage

end FrameTee
