import FrameTee.Proofs.Sink.View
import FrameTee.Storage.Basic

/-!
# Writers and files seen as files

Every handle of a storage has a view (`Storage.view`): what is behind it are the bytes and the
position of a writer or of an open file.
-/

namespace FrameTee

namespace Storage

/-- What is behind a handle: the bytes and the position of a writer or of an open file. Nothing can
be seen of a handle that refers to neither, or to the device that has no room. -/
def look (handle : Handle) (s : Storage) : Option SinkState :=
  match handle with
  | .writer number => s.writers[number]?.map fun writer => ⟨writer.data, writer.position⟩
  | .file opened =>
    s.openFiles[opened]?.bind fun file =>
      match file.target with
      | .full => none
      | .file number => s.tree.contents[number]?.map (⟨·, file.position⟩)

theorem look_writer {s : Storage} {number : Nat} {writer : BufferWriter}
    (h : s.writers[number]? = some writer) :
    look (.writer number) s = some ⟨writer.data, writer.position⟩ := by
  rw [look, h, Option.map_some]

theorem look_setWriter {s : Storage} {number : Nat} {writer : BufferWriter}
    (h : s.writers[number]? = some writer) (writer' : BufferWriter) :
    look (.writer number) { s with writers := s.writers.setIfInBounds number writer' } =
      some ⟨writer'.data, writer'.position⟩ := by
  obtain ⟨hlt, -⟩ := Array.getElem?_eq_some_iff.mp h
  apply look_writer
  exact Array.getElem?_setIfInBounds_self_of_lt hlt

theorem exists_writer_of_look {s : Storage} {number : Nat} {st : SinkState}
    (h : look (.writer number) s = some st) :
    ∃ writer, s.writers[number]? = some writer ∧ st = ⟨writer.data, writer.position⟩ := by
  obtain ⟨writer, hwriter, rfl⟩ := Option.map_eq_some_iff.mp h
  exact ⟨writer, hwriter, rfl⟩

theorem exists_file_of_look {s : Storage} {opened : Nat} {st : SinkState}
    (h : look (.file opened) s = some st) :
    ∃ number data, s.openFiles[opened]? = some ⟨.file number, st.position⟩ ∧
      s.tree.contents[number]? = some data ∧ st.contents = data := by
  obtain ⟨⟨target, position⟩, hfile, hst⟩ := Option.bind_eq_some_iff.mp h
  cases target with
  | full => cases hst
  | file number =>
      obtain ⟨data, hdata, rfl⟩ := Option.map_eq_some_iff.mp hst
      exact ⟨number, data, hfile, hdata, rfl⟩

theorem look_file {s : Storage} {opened number position : Nat} {data : Bytes}
    (hfile : s.openFiles[opened]? = some ⟨.file number, position⟩)
    (hdata : s.tree.contents[number]? = some data) :
    look (.file opened) s = some ⟨data, position⟩ := by
  simp [look, hfile, hdata]

/-- Writers and files look like files. -/
def view (handle : Handle) : SinkView Storage handle where
  look := look handle
  look_write := by
    intro s st bytes h _ hok
    cases handle with
    | writer number =>
        obtain ⟨writer, hwriter, rfl⟩ := exists_writer_of_look h
        have hwrite : Medium.write (Handle.writer number) bytes s = _ :=
          s.withWriter_of_getElem? (·.write bytes) hwriter
        rw [hwrite] at hok ⊢
        rw [look_setWriter hwriter]
        simp only [BufferWriter.write] at hok ⊢
        split at hok
        · cases hok
        · rename_i hpending
          have htaken : writer.accepts bytes.size = bytes.size := Except.ok.inj hok
          simp only [htaken, Array.extract_size]
          rfl
    | file opened =>
        obtain ⟨number, data, hfile, hdata, hcontents⟩ := exists_file_of_look h
        obtain ⟨hopened, -⟩ := Array.getElem?_eq_some_iff.mp hfile
        obtain ⟨hnumber, -⟩ := Array.getElem?_eq_some_iff.mp hdata
        change look (.file opened) (s.writeFile opened bytes).2 = _
        rw [writeFile, hfile]
        apply look_file
        · exact Array.getElem?_setIfInBounds_self_of_lt hopened
        · rw [Array.getElem?_modify, if_pos rfl, hdata, ← hcontents]
          rfl
  look_seek := by
    intro s st distance position h hok
    cases handle with
    | writer number =>
        obtain ⟨writer, hwriter, rfl⟩ := exists_writer_of_look h
        have hseek : Medium.seek (Handle.writer number) (-(distance : Int)) s = _ :=
          s.withWriter_of_getElem? (·.seek (-(distance : Int))) hwriter
        rw [hseek] at hok ⊢
        rw [look_setWriter hwriter]
        rw [BufferWriter.seek] at hok ⊢
        split at hok
        · cases hok
        · dsimp only at hok ⊢
          split at hok
          · cases hok
          · rename_i hstart
            rw [if_neg hstart]
            have htarget : ((writer.position : Int) + -(distance : Int)).toNat =
                writer.position - distance := by omega
            refine ⟨by omega, ?_⟩
            simp only [htarget]
            rfl
    | file opened =>
        obtain ⟨number, data, hfile, hdata, hcontents⟩ := exists_file_of_look h
        obtain ⟨hopened, -⟩ := Array.getElem?_eq_some_iff.mp hfile
        change (s.seekFile opened (-(distance : Int))).1 = _ at hok
        change _ ∧ look (.file opened) (s.seekFile opened (-(distance : Int))).2 = _
        rw [seekFile, hfile] at hok ⊢
        dsimp only at hok ⊢
        split at hok
        · cases hok
        · rename_i hstart
          rw [if_neg hstart]
          have htarget : ((st.position : Int) + -(distance : Int)).toNat =
              st.position - distance := by omega
          refine ⟨by omega, ?_⟩
          simp only [htarget]
          have hback : st.back distance = ⟨data, st.position - distance⟩ := by
            rw [← hcontents]
            rfl
          rw [hback]
          apply look_file
          · exact Array.getElem?_setIfInBounds_self_of_lt hopened
          · exact hdata

end Storage

end FrameTee
