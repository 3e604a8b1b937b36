import FrameTee.Proofs.Device.Recorded
import FrameTee.Proofs.Stack.Course
import FrameTee.Proofs.Storage.View

/-!
# The copy of a recorder

A tee over a recorder keeps its sink in step with the application. From where it started on the sink
holds the frames that were recorded, as far as the application has ever come, whatever recordings,
reads, commits and rewinds the course was made of (`Capturing.turn`). Reads give these frames as
well.
-/

namespace FrameTee

open MappedRing MemoryDevice

variable {s : StreamSetup} {c₀ recorded accepted bytes : Bytes} {p₀ peak n : Nat}
  {m m' : MemoryDevice} {st st' : SinkState} {ring : MappedRing}

/-- The sink of a tee over a recorder is in step with the application. -/
structure Capturing (s : StreamSetup) (c₀ : Bytes) (p₀ : Nat) (m : MemoryDevice) (st : SinkState)
    (peak : Nat) (recorded : Bytes) : Prop where
  /-- Frames are recorded. -/
  direction : m.direction = .capture
  /-- The ring holds the last of them. -/
  holds : m.Holds s recorded
  /-- The application was never in front of the hardware. -/
  peak_le : peak ≤ m.hwPtr
  /-- The sink stands where the application does, and holds all frames that it has ever reached. -/
  follows : st.Follows c₀ p₀ s.geometry.frameBytes (recorded.getD · 0) peak m.applPtr peak

namespace Capturing

/-- At the start nothing has been recorded. -/
theorem start (hdirection : m.direction = .capture) (happl : m.applPtr = 0) (hhw : m.hwPtr = 0)
    (c₀ : Bytes) (p₀ : Nat) : Capturing s c₀ p₀ m ⟨c₀, p₀⟩ m.applPtr #[] := by
  constructor
  · exact hdirection
  · exact .start hhw
  · rw [happl]
    exact Nat.zero_le _
  · rw [happl]
    exact .start c₀ p₀ _ _

variable (h : Capturing s c₀ p₀ m st peak recorded)
include h

/-- As long as neither the application nor what was recorded before changes, the copy stays in
step. -/
theorem keep {more : Bytes} (hdirection : m'.direction = m.direction)
    (hholds : m'.Holds s (recorded ++ more)) (happl : m'.applPtr = m.applPtr)
    (hhw : m.hwPtr ≤ m'.hwPtr) :
    Capturing s c₀ p₀ m' st (max peak m'.applPtr) (recorded ++ more) := by
  have hpeak : max peak m'.applPtr = peak := by
    rw [happl]
    exact Nat.max_eq_left h.follows.position_le
  rw [hpeak]
  constructor
  · exact hdirection.trans h.direction
  · exact hholds
  · exact Nat.le_trans h.peak_le hhw
  · rw [happl]
    apply h.follows.congr
    intro j hj
    have hreached := Nat.mul_le_mul_right s.geometry.frameBytes h.peak_le
    rw [Bytes.getD_append_left _ (by rw [h.holds.size]; omega)]

/-- Frames that are read or handed over are copied. -/
theorem forth (hinside : st.Inside) (hfirst : m.hwPtr - s.bufferSize ≤ m.applPtr)
    (hlast : m.applPtr + n ≤ m.hwPtr)
    (hbytes : bytes = m.mapped.streamBytes s m.applPtr n)
    (hbecomes : m.Becomes m' m.mapped (m.applPtr + n) m.hwPtr m.played) :
    Capturing s c₀ p₀ m' (st.append bytes) (max peak m'.applPtr) recorded := by
  have hend : (m.applPtr + n) * s.geometry.frameBytes ≤ m.hwPtr * s.geometry.frameBytes :=
    Nat.mul_le_mul_right _ hlast
  have hsize : bytes.size = n * s.geometry.frameBytes := by
    rw [hbytes, size_streamBytes]
  have hmoved := h.follows.append hinside h.follows.position_le hsize fun i hi => by
    rw [hsize] at hi
    rw [hbytes, h.holds.streamBytes_eq hfirst hlast, Bytes.getD_extract _ (by rwa [h.holds.size])]
    rw [Nat.add_mul]
    omega
  rw [hbecomes.applPtr]
  constructor
  · exact hbecomes.direction.trans h.direction
  · exact h.holds.congr hbecomes.ring hbecomes.hwPtr
  · rw [hbecomes.hwPtr]
    exact Nat.max_le.mpr ⟨h.peak_le, hlast⟩
  · rw [hbecomes.applPtr]
    exact hmoved

/-- Frames that are taken back stay in the copy. -/
theorem back (hn : n ≤ m.applPtr)
    (hbecomes : m.Becomes m' m.mapped (m.applPtr - n) m.hwPtr m.played) :
    Capturing s c₀ p₀ m' (st.back (n * s.geometry.frameBytes)) (max peak m'.applPtr) recorded := by
  have hpeak : max peak m'.applPtr = peak := by
    rw [hbecomes.applPtr]
    exact Nat.max_eq_left (Nat.le_trans (Nat.sub_le _ _) h.follows.position_le)
  rw [hpeak]
  constructor
  · exact hbecomes.direction.trans h.direction
  · exact h.holds.congr hbecomes.ring hbecomes.hwPtr
  · rw [hbecomes.hwPtr]
    exact h.peak_le
  · rw [hbecomes.applPtr]
    exact h.follows.back hn (Nat.le_refl _)

/-- Every turn keeps the copy in step. -/
theorem turn (hintact : m.Intact) (hsetup : m.setup = some s) (hinside : st.Inside)
    (hturn : Turn s m st m' st' accepted) :
    Capturing s c₀ p₀ m' st' (max peak m'.applPtr) (recorded ++ accepted) := by
  have hwindow := hintact.window s hsetup
  cases hturn with
  | rest hbecomes =>
      apply h.keep hbecomes.direction _ hbecomes.applPtr (Nat.le_of_eq hbecomes.hwPtr.symm)
      rw [Array.append_empty]
      exact h.holds.congr hbecomes.ring hbecomes.hwPtr
  | forth n ring bytes havail hsize hstored hcapture hbecomes =>
      obtain rfl := hcapture h.direction
      rw [avail_of_capture h.direction] at havail
      rw [h.direction] at hwindow
      obtain ⟨hle, hfull⟩ := hwindow
      have hlast : m.applPtr + n ≤ m.hwPtr := by omega
      rw [Array.append_empty]
      exact h.forth hinside (by omega) hlast (hstored.streamBytes_inside hsize).symm hbecomes
  | back n hrewindable hbecomes =>
      rw [Array.append_empty]
      exact h.back (window_back hwindow hrewindable).1 hbecomes
  | play n hdirection =>
      rw [h.direction] at hdirection
      cases hdirection
  | record n ring bytes _ hn hsize hstored hbecomes =>
      apply h.keep hbecomes.direction _ hbecomes.applPtr
      · rw [hbecomes.hwPtr]
        exact Nat.le_add_right _ _
      · exact h.holds.record hsize hstored hbecomes.ring hbecomes.hwPtr
  | edit ring hdirection =>
      rw [h.direction] at hdirection
      cases hdirection

end Capturing

section Course

variable {μ η : Type} [Medium μ η]

/-- A tee over a recorder that has just been made ready, at the end of any course: the sink stands
as far behind its start as the application has come, and from the start to the highest frame that
the application has reached it holds the frames that were recorded. All other bytes are as they
were. The next read gives as many recorded frames as it says, from the position of the application
on, and changes nothing else in the buffers. -/
theorem sink_of_capture {m : MemoryDevice} {laid : Option RingLayout} {layer : Layer η}
    (view : SinkView μ layer.sink.handle) {stack : TeeStack MemoryDevice η} {w₀ w : World μ}
    (hreached : Reached m laid) (hdirection : m.direction = .capture)
    (hprepare : m.prepare.result = .ok ()) (hlook : view.look w₀.media = some ⟨c₀, p₀⟩)
    (hinside : p₀ ≤ c₀.size)
    (h : Course ⟨[layer], m.prepare.device⟩ w₀ stack w peak recorded) :
    ∃ s st, stack.device.setup = some s ∧ view.look w.media = some st ∧
      recorded.size = stack.device.hwPtr * s.geometry.frameBytes ∧
      st.position = p₀ + stack.device.applPtr * s.geometry.frameBytes ∧
      stack.device.applPtr ≤ peak ∧ peak ≤ stack.device.hwPtr ∧
      st.contents.extract p₀ (p₀ + peak * s.geometry.frameBytes) =
        recorded.extract 0 (peak * s.geometry.frameBytes) ∧
      (∀ i < p₀, st.contents[i]? = c₀[i]?) ∧
      (∀ i, p₀ + peak * s.geometry.frameBytes ≤ i → st.contents[i]? = c₀[i]?) ∧
      (∀ buffer frames n, (stack.readInterleaved buffer frames w).1.result = .ok n →
        stack.device.applPtr + n ≤ stack.device.hwPtr ∧
          ∀ i : Nat, (stack.readInterleaved buffer frames w).2[i]? =
            if i < n * s.geometry.frameBytes then
              recorded[stack.device.applPtr * s.geometry.frameBytes + i]?
            else buffer[i]?) ∧
      ∀ buffers frames n, (stack.readPlanar buffers frames w).1.result = .ok n →
        stack.device.applPtr + n ≤ stack.device.hwPtr ∧
          buffers.size = s.geometry.channelCount ∧
          ∀ (c : Nat) (buffer : Bytes), buffers[c]? = some buffer →
            ∃ read, (stack.readPlanar buffers frames w).2[c]? = some read ∧
              ∀ i : Nat, read[i]? =
                if i < n * s.geometry.sampleBytes then
                  recorded[(stack.device.applPtr + i / s.geometry.sampleBytes) *
                      s.geometry.frameBytes + c * s.geometry.sampleBytes +
                    i % s.geometry.sampleBytes]?
                else buffer[i]? := by
  obtain ⟨⟨s, hsetup⟩, hready⟩ := hreached.sound.intact.prepared_of_prepare hprepare
  have hstart : Capturing s c₀ p₀ m.prepare.device ⟨c₀, p₀⟩ m.prepare.device.applPtr #[] := by
    rw [hready]
    apply Capturing.start
    · exact hdirection
    all_goals rfl
  have hsetup₀ : m.prepare.device.setup = some s := by
    rw [hready]
    exact hsetup
  obtain ⟨st, laid', hreached', hsetup', -, hlook', -, hcapturing⟩ :=
    h.keeps view (I := Capturing s c₀ p₀) (.act (.ask .prepare) hreached) hsetup₀ ⟨layer, rfl, rfl⟩
      hlook hinside hstart fun _ _ _ _ _ _ _ hintact hsetup₁ hinside₁ hcapturing hturn =>
        hcapturing.turn hintact hsetup₁ hinside₁ hturn
  have hintact := hreached'.sound.intact
  have hheld : peak * s.geometry.frameBytes ≤ recorded.size := by
    rw [hcapturing.holds.size]
    exact Nat.mul_le_mul_right _ hcapturing.peak_le
  refine ⟨s, st, hsetup', hlook', hcapturing.holds.size, hcapturing.follows.position_eq,
    hcapturing.follows.position_le, hcapturing.peak_le,
    hcapturing.follows.copied.extract_eq hheld, hcapturing.follows.copied.before,
    hcapturing.follows.copied.beyond, ?_, ?_⟩
  · intro buffer frames n hok
    exact hcapturing.holds.getElem?_readInterleaved hintact hsetup' buffer frames
      (TeeStack.result_of_recorded_eq_ok hok)
  · intro buffers frames n hok
    exact hcapturing.holds.getElem?_readPlanar hintact hsetup' buffers frames
      (TeeStack.result_of_recorded_eq_ok hok)

end Course

/-- A tee over a recorder of four frames that lie channel by channel, with a writer that already
holds seven bytes and stands at the second. Three frames are recorded, two are read and one of them
is taken back; two more are recorded, the last of them in the place of the first one. The read that
follows starts with a frame that has been read before. -/
theorem sink_of_capture_read_again :
    let sink : Sink Handle := .ofWriter "copy" (.writer 0)
    let w₀ : World Storage :=
      { media := { writers := #[{ data := #[9, 9, 9, 9, 9, 9, 9], position := 1 }] } }
    let m : MemoryDevice := (Action.ask (.setParams ⟨.u8, 2, 8000, 4⟩)).after
      ((new "hw" .capture).withLayout .planar)
    let stack₀ : TeeStack MemoryDevice Handle := ⟨[⟨sink, true, .capture, {}⟩], m.prepare.device⟩
    let a := stack₀.pass (MemoryDevice.perform (.inject #[1, 2, 3, 4, 5, 6])) w₀
    let b := a.stack.act (.ask (.readInterleaved #[0, 0, 0, 0, 0] 2)) a.world
    let c := b.stack.act (.ask (.rewind 1)) b.world
    let d := c.stack.pass (MemoryDevice.perform (.inject #[7, 8, 9, 10])) c.world
    ∃ st, (Storage.view (.writer 0)).look d.world.media = some st ∧ st.position = 3 ∧
      st.contents.extract 1 5 = #[1, 2, 3, 4] ∧
      ∃ read, (d.stack.readPlanar #[#[0, 0, 0, 0], #[0, 0, 0, 0]] 3 d.world).2[1]? = some read ∧
        read[0]? = some 4 ∧ read[1]? = some 6 ∧ read[2]? = some 8 ∧ read[3]? = some 0 := by
  intro sink w₀ m stack₀ a b c d
  have hreached : Reached m (some .planar) :=
    .act (.ask (.setParams ⟨.u8, 2, 8000, 4⟩)) (.drive (.setLayout .planar) (.new "hw" .capture))
  have ha : Course stack₀ w₀ a.stack a.world _ _ := Course.start.drive (.inject #[1, 2, 3, 4, 5, 6])
  have hb := ha.act_of_isOk (.ask (.readInterleaved #[0, 0, 0, 0, 0] 2)) trivial (by decide +kernel)
  have hc := hb.act_of_isOk (.ask (.rewind 1)) trivial (by decide +kernel)
  obtain ⟨_, _, rfl, rfl, hd⟩ : ∃ peak recorded, peak = 2 ∧
      recorded = #[1, 2, 3, 4, 5, 6, 7, 8, 9, 10] ∧
      Course stack₀ w₀ d.stack d.world peak recorded :=
    ⟨_, _, by decide +kernel, by decide +kernel, hc.drive (.inject #[7, 8, 9, 10])⟩
  obtain ⟨s, st, hsetup, hlook, -, hposition, -, -, hextract, -, -, -, hplanar⟩ :=
    sink_of_capture (Storage.view (.writer 0)) hreached rfl rfl rfl (by decide) hd
  have hsetup' : d.stack.device.setup = some ⟨⟨2, .u8⟩, 8000, 4⟩ := by decide +kernel
  have hmoved : d.stack.device.applPtr = 1 := by decide +kernel
  obtain rfl := Option.some.inj (hsetup'.symm.trans hsetup)
  have hend : st.position = 3 := by
    rw [hposition, hmoved]
    rfl
  have hresult : (d.stack.readPlanar #[#[0, 0, 0, 0], #[0, 0, 0, 0]] 3 d.world).1.result = .ok 3 :=
    eq_ok_of_toOption (by decide +kernel)
  obtain ⟨-, -, hchannels⟩ := hplanar _ _ _ hresult
  obtain ⟨read, hread, hbytes⟩ := hchannels 1 #[0, 0, 0, 0] rfl
  rw [hmoved] at hbytes
  exact ⟨st, hlook, hend, hextract, read, hread, hbytes 0, hbytes 1, hbytes 2, hbytes 3⟩

end FrameTee
