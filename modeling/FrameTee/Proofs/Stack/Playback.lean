import FrameTee.Proofs.Stack.Course
import FrameTee.Proofs.Storage.View

/-!
# The copy of a player

A tee over a player keeps its sink in step with the stream. What the sink holds from where it
started are the bytes played since, followed by the pending frames, whatever writes, commits,
rewinds and plays the course was made of (`Playing.turn`).
-/

namespace FrameTee

open MappedRing MemoryDevice

variable {s : StreamSetup} {c₀ played₀ since : Bytes} {p₀ : Nat} {m m' : MemoryDevice}
  {st st' : SinkState} {peak n : Nat} {ring : MappedRing} {bytes accepted : Bytes}

namespace MemoryDevice

/-- The bytes played since some moment, followed by the pending frames. -/
def written (m : MemoryDevice) (s : StreamSetup) (since : Bytes) : Bytes :=
  since ++ m.mapped.streamBytes s m.hwPtr m.pending

theorem size_written (hsize : since.size = m.hwPtr * s.geometry.frameBytes)
    (hle : m.hwPtr ≤ m.applPtr) : (m.written s since).size = m.applPtr * s.geometry.frameBytes := by
  rw [written, pending, Array.size_append, hsize, size_streamBytes, ← Nat.add_mul,
    Nat.add_sub_cancel' hle]

namespace Becomes

/-- A change of the ring that spares the pending frames changes nothing of what was written. -/
theorem written_edit (h : m.Becomes m' ring m.applPtr m.hwPtr m.played)
    (hle : m.hwPtr ≤ m.applPtr)
    (hspared : ∀ j, m.hwPtr * s.geometry.frameBytes ≤ j → j < m.applPtr * s.geometry.frameBytes →
      ring.streamByte s j = m.mapped.streamByte s j) : m'.written s since = m.written s since := by
  rw [written, pending, h.ring, h.applPtr, h.hwPtr]
  congr 1
  apply streamBytes_congr
  rwa [Nat.add_sub_cancel' hle]

/-- Bytes that are played were written before. -/
theorem written_play (h : m.Becomes m' m.mapped m.applPtr (m.hwPtr + n)
    (m.played ++ m.mapped.streamBytes s m.hwPtr n)) (hn : n ≤ m.pending) :
    m'.written s (since ++ m.mapped.streamBytes s m.hwPtr n) = m.written s since := by
  have hn' : n ≤ m.applPtr - m.hwPtr := hn
  have hpending : m.applPtr - m.hwPtr = n + (m.applPtr - (m.hwPtr + n)) := by omega
  simp only [written, pending]
  rw [h.ring, h.applPtr, h.hwPtr, hpending, streamBytes_add, Array.append_assoc]

/-- Frames that are stored behind the pending ones are written behind them. -/
theorem written_forth (h : m.Becomes m' ring (m.applPtr + n) m.hwPtr m.played)
    (hle : m.hwPtr ≤ m.applPtr) (hfits : m.applPtr + n ≤ m.hwPtr + s.bufferSize)
    (hsize : bytes.size = n * s.geometry.frameBytes)
    (hstored : Stored s (m.applPtr * s.geometry.frameBytes) (n * s.geometry.frameBytes)
      (bytes.getD · 0) m.mapped ring) : m'.written s since = m.written s since ++ bytes := by
  have hpending : m.applPtr + n - m.hwPtr = (m.applPtr - m.hwPtr) + n := by omega
  have hbefore : ring.streamBytes s m.hwPtr (m.applPtr - m.hwPtr) =
      m.mapped.streamBytes s m.hwPtr (m.applPtr - m.hwPtr) := by
    apply streamBytes_congr
    intro j hfirst hlast
    rw [Nat.add_sub_cancel' hle] at hlast
    exact hstored.streamByte_before hfits hfirst hlast
  simp only [written, pending]
  rw [h.ring, h.applPtr, h.hwPtr, hpending, streamBytes_add, hbefore, Nat.add_sub_cancel' hle,
    hstored.streamBytes_inside hsize, Array.append_assoc]

/-- Frames that are taken back are the last ones that were written. -/
theorem written_back (h : m.Becomes m' m.mapped (m.applPtr - n) m.hwPtr m.played)
    (s : StreamSetup) (since : Bytes) (hn : n ≤ m.pending) :
    ∃ taken, m.written s since = m'.written s since ++ taken := by
  have hn' : n ≤ m.applPtr - m.hwPtr := hn
  have hpending : m.applPtr - m.hwPtr = (m.applPtr - n - m.hwPtr) + n := by omega
  simp only [written, pending]
  rw [h.ring, h.applPtr, h.hwPtr, hpending, streamBytes_add, ← Array.append_assoc]
  exact ⟨_, rfl⟩

end Becomes

end MemoryDevice

/-- The sink of a tee over a player is in step with the stream. -/
structure Playing (s : StreamSetup) (c₀ : Bytes) (p₀ : Nat) (played₀ since : Bytes)
    (m : MemoryDevice) (st : SinkState) (peak : Nat) : Prop where
  /-- Frames are played. -/
  direction : m.direction = .playback
  /-- The bytes that were played since. -/
  played : m.played = played₀ ++ since
  /-- They are as many as the hardware has moved on. -/
  size_since : since.size = m.hwPtr * s.geometry.frameBytes
  /-- The sink stands where the application does, and holds what was played and what is pending. -/
  follows : st.Follows c₀ p₀ s.geometry.frameBytes ((m.written s since).getD · 0) m.applPtr
    m.applPtr peak

namespace Playing

/-- At the start nothing has been played and nothing is pending. -/
theorem start (hdirection : m.direction = .playback) (hplayed : m.played = played₀)
    (happl : m.applPtr = 0) (hhw : m.hwPtr = 0) (c₀ : Bytes) (p₀ : Nat) :
    Playing s c₀ p₀ played₀ #[] m ⟨c₀, p₀⟩ m.applPtr := by
  constructor
  · exact hdirection
  · rw [hplayed, Array.append_empty]
  · rw [hhw, Nat.zero_mul]
    rfl
  · rw [happl]
    exact .start c₀ p₀ _ _

variable (h : Playing s c₀ p₀ played₀ since m st peak)
include h

/-- As long as neither the frames written nor their copy change, the copy stays in step. -/
theorem keep {since' : Bytes} (hdirection : m'.direction = m.direction)
    (hplayed : m'.played = played₀ ++ since')
    (hsize : since'.size = m'.hwPtr * s.geometry.frameBytes) (happl : m'.applPtr = m.applPtr)
    (hwritten : m'.written s since' = m.written s since) :
    Playing s c₀ p₀ played₀ since' m' st (max peak m'.applPtr) := by
  rw [happl, Nat.max_eq_left h.follows.position_le]
  constructor
  · exact hdirection.trans h.direction
  · exact hplayed
  · exact hsize
  · rw [happl, hwritten]
    exact h.follows

/-- A change of the ring that spares the pending frames keeps the copy in step. -/
theorem edit (hle : m.hwPtr ≤ m.applPtr)
    (hspared : ∀ j, m.hwPtr * s.geometry.frameBytes ≤ j → j < m.applPtr * s.geometry.frameBytes →
      ring.streamByte s j = m.mapped.streamByte s j)
    (hbecomes : m.Becomes m' ring m.applPtr m.hwPtr m.played) :
    Playing s c₀ p₀ played₀ since m' st (max peak m'.applPtr) := by
  apply h.keep hbecomes.direction _ _ hbecomes.applPtr
  · exact hbecomes.written_edit hle hspared
  · exact hbecomes.played.trans h.played
  · rw [hbecomes.hwPtr]
    exact h.size_since

/-- Frames that are written are copied. -/
theorem forth (hinside : st.Inside) (hle : m.hwPtr ≤ m.applPtr)
    (hsize : bytes.size = n * s.geometry.frameBytes)
    (hwritten : m'.written s since = m.written s since ++ bytes)
    (hbecomes : m.Becomes m' ring (m.applPtr + n) m.hwPtr m.played) :
    Playing s c₀ p₀ played₀ since m' (st.append bytes) (max peak m'.applPtr) := by
  have hlong := size_written h.size_since hle
  have hgrown : st.Follows c₀ p₀ s.geometry.frameBytes ((m'.written s since).getD · 0) m.applPtr
      m.applPtr peak := by
    apply h.follows.congr
    intro j hj
    rw [hwritten, Bytes.getD_append_left _ (by rwa [hlong])]
  have hmoved := hgrown.append hinside (Nat.le_refl _) hsize fun i _ => by
    rw [hwritten, ← hlong, Bytes.getD_append_right]
  rw [Nat.max_eq_right (Nat.le_add_right _ _)] at hmoved
  constructor
  · exact hbecomes.direction.trans h.direction
  · exact hbecomes.played.trans h.played
  · rw [hbecomes.hwPtr]
    exact h.size_since
  · rw [hbecomes.applPtr]
    exact hmoved

/-- Frames that are taken back are no longer held. -/
theorem back (hle : m.hwPtr ≤ m.applPtr) (hn : n ≤ m.pending)
    (hbecomes : m.Becomes m' m.mapped (m.applPtr - n) m.hwPtr m.played) :
    Playing s c₀ p₀ played₀ since m' (st.back (n * s.geometry.frameBytes))
      (max peak m'.applPtr) := by
  obtain ⟨taken, htaken⟩ := hbecomes.written_back s since hn
  have hle' : n ≤ m.applPtr - m.hwPtr := hn
  have hsize : since.size = m'.hwPtr * s.geometry.frameBytes := by
    rw [hbecomes.hwPtr]
    exact h.size_since
  have hlong := size_written hsize (by rw [hbecomes.hwPtr, hbecomes.applPtr]; omega)
  have happl : m'.applPtr ≤ m.applPtr := by
    rw [hbecomes.applPtr]
    exact Nat.sub_le _ _
  have hmoved := h.follows.back (Nat.le_trans hle' (Nat.sub_le _ _)) happl
  rw [Nat.max_eq_left (Nat.le_trans happl h.follows.position_le)]
  constructor
  · exact hbecomes.direction.trans h.direction
  · exact hbecomes.played.trans h.played
  · exact hsize
  · rw [← hbecomes.applPtr] at hmoved
    apply hmoved.congr
    intro j hj
    rw [htaken, Bytes.getD_append_left _ (by rwa [hlong])]

/-- Every turn keeps the copy in step. -/
theorem turn (hintact : m.Intact) (hsetup : m.setup = some s) (hinside : st.Inside)
    (hturn : Turn s m st m' st' accepted) :
    ∃ since', Playing s c₀ p₀ played₀ since' m' st' (max peak m'.applPtr) := by
  have hwindow := hintact.window s hsetup
  rw [h.direction] at hwindow
  obtain ⟨hle, hfull⟩ := hwindow
  cases hturn with
  | rest hbecomes => exact ⟨since, h.edit hle (fun _ _ _ => rfl) hbecomes⟩
  | forth n ring bytes havail hsize hstored _ hbecomes =>
      have hfits : m.applPtr + n ≤ m.hwPtr + s.bufferSize := by
        rw [avail_of_playback h.direction] at havail
        omega
      exact ⟨since, h.forth hinside hle hsize (hbecomes.written_forth hle hfits hsize hstored)
        hbecomes⟩
  | back n hrewindable hbecomes =>
      rw [rewindable_of_playback h.direction] at hrewindable
      exact ⟨since, h.back hle hrewindable hbecomes⟩
  | play n _ hn hbecomes =>
      refine ⟨_, h.keep hbecomes.direction ?_ ?_ hbecomes.applPtr (hbecomes.written_play hn)⟩
      · rw [hbecomes.played, h.played, Array.append_assoc]
      · rw [Array.size_append, h.size_since, size_streamBytes, hbecomes.hwPtr, Nat.add_mul]
  | record n ring bytes hdirection =>
      rw [h.direction] at hdirection
      cases hdirection
  | edit ring _ hspared hbecomes => exact ⟨since, h.edit hle hspared hbecomes⟩

end Playing

section Course

variable {μ η : Type} [Medium μ η]

/-- A tee over a player that has just been made ready, at the end of any course: the sink stands as
far behind its start as the application has come, and from the start to there it holds what has been
played since, followed by the pending frames. All bytes before the start, and all that were never
reached, are as they were. No rewind takes the sink back into what has been played. -/
theorem sink_of_playback {m : MemoryDevice} {laid : Option RingLayout} {layer : Layer η}
    (view : SinkView μ layer.sink.handle) {stack : TeeStack MemoryDevice η} {w₀ w : World μ}
    {recorded : Bytes} (hreached : Reached m laid) (hdirection : m.direction = .playback)
    (hprepare : m.prepare.result = .ok ()) (hlook : view.look w₀.media = some ⟨c₀, p₀⟩)
    (hinside : p₀ ≤ c₀.size)
    (h : Course ⟨[layer], m.prepare.device⟩ w₀ stack w peak recorded) :
    ∃ s st since, stack.device.setup = some s ∧ view.look w.media = some st ∧
      stack.device.played = m.played ++ since ∧
      st.position = p₀ + stack.device.applPtr * s.geometry.frameBytes ∧
      st.contents.extract p₀ st.position = since ++
        stack.device.mapped.streamBytes s stack.device.hwPtr stack.device.pending ∧
      (∀ i < p₀, st.contents[i]? = c₀[i]?) ∧
      stack.device.applPtr ≤ peak ∧
      (∀ i, p₀ + peak * s.geometry.frameBytes ≤ i → st.contents[i]? = c₀[i]?) ∧
      ∀ frames n, (stack.device.rewind frames).result = .ok n →
        n * s.geometry.frameBytes ≤ Sink.maxDistance ∧
          p₀ + since.size + n * s.geometry.frameBytes ≤ st.position := by
  obtain ⟨⟨s, hsetup⟩, hready⟩ := hreached.sound.intact.prepared_of_prepare hprepare
  have hstart : Playing s c₀ p₀ m.played #[] m.prepare.device ⟨c₀, p₀⟩
      m.prepare.device.applPtr := by
    rw [hready]
    apply Playing.start
    · exact hdirection
    all_goals rfl
  have hsetup₀ : m.prepare.device.setup = some s := by
    rw [hready]
    exact hsetup
  obtain ⟨st, laid', hreached', hsetup', -, hlook', -, since, hplaying⟩ :=
    h.keeps view (I := fun m' st peak _ => ∃ since, Playing s c₀ p₀ m.played since m' st peak)
      (.act (.ask .prepare) hreached) hsetup₀ ⟨layer, rfl, rfl⟩ hlook hinside ⟨#[], hstart⟩
      fun _ _ _ _ _ _ _ hintact hsetup₁ hinside₁ ⟨_, hplaying⟩ hturn =>
        hplaying.turn hintact hsetup₁ hinside₁ hturn
  have hintact := hreached'.sound.intact
  have hwindow := hintact.window s hsetup'
  rw [hplaying.direction] at hwindow
  have hlong := size_written hplaying.size_since hwindow.1
  refine ⟨s, st, since, hsetup', hlook', hplaying.played, hplaying.follows.position_eq, ?_,
    hplaying.follows.copied.before, hplaying.follows.position_le,
    hplaying.follows.copied.beyond, ?_⟩
  · calc
      st.contents.extract p₀ st.position =
          (stack.device.written s since).extract 0
            (stack.device.applPtr * s.geometry.frameBytes) := by
        rw [hplaying.follows.position_eq]
        exact hplaying.follows.copied.extract_eq (Nat.le_of_eq hlong.symm)
      _ = stack.device.written s since := by
        rw [← hlong]
        exact Array.extract_size
  · intro frames n hok
    obtain ⟨layout, hlaid⟩ := hintact.laid s hsetup'
    have hn := (rewind_eq_ok hsetup' hok).1
    have hring := hlaid.supported.ringBytes_le
    have hbytes := StreamSetup.Supported.bytes_le_ringBytes
      (Nat.le_trans hn (rewindable_le_bufferSize (hintact.window s hsetup')))
    rw [rewindable_of_playback hplaying.direction] at hn
    have hback : (stack.device.hwPtr + n) * s.geometry.frameBytes ≤
        stack.device.applPtr * s.geometry.frameBytes := by
      apply Nat.mul_le_mul_right
      have hle := hwindow.1
      omega
    rw [Nat.add_mul] at hback
    rw [hplaying.follows.position_eq, hplaying.size_since, Sink.maxDistance]
    omega

end Course

/-- A tee over a player of four frames, with a writer that already holds six bytes and stands at the
second. Three frames are written, one is played, and the free frame of the ring is changed in place;
then one frame is taken back, and two are handed over as they lie in the ring. -/
theorem sink_of_playback_rewound :
    let sink : Sink Handle := .ofWriter "copy" (.writer 0)
    let w₀ : World Storage :=
      { media := { writers := #[{ data := #[9, 9, 9, 9, 9, 9], position := 1 }] } }
    let stack₀ : TeeStack MemoryDevice Handle := ⟨[⟨sink, true, .playback, {}⟩], readyPlayer⟩
    let a := stack₀.act (.ask (.writeInterleaved #[1, 2, 3] 3)) w₀
    let b := a.stack.pass (MemoryDevice.perform (.consume 1)) a.world
    let c := b.stack.act (.poke 3 7) b.world
    let d := c.stack.act (.ask (.rewind 1)) c.world
    let e := d.stack.act (.ask (.commit 2)) d.world
    ∃ st, (Storage.view (.writer 0)).look e.world.media = some st ∧ st.position = 5 ∧
      st.contents.extract 1 5 = #[1, 2, 3, 7] ∧ st.contents[0]? = some 9 ∧
      st.contents[5]? = some 9 := by
  intro sink w₀ stack₀ a b c d e
  have hreached : Reached b.stack.device (some .interleaved) := by
    apply Reached.drive (.consume 1)
    rw [TeeStack.device_act]
    exact .act _ reached_readyPlayer
  have hsetup : b.stack.device.setup = some ⟨⟨1, .u8⟩, 8000, 4⟩ := by decide +kernel
  obtain ⟨layout, hlayout, hlaid⟩ := hreached.sound.laid _ hsetup
  obtain rfl := Option.some.inj hlayout
  have hspares : (Action.poke 3 7).Spares b.stack.device := by
    apply Action.spares_poke (by decide +kernel) hsetup hlaid
    have hpending : b.stack.device.applPtr = 3 := by decide +kernel
    have hfree : ∀ j < 3, RingLayout.interleaved.place ⟨⟨1, .u8⟩, 8000, 4⟩ j ≠ 3 := by decide
    rw [hpending]
    exact fun j _ hj => hfree j hj
  have ha : Course stack₀ w₀ a.stack a.world _ _ :=
    Course.start.act_of_isOk _ trivial (by decide +kernel)
  have hb := ha.drive (.consume 1)
  have hc := hb.act_of_isOk (.poke 3 7) hspares (by decide +kernel)
  have hd := hc.act_of_isOk (.ask (.rewind 1)) trivial (by decide +kernel)
  have he := hd.act_of_isOk (.ask (.commit 2)) trivial (by decide +kernel)
  obtain ⟨s, st, since, hsetup, hlook, hplayed, hposition, hextract, hbefore, -, hbeyond, -⟩ :=
    sink_of_playback (Storage.view (.writer 0))
      (.act (.ask (.setParams ⟨.u8, 1, 8000, 4⟩)) (.new "hw" .playback)) rfl rfl rfl
      (by decide) he
  have hplayed' : e.stack.device.played = #[1] := by decide +kernel
  have hmoved : e.stack.device.applPtr = 4 := by decide +kernel
  have hsetup' : e.stack.device.setup = some ⟨⟨1, .u8⟩, 8000, 4⟩ := by decide +kernel
  have hpending : e.stack.device.mapped.streamBytes ⟨⟨1, .u8⟩, 8000, 4⟩ e.stack.device.hwPtr
      e.stack.device.pending = #[2, 3, 7] := by decide +kernel
  obtain rfl := Option.some.inj (hsetup'.symm.trans hsetup)
  have hsince : since = #[1] := (Array.empty_append.symm.trans hplayed.symm).trans hplayed'
  have hend : st.position = 5 := by
    rw [hposition, hmoved]
    rfl
  refine ⟨st, hlook, hend, ?_, hbefore 0 (by decide), hbeyond 5 (by decide +kernel)⟩
  rw [hend, hsince, hpending] at hextract
  exact hextract

end FrameTee
