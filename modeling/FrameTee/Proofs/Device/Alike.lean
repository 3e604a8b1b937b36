import FrameTee.Proofs.Device.Operations
import FrameTee.Proofs.Ring.Alike
import FrameTee.Request.Hardware

/-!
# Devices that differ in the layout of their rings

Two memory devices are alike (`MemoryDevice.Alike`) if they differ in nothing but how their rings
are laid out. One lemma for each operation says that alike devices answer and report the same and
stay alike. For most operations the ring is of no matter; the others read or store the same frames
of the stream in both rings.
-/

namespace FrameTee

open MappedRing

namespace MemoryDevice

variable {α : Type} {m m' : MemoryDevice} {s : StreamSetup} {n : Nat}

/-- The same device with another ring, and another layout for its next parameters. -/
abbrev relaid (m : MemoryDevice) (layout : RingLayout) (ring : MappedRing) : MemoryDevice :=
  { m with layout, areas := ring.layouts, ring := ring.data }

/-- A device differs from another one at most in the layout of its ring, which holds the same
frames. -/
inductive Alike (m : MemoryDevice) : MemoryDevice → Prop where
  | relaid (layout : RingLayout) (ring : MappedRing)
      (h : ∀ s, m.setup = some s → m.mapped.Alike s ring) : Alike m (m.relaid layout ring)

theorem Alike.eq (h : m.Alike m') :
    m' = { m with layout := m'.layout, areas := m'.areas, ring := m'.ring } := by
  cases h
  rfl

/-- Rings are alike for the setup of a device if they are for the one it has. -/
theorem alike_of_setup (hsetup : m.setup = some s) {ring ring' : MappedRing}
    (h : MappedRing.Alike s ring ring') :
    ∀ s', m.setup = some s' → MappedRing.Alike s' ring ring' := by
  intro s' hsetup'
  obtain rfl := Option.some.inj (hsetup.symm.trans hsetup')
  exact h

theorem Alike.withState (h : m.Alike m') (state : StreamState) :
    Alike { m with state } { m' with state } := by
  obtain ⟨layout, ring, hring⟩ := h
  exact .relaid layout ring hring

theorem Alike.withNonblocking (h : m.Alike m') (nonblocking : Bool) :
    Alike { m with nonblocking } { m' with nonblocking } := by
  obtain ⟨layout, ring, hring⟩ := h
  exact .relaid layout ring hring

/-- Devices without parameters are alike. -/
theorem alike_new (name : String) (direction : Direction) (layout layout' : RingLayout) :
    ((new name direction).withLayout layout).Alike ((new name direction).withLayout layout') :=
  .relaid layout' ⟨.zeros 0, #[]⟩ nofun

/-- Two operations answer and report the same and leave devices that are alike. -/
structure StepsAlike (step step' : DeviceStep MemoryDevice α) : Prop where
  /-- The answers are the same. -/
  result : step'.result = step.result
  /-- The reports are the same. -/
  events : step'.events = step.events
  /-- The devices are alike. -/
  device : step.device.Alike step'.device

namespace StepsAlike

theorem ok (value : α) (h : m.Alike m') :
    StepsAlike (DeviceStep.ok value m) (DeviceStep.ok value m') :=
  ⟨rfl, rfl, h⟩

theorem fail (e : StreamError) (h : m.Alike m') :
    StepsAlike (DeviceStep.fail e m : DeviceStep MemoryDevice α) (DeviceStep.fail e m') :=
  ⟨rfl, rfl, h⟩

/-- Answers that are the same stay the same in another form. -/
theorem map {β : Type} {step step' : DeviceStep MemoryDevice α} (h : StepsAlike step step')
    (f : α → β) :
    StepsAlike
      { result := step.result.map f, device := step.device, events := step.events }
      { result := step'.result.map f, device := step'.device, events := step'.events } := by
  refine ⟨?_, h.events, h.device⟩
  rw [h.result]

end StepsAlike

section Relaid

variable (m) (layout : RingLayout) (ring : MappedRing)

@[simp] theorem pending_relaid : (m.relaid layout ring).pending = m.pending := rfl

@[simp] theorem captured_relaid : (m.relaid layout ring).captured = m.captured := rfl

@[simp] theorem movable_relaid (frames : Nat) :
    (m.relaid layout ring).movable s frames = m.movable s frames :=
  rfl

@[simp] theorem mapped_relaid : (m.relaid layout ring).mapped = ring := rfl

/-- Whether a transfer is granted has nothing to do with the ring. -/
theorem beginTransfer_relaid (op : String) (frames : Nat) :
    (m.relaid layout ring).beginTransfer op frames =
      ((m.beginTransfer op frames).1, (m.beginTransfer op frames).2.relaid layout ring) := by
  simp only [beginTransfer]
  split
  · rfl
  · split
    · rfl
    · rw [movable_relaid]
      split <;> try rfl
      all_goals
        split
        · rfl
        · split <;> rfl

end Relaid

section Quiet

variable (h : m.Alike m')
include h

theorem alike_prepare : StepsAlike m.prepare m'.prepare := by
  obtain ⟨layout, ring, hring⟩ := h
  simp only [prepare]
  cases m.state <;> exact ⟨rfl, rfl, .relaid layout ring hring⟩

theorem alike_start : StepsAlike m.start m'.start := by
  obtain ⟨layout, ring, hring⟩ := h
  simp only [start]
  cases m.state <;> exact ⟨rfl, rfl, .relaid layout ring hring⟩

theorem alike_stop : StepsAlike m.stop m'.stop := by
  obtain ⟨layout, ring, hring⟩ := h
  simp only [stop]
  cases m.state <;> exact ⟨rfl, rfl, .relaid layout ring hring⟩

theorem alike_pause (enable : Bool) : StepsAlike (m.pause enable) (m'.pause enable) := by
  obtain ⟨layout, ring, hring⟩ := h
  simp only [pause]
  cases enable <;> cases m.state <;> exact ⟨rfl, rfl, .relaid layout ring hring⟩

theorem alike_availUpdate : StepsAlike (Device.availUpdate m) (Device.availUpdate m') := by
  obtain ⟨layout, ring, hring⟩ := h
  simp only [Device.availUpdate, requireSetup]
  cases m.setup with
  | none => exact .fail _ (.relaid layout ring hring)
  | some s => exact .ok _ (.relaid layout ring hring)

theorem alike_rewind (frames : Nat) : StepsAlike (m.rewind frames) (m'.rewind frames) := by
  obtain ⟨layout, ring, hring⟩ := h
  simp only [rewind]
  split
  · exact .fail _ (.relaid layout ring hring)
  · split
    · exact .fail _ (.relaid layout ring hring)
    · cases m.state <;> exact ⟨rfl, rfl, .relaid layout ring hring⟩

theorem alike_commit (frames : Nat) : StepsAlike (m.commit frames) (m'.commit frames) := by
  obtain ⟨layout, ring, hring⟩ := h
  simp only [commit, beginTransfer_relaid]
  obtain ⟨e, fault, hbegin⟩ | ⟨s, n, -, hbegin⟩ := m.beginTransfer_cases "mmap_commit" frames
  · rw [hbegin]
    exact .fail e (.relaid layout ring hring)
  · rw [hbegin]
    exact .ok n (.relaid layout ring hring)

end Quiet

section Ring

variable {ring : MappedRing} (layout : RingLayout)

/-- Storing the same frames at the same position leaves both rings alike. -/
theorem alike_storeAt (hring : m.mapped.Alike s ring) (position : Nat) {src : Bytes}
    (hfits : s.geometry.bytesToFrames src.size ≤ s.bufferSize) :
    ∃ data data', m.storeAt s position src = (.ok (), data) ∧
      (m.relaid layout ring).storeAt s position src = (.ok (), data') ∧
      MappedRing.Alike s ⟨data, m.areas⟩ ⟨data', ring.layouts⟩ := by
  obtain ⟨_, hlaid⟩ := hring.laid
  obtain ⟨_, hlaid'⟩ := hring.laid'
  obtain ⟨data, hdata, hstored⟩ := storeAt_eq_ok hlaid position src hfits
  obtain ⟨data', hdata', hstored'⟩ :=
    storeAt_eq_ok (m := m.relaid layout ring) hlaid' position src hfits
  exact ⟨data, data', hdata, hdata', hring.stored hstored hstored'⟩

theorem loadOnto_relaid (hring : m.mapped.Alike s ring) (position frames : Nat) (out : Bytes) :
    (m.relaid layout ring).loadOnto s position frames out = m.loadOnto s position frames out := by
  obtain ⟨_, hlaid⟩ := hring.laid
  obtain ⟨_, hlaid'⟩ := hring.laid'
  rw [loadOnto_eq_ok hlaid, loadOnto_eq_ok (m := m.relaid layout ring) hlaid', mapped_relaid,
    hring.streamBytes_eq]

theorem loadAt_relaid (hring : m.mapped.Alike s ring) (position frames : Nat) :
    (m.relaid layout ring).loadAt s position frames = m.loadAt s position frames := by
  rw [loadAt, loadOnto_relaid layout hring, loadAt]

theorem alike_storeNext (hsetup : m.setup = some s) (hring : m.mapped.Alike s ring) {src : Bytes}
    (hfits : s.geometry.bytesToFrames src.size ≤ s.bufferSize) (n : Nat) :
    StepsAlike (m.storeNext s src n) ((m.relaid layout ring).storeNext s src n) := by
  obtain ⟨data, data', hdata, hdata', hnext⟩ :=
    alike_storeAt layout hring m.applPtr hfits
  simp only [storeNext]
  rw [hdata, hdata']
  exact .ok n (.relaid layout ⟨data', ring.layouts⟩ (alike_of_setup hsetup hnext))

end Ring

section Mapped

variable (h : m.Alike m')
include h

/-- Both rings are laid out anew, each its own way, and filled with zeros. -/
theorem alike_setParams (params : StreamParams) :
    StepsAlike (m.setParams params) (m'.setParams params) := by
  obtain ⟨layout, ring, hring⟩ := h
  simp only [setParams]
  -- The states in which parameters are taken on all take them on alike.
  split <;> try exact .fail _ (.relaid layout ring hring)
  all_goals
    split
    · rename_i haccepts
      rw [byteLength_of_accepts haccepts]
      refine ⟨rfl, rfl, .relaid layout ⟨.zeros _, channelLayouts layout (.ofParams params)⟩ ?_⟩
      intro s hs
      obtain rfl := Option.some.inj hs
      exact .zeros (supported_of_accepts haccepts) m.layout layout
    · exact .fail _ (.relaid layout ring hring)

/-- Either ring can be mapped when the other one can. -/
theorem map_mappedRing_eq : m'.mappedRing.map (fun _ => ()) = m.mappedRing.map fun _ => () := by
  obtain ⟨layout, ring, hring⟩ := h
  simp only [mappedRing, requireSetup]
  cases m.setup <;> rfl

/-- Frames that are stored inside both rings are stored as the same frames of the stream. -/
theorem alike_storeMapped (offset : Nat) (src : Bytes)
    (hinside : ∀ s, m.setup = some s →
      offset + s.geometry.bytesToFrames src.size ≤ s.bufferSize) :
    StepsAlike (Device.storeMapped offset src m) (Device.storeMapped offset src m') := by
  obtain ⟨layout, ring, hring⟩ := h
  cases hsetup : m.setup with
  | none =>
      rw [Device.storeMapped, Device.storeMapped, geometry_eq_error hsetup,
        geometry_eq_error (m := m.relaid layout ring) hsetup]
      exact .fail _ (.relaid layout ring hring)
  | some s =>
      obtain ⟨_, hlaid⟩ := (hring s hsetup).laid
      obtain ⟨_, hlaid'⟩ := (hring s hsetup).laid'
      obtain ⟨data, hdata, hstored⟩ := hlaid.storeInterleaved_eq_ok offset (hinside s hsetup)
      obtain ⟨data', hdata', hstored'⟩ := hlaid'.storeInterleaved_eq_ok offset (hinside s hsetup)
      have hmapped : Device.writableRing m = .ok m.mapped := mappedRing_eq_ok hsetup
      have hmapped' : Device.writableRing (m.relaid layout ring) = .ok ring :=
        mappedRing_eq_ok (m := m.relaid layout ring) hsetup
      simp only [Device.storeMapped, geometry_eq_ok hsetup,
        geometry_eq_ok (m := m.relaid layout ring) hsetup, hmapped, hmapped', hdata, hdata']
      have hnext := (hring s hsetup).stored hstored hstored'
      exact ⟨rfl, rfl, .relaid layout ⟨data', ring.layouts⟩ (alike_of_setup hsetup hnext)⟩

/-- The same frames are loaded from inside both rings. -/
theorem loadMapped_eq (offset frames : Nat)
    (hinside : ∀ s, m.setup = some s → offset + frames ≤ s.bufferSize) :
    Device.loadMapped offset frames m' = Device.loadMapped offset frames m := by
  obtain ⟨layout, ring, hring⟩ := h
  cases hsetup : m.setup with
  | none =>
      rw [Device.loadMapped, Device.loadMapped, geometry_eq_error hsetup,
        geometry_eq_error (m := m.relaid layout ring) hsetup]
      rfl
  | some s =>
      have hmapped : Device.mappedRing m = .ok m.mapped := mappedRing_eq_ok hsetup
      have hmapped' : Device.mappedRing (m.relaid layout ring) = .ok ring :=
        mappedRing_eq_ok (m := m.relaid layout ring) hsetup
      simp only [Device.loadMapped, geometry_eq_ok hsetup,
        geometry_eq_ok (m := m.relaid layout ring) hsetup, hmapped, hmapped',
        (hring s hsetup).copyInterleaved_eq (hinside s hsetup)]

end Mapped

section Transfers

variable (h : m.Alike m') (hintact : m.Intact)
include h hintact

theorem alike_writeInterleaved (buffer : Bytes) (frames : Nat) :
    StepsAlike (m.writeInterleaved buffer frames) (m'.writeInterleaved buffer frames) := by
  obtain ⟨layout, ring, hring⟩ := h
  simp only [writeInterleaved, beginTransfer_relaid]
  split
  · rename_i s _ hsetup
    cases byteLength s frames >>= (checkBuffer · buffer.size) with
    | error e => exact .fail e (.relaid layout ring hring)
    | ok _ =>
        obtain ⟨e, fault, hbegin⟩ | ⟨s', n, hgrants, hbegin⟩ := m.beginTransfer_cases "write" frames
        · rw [hbegin]
          exact .fail e (.relaid layout ring hring)
        · obtain rfl := Option.some.inj (hsetup.symm.trans hgrants.setup)
          rw [hbegin]
          apply alike_storeNext (m := m.granted n) layout hsetup (hring s hsetup)
          apply Nat.le_trans _ (hintact.le_bufferSize hgrants)
          apply s.geometry.bytesToFrames_le
          rw [Array.size_extract]
          omega
  · exact .fail _ (.relaid layout ring hring)

theorem alike_writePlanar (buffers : Array Bytes) (frames : Nat) :
    StepsAlike (m.writePlanar buffers frames) (m'.writePlanar buffers frames) := by
  obtain ⟨layout, ring, hring⟩ := h
  simp only [writePlanar, beginTransfer_relaid]
  split
  · rename_i s _ hsetup
    cases checkCount s buffers.size with
    | error e => exact .fail e (.relaid layout ring hring)
    | ok _ =>
        obtain ⟨e, fault, hbegin⟩ | ⟨s', n, hgrants, hbegin⟩ := m.beginTransfer_cases "write" frames
        · rw [hbegin]
          exact .fail e (.relaid layout ring hring)
        · obtain rfl := Option.some.inj (hsetup.symm.trans hgrants.setup)
          rw [hbegin]
          dsimp only
          cases hflat : (ChannelAreas.planar buffers s.geometry).copyInterleaved s.geometry 0 n with
          | error e => exact .fail _ (.relaid layout ring hring)
          | ok flat =>
              apply alike_storeNext (m := m.granted n) layout hsetup (hring s hsetup)
              apply Nat.le_trans _ (hintact.le_bufferSize hgrants)
              apply s.geometry.bytesToFrames_le
              exact Nat.le_of_eq (ChannelAreas.size_of_copyInterleaved_eq_ok hflat)
  · exact .fail _ (.relaid layout ring hring)

omit hintact in
theorem alike_readInterleaved (buffer : Bytes) (frames : Nat) :
    StepsAlike (m.readInterleaved buffer frames).1 (m'.readInterleaved buffer frames).1 ∧
      (m'.readInterleaved buffer frames).2 = (m.readInterleaved buffer frames).2 := by
  obtain ⟨layout, ring, hring⟩ := h
  simp only [readInterleaved, beginTransfer_relaid]
  split
  · rename_i s _ hsetup
    cases byteLength s frames >>= (checkBuffer · buffer.size) with
    | error e => exact ⟨.fail e (.relaid layout ring hring), rfl⟩
    | ok _ =>
        obtain ⟨e, fault, hbegin⟩ | ⟨s', n, hgrants, hbegin⟩ := m.beginTransfer_cases "read" frames
        · rw [hbegin]
          exact ⟨.fail e (.relaid layout ring hring), rfl⟩
        · rw [hbegin]
          dsimp only
          rw [loadAt_relaid (m := m.granted n) layout (hring s hsetup)]
          cases (m.granted n).loadAt s (m.granted n).applPtr n with
          | error e => exact ⟨.fail e (.relaid layout ring hring), rfl⟩
          | ok flat => exact ⟨.ok n (.relaid layout ring hring), rfl⟩
  · exact ⟨.fail _ (.relaid layout ring hring), rfl⟩

omit hintact in
theorem alike_readPlanar (buffers : Array Bytes) (frames : Nat) :
    StepsAlike (m.readPlanar buffers frames).1 (m'.readPlanar buffers frames).1 ∧
      (m'.readPlanar buffers frames).2 = (m.readPlanar buffers frames).2 := by
  obtain ⟨layout, ring, hring⟩ := h
  simp only [readPlanar, beginTransfer_relaid]
  split
  · rename_i s _ hsetup
    cases checkPlanar s buffers frames with
    | error e => exact ⟨.fail e (.relaid layout ring hring), rfl⟩
    | ok _ =>
        obtain ⟨e, fault, hbegin⟩ | ⟨s', n, hgrants, hbegin⟩ := m.beginTransfer_cases "read" frames
        · rw [hbegin]
          exact ⟨.fail e (.relaid layout ring hring), rfl⟩
        · rw [hbegin]
          dsimp only
          rw [loadAt_relaid (m := m.granted n) layout (hring s hsetup)]
          cases (m.granted n).loadAt s (m.granted n).applPtr n with
          | error e => exact ⟨.fail e (.relaid layout ring hring), rfl⟩
          | ok flat => exact ⟨.ok n (.relaid layout ring hring), rfl⟩
  · exact ⟨.fail _ (.relaid layout ring hring), rfl⟩

end Transfers

section Hardware

variable (h : m.Alike m')
include h

/-- The same frames are played. -/
theorem alike_consume (frames : Nat) : StepsAlike (m.consume frames) (m'.consume frames) := by
  obtain ⟨layout, ring, hring⟩ := h
  simp only [consume, pending_relaid]
  split
  · exact .fail _ (.relaid layout ring hring)
  · rename_i s hsetup
    split
    · exact .fail _ (.relaid layout ring hring)
    · rw [loadOnto_relaid layout (hring s hsetup)]
      split
      · exact .fail _ (.relaid layout ring hring)
      · exact .ok _ (.relaid layout ring hring)

theorem alike_drain : StepsAlike m.drain m'.drain := by
  obtain ⟨layout, ring, hring⟩ := h
  simp only [drain, pending_relaid]
  split <;> try exact .fail _ (.relaid layout ring hring)
  all_goals
    split
    · exact .ok _ (.relaid layout ring hring)
    · have hconsume := alike_consume (m := { m with state := .draining })
        (.relaid layout ring hring) m.pending
      rw [hconsume.result]
      split
      · exact ⟨rfl, hconsume.events, hconsume.device⟩
      · exact ⟨rfl, hconsume.events, hconsume.device.withState .setup⟩

/-- The same frames are recorded. -/
theorem alike_inject (data : Bytes) : StepsAlike (m.inject data) (m'.inject data) := by
  obtain ⟨layout, ring, hring⟩ := h
  simp only [inject]
  split
  · exact .fail _ (.relaid layout ring hring)
  · rename_i s hsetup
    split
    · exact .fail _ (.relaid layout ring hring)
    · rw [captured_relaid]
      generalize hn : min (s.geometry.bytesToFrames data.size) (s.bufferSize - m.captured) = n
      have hsize : (data.extract 0 (n * s.geometry.frameBytes)).size ≤
          n * s.geometry.frameBytes := by
        rw [Array.size_extract]
        omega
      have hfits := Nat.le_trans (s.geometry.bytesToFrames_le hsize)
        (show n ≤ s.bufferSize by omega)
      obtain ⟨frames, frames', hframes, hframes', hnext⟩ :=
        alike_storeAt layout (hring s hsetup) m.hwPtr hfits
      rw [hframes, hframes']
      dsimp only
      split
      · exact ⟨rfl, rfl, .relaid layout ⟨frames', ring.layouts⟩ (alike_of_setup hsetup hnext)⟩
      · exact .ok n (.relaid layout ⟨frames', ring.layouts⟩ (alike_of_setup hsetup hnext))

/-- Alike devices stay alike under every request to their hardware side. -/
theorem alike_perform (request : HardwareRequest) :
    StepsAlike (m.perform request) (m'.perform request) := by
  cases request with
  | consume frames => exact (alike_consume h frames).map HardwareValue.count
  | inject data => exact (alike_inject h data).map HardwareValue.count
  | _ =>
      obtain ⟨layout, ring, hring⟩ := h
      exact .ok _ (.relaid _ ring hring)

end Hardware

end MemoryDevice

end FrameTee
