import FrameTee.Config.Tee
import Mathlib.Algebra.Group.Int.Defs
import Mathlib.Order.Defs.LinearOrder

/-!
# What a node is read as

`TeeConfig.Verdict` says what a node deserves to be read as, entry by entry and without an order of
reading: a description if every key is known and the entries under `sname` and `file` are of use;
else the fault of the misplaced entry whose key comes first; else what is missing. Reading a node
answers with that and nothing else (`TeeConfig.ofNode_eq_iff_verdict`).

## Implementation notes

The entries are read in the order of their keys, so the first one that is rejected is the one with
the least key. If none is rejected, the draft holds what the entries say
(`TeeConfig.Draft.Tells`); that later entries take nothing back is because every key has one entry.
-/

namespace FrameTee.TeeConfig

variable {node node' : ConfigNode} {key key' : String} {value : ConfigValue} {e e' : ConfigError}
  {draft draft' : Draft} {before entries : List (String × ConfigValue)} {config : TeeConfig}

/-- The keys that an entry may have. -/
def knownKeys : List String := ignoredKeys ++ ["sname", "file"]

/-- An entry has no place in a description, whatever the other entries are. Its key is none of those
that an entry may have, or the stream to wrap is not named by a text, or the place for the copy is
neither a text nor a number. -/
inductive Misplaced (key : String) (value : ConfigValue) : ConfigError → Prop where
  | unknown (hkey : key ∉ knownKeys) : Misplaced key value (.unknownKey key)
  | slave (hkey : key = "sname") (htext : ∀ name, value ≠ .text name) :
      Misplaced key value (.invalidValue key "string")
  | file (hkey : key = "file") (htext : ∀ path, value ≠ .text path)
      (hnumber : ∀ fd, value ≠ .integer fd) :
      Misplaced key value (.invalidValue key "string or integer")

/-- An entry has a place in a description, if the other entries allow for one. Its key means
nothing, or it names the stream to wrap, or it gives a path or a number for the copy. -/
inductive Placed (key : String) (value : ConfigValue) : Prop where
  | ignored (hkey : key ∈ ignoredKeys)
  | slave (hkey : key = "sname") {name : String} (hvalue : value = .text name)
  | path (hkey : key = "file") {path : String} (hvalue : value = .text path)
  | descriptor (hkey : key = "file") {fd : Int} (hvalue : value = .integer fd)

/-- No entry is misplaced. -/
def WellPlaced (node : ConfigNode) : Prop :=
  ∀ key value, node[key]? = some value → Placed key value

/-- The fault of the misplaced entry whose key comes before the keys of all others. -/
def FirstMisplaced (node : ConfigNode) (e : ConfigError) : Prop :=
  ∃ key value, node[key]? = some value ∧ Misplaced key value e ∧
    ∀ key' value' e', node[key']? = some value' → Misplaced key' value' e' → key ≤ key'

/-- What an entry under `file` asks for: a path, or a descriptor whose number a descriptor can
have. -/
inductive Places : ConfigValue → SinkTarget → Prop where
  | path (path : String) : Places (.text path) (.file path)
  | descriptor {fd : Int} (hpos : 0 ≤ fd) (hlimit : fd < 2 ^ 31) :
      Places (.integer fd) (.descriptor fd)

/-- A node describes a tee. -/
structure Describes (node : ConfigNode) (config : TeeConfig) : Prop where
  /-- Every key is known. -/
  known : ∀ key, key ∈ node → key ∈ knownKeys
  /-- The stream to wrap is named. -/
  slave : node["sname"]? = some (.text config.slave)
  /-- There is a place for the copy. -/
  target : ∃ value, node["file"]? = some value ∧ Places value config.target

/-- What a node deserves to be read as. A misplaced entry comes before anything that is missing, and
a negative number is no place for the copy. -/
inductive Verdict (node : ConfigNode) : Except ConfigError TeeConfig → Prop where
  | described {config : TeeConfig} (h : Describes node config) : Verdict node (.ok config)
  | misplaced {e : ConfigError} (h : FirstMisplaced node e) : Verdict node (.error e)
  | slaveless (hplaced : WellPlaced node) (hslave : node["sname"]? = none) :
      Verdict node (.error .missingSlave)
  | sinkless (hplaced : WellPlaced node) (hslave : "sname" ∈ node) (hfile : node["file"]? = none) :
      Verdict node (.error .missingFile)
  | negative (hplaced : WellPlaced node) (hslave : "sname" ∈ node) {fd : Int}
      (hfile : node["file"]? = some (.integer fd)) (hneg : fd < 0) :
      Verdict node (.error .missingFile)
  | tooLarge (hplaced : WellPlaced node) (hslave : "sname" ∈ node) {fd : Int}
      (hfile : node["file"]? = some (.integer fd)) (hlarge : 2 ^ 31 ≤ fd) :
      Verdict node (.error (.invalidValue "file" "descriptor number"))

section Entries

/-- An entry has at most one fault. -/
theorem Misplaced.unique (h : Misplaced key value e) (h' : Misplaced key value e') : e = e' := by
  have hslave : "sname" ∈ knownKeys := by decide
  have hfile : "file" ∈ knownKeys := by decide
  have hne : "sname" ≠ "file" := by decide
  cases h <;> cases h' <;> simp_all

theorem Placed.known (h : Placed key value) : key ∈ knownKeys := by
  cases h with
  | ignored hkey => exact List.mem_append_left _ hkey
  | slave hkey | path hkey | descriptor hkey =>
      rw [hkey]
      decide

/-- An entry that has a place is not misplaced. -/
theorem Placed.not_misplaced (h : Placed key value) : ¬ Misplaced key value e := by
  have hslave : "sname" ∉ ignoredKeys := by decide
  have hfile : "file" ∉ ignoredKeys := by decide
  have hne : "sname" ≠ "file" := by decide
  rintro (hkey | ⟨hkey, htext⟩ | ⟨hkey, htext, hnumber⟩)
  · exact hkey h.known
  · cases h <;> simp_all
  · cases h <;> simp_all

/-- An entry is rejected for its fault, or it has a place and is taken up. -/
theorem Draft.read_cases (draft : Draft) (key : String) (value : ConfigValue) :
    (∃ rejection, draft.read (key, value) = .error rejection ∧
        Misplaced key value rejection.error) ∨
      Placed key value ∧ ∃ draft', draft.read (key, value) = .ok draft' := by
  simp only [Draft.read]
  split
  · rename_i hignored
    exact .inr ⟨.ignored (List.contains_iff_mem.mp hignored), _, rfl⟩
  · rename_i hignored
    split
    · rename_i hkey
      cases value with
      | text name => exact .inr ⟨.slave hkey rfl, _, rfl⟩
      | integer n => exact .inl ⟨_, rfl, .slave hkey nofun⟩
      | compound entries => exact .inl ⟨_, rfl, .slave hkey nofun⟩
    · split
      · rename_i hkey
        cases value with
        | text path => exact .inr ⟨.path hkey rfl, _, rfl⟩
        | integer n => exact .inr ⟨.descriptor hkey rfl, _, rfl⟩
        | compound entries => exact .inl ⟨_, rfl, .file hkey nofun nofun⟩
      · rename_i hslave hfile
        refine .inl ⟨_, rfl, .unknown ?_⟩
        intro hknown
        obtain hmem | hmem := List.mem_append.mp hknown
        · exact hignored (List.contains_iff_mem.mpr hmem)
        · simp [hslave, hfile] at hmem

/-- A draft holds what entries say, and nothing else. -/
structure Draft.Tells (draft : Draft) (entries : List (String × ConfigValue)) : Prop where
  /-- The name is the one that an entry gives. -/
  slave : ∀ name, draft.slave = some name ↔ ("sname", .text name) ∈ entries
  /-- The path is the one that an entry gives. -/
  path : ∀ path, draft.path = some path ↔ ("file", .text path) ∈ entries
  /-- The number is the one that an entry gives. -/
  descriptor : ∀ fd, draft.descriptor = some fd ↔ ("file", .integer fd) ∈ entries

theorem Draft.tells_nil : Draft.Tells {} [] := by
  constructor <;> simp

/-- A draft takes up an entry with a new key. -/
theorem Draft.Tells.read (h : draft.Tells before) (hfresh : ∀ entry ∈ before, entry.1 ≠ key)
    (hread : draft.read (key, value) = .ok draft') :
    draft'.Tells (before ++ [(key, value)]) := by
  have hnew : ∀ value', (key, value') ∉ before := fun value' hmem => hfresh _ hmem rfl
  obtain ⟨hslave, hpath, hdescriptor⟩ := h
  simp only [Draft.read] at hread
  split at hread
  · rename_i hignored
    cases hread
    have hne : "sname" ≠ key ∧ "file" ≠ key := by
      constructor <;> rintro rfl <;> exact absurd hignored (by decide)
    constructor <;> simp [hne, hslave, hpath, hdescriptor]
  · split at hread
    · rename_i hkey
      subst hkey
      cases value with
      | text name =>
          cases hread
          constructor <;> simp [hpath, hdescriptor, hnew, eq_comm]
      | integer n | compound entries => cases hread
    · split at hread
      · rename_i hkey
        subst hkey
        cases value with
        | text path =>
            cases hread
            constructor <;> simp [hslave, hdescriptor, hnew, eq_comm]
        | integer n =>
            cases hread
            constructor <;> simp [hslave, hpath, hnew, eq_comm]
        | compound entries => cases hread
      · cases hread

/-- Reading entries with different keys ends at the first one that is misplaced, or it takes all of
them up. -/
theorem Draft.foldlM_read_cases (h : draft.Tells before)
    (hdistinct : (before ++ entries).Pairwise fun entry other => entry.1 ≠ other.1) :
    (∃ passed key value rest rejection, entries = passed ++ (key, value) :: rest ∧
        (∀ entry ∈ passed, Placed entry.1 entry.2) ∧ Misplaced key value rejection.error ∧
        entries.foldlM Draft.read draft = .error rejection) ∨
      (∀ entry ∈ entries, Placed entry.1 entry.2) ∧
        ∃ draft', entries.foldlM Draft.read draft = .ok draft' ∧
          draft'.Tells (before ++ entries) := by
  induction entries generalizing draft before with
  | nil => exact .inr ⟨nofun, draft, rfl, by rwa [List.append_nil]⟩
  | cons entry rest ih =>
      obtain ⟨key, value⟩ := entry
      rw [List.foldlM_cons]
      obtain ⟨rejection, hread, hmisplaced⟩ | ⟨hplaced, next, hread⟩ := draft.read_cases key value
      · refine .inl ⟨[], key, value, rest, rejection, rfl, nofun, hmisplaced, ?_⟩
        rw [hread]
        rfl
      · have hfresh : ∀ entry ∈ before, entry.1 ≠ key := fun entry hmem =>
          (List.pairwise_append.mp hdistinct).2.2 entry hmem _ List.mem_cons_self
        have hnext : (before ++ [(key, value)]) ++ rest = before ++ (key, value) :: rest := by simp
        rw [← hnext] at hdistinct ⊢
        rw [hread]
        obtain ⟨passed, key', value', rest', rejection, rfl, hpassed, hmisplaced, hfold⟩ |
            ⟨hall, hfold⟩ := ih (h.read hfresh hread) hdistinct
        · exact .inl ⟨(key, value) :: passed, key', value', rest', rejection, rfl,
            List.forall_mem_cons.mpr ⟨hplaced, hpassed⟩, hmisplaced, hfold⟩
        · exact .inr ⟨List.forall_mem_cons.mpr ⟨hplaced, hall⟩, hfold⟩

end Entries

section Nodes

/-- The entries of a node are in the order of their keys. -/
theorem sorted_toList (node : ConfigNode) :
    node.toList.Pairwise fun entry other => entry.1 < other.1 := by
  have hordered : node.toList.Pairwise fun entry other => compare entry.1 other.1 = .lt :=
    Std.TreeMap.ordered_keys_toList
  exact hordered.imp fun hlt => compareOfLessAndEq_eq_lt.mp hlt

theorem distinct_toList (node : ConfigNode) :
    node.toList.Pairwise fun entry other => entry.1 ≠ other.1 := by
  apply (sorted_toList node).imp
  intro entry other hlt heq
  rw [heq] at hlt
  exact String.lt_irrefl _ hlt

theorem mem_toList : (key, value) ∈ node.toList ↔ node[key]? = some value :=
  Std.TreeMap.mem_toList_iff_getElem?_eq_some

theorem FirstMisplaced.unique (h : FirstMisplaced node e) (h' : FirstMisplaced node e') :
    e = e' := by
  obtain ⟨key, value, hvalue, hmisplaced, hfirst⟩ := h
  obtain ⟨key', value', hvalue', hmisplaced', hfirst'⟩ := h'
  obtain rfl : key = key' := String.le_antisymm (hfirst key' value' e' hvalue' hmisplaced')
    (hfirst' key value e hvalue hmisplaced)
  obtain rfl : value = value' := Option.some.inj (hvalue.symm.trans hvalue')
  exact hmisplaced.unique hmisplaced'

theorem WellPlaced.not_firstMisplaced (h : WellPlaced node) : ¬ FirstMisplaced node e := by
  rintro ⟨key, value, hvalue, hmisplaced, -⟩
  exact (h key value hvalue).not_misplaced hmisplaced

/-- Before the first misplaced entry there is none, and all others have greater keys. -/
theorem firstMisplaced_of_toList {passed rest : List (String × ConfigValue)}
    (hsplit : node.toList = passed ++ (key, value) :: rest)
    (hpassed : ∀ entry ∈ passed, Placed entry.1 entry.2) (hmisplaced : Misplaced key value e) :
    FirstMisplaced node e := by
  refine ⟨key, value, ?_, hmisplaced, ?_⟩
  · rw [← mem_toList, hsplit]
    exact List.mem_append_right _ List.mem_cons_self
  · intro key' value' e' hvalue' hmisplaced'
    have hmem : (key', value') ∈ passed ++ (key, value) :: rest := by
      rwa [← hsplit, mem_toList]
    obtain hbefore | hmem := List.mem_append.mp hmem
    · exact absurd hmisplaced' (hpassed _ hbefore).not_misplaced
    · obtain heq | hafter := List.mem_cons.mp hmem
      · cases heq
        exact String.le_refl _
      · have hsorted := sorted_toList node
        rw [hsplit] at hsorted
        have hlt := (List.pairwise_cons.mp (List.pairwise_append.mp hsorted).2.1).1 _ hafter
        exact Std.le_of_lt hlt

/-- Reading a node is stopped by the first misplaced entry, or the draft that is finished holds what
the entries say. -/
theorem ofNode_cases (node : ConfigNode) :
    (∃ e, FirstMisplaced node e ∧ (ofNode node).1 = .error e) ∨
      WellPlaced node ∧ ∃ draft : Draft, draft.Tells node.toList ∧
        (ofNode node).1 = draft.finish := by
  have hdistinct : ([] ++ node.toList).Pairwise fun entry other : String × ConfigValue =>
      entry.1 ≠ other.1 := distinct_toList node
  obtain ⟨passed, key, value, rest, rejection, hsplit, hpassed, hmisplaced, hfold⟩ |
      ⟨hall, draft, hfold, htells⟩ := Draft.foldlM_read_cases Draft.tells_nil hdistinct
  · refine .inl ⟨rejection.error, firstMisplaced_of_toList hsplit hpassed hmisplaced, ?_⟩
    rw [ofNode, hfold]
  · refine .inr ⟨fun key value hvalue => hall (key, value) (mem_toList.mpr hvalue), draft, htells,
      ?_⟩
    rw [ofNode, hfold]
    dsimp only
    cases draft.finish with
    | error e => rfl
    | ok config => rfl

/-- The entries of a node that describes a tee have places. -/
theorem Describes.wellPlaced (h : Describes node config) : WellPlaced node := by
  intro key value hvalue
  have hknown := h.known key (Std.TreeMap.mem_iff_isSome_getElem?.mpr (by rw [hvalue]; rfl))
  obtain hignored | hkey := List.mem_append.mp hknown
  · exact .ignored hignored
  · simp only [List.mem_cons, List.not_mem_nil, or_false] at hkey
    obtain rfl | rfl := hkey
    · obtain rfl := Option.some.inj (hvalue.symm.trans h.slave)
      exact .slave rfl rfl
    · obtain ⟨value', hvalue', hplaces⟩ := h.target
      obtain rfl := Option.some.inj (hvalue.symm.trans hvalue')
      generalize config.target = target at hplaces
      cases hplaces with
      | path path => exact .path rfl rfl
      | descriptor => exact .descriptor rfl rfl

/-- In a node without a misplaced entry, the stream to wrap is named or there is no such entry. -/
theorem WellPlaced.slave_cases (h : WellPlaced node) :
    node["sname"]? = none ∨ ∃ name, node["sname"]? = some (.text name) := by
  cases hvalue : node["sname"]? with
  | none => exact .inl rfl
  | some value =>
      cases h "sname" value hvalue with
      | ignored hkey => exact absurd hkey (by decide)
      | slave _ htext => exact .inr ⟨_, by rw [htext]⟩
      | path hkey | descriptor hkey => exact absurd hkey (by decide)

/-- In a node without a misplaced entry, the place for the copy is a path or a number, or there is
no such entry. -/
theorem WellPlaced.file_cases (h : WellPlaced node) :
    node["file"]? = none ∨ (∃ path, node["file"]? = some (.text path)) ∨
      ∃ fd, node["file"]? = some (.integer fd) := by
  cases hvalue : node["file"]? with
  | none => exact .inl rfl
  | some value =>
      cases h "file" value hvalue with
      | ignored hkey => exact absurd hkey (by decide)
      | slave hkey => exact absurd hkey (by decide)
      | path _ htext => exact .inr (.inl ⟨_, by rw [htext]⟩)
      | descriptor _ hnumber => exact .inr (.inr ⟨_, by rw [hnumber]⟩)

section Draft

variable (h : draft.Tells node.toList)
include h

theorem Draft.Tells.slave_iff {name : String} :
    draft.slave = some name ↔ node["sname"]? = some (.text name) :=
  (h.slave name).trans mem_toList

theorem Draft.Tells.path_iff {path : String} :
    draft.path = some path ↔ node["file"]? = some (.text path) :=
  (h.path path).trans mem_toList

theorem Draft.Tells.descriptor_iff {fd : Int} :
    draft.descriptor = some fd ↔ node["file"]? = some (.integer fd) :=
  (h.descriptor fd).trans mem_toList

theorem Draft.Tells.finish_of_slaveless (hslave : node["sname"]? = none) :
    draft.finish = .error .missingSlave := by
  have hnone : draft.slave = none := Option.eq_none_iff_forall_ne_some.mpr fun name hname => by
    rw [h.slave_iff, hslave] at hname
    cases hname
  rw [Draft.finish, hnone]

theorem Draft.Tells.target_of_sinkless (hfile : node["file"]? = none) :
    draft.target = .error .missingFile := by
  have hpath : draft.path = none := Option.eq_none_iff_forall_ne_some.mpr fun path heq => by
    rw [h.path_iff, hfile] at heq
    cases heq
  have hnumber : draft.descriptor = none := Option.eq_none_iff_forall_ne_some.mpr fun fd heq => by
    rw [h.descriptor_iff, hfile] at heq
    cases heq
  rw [Draft.target, hpath, hnumber]

theorem Draft.Tells.target_of_path {path : String} (hfile : node["file"]? = some (.text path)) :
    draft.target = .ok (.file path) := by
  rw [Draft.target, h.path_iff.mpr hfile]

theorem Draft.Tells.target_of_number {fd : Int} (hfile : node["file"]? = some (.integer fd)) :
    draft.target =
      if fd < 0 then .error .missingFile
      else if fd < 2 ^ 31 then .ok (.descriptor fd)
      else .error (.invalidValue "file" "descriptor number") := by
  have hpath : draft.path = none := Option.eq_none_iff_forall_ne_some.mpr fun path heq => by
    rw [h.path_iff, hfile] at heq
    cases heq
  have hlimit : (2 : Int) ^ 31 = descriptorLimit := by decide
  rw [Draft.target, hpath, h.descriptor_iff.mpr hfile, hlimit]

theorem Draft.Tells.finish_of_slave (hslave : "sname" ∈ node) (hplaced : WellPlaced node) :
    ∃ name, node["sname"]? = some (.text name) ∧ draft.finish = draft.target.map (⟨name, ·⟩) := by
  obtain hnone | ⟨name, hname⟩ := hplaced.slave_cases
  · rw [Std.TreeMap.mem_iff_isSome_getElem?, hnone] at hslave
    cases hslave
  · exact ⟨name, hname, by rw [Draft.finish, h.slave_iff.mpr hname]⟩

end Draft

/-- Every node deserves something. -/
theorem exists_verdict (node : ConfigNode) : ∃ result, Verdict node result := by
  obtain ⟨e, hfirst, -⟩ | ⟨hplaced, -⟩ := ofNode_cases node
  · exact ⟨_, .misplaced hfirst⟩
  · obtain hslave | ⟨name, hslave⟩ := hplaced.slave_cases
    · exact ⟨_, .slaveless hplaced hslave⟩
    · have hmem : "sname" ∈ node := Std.TreeMap.mem_iff_isSome_getElem?.mpr (by rw [hslave]; rfl)
      have hknown : ∀ key, key ∈ node → key ∈ knownKeys := by
        intro key hkey
        obtain ⟨value, hvalue⟩ := Option.isSome_iff_exists.mp
          (Std.TreeMap.mem_iff_isSome_getElem?.mp hkey)
        exact (hplaced key value hvalue).known
      obtain hfile | ⟨path, hfile⟩ | ⟨fd, hfile⟩ := hplaced.file_cases
      · exact ⟨_, .sinkless hplaced hmem hfile⟩
      · exact ⟨.ok ⟨name, .file path⟩, .described ⟨hknown, hslave, _, hfile, .path path⟩⟩
      · by_cases hneg : fd < 0
        · exact ⟨_, .negative hplaced hmem hfile hneg⟩
        · by_cases hlimit : fd < 2 ^ 31
          · exact ⟨.ok ⟨name, .descriptor fd⟩, .described ⟨hknown, hslave, _, hfile,
              .descriptor (Int.not_lt.mp hneg) hlimit⟩⟩
          · exact ⟨_, .tooLarge hplaced hmem hfile (Int.not_lt.mp hlimit)⟩

/-- A node is read as it deserves. -/
theorem Verdict.ofNode_eq {result : Except ConfigError TeeConfig} (h : Verdict node result) :
    (ofNode node).1 = result := by
  have hread : WellPlaced node → ∃ draft : Draft, draft.Tells node.toList ∧
      (ofNode node).1 = draft.finish := by
    intro hplaced
    obtain ⟨e, hfirst, -⟩ | ⟨-, hdraft⟩ := ofNode_cases node
    · exact absurd hfirst hplaced.not_firstMisplaced
    · exact hdraft
  -- Only the place for the copy is left to be looked at once the stream is named.
  have hfinish : WellPlaced node → "sname" ∈ node → ∃ (draft : Draft) (name : String),
      draft.Tells node.toList ∧ node["sname"]? = some (.text name) ∧
        (ofNode node).1 = draft.target.map (⟨name, ·⟩) := by
    intro hplaced hslave
    obtain ⟨draft, htells, hfinish⟩ := hread hplaced
    obtain ⟨name, hname, htarget⟩ := htells.finish_of_slave hslave hplaced
    exact ⟨draft, name, htells, hname, hfinish.trans htarget⟩
  cases h with
  | @described config h =>
      have hmem : "sname" ∈ node := Std.TreeMap.mem_iff_isSome_getElem?.mpr (by rw [h.slave]; rfl)
      obtain ⟨draft, name, htells, hname, hresult⟩ := hfinish h.wellPlaced hmem
      obtain rfl : config.slave = name :=
        ConfigValue.text.inj (Option.some.inj (h.slave.symm.trans hname))
      obtain ⟨value, hvalue, hplaces⟩ := h.target
      rw [hresult]
      rcases config with ⟨slave, target⟩
      cases hplaces with
      | path path =>
          rw [htells.target_of_path hvalue]
          rfl
      | @descriptor fd hpos hlimit =>
          rw [htells.target_of_number hvalue, if_neg (Int.not_lt.mpr hpos), if_pos hlimit]
          rfl
  | misplaced hfirst =>
      obtain ⟨e, hfirst', herror⟩ | ⟨hplaced, -⟩ := ofNode_cases node
      · rw [herror, hfirst.unique hfirst']
      · exact absurd hfirst hplaced.not_firstMisplaced
  | slaveless hplaced hslave =>
      obtain ⟨draft, htells, hresult⟩ := hread hplaced
      rw [hresult, htells.finish_of_slaveless hslave]
  | sinkless hplaced hslave hfile =>
      obtain ⟨draft, name, htells, -, hresult⟩ := hfinish hplaced hslave
      rw [hresult, htells.target_of_sinkless hfile]
      rfl
  | negative hplaced hslave hfile hneg =>
      obtain ⟨draft, name, htells, -, hresult⟩ := hfinish hplaced hslave
      rw [hresult, htells.target_of_number hfile, if_pos hneg]
      rfl
  | tooLarge hplaced hslave hfile hlarge =>
      obtain ⟨draft, name, htells, -, hresult⟩ := hfinish hplaced hslave
      have hpos : ¬ (_ : Int) < 0 := Int.not_lt.mpr (Int.le_trans (by decide) hlarge)
      rw [hresult, htells.target_of_number hfile, if_neg hpos, if_neg (Int.not_lt.mpr hlarge)]
      rfl

/-- The stream of a description is the one that its node names. -/
theorem sname_of_ofNode (h : (ofNode node).1 = .ok config) :
    node["sname"]? = some (.text config.slave) := by
  obtain ⟨result, hverdict⟩ := exists_verdict node
  obtain rfl := hverdict.ofNode_eq.symm.trans h
  cases hverdict with
  | described hdescribes => exact hdescribes.slave

section Ignored

/-- Entries under ignored keys leave the draft as it is. -/
theorem Draft.foldlM_read_filter (draft : Draft) (entries : List (String × ConfigValue)) :
    (entries.filter fun entry => !ignoredKeys.contains entry.1).foldlM Draft.read draft =
      entries.foldlM Draft.read draft := by
  induction entries generalizing draft with
  | nil => rfl
  | cons entry rest ih =>
      by_cases hignored : ignoredKeys.contains entry.1
      · have hread : draft.read entry = .ok draft := by
          simp only [Draft.read, if_pos hignored]
        rw [List.filter_cons_of_neg (by simpa using hignored), List.foldlM_cons, hread]
        exact ih draft
      · rw [List.filter_cons_of_pos (by simpa using hignored), List.foldlM_cons, List.foldlM_cons]
        congr 1
        funext next
        exact ih next

/-- Nodes that differ in ignored keys only have the same other entries, in the same order. -/
theorem filter_toList_congr (h : ∀ key, key ∉ ignoredKeys → node'[key]? = node[key]?) :
    (node'.toList.filter fun entry => !ignoredKeys.contains entry.1) =
      node.toList.filter fun entry => !ignoredKeys.contains entry.1 := by
  have hnodup : ∀ node : ConfigNode,
      (node.toList.filter fun entry => !ignoredKeys.contains entry.1).Nodup := fun node =>
    ((distinct_toList node).imp fun hne heq => hne (congrArg Prod.fst heq)).filter _
  have hperm := (List.perm_ext_iff_of_nodup (hnodup node') (hnodup node)).mpr ?_
  · apply List.Perm.eq_of_pairwise _ ((sorted_toList node').filter _)
      ((sorted_toList node).filter _) hperm
    intro entry other _ _ hlt hgt
    exact absurd hgt (String.lt_asymm hlt)
  · rintro ⟨key, value⟩
    simp only [List.mem_filter, mem_toList, Bool.not_eq_true', List.contains_eq_mem,
      decide_eq_false_iff_not]
    constructor
    · rintro ⟨hvalue, hkey⟩
      exact ⟨(h key hkey) ▸ hvalue, hkey⟩
    · rintro ⟨hvalue, hkey⟩
      exact ⟨(h key hkey).symm ▸ hvalue, hkey⟩

/-- Nodes that differ in ignored keys only are read alike, and the same is reported. -/
theorem ofNode_congr (h : ∀ key, key ∉ ignoredKeys → node'[key]? = node[key]?) :
    ofNode node' = ofNode node := by
  rw [ofNode, ← Draft.foldlM_read_filter, filter_toList_congr h, Draft.foldlM_read_filter, ofNode]

end Ignored

/-- A node is read as it deserves, and as nothing else. Which keys that mean nothing it has, and
with which values, makes no difference. -/
theorem ofNode_eq_iff_verdict (node : ConfigNode) :
    (∀ result, (ofNode node).1 = result ↔ Verdict node result) ∧
      ∀ node' : ConfigNode, (∀ key, key ∉ ignoredKeys → node'[key]? = node[key]?) →
        ofNode node' = ofNode node := by
  refine ⟨fun result => ⟨?_, Verdict.ofNode_eq⟩, fun node' => ofNode_congr⟩
  rintro rfl
  obtain ⟨result, hverdict⟩ := exists_verdict node
  rwa [hverdict.ofNode_eq]

/-- A node with four faults: two misplaced entries, a number that no descriptor has, and no name.
The misplaced entry with the lesser key decides, with or without a comment. -/
theorem ofNode_eq_iff_verdict_faulty :
    let entries : List (String × ConfigValue) :=
      [("rate", .integer 8000), ("file", .integer (2 ^ 31)), ("format", .text "raw")]
    let node : ConfigNode := .ofList entries
    let commented := node.insert "comment" (.compound [])
    FirstMisplaced node (.unknownKey "format") ∧ ofNode commented = ofNode node ∧
      (ofNode commented).1 = .error (.unknownKey "format") := by
  intro entries node commented
  have hread : (ofNode node).1 = .error (.unknownKey "format") := by cbv
  obtain ⟨hverdict, hignored⟩ := ofNode_eq_iff_verdict node
  have hsame : ofNode commented = ofNode node := by
    apply hignored commented
    intro key hkey
    have hne : ¬ compare "comment" key = .eq := by
      intro heq
      exact hkey (Std.LawfulEqCmp.eq_of_compare heq ▸ by decide)
    rw [Std.TreeMap.getElem?_insert, if_neg hne]
  refine ⟨?_, hsame, by rw [hsame, hread]⟩
  cases (hverdict _).mp hread with
  | misplaced hfirst => exact hfirst

end Nodes

end FrameTee.TeeConfig
