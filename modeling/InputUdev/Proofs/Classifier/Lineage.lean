import InputUdev.Operation
import InputUdev.Proofs.Classifier.Outcome
import InputUdev.Proofs.Parent.Contents

/-!
# Records stay well formed

A record is well formed when its name fits its path, its keys are distinct, and its subsystem goes
with its device node (`Record.WellFormed`). Each operation makes well-formed devices of well-formed
ones, parents of every kind included (`Classifier.wellFormed_step`), so that whatever a run does,
the device in hand and all its ancestors are well formed (`Classifier.run_wellFormed`).
-/

namespace InputUdev

/-- The parts of the record fit together, its subsystem being that of the rules. -/
structure Record.WellFormed (rules : RuleTable) (r : Record) : Prop where
  sysname_eq : r.sysname = Path.sysname r.syspath
  no_slash : '/' ∉ r.sysname.toList
  nodup_properties : r.properties.keys.Nodup
  nodup_sysattrs : r.sysattrs.keys.Nodup
  node : r.devnode = none ∧ r.subsystem = "" ∨
    r.devnode = some r.syspath ∧ r.subsystem = rules.subsystemFor r.syspath

/-- The records of the device and of all its ancestors are well formed. -/
def Device.WellFormed (rules : RuleTable) (d : Device) : Prop :=
  ∀ r ∈ d.lineage, r.WellFormed rules

variable {rules : RuleTable}

namespace Record

variable {r : Record}

theorem wellFormed_of (hname : r.sysname = Path.sysname r.syspath)
    (hnode : r.devnode = none ∧ r.subsystem = "" ∨
      r.devnode = some r.syspath ∧ r.subsystem = rules.subsystemFor r.syspath) :
    r.WellFormed rules where
  sysname_eq := hname
  no_slash := hname ▸ Path.not_mem_sysname_slash r.syspath
  nodup_properties := r.properties.nodup_keys
  nodup_sysattrs := r.sysattrs.nodup_keys
  node := hnode

/-- Whether a record is well formed does not depend on its entries. -/
theorem WellFormed.withEntries (h : r.WellFormed rules) (properties sysattrs : Entries) :
    { r with properties := properties, sysattrs := sysattrs }.WellFormed rules :=
  wellFormed_of h.sysname_eq h.node

end Record

/-! ## Devices -/

namespace Device

variable {d q : Device}

theorem wellFormed_iff :
    d.WellFormed rules ↔ d.toRecord.WellFormed rules ∧ ∀ r ∈ d.ancestors, r.WellFormed rules :=
  List.forall_mem_cons

theorem wellFormed_bare (path : String) (action : Action) :
    (bare path action).WellFormed rules := by
  apply wellFormed_iff.mpr
  exact ⟨Record.wellFormed_of rfl (.inl ⟨rfl, rfl⟩), List.forall_mem_nil _⟩

theorem wellFormed_ofNode (path : String) (action : Action) :
    (ofNode rules path action).WellFormed rules := by
  apply wellFormed_iff.mpr
  exact ⟨Record.wellFormed_of rfl (.inr ⟨rfl, rfl⟩), List.forall_mem_nil _⟩

namespace WellFormed

variable (h : d.WellFormed rules)
include h

theorem withEntries (properties sysattrs : Entries) :
    { d with properties := properties, sysattrs := sysattrs }.WellFormed rules := by
  apply wellFormed_iff.mpr
  obtain ⟨hrecord, hancestors⟩ := wellFormed_iff.mp h
  exact ⟨hrecord.withEntries properties sysattrs, hancestors⟩

theorem insertProperty (key value : String) : (d.insertProperty key value).WellFormed rules :=
  h.withEntries (d.properties.insert key value) d.sysattrs

theorem insertSysattr (key value : String) : (d.insertSysattr key value).WellFormed rules :=
  h.withEntries d.properties (d.sysattrs.insert key value)

theorem mark (c : DeviceClass) : (d.mark c).WellFormed rules := by
  rw [mark_eq]
  exact h.withEntries _ d.sysattrs

/-- The ancestors that the device had are lost, and those of the parent come in their place. -/
theorem setParent (hparent : q.WellFormed rules) : (d.setParent q).WellFormed rules := by
  apply wellFormed_iff.mpr
  exact ⟨(wellFormed_iff.mp h).1, hparent⟩

end WellFormed
end Device

theorem ParentInfo.wellFormed_device (info : ParentInfo) : info.device.WellFormed rules := by
  rw [info.device_eq]
  exact (Device.wellFormed_bare info.sysname .none).withEntries _ _

theorem Device.WellFormed.attachParent {d : Device} (h : d.WellFormed rules) (info : ParentInfo) :
    (d.attachParent info).WellFormed rules :=
  h.setParent info.wellFormed_device

theorem Device.WellFormed.outfit {d : Device} (h : d.WellFormed rules) (c : DeviceClass)
    (parent? : Option ParentInfo) : (d.outfit c parent?).WellFormed rules := by
  cases parent? with
  | none => exact h.mark c
  | some info => exact (h.mark c).attachParent info

/-! ## Operations and runs -/

namespace Classifier

variable {k : Classifier} {d : Device}

theorem wellFormed_synthesizeParent (h : d.WellFormed rules) (tree : KernelTree) :
    (synthesizeParent tree d).2.device.WellFormed rules := by
  cases hinfo : tree.parentInfo d.sysname with
  | error cause =>
    rw [synthesizeParent_of_error hinfo]
    exact h
  | ok info =>
    rw [synthesizeParent_of_ok hinfo]
    exact h.attachParent info

theorem wellFormed_dispatch (h : d.WellFormed rules) : (k.dispatch d).device.WellFormed rules := by
  rcases k.dispatch_cases d with ⟨-, hdevice⟩ | ⟨_, c, parent?, -, -, -, hdevice⟩
  · rw [hdevice]
    exact h
  · rw [hdevice]
    exact h.outfit c parent?

theorem wellFormed_step (h : d.WellFormed k.rules) (op : Operation) :
    (k.step d op).device.WellFormed k.rules := by
  cases op with
  | bare path action => exact Device.wellFormed_bare path action
  | ofNode path action => exact Device.wellFormed_ofNode path action
  | insertProperty key value => exact h.insertProperty key value
  | insertSysattr key value => exact h.insertSysattr key value
  | mark c => exact h.mark c
  | setParent info => exact h.setParent info.wellFormed_device
  | attachParent info => exact h.attachParent info
  | synthesizeParent => exact wellFormed_synthesizeParent h k.tree
  | adopt path action =>
    -- the device in hand becomes an ancestor with all of its own
    exact (Device.wellFormed_bare path action).setParent h
  | deviceFor path action => exact wellFormed_dispatch (Device.wellFormed_ofNode path action)
  | dispatch => exact wellFormed_dispatch h

theorem wellFormed_foldl_step (h : d.WellFormed k.rules) (ops : List Operation) :
    (ops.foldl (fun d op => (k.step d op).device) d).WellFormed k.rules := by
  induction ops generalizing d with
  | nil => exact h
  | cons op ops ih => exact ih (wellFormed_step h op)

/-- Whatever a run does, the record of the device in hand is well formed at its end, and so are
those of all its ancestors. -/
theorem run_wellFormed (k : Classifier) (ops : List Operation) : (k.run ops).WellFormed k.rules :=
  wellFormed_foldl_step (Device.wellFormed_bare "" .none) ops

end Classifier
end InputUdev
