import InputUdev.Operation
import InputUdev.Proofs.Classifier.GivingUp
import Mathlib.Logic.Function.Basic

/-!
# Which nodes are probed

`Classifier.ProbeDue` says when a dispatch is to probe a node, and `Classifier.ProbesDue` which
nodes a run is to probe, step by step. Main statement: the nodes that a run reports to have probed
are those, at most one for each dispatch and none for any other step, and they are the nodes whose
answers the run depends on, so that no answer is used in secret (`Classifier.run_probes`).
-/

namespace InputUdev.Classifier

/-- A dispatch of the device is to probe the node: the first rule for its path is not left to evdev
and is one for event devices, and the node is the device's own. -/
inductive ProbeDue (k : Classifier) (d : Device) (node : String) : Prop
  | intro : k.rules.IsFirst d.syspath r → ¬ (r.skipIfEvdev = true ∧ k.rules.evdevEnabled = true) →
    r.handler = .evdev → d.devnode = some node → ProbeDue k d node

/-- The operation dispatches a device: the one in hand, or one that it makes for a node. -/
inductive Dispatches (k : Classifier) (d : Device) : Operation → Device → Prop
  | inHand : Dispatches k d .dispatch d
  | ofNode : Dispatches k d (.deviceFor path action) (.ofNode k.rules path action)

/-- The nodes that a run is to probe: one for each step that dispatches a device with a node due,
and none for the others. -/
inductive ProbesDue (k : Classifier) : Device → List Operation → List String → Prop
  | nil : ProbesDue k d [] []
  | probed : Dispatches k d op d' → ProbeDue k d' node →
    ProbesDue k (k.step d op).device ops nodes →
    ProbesDue k d (op :: ops) (node :: nodes)
  | silent : (∀ d' node, Dispatches k d op d' → ¬ ProbeDue k d' node) →
    ProbesDue k (k.step d op).device ops nodes → ProbesDue k d (op :: ops) nodes

/-- The same classifier with another source of capabilities. -/
def withSource (k : Classifier) (source : CapabilitySource) : Classifier :=
  { k with capabilities := source }

/-- What the steps of a run lead to, one after the other. -/
def progressOf (k : Classifier) : Device → List Operation → List Progress
  | _, [] => []
  | d, op :: ops => k.step d op :: k.progressOf (k.step d op).device ops

/-- Another answer for the node, and for no other, would lead a dispatch elsewhere. -/
def DependsOn (k : Classifier) (d : Device) (node : String) : Prop :=
  ∃ source, (∀ other, other ≠ node → source other = k.capabilities other) ∧
    (k.withSource source).dispatch d ≠ k.dispatch d

variable {k : Classifier} {d d' : Device} {op : Operation} {node : String}
  {source : CapabilitySource}

/-! ## One dispatch -/

theorem probes_event (k : Classifier) (d : Device) : (k.event d).probes = d.devnode.toList := by
  rw [event]
  cases d.devnode with
  | none => rfl
  | some node =>
    dsimp only
    cases k.capabilities node with
    | error e => rfl
    | ok s =>
      dsimp only
      cases s.deviceClass.isNone <;> rfl

theorem probes_synthesizeParent (tree : KernelTree) (d : Device) :
    (synthesizeParent tree d).2.probes = [] := by
  rw [synthesizeParent]
  cases tree.parentInfo d.sysname <;> rfl

theorem probes_legacy (tree : KernelTree) (c : DeviceClass) (d : Device) :
    (legacy tree c d).probes = [] :=
  probes_synthesizeParent tree (d.mark c)

/-- Only the handler of event devices probes a node, and it probes the device's own. -/
theorem probes_handle (k : Classifier) (h : Handler) (d : Device) :
    (k.handle h d).probes = if h = .evdev then d.devnode.toList else [] := by
  cases h with
  | evdev => exact probes_event k d
  | keyboard | mouse | joystick | touchpad | touchscreen => exact probes_legacy ..
  | kbdmux | sysmouse => rfl

theorem probes_dispatch (k : Classifier) (d : Device) :
    (k.dispatch d).probes =
      if k.rules.handlerFor d.syspath = some .evdev then d.devnode.toList else [] := by
  cases hh : k.rules.handlerFor d.syspath with
  | none => simp only [dispatch, hh, reduceCtorEq, if_false]
  | some h => simp only [dispatch, hh, probes_handle, Option.some.injEq]

theorem probeDue_iff :
    ProbeDue k d node ↔ k.rules.handlerFor d.syspath = some .evdev ∧ d.devnode = some node := by
  rw [RuleTable.handlerFor_eq_some_iff]
  constructor
  · rintro ⟨hr, hdefers, hevdev, hnode⟩
    rw [← RuleTable.defers_eq_true_iff, Bool.not_eq_true] at hdefers
    exact ⟨⟨_, hr, hdefers, hevdev⟩, hnode⟩
  · rintro ⟨⟨r, hr, hdefers, hevdev⟩, hnode⟩
    rw [← Bool.not_eq_true, RuleTable.defers_eq_true_iff] at hdefers
    exact ⟨hr, hdefers, hevdev, hnode⟩

theorem probes_dispatch_of_due (h : ProbeDue k d node) : (k.dispatch d).probes = [node] := by
  obtain ⟨hevdev, hnode⟩ := probeDue_iff.mp h
  rw [probes_dispatch, if_pos hevdev, hnode, Option.toList_some]

theorem probes_dispatch_of_not_due (h : ∀ node, ¬ ProbeDue k d node) :
    (k.dispatch d).probes = [] := by
  rw [probes_dispatch]
  split
  · next hevdev =>
    cases hnode : d.devnode with
    | none => rfl
    | some node => exact absurd (probeDue_iff.mpr ⟨hevdev, hnode⟩) (h node)
  · rfl

theorem probes_dispatch_cases (k : Classifier) (d : Device) :
    (∃ node, ProbeDue k d node ∧ (k.dispatch d).probes = [node]) ∨
      (∀ node, ¬ ProbeDue k d node) ∧ (k.dispatch d).probes = [] := by
  by_cases h : ∃ node, ProbeDue k d node
  · obtain ⟨node, hdue⟩ := h
    exact .inl ⟨node, hdue, probes_dispatch_of_due hdue⟩
  · rw [not_exists] at h
    exact .inr ⟨h, probes_dispatch_of_not_due h⟩

theorem mem_probes_dispatch_iff : node ∈ (k.dispatch d).probes ↔ ProbeDue k d node := by
  rcases k.probes_dispatch_cases d with ⟨node', hdue, hprobes⟩ | ⟨hnone, hprobes⟩
  · rw [hprobes, List.mem_singleton]
    constructor
    · rintro rfl
      exact hdue
    · intro h
      exact Option.some.inj ((probeDue_iff.mp h).2.symm.trans (probeDue_iff.mp hdue).2)
  · rw [hprobes]
    exact iff_of_false List.not_mem_nil (hnone node)

theorem probes_dispatch_eq_singleton_iff :
    (k.dispatch d).probes = [node] ↔ ProbeDue k d node := by
  refine ⟨fun h => mem_probes_dispatch_iff.mp ?_, probes_dispatch_of_due⟩
  rw [h]
  exact List.mem_singleton_self node

/-! ## Steps and runs -/

theorem probes_step_of_dispatches (h : Dispatches k d op d') :
    (k.step d op).probes = (k.dispatch d').probes := by
  cases h <;> rfl

theorem probes_step_of_not_dispatches (h : ∀ d', ¬ Dispatches k d op d') :
    (k.step d op).probes = [] := by
  cases op with
  | synthesizeParent => exact probes_synthesizeParent k.tree d
  | deviceFor path action => exact absurd .ofNode (h _)
  | dispatch => exact absurd .inHand (h _)
  | bare | ofNode | insertProperty | insertSysattr | mark | setParent | attachParent | adopt => rfl

theorem Dispatches.unique {d'' : Device} (h : Dispatches k d op d') (h' : Dispatches k d op d'') :
    d' = d'' := by
  cases h <;> cases h' <;> rfl

theorem probesDue_probesOf (k : Classifier) (d : Device) (ops : List Operation) :
    k.ProbesDue d ops (k.probesOf d ops) := by
  induction ops generalizing d with
  | nil => exact .nil
  | cons op ops ih =>
    rw [probesOf]
    by_cases hop : ∃ d', Dispatches k d op d'
    · obtain ⟨d', hop⟩ := hop
      rw [probes_step_of_dispatches hop]
      rcases k.probes_dispatch_cases d' with ⟨node, hdue, hprobes⟩ | ⟨hnone, hprobes⟩
      · rw [hprobes]
        exact .probed hop hdue (ih _)
      · rw [hprobes]
        refine .silent (fun d'' node hop' => ?_) (ih _)
        exact hop.unique hop' ▸ hnone node
    · rw [not_exists] at hop
      rw [probes_step_of_not_dispatches hop]
      exact .silent (fun d' _ hop' => absurd hop' (hop d')) (ih _)

theorem ProbesDue.unique {ops : List Operation} {nodes : List String}
    (h : k.ProbesDue d ops nodes) {nodes' : List String} (h' : k.ProbesDue d ops nodes') :
    nodes = nodes' := by
  induction h generalizing nodes' with
  | nil =>
    cases h'
    rfl
  | probed hop hdue _ ih =>
    cases h' with
    | probed hop' hdue' hrest =>
      cases hop.unique hop'
      have hnode := (probeDue_iff.mp hdue).2.symm.trans (probeDue_iff.mp hdue').2
      rw [Option.some.inj hnode, ih hrest]
    | silent hnone => exact absurd hdue (hnone _ _ hop)
  | silent hnone _ ih =>
    cases h' with
    | probed hop' hdue' => exact absurd hdue' (hnone _ _ hop')
    | silent _ hrest => exact ih hrest

/-! ## The answers that count -/

theorem event_withSource_congr
    (h : ∀ node, d.devnode = some node → source node = k.capabilities node) :
    (k.withSource source).event d = k.event d := by
  rw [event, event, withSource]
  cases hnode : d.devnode with
  | none => rfl
  | some node => simp only [h node hnode]

theorem handle_withSource_of_ne {h : Handler} (hne : h ≠ .evdev) :
    (k.withSource source).handle h d = k.handle h d := by
  cases h with
  | evdev => exact absurd rfl hne
  | keyboard | mouse | joystick | touchpad | touchscreen | kbdmux | sysmouse => rfl

theorem dispatch_withSource_congr
    (h : ∀ node ∈ (k.dispatch d).probes, source node = k.capabilities node) :
    (k.withSource source).dispatch d = k.dispatch d := by
  have hrules : (k.withSource source).rules = k.rules := rfl
  rw [dispatch, dispatch, hrules]
  cases hh : k.rules.handlerFor d.syspath with
  | none => rfl
  | some handler =>
    have hhandle : (k.withSource source).handle handler d = k.handle handler d := by
      by_cases hevdev : handler = .evdev
      · subst hevdev
        refine event_withSource_congr fun node hnode => h node ?_
        exact mem_probes_dispatch_iff.mpr (probeDue_iff.mpr ⟨hh, hnode⟩)
      · exact handle_withSource_of_ne hevdev
    simp only [hhandle]

theorem step_withSource_congr
    (h : ∀ node ∈ (k.step d op).probes, source node = k.capabilities node) :
    (k.withSource source).step d op = k.step d op := by
  cases op with
  | dispatch => exact dispatch_withSource_congr h
  | deviceFor path action =>
    have hdispatch : (k.withSource source).dispatch (.ofNode k.rules path action) =
        k.dispatch (.ofNode k.rules path action) := dispatch_withSource_congr h
    exact congrArg (fun p => { p with messages := k.rules.lookupMessages path ++ p.messages })
      hdispatch
  | bare | ofNode | insertProperty | insertSysattr | mark | setParent | attachParent |
    synthesizeParent | adopt => rfl

theorem progressOf_withSource_congr {ops : List Operation}
    (h : ∀ node ∈ k.probesOf d ops, source node = k.capabilities node) :
    (k.withSource source).progressOf d ops = k.progressOf d ops := by
  induction ops generalizing d with
  | nil => rfl
  | cons op ops ih =>
    rw [probesOf, List.forall_mem_append] at h
    rw [progressOf, progressOf, step_withSource_congr h.1, ih h.2]

theorem verdict_dispatch_of_failure {e : ProbeError} (h : ProbeDue k d node)
    (hanswer : source node = .error e) : ((k.withSource source).dispatch d).verdict = none := by
  obtain ⟨hevdev, hnode⟩ := probeDue_iff.mp h
  rw [(@dispatch_of_handlerFor_eq_some (k.withSource source) d .evdev hevdev).1]
  exact (event_of_unrecognised (.probeFailed hnode hanswer)).1

theorem verdict_dispatch_of_class {s : Snapshot} (h : ProbeDue k d node)
    (hanswer : source node = .ok s) (hclass : s.deviceClass ≠ .none) :
    ((k.withSource source).dispatch d).verdict = some s.deviceClass := by
  obtain ⟨hevdev, hnode⟩ := probeDue_iff.mp h
  rw [(@dispatch_of_handlerFor_eq_some (k.withSource source) d .evdev hevdev).1]
  exact (event_of_recognised hnode hanswer hclass).1

theorem dependsOn_of_answer (answer : Except ProbeError Snapshot)
    (h : ((k.withSource (Function.update k.capabilities node answer)).dispatch d).verdict ≠
      (k.dispatch d).verdict) : DependsOn k d node :=
  ⟨_, fun _ hother => Function.update_of_ne hother .., fun heq => h (congrArg Progress.verdict heq)⟩

/-- Whatever a probe that is due has found, it might have found the contrary: a class where it
found none, and a failure where it found one. -/
theorem dependsOn_of_due (h : ProbeDue k d node) : DependsOn k d node := by
  let keyboard : Snapshot := .ofCodes "" none {} [1] [] []
  have hkeyboard : keyboard.deviceClass ≠ .none := by decide +kernel
  by_cases hnone : (k.dispatch d).verdict = none
  · apply dependsOn_of_answer (.ok keyboard)
    rw [verdict_dispatch_of_class h (Function.update_self ..) hkeyboard, hnone]
    exact Option.some_ne_none _
  · apply dependsOn_of_answer (.error (.missingName node))
    rw [verdict_dispatch_of_failure h (Function.update_self ..)]
    exact Ne.symm hnone

theorem due_of_dependsOn (h : DependsOn k d node) : ProbeDue k d node := by
  obtain ⟨source, hsource, hne⟩ := h
  refine Classical.byContradiction fun hdue =>
    hne (dispatch_withSource_congr fun other hother => ?_)
  apply hsource other
  rintro rfl
  exact hdue (mem_probes_dispatch_iff.mp hother)

/-- The nodes that a run probes are those that are due, one for each dispatch with a node due and
none for any other step; the device that is made for a path is probed at that path. And they are the
nodes whose answers count: those of all others make no difference to the run, and another answer for
a probed node would make one to the dispatch. -/
theorem run_probes (k : Classifier) (d : Device) (ops : List Operation) :
    (∀ nodes, k.ProbesDue d ops nodes ↔ nodes = k.probesOf d ops) ∧
    (∀ d', (k.dispatch d').probes.length ≤ 1 ∧
      ∀ node, (k.dispatch d').probes = [node] ↔ k.ProbeDue d' node) ∧
    (∀ path action node, k.ProbeDue (.ofNode k.rules path action) node → node = path) ∧
    (∀ source, (∀ node ∈ k.probesOf d ops, source node = k.capabilities node) →
      (k.withSource source).progressOf d ops = k.progressOf d ops) ∧
    ∀ d' node, node ∈ (k.dispatch d').probes ↔ k.DependsOn d' node := by
  refine ⟨fun nodes => ⟨fun h => h.unique (k.probesDue_probesOf d ops), ?_⟩, fun d' => ⟨?_, ?_⟩, ?_,
    fun source => progressOf_withSource_congr, fun d' node => ?_⟩
  · rintro rfl
    exact k.probesDue_probesOf d ops
  · rcases k.probes_dispatch_cases d' with ⟨node, -, hprobes⟩ | ⟨-, hprobes⟩
    all_goals simp [hprobes]
  · exact fun node => probes_dispatch_eq_singleton_iff
  · intro path action node h
    exact (Option.some.inj (probeDue_iff.mp h).2).symm
  · rw [mem_probes_dispatch_iff]
    exact ⟨dependsOn_of_due, due_of_dependsOn⟩

end InputUdev.Classifier
