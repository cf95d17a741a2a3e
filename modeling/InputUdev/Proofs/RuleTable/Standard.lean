import InputUdev.Proofs.RuleTable.Composition
import InputUdev.Proofs.RuleTable.FirstMatch
import InputUdev.Proofs.RuleTable.NodeName

/-!
# The standard table

No two standard rules are for the same node, so that the handler of a path is told by its name below
the device root. Main statement: `RuleTable.standard_lookups`, for every root without wildcards and
opening brackets.
-/

namespace InputUdev

/-- The names below the device root that a handler serves while evdev is off or on. -/
inductive ServesName (on : Bool) : Handler → String → Prop
  | event : Numbered "input/event" name → ServesName on .evdev name
  | ukbd : on = false → Numbered "ukbd" name → ServesName on .keyboard name
  | atkbd : on = false → Numbered "atkbd" name → ServesName on .keyboard name
  | kbdmux : on = false → Numbered "kbdmux" name → ServesName on .kbdmux name
  | ums : on = false → Numbered "ums" name → ServesName on .mouse name
  | psm : on = false → Numbered "psm" name → ServesName on .mouse name
  | joy : Numbered "joy" name → ServesName on .joystick name
  | atp : Numbered "atp" name → ServesName on .touchpad name
  | wsp : Numbered "wsp" name → ServesName on .touchpad name
  | uep : Numbered "uep" name → ServesName on .touchscreen name
  | sysmouse : on = false → ServesName on .sysmouse "sysmouse"
  | vboxguest : ServesName on .mouse "vboxguest"

open Glob

theorem servesName_iff {on : Bool} {h : Handler} {name : String} :
    ServesName on h name ↔ ∃ node ∈ StandardNode.all,
      node.name.Names name ∧ (node.skipIfEvdev && on) = false ∧ node.handler = h := by
  constructor
  · intro hname
    cases hname <;> simp [StandardNode.all, NodeName.Names, *]
  · rintro ⟨node, hnode, hname, hskip, rfl⟩
    simp only [StandardNode.all, List.mem_cons, List.not_mem_nil, or_false] at hnode
    rcases hnode with rfl | rfl | rfl | rfl | rfl | rfl | rfl | rfl | rfl | rfl | rfl | rfl
    · exact .event hname
    · exact .ukbd hskip hname
    · exact .atkbd hskip hname
    · exact .kbdmux hskip hname
    · exact .ums hskip hname
    · exact .psm hskip hname
    · exact .joy hname
    · exact .atp hname
    · exact .wsp hname
    · exact .uep hname
    · cases hname
      exact .sysmouse hskip
    · cases hname
      exact .vboxguest

namespace ServesName

variable {on : Bool} {h : Handler} {name : String}

theorem head_ne_slash (hname : ServesName on h name) : name.toList.head? ≠ some '/' := by
  have hbases : ∀ node ∈ StandardNode.all, ∃ c cs, node.name.base.toList = c :: cs ∧ c ≠ '/' := by
    simp [StandardNode.all, NodeName.base]
  obtain ⟨node, hnode, hnames, -, -⟩ := servesName_iff.mp hname
  obtain ⟨c, cs, hbase, hc⟩ := hbases node hnode
  obtain ⟨rest, hrest, -⟩ := NodeName.eq_base_append_of_names hnames
  simp [hrest, hbase, hc]

theorem ne_evdev_of_not_mem_slash (hname : ServesName on h name) (hslash : '/' ∉ name.toList) :
    h ≠ .evdev := by
  have hbases : ∀ node ∈ StandardNode.all, node.handler = .evdev → '/' ∈ node.name.base.toList := by
    decide
  rintro rfl
  obtain ⟨node, hnode, hnames, -, hh⟩ := servesName_iff.mp hname
  exact hslash ((NodeName.prefix_of_names hnames).subset (hbases node hnode hh))

/-- The nodes in the directory of event devices. -/
theorem input_iff : ServesName on h ("input/" ++ name) ↔ h = .evdev ∧ Numbered "event" name := by
  have hbases : ∀ node ∈ StandardNode.all,
      node.name.base.toList <+: "input/".toList ∨ "input/".toList <+: node.name.base.toList →
        node.name = .numbered "input/event" ∧ node.handler = .evdev := by
    decide
  constructor
  · intro hname
    obtain ⟨node, hnode, hnames, -, rfl⟩ := servesName_iff.mp hname
    -- only one base goes on where the directory's name ends, and none ends before
    obtain ⟨hevent, hh⟩ := hbases node hnode (List.prefix_or_prefix_of_prefix
      (NodeName.prefix_of_names hnames) ⟨name.toList, String.toList_append.symm⟩)
    rw [hevent] at hnames
    exact ⟨hh, numbered_append_iff.mp hnames⟩
  · rintro ⟨rfl, hname⟩
    exact .event (numbered_append_iff.mpr hname)

end ServesName

/-! ## At most one rule for a path -/

theorem StandardNode.all_apart :
    all.Pairwise fun m n => ¬ m.name.base.toList <+: n.name.base.toList ∧
      ¬ n.name.base.toList <+: m.name.base.toList := by
  decide

namespace RuleTable

variable {root path : String} {on : Bool} {h : Handler}

theorem standard_noOverlap (hroot : Plain (Path.trimSlashes root).toList) :
    NoOverlap path (standard root on).rules := by
  rw [NoOverlap, standard_rules, List.pairwise_map]
  refine StandardNode.all_apart.imp_of_mem fun {m n} hm hn hapart => ?_
  rw [StandardNode.accepts_ruleBelow_iff hm hroot, StandardNode.accepts_ruleBelow_iff hn hroot]
  rintro ⟨⟨name, rfl, hmname⟩, ⟨name', hpath, hnname⟩⟩
  obtain rfl : name = name' := (String.append_right_inj _).mp hpath
  rcases List.prefix_or_prefix_of_prefix (NodeName.prefix_of_names hmname)
    (NodeName.prefix_of_names hnname) with hprefix | hprefix
  · exact hapart.1 hprefix
  · exact hapart.2 hprefix

theorem handlerFor_standard_iff (hroot : Plain (Path.trimSlashes root).toList) :
    (standard root on).handlerFor path = some h ↔
      ∃ name, path = Path.trimSlashes root ++ "/" ++ name ∧ ServesName on h name := by
  simp only [handlerFor_eq_some_iff, (standard_noOverlap hroot).isFirst_iff,
    servesName_iff]
  constructor
  · rintro ⟨r, ⟨hr, hacc⟩, hdefers, rfl⟩
    rw [standard_rules] at hr
    obtain ⟨node, hnode, rfl⟩ := List.mem_map.mp hr
    obtain ⟨name, hpath, hname⟩ := (StandardNode.accepts_ruleBelow_iff hnode hroot).mp hacc
    exact ⟨name, hpath, node, hnode, hname, hdefers, rfl⟩
  · rintro ⟨name, hpath, node, hnode, hname, hdefers, rfl⟩
    have hacc := (StandardNode.accepts_ruleBelow_iff hnode hroot).mpr ⟨name, hpath, hname⟩
    have hmem : node.ruleBelow (Path.trimSlashes root) ∈ (standard root on).rules := by
      rw [standard_rules]
      exact List.mem_map_of_mem hnode
    exact ⟨_, ⟨hmem, hacc⟩, hdefers, rfl⟩

theorem subsystem_eq_input {r : Rule} (hr : r ∈ (standard root on).rules) :
    r.subsystem = "input" := by
  rw [standard_rules] at hr
  obtain ⟨node, -, rfl⟩ := List.mem_map.mp hr
  rfl

theorem subsystemFor_standard :
    (standard root on).subsystemFor path =
      if ((standard root on).handlerFor path).isSome then "input" else "unknown" := by
  rw [subsystemFor, handlerFor]
  cases hr : (standard root on).ruleFor path with
  | none => rfl
  | some r =>
    exact subsystem_eq_input (ruleFor_eq_some_iff.mp hr).1.mem

/-- Nothing is wrong with the standard rules below a plain root. -/
theorem standard_warnings (hroot : Plain root.toList) : (standard root on).warnings = [] := by
  rw [warnings_eq_nil_iff, standard_rules]
  rintro r hr ⟨ps, hps, hreversed⟩
  obtain ⟨node, hnode, rfl⟩ := List.mem_map.mp hr
  have hcut := NodeName.cut_pattern (r := node.ruleBelow (Path.trimSlashes root)) rfl
    hroot.trimSlashes (StandardNode.plain_base hnode)
  rw [hps.unique hcut] at hreversed
  exact hreversed NodeName.bracketsOrdered_tailParts

/-- The handler of a path under the standard rules is told by the name of the path below the root,
whose trailing slashes do not count, and the subsystem says whether there is a handler. -/
theorem standard_lookups (root : String) (hroot : Plain root.toList) :
    ∃ front, (∀ front', (∃ n, Path.EndsInSlashes root front' n) ↔ front' = front) ∧
      ∀ (on : Bool) (path : String),
        (∀ h, (standard root on).handlerFor path = some h ↔
          ∃ name, path = front ++ "/" ++ name ∧ ServesName on h name) ∧
        (standard root on).subsystemFor path =
          if ((standard root on).handlerFor path).isSome then "input" else "unknown" := by
  refine ⟨Path.trimSlashes root, fun _ => Path.exists_endsInSlashes_iff, fun on path => ?_⟩
  exact ⟨fun h => handlerFor_standard_iff hroot.trimSlashes, subsystemFor_standard⟩

/-- Dots and dollars in a root stand for themselves. -/
theorem standard_lookups_dots_and_dollars :
    Plain "/d.v$//".toList ∧
    (standard "/d.v$//" false).handlerFor "/d.v$/ums7" = some .mouse ∧
    (standard "/d.v$//" true).handlerFor "/d.v$/input/event10" = some .evdev ∧
    (standard "/d.v$//" false).handlerFor "/dev$/ums7" = none := by
  have hroot : Plain "/d.v$//".toList := by simp [Plain]
  obtain ⟨front, hfront, hlookups⟩ := standard_lookups "/d.v$//" hroot
  obtain rfl : "/d.v$" = front := (hfront "/d.v$").mp ⟨2, by decide, by decide⟩
  refine ⟨hroot, ?_, ?_, ?_⟩
  · have hname : Numbered "ums" "ums7" := ⟨'7', [], by decide, by decide, by simp⟩
    exact ((hlookups false _).1 .mouse).mpr ⟨"ums7", by decide, .ums rfl hname⟩
  · have hname : Numbered "input/event" "input/event10" :=
      ⟨'1', ['0'], by decide, by decide, by simp⟩
    exact ((hlookups true _).1 .evdev).mpr ⟨"input/event10", by decide, .event hname⟩
  · rw [Option.eq_none_iff_forall_ne_some]
    intro h hh
    obtain ⟨name, hpath, -⟩ := ((hlookups false _).1 h).mp hh
    simpa using congrArg String.toList hpath

end RuleTable
end InputUdev
