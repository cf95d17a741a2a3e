import InputUdev.Proofs.Glob.Extension
import InputUdev.Proofs.RuleTable.FirstMatch
import InputUdev.Proofs.RuleTable.NodeName

/-!
# The device root in the standard rules

The device root is a part of the patterns of the standard rules, and is read as a pattern there. So
the table may apply a rule to a path that does not lie below the root. Main statement: it never does
exactly if each rule spells the root out before its first wildcard or closed bracket, or accepts no
path at all (`RuleTable.standard_staysBelow_iff`).
-/

namespace InputUdev

/-- The path is the front, a slash and a name. -/
def Path.Below (front path : String) : Prop := ∃ name, path = front ++ "/" ++ name

theorem Path.below_iff {front path : String} :
    Below front path ↔ front.toList ++ ['/'] <+: path.toList := by
  constructor
  · rintro ⟨name, rfl⟩
    exact ⟨name.toList, by simp⟩
  · rintro ⟨name, hname⟩
    exact ⟨.ofList name, String.ext (by simp [← hname])⟩

open Glob

/-- The pattern of the rule begins with the text of the front and a slash. -/
def Rule.SpellsOut (r : Rule) (front : String) : Prop :=
  ∃ ps, Cut r.pattern.toList ps ∧ front.toList ++ ['/'] <+: leadingText ps

theorem Rule.SpellsOut.below {r : Rule} {front path : String} (h : r.SpellsOut front)
    (hacc : r.accepts path = true) : Path.Below front path := by
  obtain ⟨ps, hps, hfront⟩ := h
  rw [Path.below_iff]
  exact hfront.trans (hps.accepts_iff.mp hacc).2.startsWith_leadingText

/-- No standard rule is applied to a path that does not lie below the front of the root. -/
def RuleTable.StaysBelow (root front : String) : Prop :=
  ∀ on path r, (standard root on).ruleFor path = some r → Path.Below front path

namespace RuleTable

theorem exists_ruleFor_of_accepts {t : RuleTable} {r : Rule} {path : String} (hr : r ∈ t.rules)
    (hacc : r.accepts path = true) (hoff : t.evdevEnabled = false) :
    ∃ q, t.ruleFor path = some q := by
  cases hq : t.ruleFor path with
  | some q => exact ⟨q, rfl⟩
  | none =>
    rcases ruleFor_eq_none_iff.mp hq with hnone | ⟨q, -, hdefers⟩
    · rw [hnone r hr] at hacc
      cases hacc
    · rw [(defers_eq_true_iff.mp hdefers).2] at hoff
      cases hoff

theorem staysBelow_iff_of_rules {root front : String} :
    StaysBelow root front ↔
      ∀ r ∈ (standard root false).rules, ∀ path, r.accepts path = true → Path.Below front path := by
  constructor
  · intro h r hr path hacc
    obtain ⟨q, hq⟩ := exists_ruleFor_of_accepts hr hacc rfl
    exact h false path q hq
  · intro h on path r hr
    obtain ⟨hfirst, -⟩ := ruleFor_eq_some_iff.mp hr
    exact h r hfirst.mem path hfirst.accepts

end RuleTable

/-! ## Rules that stay below their front -/

theorem prefix_of_prefix_append_cons {l u v w : List Char} {a b : Char} (hab : a ≠ b)
    (ha : l <+: u ++ a :: v) (hb : l <+: u ++ b :: w) : l <+: u := by
  induction u generalizing l with
  | nil =>
    rcases List.prefix_cons_iff.mp ha with rfl | ⟨t, rfl, -⟩
    · exact List.nil_prefix
    · exact absurd (List.cons_prefix_cons.mp hb).1 hab
  | cons c u ih =>
    rcases List.prefix_cons_iff.mp ha with rfl | ⟨t, rfl, hta⟩
    · exact List.nil_prefix
    · exact List.cons_prefix_cons.mpr ⟨rfl, ih hta (List.cons_prefix_cons.mp hb).2⟩

namespace StandardNode

/-- The rules below the front accept no path outside of it. -/
def AllBelow (front : String) : Prop :=
  ∀ node ∈ all, ∀ path, (node.ruleBelow front).accepts path = true → Path.Below front path

variable {front path : String} {node : StandardNode} {pre tail text : List Char}
  {qs ts rs : List Part}

theorem not_mem_base_closing (h : node ∈ all) : ']' ∉ node.name.base.toList := by
  have hall : ∀ node ∈ all, ']' ∉ node.name.base.toList := by decide
  exact hall node h

theorem cut_ruleBelow (hfront : front.toList = pre ++ tail) (hqs : Settled pre qs)
    (hrs : Cut (tail ++ '/' :: node.name.glob.toList) rs) :
    Cut (node.ruleBelow front).pattern.toList (qs ++ rs) := by
  have hpattern : (node.ruleBelow front).pattern.toList =
      pre ++ (tail ++ '/' :: node.name.glob.toList) := by
    simp [ruleBelow, hfront]
  rw [hpattern]
  exact hqs _ _ hrs

/-- A rule for nodes of one name goes on after all that the root spells. -/
theorem exists_cut_exact {base : String} (hnode : node ∈ all) (hname : node.name = .exact base)
    (hfront : front.toList = pre ++ tail) (hqs : Settled pre qs) (htail : OpenTail tail ts) :
    ∃ rs, Cut (node.ruleBelow front).pattern.toList (qs ++ rs) ∧ (∀ p ∈ rs, p.IsText) ∧
      leadingText rs = tail ++ '/' :: base.toList := by
  have hplain : Plain ('/' :: base.toList) := by
    have hbase := plain_base hnode
    rw [hname] at hbase
    exact List.forall_mem_cons.mpr ⟨by simp, hbase⟩
  have hclose : ']' ∉ '/' :: base.toList := by
    have hbase := not_mem_base_closing hnode
    rw [hname] at hbase
    exact List.not_mem_cons_of_ne_of_not_mem (by simp) hbase
  obtain ⟨rs, hrs, htext⟩ := htail.exists_cut_append hplain hclose
  have hglob : node.name.glob = base := by rw [hname]; rfl
  refine ⟨rs, cut_ruleBelow hfront hqs (hglob ▸ hrs), htext, hrs.leadingText_eq htext⟩

theorem accepts_exact {base : String} (hnode : node ∈ all) (hname : node.name = .exact base)
    (hfront : front.toList = pre ++ tail) (hqs : Settled pre qs) (htail : OpenTail tail ts)
    (hordered : BracketsOrdered qs) (htext : Spells .native qs text) :
    (node.ruleBelow front).accepts (.ofList (text ++ (tail ++ '/' :: base.toList))) = true := by
  obtain ⟨rs, hcut, hrs, hleading⟩ := exists_cut_exact hnode hname hfront hqs htail
  rw [hcut.accepts_iff, bracketsOrdered_append_iff, String.toList_ofList]
  have hspells : Spells .native rs (tail ++ '/' :: base.toList) :=
    hleading ▸ spells_leadingText hrs
  exact ⟨⟨hordered, bracketsOrdered_of_isText hrs⟩,
    spells_append_iff.mpr ⟨text, _, rfl, htext, hspells⟩⟩

/-- If the root spells any text at all, it holds no wildcards and no closed brackets. Otherwise it
would spell a text shorter than itself or other than itself, and two of the rules would accept paths
that go on from there. -/
theorem AllBelow.isText (h : AllBelow front) (hfront : front.toList = pre ++ tail)
    (hqs : Settled pre qs) (htail : OpenTail tail ts) (hordered : BracketsOrdered qs)
    (htext : Spells .native qs text) : ∀ q ∈ qs, q.IsText := by
  obtain ⟨short, hshort, hlen, hsame⟩ := hqs.cut.exists_short_spelling htext
  have hbelow (base : String) (skip : Bool) (handler : Handler)
      (hnode : ⟨.exact base, skip, handler⟩ ∈ all) :
      front.toList ++ ['/'] <+: (short ++ (tail ++ ['/'])) ++ base.toList := by
    have hacc := accepts_exact hnode rfl hfront hqs htail hordered hshort
    have hpath := Path.below_iff.mp (h _ hnode _ hacc)
    simpa using hpath
  have hprefix : front.toList ++ ['/'] <+: short ++ (tail ++ ['/']) :=
    prefix_of_prefix_append_cons (by decide : 's' ≠ 'v')
      (hbelow "sysmouse" true .sysmouse (by simp [all]))
      (hbelow "vboxguest" false .mouse (by simp [all]))
  rw [hfront, List.append_assoc] at hprefix
  have hlength := hprefix.length_le
  simp only [List.length_append] at hlength
  have heq := hprefix.eq_of_length (by simp only [List.length_append]; omega)
  exact hsame (List.append_cancel_right heq).symm

/-- A bracket that the root leaves open takes in the beginning of a rule for numbered nodes. The
rule then accepts nothing, as a path of one character after the root would lie outside of it. -/
theorem AllBelow.not_accepts_numbered {base : String} (h : AllBelow front) (hnode : node ∈ all)
    (hname : node.name = .numbered base) (hfront : front.toList = pre ++ '[' :: tail)
    (hqs : Settled pre qs) (htext : ∀ q ∈ qs, q.IsText)
    (hopen : ∀ negated members after, ¬ Closes tail negated members after) :
    (node.ruleBelow front).accepts path = false := by
  have hclose : ']' ∉ '/' :: (base.toList ++ "[0-9".toList) := by
    have hbase := not_mem_base_closing hnode
    rw [hname] at hbase
    simpa [NodeName.base] using hbase
  obtain ⟨negated, members, hc⟩ := exists_closes_append hopen (by decide) hclose ['*']
  have hrs :
      Cut ('[' :: tail ++ '/' :: node.name.glob.toList) [.bracket negated members, .run] := by
    have hcut := Cut.bracket hc (.run .nil)
    rw [hname]
    simpa [NodeName.glob] using hcut
  have hcut := cut_ruleBelow hfront hqs hrs
  refine Bool.eq_false_iff.mpr fun hacc => ?_
  obtain ⟨hordered, hspells⟩ := hcut.accepts_iff.mp hacc
  obtain ⟨_, rest, -, -, hrest⟩ := spells_append_iff.mp hspells
  obtain ⟨_, _, -, ⟨c, rfl, hmem⟩, -⟩ := spells_cons_iff.mp hrest
  have hpre : Spells .native qs pre := by
    rw [← hqs.cut.leadingText_eq htext]
    exact spells_leadingText htext
  have hone : Spells .native [.bracket negated members, .run] [c] :=
    spells_cons_iff.mpr ⟨[c], [], rfl, ⟨c, rfl, hmem⟩,
      spells_cons_iff.mpr ⟨[], [], rfl, by simp [Part.StandsFor], spells_nil_iff.mpr rfl⟩⟩
  have hshort : (node.ruleBelow front).accepts (.ofList (pre ++ [c])) = true := by
    rw [hcut.accepts_iff, String.toList_ofList]
    exact ⟨hordered, spells_append_iff.mpr ⟨pre, [c], rfl, hpre, hone⟩⟩
  have hlength := (Path.below_iff.mp (h node hnode _ hshort)).length_le
  simp only [hfront, String.toList_ofList, List.length_append, List.length_cons,
    List.length_nil] at hlength
  omega

/-- A rule that accepts any path begins with the root as text. -/
theorem AllBelow.spellsOut (h : AllBelow front) (hnode : node ∈ all)
    (hacc : (node.ruleBelow front).accepts path = true) :
    (node.ruleBelow front).SpellsOut front := by
  obtain ⟨ps, hps⟩ := exists_cut front.toList
  obtain ⟨pre, qs, tail, ts, hfront, -, hqs, htail⟩ := hps.exists_settled
  obtain ⟨rs, hrs⟩ := exists_cut (tail ++ '/' :: node.name.glob.toList)
  have hcut := cut_ruleBelow hfront hqs hrs
  obtain ⟨hordered, hspells⟩ := hcut.accepts_iff.mp hacc
  obtain ⟨text, _, -, hqspells, -⟩ := spells_append_iff.mp hspells
  have htext := h.isText hfront hqs htail (bracketsOrdered_append_iff.mp hordered).1 hqspells
  refine ⟨qs ++ rs, hcut, ?_⟩
  rw [leadingText_append htext, hqs.cut.leadingText_eq htext, hfront, List.append_assoc,
    List.prefix_append_right_inj]
  cases hname : node.name with
  | exact base =>
    obtain ⟨rs', hcut', -, hleading⟩ := exists_cut_exact hnode hname hfront hqs htail
    rw [List.append_cancel_left (hcut.unique hcut'), hleading]
    exact ⟨base.toList, by simp⟩
  | numbered base =>
    cases htail with
    | nothing =>
      cases hrs with
      | char => exact ⟨_, rfl⟩
    | opening hopen =>
      rw [h.not_accepts_numbered hnode hname hfront hqs htext hopen] at hacc
      cases hacc

theorem allBelow_of_plain (hfront : Plain front.toList) : AllBelow front := by
  intro node hnode path hacc
  obtain ⟨name, hpath, -⟩ := (accepts_ruleBelow_iff hnode hfront).mp hacc
  exact ⟨name, hpath⟩

theorem allBelow_iff :
    AllBelow front ↔ ∀ node ∈ all, (node.ruleBelow front).SpellsOut front ∨
      ∀ path, (node.ruleBelow front).accepts path = false := by
  constructor
  · intro h node hnode
    by_cases hacc : ∃ path, (node.ruleBelow front).accepts path = true
    · obtain ⟨path, hacc⟩ := hacc
      exact .inl (h.spellsOut hnode hacc)
    · exact .inr fun path => Bool.eq_false_iff.mpr fun H => hacc ⟨path, H⟩
  · intro h node hnode path hacc
    rcases h node hnode with hspells | hnone
    · exact hspells.below hacc
    · rw [hnone path] at hacc
      cases hacc

end StandardNode

/-! ## The table -/

namespace RuleTable

open StandardNode

theorem staysBelow_iff_allBelow {root : String} :
    StaysBelow root (Path.trimSlashes root) ↔ AllBelow (Path.trimSlashes root) := by
  rw [staysBelow_iff_of_rules, standard_rules]
  simp only [List.mem_map, AllBelow, forall_exists_index, and_imp, forall_apply_eq_imp_iff₂]

/-- The standard rules stay below the device root, whose trailing slashes do not count, exactly if
each of them spells it out or accepts no path at all. They do if there are no wildcards and opening
brackets in the root. -/
theorem standard_staysBelow_iff (root : String) :
    ∃ front, (∀ front', (∃ n, Path.EndsInSlashes root front' n) ↔ front' = front) ∧
      (StaysBelow root front ↔ ∀ r ∈ (standard root false).rules,
        r.SpellsOut front ∨ ∀ path, r.accepts path = false) ∧
      (Plain root.toList → StaysBelow root front) := by
  refine ⟨Path.trimSlashes root, fun _ => Path.exists_endsInSlashes_iff, ?_, fun hroot => ?_⟩
  · rw [staysBelow_iff_allBelow, allBelow_iff, standard_rules]
    simp only [List.mem_map, forall_exists_index, and_imp, forall_apply_eq_imp_iff₂]
  · exact staysBelow_iff_allBelow.mpr (allBelow_of_plain hroot.trimSlashes)

/-- A star in the root takes in more than itself. -/
theorem standard_leaves_starred_root :
    Path.EndsInSlashes "/dev*" "/dev*" 0 ∧
    (∃ r, (standard "/dev*" false).ruleFor "/devel/ukbd0" = some r) ∧
    ¬ Path.Below "/dev*" "/devel/ukbd0" := by
  have hacc :
      Rule.accepts ⟨"input", "/dev*/ukbd[0-9]*", true, .keyboard⟩ "/devel/ukbd0" = true := by
    cbv
  refine ⟨⟨by decide, by decide⟩, exists_ruleFor_of_accepts (by decide) hacc rfl, ?_⟩
  rw [Path.below_iff]
  decide

end RuleTable

end InputUdev
