import InputUdev.Proofs.Glob.Acceptance
import InputUdev.Proofs.Glob.PlainText
import InputUdev.Proofs.Path.TrailingSlashes

/-!
# The names of the standard nodes

Each standard rule is for the nodes of one name, or of one base with a digit and anything after it.
Below a device root without wildcards and opening brackets the glob of a rule accepts just these
nodes (`NodeName.accepts_iff`).
-/

namespace InputUdev

/-- The name is the base, an ASCII digit and anything without a line break. -/
def Numbered (base name : String) : Prop :=
  ∃ d rest, name.toList = base.toList ++ d :: rest ∧ ('0' ≤ d ∧ d ≤ '9') ∧ '\n' ∉ rest

theorem numbered_append_iff {front base name : String} :
    Numbered (front ++ base) (front ++ name) ↔ Numbered base name := by
  simp [Numbered]

/-- How the nodes of a standard rule are named. -/
inductive NodeName where
  | exact (base : String)
  | numbered (base : String)
  deriving DecidableEq, Repr

namespace NodeName

def base : NodeName → String
  | exact base | numbered base => base

def glob : NodeName → String
  | exact base => base
  | numbered base => base ++ "[0-9]*"

def Names : NodeName → String → Prop
  | exact base, name => name = base
  | numbered base, name => Numbered base name

/-- What the glob holds after the base. -/
def tailParts : NodeName → List Glob.Part
  | exact _ => []
  | numbered _ => [.bracket false ['0', '-', '9'], .run]

theorem prefix_of_names {n : NodeName} {name : String} (h : n.Names name) :
    n.base.toList <+: name.toList := by
  cases n with
  | exact base =>
    cases h
    exact List.prefix_rfl
  | numbered base =>
    obtain ⟨d, rest, hname, -, -⟩ := h
    exact ⟨d :: rest, hname.symm⟩

end NodeName

open Glob

theorem Glob.cut_digits : Cut "[0-9]*".toList [.bracket false ['0', '-', '9'], .run] := by
  have hcloses : Closes ('0' :: (['-', '9'] ++ ']' :: ['*'])) false ['0', '-', '9'] ['*'] :=
    .plain (by simp) (by simp)
  exact .bracket hcloses (.run .nil)

theorem Glob.denotes_digits : Denotes ['0', '-', '9'] (.union [⟨'0', '9'⟩]) :=
  ⟨0, ['0', '-', '9'], rfl, by simp, .range (by simp) (by simp) .done⟩

namespace NodeName

variable {n : NodeName} {front : List Char}

theorem cut_glob (hfront : Plain front) (hbase : Plain n.base.toList) :
    Cut (front ++ n.glob.toList) (texts (front ++ n.base.toList) ++ n.tailParts) := by
  have hplain := plain_append_iff.mpr ⟨hfront, hbase⟩
  cases n with
  | exact base =>
    have hcut := hplain.cut .nil
    rw [List.append_nil] at hcut
    simpa [glob, NodeName.base, tailParts] using hcut
  | numbered base =>
    have hcut := hplain.cut cut_digits
    rw [List.append_assoc] at hcut
    rw [glob, String.toList_append]
    exact hcut

theorem bracketsOrdered_tailParts {cs : List Char} : BracketsOrdered (texts cs ++ n.tailParts) := by
  intro negated members hmem
  cases n with
  | exact base => simp [tailParts, texts] at hmem
  | numbered base =>
    obtain ⟨rfl, rfl⟩ : negated = false ∧ members = ['0', '-', '9'] := by
      simpa [tailParts, texts] using hmem
    refine ⟨_, denotes_digits, fun r hr => ?_⟩
    cases List.mem_singleton.mp hr
    decide

theorem spells_digits_iff {text : List Char} :
    Spells .native [.bracket false ['0', '-', '9'], .run] text ↔
      ∃ d rest, text = d :: rest ∧ ('0' ≤ d ∧ d ≤ '9') ∧ '\n' ∉ rest := by
  simp only [spells_cons_iff, spells_nil_iff, Part.StandsFor, denotes_digits.mem_iff, SetExpr.Mem,
    Covers, List.mem_singleton, exists_eq_left, iff_true]
  constructor
  · rintro ⟨_, _, rfl, ⟨d, rfl, hd⟩, rest, _, rfl, hrest, rfl⟩
    refine ⟨d, rest, by simp, hd, fun hmem => hrest _ hmem rfl⟩
  · rintro ⟨d, rest, rfl, hd, hrest⟩
    refine ⟨[d], rest, rfl, ⟨d, rfl, hd⟩, rest, [], by simp, ?_, rfl⟩
    rintro c hc rfl
    exact hrest hc

theorem spells_tailParts_iff {text : List Char} :
    Spells .native n.tailParts text ↔ n.Names (n.base ++ .ofList text) := by
  cases n with
  | exact base =>
    rw [tailParts, spells_nil_iff]
    simp [Names, NodeName.base, String.ext_iff]
  | numbered base =>
    rw [tailParts, spells_digits_iff]
    simp [Names, NodeName.base, Numbered]

theorem eq_base_append_of_names {name : String} (h : n.Names name) :
    ∃ rest, name.toList = n.base.toList ++ rest ∧ n.Names (n.base ++ .ofList rest) := by
  obtain ⟨rest, hrest⟩ := prefix_of_names h
  have hname : name = n.base ++ .ofList rest := String.ext (by simp [hrest])
  exact ⟨rest, hrest.symm, hname ▸ h⟩

theorem cut_pattern {r : Rule} {front : String} (hr : r.pattern = front ++ "/" ++ n.glob)
    (hfront : Plain front.toList) (hbase : Plain n.base.toList) :
    Cut r.pattern.toList (texts (front.toList ++ "/".toList ++ n.base.toList) ++ n.tailParts) := by
  have hslash : Plain "/".toList := by simp [Plain]
  have hcut := cut_glob (plain_append_iff.mpr ⟨hfront, hslash⟩) hbase
  rwa [← String.toList_append, ← String.toList_append, ← hr, String.toList_append] at hcut

/-- A rule for nodes below a plain front accepts the nodes of its names. -/
theorem accepts_iff {r : Rule} {front path : String} (hr : r.pattern = front ++ "/" ++ n.glob)
    (hfront : Plain front.toList) (hbase : Plain n.base.toList) :
    r.accepts path = true ↔ ∃ name, path = front ++ "/" ++ name ∧ n.Names name := by
  rw [(cut_pattern hr hfront hbase).accepts_iff, and_iff_right bracketsOrdered_tailParts,
    spells_texts_append_iff]
  simp only [spells_tailParts_iff]
  constructor
  · rintro ⟨rest, hpath, hrest⟩
    refine ⟨_, String.ext ?_, hrest⟩
    simpa using hpath
  · rintro ⟨name, rfl, hname⟩
    obtain ⟨rest, hrest, hnames⟩ := eq_base_append_of_names hname
    exact ⟨rest, by simp [hrest], hnames⟩

end NodeName

/-- What a standard rule says of its nodes. -/
structure StandardNode where
  name : NodeName
  skipIfEvdev : Bool
  handler : Handler
  deriving DecidableEq, Repr

namespace StandardNode

def all : List StandardNode := [
  ⟨.numbered "input/event", false, .evdev⟩,
  ⟨.numbered "ukbd", true, .keyboard⟩,
  ⟨.numbered "atkbd", true, .keyboard⟩,
  ⟨.numbered "kbdmux", true, .kbdmux⟩,
  ⟨.numbered "ums", true, .mouse⟩,
  ⟨.numbered "psm", true, .mouse⟩,
  ⟨.numbered "joy", false, .joystick⟩,
  ⟨.numbered "atp", false, .touchpad⟩,
  ⟨.numbered "wsp", false, .touchpad⟩,
  ⟨.numbered "uep", false, .touchscreen⟩,
  ⟨.exact "sysmouse", true, .sysmouse⟩,
  ⟨.exact "vboxguest", false, .mouse⟩]

/-- The rule for the nodes below a front. -/
def ruleBelow (front : String) (node : StandardNode) : Rule :=
  ⟨"input", front ++ "/" ++ node.name.glob, node.skipIfEvdev, node.handler⟩

variable {node : StandardNode}

theorem plain_base (h : node ∈ all) : Plain node.name.base.toList := by
  have hall : ∀ node ∈ all, Plain node.name.base.toList := by simp [all, NodeName.base, Plain]
  exact hall node h

theorem accepts_ruleBelow_iff {front path : String} (hnode : node ∈ all)
    (hfront : Plain front.toList) :
    (node.ruleBelow front).accepts path = true ↔
      ∃ name, path = front ++ "/" ++ name ∧ node.name.Names name :=
  NodeName.accepts_iff rfl hfront (plain_base hnode)

end StandardNode

theorem Glob.Plain.trimSlashes {root : String} (hroot : Plain root.toList) :
    Plain (Path.trimSlashes root).toList := by
  obtain ⟨n, hn⟩ := Path.exists_endsInSlashes root
  rw [hn.eq_append] at hroot
  exact (plain_append_iff.mp hroot).1

theorem RuleTable.standard_rules (root : String) (on : Bool) :
    (standard root on).rules = StandardNode.all.map (·.ruleBelow (Path.trimSlashes root)) := by
  have hrules : standardRules =
      StandardNode.all.map fun node => (node.name.glob, node.skipIfEvdev, node.handler) := by decide
  rw [standard, hrules, List.map_map]
  rfl

end InputUdev
