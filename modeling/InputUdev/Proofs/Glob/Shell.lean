import InputUdev.Proofs.Glob.Acceptance
import InputUdev.Proofs.Glob.Dialects

/-!
# Globs as a shell reads them

To a shell, wildcards take every character, and the members of a bracket are characters and ranges
and nothing else (`Glob.ShellAccepts`). Main statement: over an alphabet, a rule accepts the paths
that the shell accepts exactly if no wildcard meets a line break and each bracket holds the same
characters in both readings (`Rule.conformsOn_iff`). Brackets can differ only where two hyphens
stand in a row (`Glob.denotes_shellRanges`).
-/

namespace InputUdev
namespace Glob

open Regex (Range)

/-- The members of a bracket to a shell: a hyphen between two members makes a range. -/
def shellRanges : List Char → List Range
  | [] => []
  | c :: '-' :: d :: rest => ⟨c, d⟩ :: shellRanges rest
  | c :: rest => .single c :: shellRanges rest

/-- A shell reads the pattern so that it accepts the path. There are no rules for escapes and for
brackets that are not closed. -/
inductive ShellAccepts : List Char → List Char → Prop
  | nil : ShellAccepts [] []
  | run : ShellAccepts rest path → ShellAccepts ('*' :: rest) (piece ++ path)
  | any : ShellAccepts rest path → ShellAccepts ('?' :: rest) (c :: path)
  | bracket : Closes text negated members after →
    (Covers (shellRanges members) c ↔ negated = false) →
    ShellAccepts after path → ShellAccepts ('[' :: text) (c :: path)
  | char : c ≠ '*' → c ≠ '?' → c ≠ '[' → c ≠ '\\' →
    ShellAccepts rest path → ShellAccepts (c :: rest) (c :: path)

/-- A pattern with the given parts that all shells read alike. -/
structure Portable (text : List Char) (ps : List Part) : Prop where
  cut : Cut text ps
  closed : ∀ rest, .text ('[' :: rest) ∉ ps
  ordered : ∀ negated members, .bracket negated members ∈ ps →
    ∀ r ∈ shellRanges members, r.first ≤ r.last
  /-- Some shells take `^` for a mark of negation. -/
  noCaret : ∀ members, .bracket false members ∈ ps → members.head? ≠ some '^'
  noEscape : '\\' ∉ text
  /-- There are no character classes, collating symbols or equivalence classes. -/
  noClass : ∀ c ∈ [':', '.', '='], ¬ ['[', c] <:+: text

/-- Wildcards take every character, and all members of a bracket are taken in. -/
def Dialect.shell : Dialect where
  wild _ := True
  member members c := Covers (shellRanges members) c

/-! ## What a shell accepts, part by part -/

theorem ShellAccepts.spells {text path : List Char} {ps : List Part} (hps : Cut text ps)
    (h : ShellAccepts text path) : Spells .shell ps path := by
  induction h generalizing ps with
  | nil =>
    cases hps
    exact spells_nil_iff.mpr rfl
  | run _ ih =>
    cases hps with
    | run hps => exact spells_cons_iff.mpr ⟨_, _, rfl, fun _ _ => trivial, ih hps⟩
    | char h₁ _ _ _ => exact absurd rfl h₁
  | any _ ih =>
    cases hps with
    | any hps => exact spells_cons_iff.mpr ⟨[_], _, rfl, ⟨_, rfl, trivial⟩, ih hps⟩
    | char _ h₂ _ _ => exact absurd rfl h₂
  | bracket hc hmem _ ih =>
    cases hps with
    | bracket hc' hps =>
      obtain ⟨rfl, rfl, rfl⟩ := hc.unique hc'
      exact spells_cons_iff.mpr ⟨[_], _, rfl, ⟨_, rfl, hmem⟩, ih hps⟩
    | opening hopen => exact absurd hc (hopen _ _ _)
    | char _ _ h₃ _ => exact absurd rfl h₃
  | char h₁ h₂ h₃ _ _ ih =>
    cases hps with
    | run _ => exact absurd rfl h₁
    | any _ => exact absurd rfl h₂
    | bracket _ _ | opening _ => exact absurd rfl h₃
    | char _ _ _ hps => exact spells_cons_iff.mpr ⟨[_], _, rfl, rfl, ih hps⟩

theorem Cut.shellAccepts {text path : List Char} {ps : List Part} (hps : Cut text ps)
    (hclosed : ∀ rest, .text ('[' :: rest) ∉ ps) (hescape : '\\' ∉ text)
    (h : Spells .shell ps path) : ShellAccepts text path := by
  induction hps generalizing path with
  | nil =>
    rw [spells_nil_iff.mp h]
    exact .nil
  | run _ ih =>
    obtain ⟨piece, rest, rfl, -, hrest⟩ := spells_cons_iff.mp h
    exact .run (ih (fun rest => (List.not_mem_of_not_mem_cons (hclosed rest)))
      (List.not_mem_of_not_mem_cons hescape) hrest)
  | any _ ih =>
    obtain ⟨_, rest, rfl, ⟨c, rfl, -⟩, hrest⟩ := spells_cons_iff.mp h
    exact .any (ih (fun rest => (List.not_mem_of_not_mem_cons (hclosed rest)))
      (List.not_mem_of_not_mem_cons hescape) hrest)
  | bracket hc _ ih =>
    obtain ⟨_, rest, rfl, ⟨c, rfl, hmem⟩, hrest⟩ := spells_cons_iff.mp h
    refine .bracket hc hmem (ih (fun rest => (List.not_mem_of_not_mem_cons (hclosed rest)))
      (fun hback => hescape (List.mem_cons_of_mem _ (hc.after_subset hback))) hrest)
  | opening _ => exact absurd (List.mem_singleton_self _) (hclosed _)
  | char h₁ h₂ h₃ _ ih =>
    obtain ⟨_, rest, rfl, rfl, hrest⟩ := spells_cons_iff.mp h
    exact .char h₁ h₂ h₃ (fun hc => hescape (hc ▸ List.mem_cons_self))
      (ih (fun rest => (List.not_mem_of_not_mem_cons (hclosed rest)))
        (List.not_mem_of_not_mem_cons hescape) hrest)

theorem Portable.shellAccepts_iff {text path : List Char} {ps : List Part} (h : Portable text ps) :
    ShellAccepts text path ↔ Spells .shell ps path :=
  ⟨fun H => H.spells h.cut, h.cut.shellAccepts h.closed h.noEscape⟩

/-! ## Where the readings of a part agree -/

/-- Both readings of the part stand for the same pieces over an alphabet. -/
def Part.AgreesOn (A : Char → Prop) (p : Part) : Prop :=
  ∀ piece : List Char, (∀ c ∈ piece, A c) → (p.StandsFor .native piece ↔ p.StandsFor .shell piece)

section
variable {A : Char → Prop}

theorem agreesOn_run_iff : Part.run.AgreesOn A ↔ ¬ A '\n' := by
  constructor
  · intro h hA
    exact (h ['\n'] (by simpa using hA)).mpr (fun _ _ => trivial) '\n' (by simp) rfl
  · intro hA piece hpiece
    exact ⟨fun _ _ _ => trivial, fun _ c hc e => hA (e ▸ hpiece c hc)⟩

theorem agreesOn_any_iff : Part.any.AgreesOn A ↔ ¬ A '\n' := by
  constructor
  · intro h hA
    obtain ⟨c, e, hc⟩ := (h ['\n'] (by simpa using hA)).mpr ⟨_, rfl, trivial⟩
    cases e
    exact hc rfl
  · intro hA piece hpiece
    refine exists_congr fun c => and_congr_right fun e => ⟨fun _ => trivial, fun _ hc => ?_⟩
    subst e hc
    exact hA (hpiece _ (by simp))

theorem agreesOn_bracket_iff {negated : Bool} {members : List Char} :
    (Part.bracket negated members).AgreesOn A ↔
      ∀ c, A c → (Dialect.native.member members c ↔ Dialect.shell.member members c) := by
  constructor
  · intro h c hc
    have hpiece := h [c] (by simpa using hc)
    simp only [Part.StandsFor, List.cons.injEq, and_true, exists_eq_left'] at hpiece
    cases negated
    · simpa using hpiece
    · exact not_iff_not.mp (by simpa using hpiece)
  · intro h piece hpiece
    refine exists_congr fun c => and_congr_right fun e => ?_
    rw [h c (hpiece c (by simp [e]))]

/-- All parts agree if no wildcard meets a line break and the brackets hold the same characters. -/
theorem forall_agreesOn_iff {ps : List Part} :
    (∀ p ∈ ps, p.AgreesOn A) ↔
      (.run ∈ ps ∨ .any ∈ ps → ¬ A '\n') ∧
        ∀ negated members, .bracket negated members ∈ ps →
          ∀ c, A c → (Dialect.native.member members c ↔ Dialect.shell.member members c) := by
  constructor
  · intro h
    refine ⟨?_, fun negated members hp => agreesOn_bracket_iff.mp (h _ hp)⟩
    rintro (hp | hp)
    · exact agreesOn_run_iff.mp (h _ hp)
    · exact agreesOn_any_iff.mp (h _ hp)
  · rintro ⟨hwild, hmember⟩ p hp
    cases p with
    | run => exact agreesOn_run_iff.mpr (hwild (.inl hp))
    | any => exact agreesOn_any_iff.mpr (hwild (.inr hp))
    | bracket negated members => exact agreesOn_bracket_iff.mpr (hmember negated members hp)
    | text cs => exact fun _ _ => Iff.rfl

end

/-! ## Brackets without two hyphens in a row -/

theorem shellRanges_cons {c : Char} {rest : List Char} (h : rest.head? ≠ some '-') :
    shellRanges (c :: rest) = .single c :: shellRanges rest := by
  rw [shellRanges]
  rintro d rest' rfl
  exact h rfl

theorem scans_shellRanges {members : List Char} (h : ¬ ['-', '-'] <:+: members) (rs : List Range) :
    Scans (.union rs) members (.union (rs ++ shellRanges members)) := by
  fun_induction shellRanges members generalizing rs with
  | case1 => simpa using Scans.done
  | case2 c d rest ih =>
    have hc : c ≠ '-' := fun e => h ⟨[], d :: rest, by simp [e]⟩
    have hd : d ≠ '-' := fun e => h ⟨[c], rest, by simp [e]⟩
    have hrest : ¬ ['-', '-'] <:+: rest := fun hr => h (hr.trans ⟨[c, '-', d], [], by simp⟩)
    have htail := ih hrest (rs ++ [⟨c, d⟩])
    rw [List.append_assoc, List.singleton_append] at htail
    exact .range hc hd htail
  | case3 c rest hne ih =>
    have hrest : ¬ ['-', '-'] <:+: rest := fun hr => h (hr.trans ⟨[c], [], by simp⟩)
    have htail := ih hrest (rs ++ [.single c])
    rw [List.append_assoc, List.singleton_append] at htail
    by_cases hhead : rest.head? = some '-'
    · obtain ⟨rest', rfl⟩ := List.head?_eq_some_iff.mp hhead
      cases rest' with
      | nil =>
        have hc : c ≠ '-' := fun e => h ⟨[], [], by simp [e]⟩
        exact .beforeLast hc htail
      | cons d rest' => exact absurd rfl (hne d rest')
    · exact .single hhead htail

/-- Without two hyphens in a row, the text of a bracket's members denotes what a shell reads. -/
theorem denotes_shellRanges {members : List Char} (h : ¬ ['-', '-'] <:+: members) :
    Denotes members (.union (shellRanges members)) := by
  by_cases hhead : members.head? = some '-'
  · obtain ⟨rest, rfl⟩ := List.head?_eq_some_iff.mp hhead
    have hrest : rest.head? ≠ some '-' := fun hr => by
      obtain ⟨rest', rfl⟩ := List.head?_eq_some_iff.mp hr
      exact h ⟨[], rest', rfl⟩
    refine ⟨1, rest, rfl, hrest, ?_⟩
    rw [shellRanges_cons hrest]
    exact scans_shellRanges (fun hr => h (hr.trans ⟨['-'], [], by simp⟩)) [.single '-']
  · exact ⟨0, members, rfl, hhead, scans_shellRanges h []⟩

end Glob

open Glob

/-! ## Conformance -/

/-- The rule accepts exactly the paths over an alphabet that a shell accepts. -/
def Rule.ConformsOn (r : Rule) (A : Char → Prop) : Prop :=
  ∀ path : String, (∀ c ∈ path.toList, A c) →
    (r.accepts path = true ↔ ShellAccepts r.pattern.toList path.toList)

variable {r : Rule} {ps : List Part} {A : Char → Prop}

theorem Glob.Portable.conformsOn_of_agreesOn (h : Portable r.pattern.toList ps)
    (hord : BracketsOrdered ps) (hparts : ∀ p ∈ ps, p.AgreesOn A) : r.ConformsOn A := by
  intro path hpath
  rw [h.cut.accepts_iff, h.shellAccepts_iff, and_iff_right hord]
  constructor
  · intro H
    exact H.mono (fun p hp piece hpiece => (hparts p hp piece hpiece).mp) hpath
  · intro H
    exact H.mono (fun p hp piece hpiece => (hparts p hp piece hpiece).mpr) hpath

/-- Conformance on a single accepted path extends to the parts of the pattern. -/
theorem Glob.Portable.agreesOn_of_conformsOn (h : Portable r.pattern.toList ps)
    (hconf : r.ConformsOn A) {path : String} (hpath : ∀ c ∈ path.toList, A c)
    (hacc : r.accepts path = true) : BracketsOrdered ps ∧ ∀ p ∈ ps, p.AgreesOn A := by
  obtain ⟨hord, hnative⟩ := h.cut.accepts_iff.mp hacc
  have hshell := h.shellAccepts_iff.mp ((hconf path hpath).mp hacc)
  have hsame (text : List Char) (htext : ∀ c ∈ text, A c) :
      Spells .native ps text ↔ Spells .shell ps text := by
    have htext := hconf (.ofList text) (by simpa using htext)
    rwa [h.cut.accepts_iff, h.shellAccepts_iff, String.toList_ofList, and_iff_right hord] at htext
  refine ⟨hord, fun p hp piece hpiece => ⟨fun H => ?_, fun H => ?_⟩⟩
  · exact (spells_subset_iff ⟨_, hpath, hnative⟩).mp (fun t ht => (hsame t ht).mp) p hp piece
      hpiece H
  · exact (spells_subset_iff ⟨_, hpath, hshell⟩).mp (fun t ht => (hsame t ht).mpr) p hp piece
      hpiece H

/-- Brackets without two hyphens in a row hold no reversed range, as the shell's ranges are in
order, and the characters that they hold to a shell. -/
theorem Glob.Portable.brackets_of_no_hyphens (h : Portable r.pattern.toList ps)
    (hhyphens : ∀ negated members, .bracket negated members ∈ ps → ¬ ['-', '-'] <:+: members) :
    BracketsOrdered ps ∧ ∀ negated members, .bracket negated members ∈ ps →
      ∀ c, (Dialect.native.member members c ↔ Dialect.shell.member members c) := by
  constructor
  · intro negated members hp
    exact ⟨_, denotes_shellRanges (hhyphens negated members hp), h.ordered negated members hp⟩
  · intro negated members hp c
    exact (denotes_shellRanges (hhyphens negated members hp)).mem_iff

/-- When a rule with a portable pattern conforms to the shell over an alphabet: neither of the two
accepts any path, or no bracket holds a reversed range, no wildcard meets a line break and all
brackets hold the same characters of the alphabet. The brackets are never at fault if there are no
two hyphens in a row. -/
theorem Rule.conformsOn_iff (r : Rule) {ps : List Part} (h : Portable r.pattern.toList ps)
    (A : Char → Prop) :
    (r.ConformsOn A ↔
      (∀ path : String, (∀ c ∈ path.toList, A c) →
        r.accepts path = false ∧ ¬ ShellAccepts r.pattern.toList path.toList) ∨
      BracketsOrdered ps ∧ (.run ∈ ps ∨ .any ∈ ps → ¬ A '\n') ∧
        ∀ negated members, .bracket negated members ∈ ps → ∀ c, A c →
          (Dialect.native.member members c ↔ Dialect.shell.member members c)) ∧
    ((∀ negated members, .bracket negated members ∈ ps → ¬ ['-', '-'] <:+: members) →
      (.run ∈ ps ∨ .any ∈ ps → ¬ A '\n') → r.ConformsOn A) := by
  refine ⟨?_, fun hhyphens hwild => ?_⟩
  · rw [← forall_agreesOn_iff]
    constructor
    · intro hconf
      by_cases hne : ∃ path : String, (∀ c ∈ path.toList, A c) ∧ r.accepts path = true
      · obtain ⟨path, hpath, hacc⟩ := hne
        exact .inr (h.agreesOn_of_conformsOn hconf hpath hacc)
      · refine .inl fun path hpath => ?_
        have hacc : ¬ r.accepts path = true := fun hacc => hne ⟨path, hpath, hacc⟩
        exact ⟨Bool.eq_false_iff.mpr hacc, fun H => hacc ((hconf path hpath).mpr H)⟩
    · rintro (hnone | ⟨hord, hparts⟩)
      · intro path hpath
        obtain ⟨hacc, hshell⟩ := hnone path hpath
        simp [hacc, hshell]
      · exact h.conformsOn_of_agreesOn hord hparts
  · obtain ⟨hord, hmember⟩ := h.brackets_of_no_hyphens hhyphens
    exact h.conformsOn_of_agreesOn hord
      (forall_agreesOn_iff.mpr ⟨hwild, fun negated members hp c _ => hmember negated members hp c⟩)

/-- A rule for mice conforms on a single line, and only there. -/
theorem Rule.conformsOn_iff_mouse :
    Portable "ums[0-9]*".toList
      [.text ['u'], .text ['m'], .text ['s'], .bracket false ['0', '-', '9'], .run] ∧
    Rule.ConformsOn ⟨"input", "ums[0-9]*", true, .mouse⟩ (· ≠ '\n') ∧
    ¬ Rule.ConformsOn ⟨"input", "ums[0-9]*", true, .mouse⟩ fun _ => True := by
  have hcloses : Closes ('0' :: (['-', '9'] ++ ']' :: ['*'])) false ['0', '-', '9'] ['*'] :=
    .plain (by decide) (by decide)
  have hcut : Cut ['u', 'm', 's', '[', '0', '-', '9', ']', '*']
      [.text ['u'], .text ['m'], .text ['s'], .bracket false ['0', '-', '9'], .run] :=
    .char (by decide) (by decide) (by decide) <| .char (by decide) (by decide) (by decide) <|
      .char (by decide) (by decide) (by decide) <| .bracket hcloses <| .run .nil
  have hportable : Portable "ums[0-9]*".toList
      [.text ['u'], .text ['m'], .text ['s'], .bracket false ['0', '-', '9'], .run] :=
    { cut := hcut
      closed := by simp
      ordered := by simp; decide
      noCaret := by simp
      noEscape := by decide
      noClass := by simp [List.infix_cons_iff] }
  have hacc : Rule.accepts ⟨"input", "ums[0-9]*", true, .mouse⟩ "ums0" = true := by
    cbv
  refine ⟨hportable, (Rule.conformsOn_iff ⟨"input", "ums[0-9]*", true, .mouse⟩ hportable _).2 ?_ ?_,
    fun hconf => ?_⟩
  · simp [List.infix_cons_iff]
  · simp
  · rcases (Rule.conformsOn_iff ⟨"input", "ums[0-9]*", true, .mouse⟩ hportable _).1.mp hconf with
      hnone | ⟨-, hwild, -⟩
    · simpa [hacc] using hnone "ums0" (fun _ _ => trivial)
    · exact hwild (by simp) trivial

/-- Two hyphens in a row are read as a set difference where a shell reads a range, and a wildcard
stops at a line break. -/
theorem Rule.portable_not_conforming :
    (Portable "[a-z--c]".toList [.bracket false "a-z--c".toList] ∧
      Rule.accepts ⟨"input", "[a-z--c]", false, .evdev⟩ "c" = false ∧
      ShellAccepts "[a-z--c]".toList "c".toList) ∧
    (Portable "*".toList [.run] ∧
      Rule.accepts ⟨"input", "*", false, .evdev⟩ "\n" = false ∧
      ShellAccepts "*".toList "\n".toList) := by
  have hcloses : Closes ('a' :: (['-', 'z', '-', '-', 'c'] ++ ']' :: [])) false
      ['a', '-', 'z', '-', '-', 'c'] [] := .plain (by decide) (by decide)
  have hcut : Cut "[a-z--c]".toList [.bracket false "a-z--c".toList] := .bracket hcloses .nil
  have hrun : Cut "*".toList [.run] := .run .nil
  refine ⟨⟨⟨hcut, by simp, ?_, by simp, by decide, by simp [List.infix_cons_iff]⟩, ?_, ?_⟩,
    ⟨hrun, by simp, by simp, by simp, by decide, by simp [List.infix_cons_iff]⟩, ?_, ?_⟩
  · simp; decide
  · cbv
  · refine .bracket hcloses ⟨fun _ => rfl, fun _ => ?_⟩ .nil
    exact ⟨⟨'a', 'z'⟩, by decide, by decide, by decide⟩
  · cbv
  · exact @ShellAccepts.run [] [] ['\n'] .nil

end InputUdev
