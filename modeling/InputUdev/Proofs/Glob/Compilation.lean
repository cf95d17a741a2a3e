import InputUdev.Proofs.Glob.Spelling

/-!
# Compiling a pattern

The expression that the translation of a pattern is read as. Escaped text is read as the characters
it was (`readNodes_literals`), and the set of a bracket as the expression that the members denote
(`Denotes.readMembers_eq`). Main statements: the nodes of the parts are read one after the other
(`Cut.matcher_eq_ok`), unless a bracket holds a reversed range, which is the only error
(`Cut.matcher_eq_error`).
-/

namespace InputUdev.Glob

open Regex

/-- The set that an expression is read as. -/
def SetExpr.toClassSet : SetExpr → ClassSet
  | union rs => .union rs
  | diff left rs => .combine .difference left.toClassSet rs

/-- The nodes that the parts of a pattern are read as. -/
inductive Compiles : List Part → List Node → Prop
  | nil : Compiles [] []
  | run : Compiles ps ns → Compiles (.run :: ps) (.many .dot :: ns)
  | any : Compiles ps ns → Compiles (.any :: ps) (.one .dot :: ns)
  | bracket : Denotes members e → e.Ordered → Compiles ps ns →
    Compiles (.bracket negated members :: ps) (.one (.bracket negated e.toClassSet) :: ns)
  | text : Compiles ps ns →
    Compiles (.text cs :: ps) (cs.map (fun c => .one (.literal c)) ++ ns)

variable {c d m : Char} {cs ms rest members text : List Char} {u : Token} {ts : List Token}
  {done ns : List Node} {negated : Bool} {set : ClassSet} {e e' : SetExpr} {ps : List Part}

/-! ## Text outside of brackets -/

/-- The token of a character that is kept from having a meaning of its own. -/
def literalToken (c : Char) : Token := if c ∈ metaCharacters then .escaped c else .plain c

theorem tokens_cons (hc : c ≠ '\\') : tokens (c :: rest) = .plain c :: tokens rest := by
  rw [tokens] <;> simp [hc]

theorem tokens_escapeChar : tokens (escapeChar c ++ rest) = literalToken c :: tokens rest := by
  by_cases hc : c ∈ metaCharacters
  · rw [escapeChar, literalToken, if_pos hc, if_pos hc]
    rfl
  · rw [escapeChar, literalToken, if_neg hc, if_neg hc]
    exact tokens_cons fun h => hc (h ▸ by decide)

theorem tokens_escape : tokens (escape cs ++ rest) = cs.map literalToken ++ tokens rest := by
  induction cs with
  | nil => rfl
  | cons c cs ih =>
    rw [escape, List.flatMap_cons, List.append_assoc, tokens_escapeChar]
    exact congrArg _ ih

theorem literal_literalToken : (literalToken c).literal = .ok c := by
  by_cases hc : c ∈ metaCharacters
  · rw [literalToken, if_pos hc]
    exact if_pos hc
  · have hother : c ∉ ['+', '?', '(', ')', '|', '{'] := fun h =>
      hc (List.subset_def.mp (by decide) h)
    rw [literalToken, if_neg hc]
    exact if_neg hother

theorem readNodes_literal :
    readNodes done (literalToken c :: ts) = readNodes (.one (.literal c) :: done) ts := by
  have hplain : ∀ d ∈ metaCharacters, literalToken c ≠ .plain d := by
    intro d hd h
    rw [literalToken] at h
    split at h
    · cases h
    · next hc =>
      cases h
      exact hc hd
  rw [readNodes, literal_literalToken]
  · rfl
  all_goals
    intros
    exact absurd ‹literalToken c = .plain _› (hplain _ (by decide))

theorem readNodes_literals :
    readNodes done (cs.map literalToken ++ ts) =
      readNodes ((cs.map fun c => .one (.literal c)).reverse ++ done) ts := by
  induction cs generalizing done with
  | nil => rfl
  | cons c cs ih =>
    rw [List.map_cons, List.cons_append, readNodes_literal, ih]
    simp

/-! ## Members of brackets -/

/-- The token of a member of a bracket. -/
def memberToken (c : Char) : Token :=
  if c = ']' ∨ c ∈ ['\\', '[', '^', '&', '~'] then .escaped c else .plain c

theorem memberToken_ne_plain (hd : d ∈ [']', '\\', '[', '^', '&', '~']) :
    memberToken c ≠ .plain d := by
  rw [memberToken]
  split
  · simp
  · next hc =>
    rintro ⟨rfl⟩
    exact hc (List.mem_cons.mp hd)

theorem memberToken_ne_hyphen (hc : c ≠ '-') : memberToken c ≠ .plain '-' := by
  rw [memberToken]
  split
  · simp
  · simpa using hc

theorem member_memberToken : (memberToken c).member = .ok c := by
  rw [memberToken]
  split
  · next hc =>
    exact if_pos (List.subset_def.mp (by decide : [']', '\\', '[', '^', '&', '~'] ⊆ metaCharacters)
      (List.mem_cons.mpr hc))
  · rfl

theorem tokens_escapeMember (hc : c ≠ ']') :
    tokens (escapeMember c ++ rest) = memberToken c :: tokens rest := by
  by_cases h : c ∈ ['\\', '[', '^', '&', '~']
  · rw [escapeMember, memberToken, if_pos h, if_pos (.inr h)]
    rfl
  · rw [escapeMember, memberToken, if_neg h, if_neg (not_or.mpr ⟨hc, h⟩)]
    exact tokens_cons fun h' => h (h' ▸ List.mem_cons_self)

theorem tokens_escapeFirst : tokens (escapeFirst c ++ rest) = memberToken c :: tokens rest := by
  by_cases hc : c = ']'
  · subst hc
    rfl
  · rw [escapeFirst, if_neg hc, tokens_escapeMember hc]

theorem tokens_setText (hms : ']' ∉ ms) :
    tokens (setText (m :: ms) ++ rest) = (m :: ms).map memberToken ++ tokens rest := by
  have htail : tokens (ms.flatMap escapeMember ++ rest) = ms.map memberToken ++ tokens rest := by
    induction ms with
    | nil => rfl
    | cons c ms ih =>
      have hc : c ≠ ']' := fun h => hms (h ▸ List.mem_cons_self)
      rw [List.flatMap_cons, List.append_assoc, tokens_escapeMember hc,
        ih (List.not_mem_of_not_mem_cons hms)]
      rfl
  rw [setText, List.append_assoc, tokens_escapeFirst, htail]
  rfl

theorem ofTokens?_memberToken (h : c ≠ '-' ∨ u ≠ .plain '-') :
    SetOperator.ofTokens? (memberToken c) u = none := by
  rw [SetOperator.ofTokens?.eq_def]
  split
  · next htoken => exact absurd htoken (memberToken_ne_plain (by decide))
  · next htoken =>
    rcases h with hc | hu
    · exact absurd htoken (memberToken_ne_hyphen hc)
    · exact absurd rfl hu
  · next htoken => exact absurd htoken (memberToken_ne_plain (by decide))
  · rfl

/-! ## Reading a bracket -/

theorem readMembers_close :
    readMembers done negated false set (.plain ']' :: ts) =
      readNodes (.one (.bracket negated set) :: done) ts := by
  rw [readMembers]
  simp

theorem readMembers_minus :
    readMembers done negated false set (.plain '-' :: .plain '-' :: ts) =
      readMembers done negated false (.combine .difference set []) ts := by
  rw [readMembers]
  rfl

theorem readMembers_single (hu : u ≠ .plain '-') :
    readMembers done negated false set (memberToken c :: u :: ts) =
      readMembers done negated false (set.add (.single c)) (u :: ts) := by
  rw [readMembers, if_neg (by simp), if_neg (memberToken_ne_plain (by decide)),
    if_neg (memberToken_ne_plain (by decide)), member_memberToken]
  simp only [bind, Except.bind, ofTokens?_memberToken (.inr hu), if_pos hu]

theorem readMembers_beforeHyphen (hc : c ≠ '-') (hu : u = .plain '-' ∨ u = .plain ']') :
    readMembers done negated false set (memberToken c :: .plain '-' :: u :: ts) =
      readMembers done negated false (set.add (.single c)) (.plain '-' :: u :: ts) := by
  rw [readMembers, if_neg (by simp), if_neg (memberToken_ne_plain (by decide)),
    if_neg (memberToken_ne_plain (by decide)), member_memberToken]
  simp only [bind, Except.bind, ofTokens?_memberToken (.inl hc), ne_eq, not_true_eq_false,
    if_false, if_pos hu]

theorem readMembers_range (hc : c ≠ '-') (hd : d ≠ '-') :
    readMembers done negated false set (memberToken c :: .plain '-' :: memberToken d :: ts) =
      if c ≤ d then readMembers done negated false (set.add ⟨c, d⟩) ts
      else .error .reversedRange := by
  have hlast : ¬ (memberToken d = .plain '-' ∨ memberToken d = .plain ']') :=
    not_or.mpr ⟨memberToken_ne_hyphen hd, memberToken_ne_plain (by decide)⟩
  rw [readMembers, if_neg (by simp), if_neg (memberToken_ne_plain (by decide)),
    if_neg (memberToken_ne_plain (by decide)), member_memberToken]
  simp only [bind, Except.bind, ofTokens?_memberToken (.inl hc), ne_eq, not_true_eq_false,
    if_false, if_neg hlast, member_memberToken]

theorem SetExpr.toClassSet_add (r : Range) : (e.add r).toClassSet = e.toClassSet.add r := by
  cases e <;> rfl

/-- The members are read as they are scanned, up to the first reversed range. -/
theorem Scans.readMembers_eq (h : Scans e ms e') (he : e.Ordered) :
    readMembers done negated false e.toClassSet (ms.map memberToken ++ .plain ']' :: ts) =
      if e'.Ordered then readNodes (.one (.bracket negated e'.toClassSet) :: done) ts
      else .error .reversedRange := by
  induction h with
  | done => rw [if_pos he]; exact readMembers_close
  | minus _ ih =>
    rw [← ih (SetExpr.ordered_diff_nil_iff.mpr he)]
    exact readMembers_minus
  | @range c d _ _ _ hc hd hscan ih =>
    refine (readMembers_range hc hd).trans ?_
    split
    · next hcd =>
      rw [← SetExpr.toClassSet_add]
      exact ih (SetExpr.ordered_add_iff.mpr ⟨he, hcd⟩)
    · next hcd =>
      rw [if_neg fun he' => hcd (SetExpr.ordered_add_iff.mp (hscan.ordered_left he')).2]
  | @single rest _ c _ hrest _ ih =>
    rw [← ih (SetExpr.ordered_add_single_iff.mpr he), SetExpr.toClassSet_add]
    cases rest with
    | nil => exact readMembers_single (by simp)
    | cons d rest => exact readMembers_single (memberToken_ne_hyphen (by simpa using hrest))
  | beforeMinus hc _ ih | beforeLast hc _ ih =>
    rw [← ih (SetExpr.ordered_add_single_iff.mpr he), SetExpr.toClassSet_add]
    exact readMembers_beforeHyphen hc (by decide)

/-- Hyphens at the beginning are read as members. -/
theorem readMembers_hyphens (n : Nat) {k : Nat} :
    readMembers done negated true (.union (List.replicate k (.single '-')))
        (List.replicate n (.plain '-') ++ ts) =
      readMembers done negated true (.union (List.replicate (k + n) (.single '-'))) ts := by
  induction n generalizing k with
  | zero => rfl
  | succ n ih =>
    rw [List.replicate_succ, List.cons_append, readMembers, if_pos (by simp), ClassSet.add,
      ← List.replicate_succ', ih, Nat.add_right_comm, Nat.add_assoc]

/-- The beginning of the members ends with any other token, unless it is a closing bracket that
comes first. -/
theorem readMembers_leading (hhyphen : u ≠ .plain '-')
    (hfirst : u = .plain ']' → set ≠ .union []) :
    readMembers done negated true set (u :: ts) = readMembers done negated false set (u :: ts) := by
  rw [readMembers, readMembers]
  by_cases hu : u = .plain ']'
  · simp [hu, hfirst hu]
  · simp [hu, hhyphen]

/-- The members of a bracket are read as the expression that they denote. -/
theorem Denotes.readMembers_eq (h : Denotes members e) (hne : members ≠ []) :
    readMembers done negated true (.union []) (members.map memberToken ++ .plain ']' :: ts) =
      if e.Ordered then readNodes (.one (.bracket negated e.toClassSet) :: done) ts
      else .error .reversedRange := by
  obtain ⟨n, rest, rfl, hrest, hscan⟩ := h
  have hordered : (SetExpr.union (List.replicate n (.single '-'))).Ordered := by
    intro r hr
    rw [List.eq_of_mem_replicate hr]
    exact Char.le_refl _
  rw [← hscan.readMembers_eq hordered, List.map_append, List.map_replicate, List.append_assoc]
  refine (readMembers_hyphens n (k := 0)).trans ?_
  rw [Nat.zero_add]
  cases rest with
  | nil =>
    refine readMembers_leading (by simp) fun _ => ?_
    cases n with
    | zero => exact absurd rfl hne
    | succ n => simp [List.replicate_succ]
  | cons c rest =>
    exact readMembers_leading (memberToken_ne_hyphen (by simpa using hrest))
      fun h => absurd h (memberToken_ne_plain (by decide))

/-! ## Reading a pattern -/

theorem exists_compiles (h : BracketsOrdered ps) : ∃ ns, Compiles ps ns := by
  induction ps with
  | nil => exact ⟨_, .nil⟩
  | cons p ps ih =>
    obtain ⟨ns, hns⟩ := ih fun negated members hp => h _ _ (List.mem_cons_of_mem _ hp)
    cases p with
    | run => exact ⟨_, .run hns⟩
    | any => exact ⟨_, .any hns⟩
    | bracket negated members =>
      obtain ⟨e, he, hordered⟩ := h negated members List.mem_cons_self
      exact ⟨_, .bracket he hordered hns⟩
    | text cs => exact ⟨_, .text hns⟩

theorem readNodes_run :
    readNodes done (tokens (Part.run.translation ++ rest)) =
      readNodes (.many .dot :: done) (tokens rest) :=
  rfl

theorem readNodes_any :
    readNodes done (tokens (Part.any.translation ++ rest)) =
      readNodes (.one .dot :: done) (tokens rest) :=
  rfl

theorem readNodes_text :
    readNodes done (tokens ((Part.text cs).translation ++ rest)) =
      readNodes ((cs.map fun c => .one (.literal c)).reverse ++ done) (tokens rest) := by
  rw [Part.translation, tokens_escape, readNodes_literals]

theorem readNodes_bracket (hms : ']' ∉ ms) (he : Denotes (m :: ms) e) :
    readNodes done (tokens ((Part.bracket negated (m :: ms)).translation ++ rest)) =
      if e.Ordered then readNodes (.one (.bracket negated e.toClassSet) :: done) (tokens rest)
      else .error .reversedRange := by
  have hset : tokens (setText (m :: ms) ++ ']' :: rest) =
      (m :: ms).map memberToken ++ .plain ']' :: tokens rest := tokens_setText hms
  rw [← he.readMembers_eq (by simp)]
  cases negated with
  | true =>
    rw [← hset]
    simp [Part.translation, tokens_cons, readNodes]
  | false =>
    have htokens : tokens ((Part.bracket false (m :: ms)).translation ++ rest) =
        .plain '[' :: (memberToken m :: (ms.map memberToken ++ .plain ']' :: tokens rest)) := by
      rw [← List.cons_append, ← List.map_cons, ← hset]
      simp [Part.translation, tokens_cons]
    rw [htokens, readNodes]
    · rfl
    · intro ts h
      exact memberToken_ne_plain (by decide) (List.cons.inj h).1

theorem Closes.readNodes_bracket {after : List Char} (h : Closes text negated members after)
    (he : Denotes members e) :
    readNodes done (tokens ((Part.bracket negated members).translation ++ rest)) =
      if e.Ordered then readNodes (.one (.bracket negated e.toClassSet) :: done) (tokens rest)
      else .error .reversedRange := by
  cases h with
  | plain _ hms | negated hms => exact readNodes_bracket hms he

theorem readNodes_stop : readNodes done (tokens ['$']) = .ok (done.reverse ++ [.stop]) := by
  rw [tokens_cons (by decide), readNodes, tokens, readNodes, List.reverse_cons]

theorem Cut.readNodes_eq_ok (h : Cut text ps) (hns : Compiles ps ns) :
    readNodes done (tokens (ps.flatMap Part.translation ++ ['$'])) =
      .ok (done.reverse ++ ns ++ [.stop]) := by
  induction h generalizing done ns with
  | nil =>
    cases hns
    rw [List.append_nil]
    exact readNodes_stop
  | run _ ih =>
    cases hns with
    | run hns =>
      rw [List.flatMap_cons, List.append_assoc, readNodes_run, ih hns]
      simp
  | any _ ih =>
    cases hns with
    | any hns =>
      rw [List.flatMap_cons, List.append_assoc, readNodes_any, ih hns]
      simp
  | bracket hc _ ih =>
    cases hns with
    | bracket he hordered hns =>
      rw [List.flatMap_cons, List.append_assoc, hc.readNodes_bracket he, if_pos hordered, ih hns]
      simp
  | opening _ =>
    cases hns with
    | text hns =>
      cases hns
      rw [List.flatMap_cons, List.append_assoc, readNodes_text, List.flatMap_nil, List.nil_append,
        readNodes_stop]
      simp
  | char _ _ _ _ ih =>
    cases hns with
    | text hns =>
      rw [List.flatMap_cons, List.append_assoc, readNodes_text, ih hns]
      simp

theorem Cut.readNodes_eq_error (h : Cut text ps) (hps : ¬ BracketsOrdered ps) :
    readNodes done (tokens (ps.flatMap Part.translation ++ ['$'])) = .error .reversedRange := by
  induction h generalizing done with
  | nil => exact absurd (by simp [BracketsOrdered]) hps
  | run _ ih =>
    rw [bracketsOrdered_cons_iff (by simp)] at hps
    rw [List.flatMap_cons, List.append_assoc, readNodes_run, ih hps]
  | any _ ih =>
    rw [bracketsOrdered_cons_iff (by simp)] at hps
    rw [List.flatMap_cons, List.append_assoc, readNodes_any, ih hps]
  | @bracket _ _ members _ _ hc _ ih =>
    obtain ⟨e, he⟩ := exists_denotes members
    rw [he.bracketsOrdered_cons_iff, not_and] at hps
    rw [List.flatMap_cons, List.append_assoc, hc.readNodes_bracket he]
    split
    · next hordered => exact ih (hps hordered)
    · rfl
  | opening _ => exact absurd (by simp [BracketsOrdered]) hps
  | char _ _ _ _ ih =>
    rw [bracketsOrdered_cons_iff (by simp)] at hps
    rw [List.flatMap_cons, List.append_assoc, readNodes_text, ih hps]

/-! ## Compiling -/

variable {pattern : String}

theorem Cut.matcher_eq (h : Cut pattern.toList ps) :
    (ofText pattern).matcher =
      (readNodes [.start] (tokens (ps.flatMap Part.translation ++ ['$']))).map Regex.mk := by
  rw [ofText, Regex.ofText, translate, String.toList_ofList, h.translateFrom_eq, List.append_assoc,
    List.singleton_append, tokens_cons (by decide), readNodes]

theorem Cut.matcher_eq_ok (h : Cut pattern.toList ps) (hns : Compiles ps ns) :
    (ofText pattern).matcher = .ok ⟨.start :: (ns ++ [.stop])⟩ := by
  rw [h.matcher_eq, h.readNodes_eq_ok hns]
  rfl

theorem Cut.matcher_eq_error (h : Cut pattern.toList ps) (hps : ¬ BracketsOrdered ps) :
    (ofText pattern).matcher = .error .reversedRange := by
  rw [h.matcher_eq, h.readNodes_eq_error hps]
  rfl

end InputUdev.Glob
