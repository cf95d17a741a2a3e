import InputUdev.Proofs.Settings.Refusal
import InputUdev.Proofs.Text.Lowercase
import InputUdev.Text.Blank

/-!
# Words for a mode

Whatever form a character outside ASCII has in lowercase, something in it is in no word for a mode
(`EvdevMode.Folds`), so that a text is a word in lowercase exactly if it is one but for the case of
ASCII letters (`EvdevMode.flatten_eq_iff`). Main statement: these texts and no others give a mode,
and any other one the error that quotes it (`EvdevMode.ofValue_text_exact`).
-/

namespace InputUdev.EvdevMode

open Text

/-- The characters are the same, or one ASCII letter in its two cases. -/
inductive SameLetter : Char → Char → Prop
  | same : SameLetter c c
  | capital : 'A' ≤ c → c ≤ 'Z' → d.toNat = c.toNat + 32 → SameLetter c d
  | small : 'A' ≤ d → d ≤ 'Z' → c.toNat = d.toNat + 32 → SameLetter c d

/-- The texts are the same but for the case of ASCII letters. -/
def SameButCase (s t : String) : Prop := List.Forall₂ SameLetter s.toList t.toList

/-- The characters of the words for all modes. -/
def letters : List Char := ['a', 'u', 't', 'o', 'n', 'r', 'e', 'y', 's', '1', 'f', 'l', '0']

/-- An ASCII character has its lowercase as its form. In the form of another one there is something
that is in no word. -/
inductive Folds : Char → List Char → Prop
  | ascii : c.toNat < 128 → Folds c [c.toLower]
  | other : 128 ≤ c.toNat → x ∈ form → x ∉ letters → Folds c form

variable {s word form : String} {text w : List Char} {pieces : List (List Char)} {c d : Char}
  {mode : EvdevMode}

/-! ## The case of a letter -/

theorem capital_iff (c : Char) : 'A' ≤ c ∧ c ≤ 'Z' ↔ 65 ≤ c.toNat ∧ c.toNat ≤ 90 := by
  rw [Char.le_def, Char.le_def, UInt32.le_iff_toNat_le, UInt32.le_iff_toNat_le]
  rfl

theorem toNat_toLower (c : Char) :
    c.toLower.toNat = if 65 ≤ c.toNat ∧ c.toNat ≤ 90 then c.toNat + 32 else c.toNat := by
  rw [Char.toLower]
  split
  · next h =>
    have hlt := (capital_iff c).mp h
    have hadd : (c.val + ('a'.val - 'A'.val)).toNat = (c.toNat + 32) % 2 ^ 32 := UInt32.toNat_add ..
    rw [if_pos hlt]
    exact hadd.trans (Nat.mod_eq_of_lt (by omega))
  · next h => rw [if_neg (mt (capital_iff c).mpr h)]

theorem sameLetter_iff : SameLetter c d ↔ c.toLower = d.toLower := by
  rw [← Char.toNat_inj, toNat_toLower, toNat_toLower]
  constructor
  · intro h
    cases h with
    | same => rfl
    | capital hA hZ heq | small hA hZ heq =>
      have hrange := (capital_iff _).mp ⟨hA, hZ⟩
      rw [if_pos hrange, if_neg (by omega), heq]
  · intro h
    by_cases hc : 65 ≤ c.toNat ∧ c.toNat ≤ 90 <;> by_cases hd : 65 ≤ d.toNat ∧ d.toNat ≤ 90
    · obtain rfl : c = d := Char.toNat_inj.mp (by simpa [hc, hd] using h)
      exact .same
    · obtain ⟨hA, hZ⟩ := (capital_iff c).mpr hc
      exact .capital hA hZ (by simpa [hc, hd] using h.symm)
    · obtain ⟨hA, hZ⟩ := (capital_iff d).mpr hd
      exact .small hA hZ (by simpa [hc, hd] using h)
    · obtain rfl : c = d := Char.toNat_inj.mp (by simpa [hc, hd] using h)
      exact .same

theorem sameButCase_iff : SameButCase s word ↔
    s.toList.map Char.toLower = word.toList.map Char.toLower := by
  have hletter : SameLetter = fun c d => c.toLower = d.toLower := by
    funext c d
    exact propext sameLetter_iff
  rw [SameButCase, hletter, ← List.forall₂_eq_eq_eq, List.forall₂_map_left_iff,
    List.forall₂_map_right_iff]

/-! ## The letters of the words -/

theorem letters_plain : ∀ x ∈ letters, x.toNat < 128 ∧ x.toLower = x ∧ isBlank x = false := by
  have hall : letters.all (fun x => x.toNat < 128 && x.toLower == x && !isBlank x) = true := by
    decide
  intro x hx
  simpa [and_assoc] using List.all_eq_true.mp hall x hx

theorem mem_letters (hword : word ∈ mode.words) : ∀ x ∈ word.toList, x ∈ letters := by
  have hall : (mode.words.all fun word => word.toList.all letters.contains) = true := by
    cases mode <;> decide
  intro x hx
  simpa using List.all_eq_true.mp (List.all_eq_true.mp hall word hword) x hx

theorem not_mem_letters (hc : 128 ≤ c.toNat) : c ∉ letters := fun hmem =>
  absurd (letters_plain c hmem).1 (Nat.not_lt.mpr hc)

theorem toLower_of_not_ascii (hc : 128 ≤ c.toNat) : c.toLower = c := by
  rw [← Char.toNat_inj, toNat_toLower, if_neg (by omega)]

/-! ## The forms of a character -/

theorem folds_foldCase (c : Char) : Folds c (foldCase c) := by
  rw [foldCase]
  split
  · next h => exact h ▸ .other (by decide) (List.mem_singleton_self 'k') (by decide)
  · split
    · next h => exact h ▸ .other (by decide) List.mem_cons_self (by decide)
    · by_cases hc : c.toNat < 128
      · exact .ascii hc
      · have hc := Nat.le_of_not_lt hc
        rw [toLower_of_not_ascii hc]
        exact .other hc (List.mem_singleton_self c) (not_mem_letters hc)

theorem folds_lowercase (c : Char) : Folds c (lowercase c) := by
  by_cases hascii : c.toNat < 128
  · rw [lowercase, if_pos hascii]
    exact .ascii hascii
  · have hc := Nat.le_of_not_lt hascii
    by_cases hkelvin : c = '\u212a'
    · subst hkelvin
      exact .other hc (by decide +kernel) (show 'k' ∉ letters by decide)
    · by_cases hdotted : c = '\u0130'
      · subst hdotted
        exact .other hc (by decide +kernel) (show 'i' ∉ letters by decide)
      · obtain ⟨x, hx⟩ := List.exists_mem_of_ne_nil _ (lowercase_ne_nil c)
        exact .other hc hx (not_mem_letters (forall_mem_lowercase hc hkelvin hdotted x hx))

theorem folds_of_lowercaseOf (h : LowercaseOf c text) : Folds c text := by
  cases h with
  | usual => exact folds_lowercase c
  | finalSigma => exact .other (by decide) (List.mem_singleton_self 'ς') (by decide)

/-- In place of a character outside ASCII there is none of any word, whatever its form is. -/
theorem flatten_eq_iff (h : List.Forall₂ Folds text pieces) (hw : ∀ x ∈ w, x ∈ letters) :
    pieces.flatten = w ↔ text.map Char.toLower = w := by
  induction h generalizing w with
  | nil => exact Iff.rfl
  | @cons c form text pieces hc _ ih =>
    cases hc with
    | ascii hc =>
      rw [List.flatten_cons, List.singleton_append, List.map_cons]
      cases w with
      | nil => exact iff_of_false nofun nofun
      | cons x w =>
        rw [List.cons.injEq, List.cons.injEq, ih (List.forall_mem_of_forall_mem_cons hw)]
    | other hc hx hnot =>
      refine iff_of_false (fun heq => hnot (hw _ ?_)) fun heq => not_mem_letters hc (hw c ?_)
      · rw [← heq, List.flatten_cons]
        exact List.mem_append_left _ hx
      · rw [← heq, List.map_cons, toLower_of_not_ascii hc]
        exact List.mem_cons_self

/-! ## Words -/

theorem find?_words_eq_some_iff :
    (all.find? fun mode => mode.words.contains form) = some mode ↔ form ∈ mode.words := by
  constructor
  · intro h
    simpa using List.find?_some h
  · intro h
    have hall : (mode.words.all fun form =>
        (all.find? fun mode => mode.words.contains form) == some mode) = true := by
      cases mode <;> decide
    exact beq_iff_eq.mp (List.all_eq_true.mp hall form h)

/-- A form is a word of the mode exactly if the text is one, but for the case of ASCII letters. -/
theorem mem_words_iff (h : List.Forall₂ Folds s.toList pieces)
    (hform : form.toList = pieces.flatten) :
    form ∈ mode.words ↔ ∃ word ∈ mode.words, SameButCase s word := by
  have hword : ∀ word ∈ mode.words, form = word ↔ SameButCase s word := by
    intro word hword
    have hlower : word.toList.map Char.toLower = word.toList := by
      rw [List.map_congr_left fun x hx => (letters_plain x (mem_letters hword x hx)).2.1,
        List.map_id']
    rw [sameButCase_iff, hlower, ← flatten_eq_iff h (mem_letters hword), ← hform, String.toList_inj]
  constructor
  · intro hmem
    exact ⟨form, hmem, (hword form hmem).mp rfl⟩
  · rintro ⟨word, hmem, hsame⟩
    rw [(hword word hmem).mpr hsame]
    exact hmem

theorem ofText?_eq_some_iff : ofText? s = some mode ↔ ∃ word ∈ mode.words, SameButCase s word := by
  have hfolds : List.Forall₂ Folds s.toList (s.toList.map foldCase) := by
    rw [List.forall₂_map_right_iff, List.forall₂_same]
    exact fun c _ => folds_foldCase c
  rw [ofText?, find?_words_eq_some_iff, mem_words_iff hfolds]
  rw [String.toList_ofList, List.flatMap_def]

theorem find?_of_isLowercaseForm (h : IsLowercaseForm s form) :
    (all.find? fun mode => mode.words.contains form) = ofText? s := by
  obtain ⟨pieces, hpieces, hform⟩ := h
  apply Option.ext
  intro mode
  rw [find?_words_eq_some_iff, ofText?_eq_some_iff]
  exact mem_words_iff (hpieces.imp fun _ _ => folds_of_lowercaseOf) hform

theorem isBlank_eq_false_of_toLower_ne (h : c.toLower ≠ c) : isBlank c = false := by
  have hcapital : 65 ≤ c.toNat ∧ c.toNat ≤ 90 := by
    by_contra hnot
    exact h (Char.toNat_inj.mp (by rw [toNat_toLower, if_neg hnot]))
  simp only [isBlank, Bool.or_eq_false_iff, Bool.and_eq_false_iff, decide_eq_false_iff_not,
    beq_eq_false_iff_ne]
  omega

/-- What is a word but for the case of ASCII letters has neither characters outside ASCII nor
blanks. -/
theorem SameButCase.plain (h : SameButCase s word) (hword : word ∈ mode.words) :
    ∀ c ∈ s.toList, c.toNat < 128 ∧ isBlank c = false := by
  intro c hc
  have hmap : c.toLower ∈ word.toList.map Char.toLower := by
    rw [← sameButCase_iff.mp h]
    exact List.mem_map_of_mem hc
  obtain ⟨x, hx, hlower⟩ := List.mem_map.mp hmap
  obtain ⟨hascii, hplain, hblank⟩ := letters_plain x (mem_letters hword x hx)
  rw [hplain] at hlower
  subst hlower
  constructor
  · have hle : c.toNat ≤ c.toLower.toNat := by
      rw [toNat_toLower]
      split <;> omega
    exact Nat.lt_of_le_of_lt hle hascii
  · by_cases hsame : c.toLower = c
    · rw [← hsame]
      exact hblank
    · exact isBlank_eq_false_of_toLower_ne hsame

/-! ## The mode of a text -/

theorem ofValue_text_eq_ok_iff :
    ofValue (.text s) = .ok mode ↔ ∃ word ∈ mode.words, SameButCase s word := by
  rw [← ofText?_eq_some_iff, ofValue]
  cases ofText? s <;> simp

theorem ofValue_text_eq_error_iff : ofValue (.text s) = .error e ↔
    e = .unknownMode s ∧ ∀ mode : EvdevMode, ∀ word ∈ mode.words, ¬ SameButCase s word := by
  have hnone : ofText? s = none ↔
      ∀ mode : EvdevMode, ∀ word ∈ mode.words, ¬ SameButCase s word := by
    rw [Option.eq_none_iff_forall_ne_some]
    refine forall_congr' fun mode => ?_
    rw [Ne, ofText?_eq_some_iff]
    push Not
    rfl
  rw [← hnone, ofValue]
  cases ofText? s <;> simp [eq_comm]

/-- A text is one of nine words, but for the case of ASCII letters, and gives the mode that the
word is for, or it is refused with an error that quotes it as it is. Blanks and characters outside
ASCII, wherever they stand, have a text refused. The full lowercase mapping leads to the same
answers, with either form of a capital sigma. -/
theorem ofValue_text_exact :
    (∀ s mode, ofValue (.text s) = .ok mode ↔ ∃ word ∈ mode.words, SameButCase s word) ∧
    (words auto = ["auto"] ∧ words on = ["on", "true", "yes", "1"] ∧
      words off = ["off", "false", "no", "0"]) ∧
    (∀ s e, ofValue (.text s) = .error e ↔
      e = .unknownMode s ∧ ∀ mode : EvdevMode, ∀ word ∈ mode.words, ¬ SameButCase s word) ∧
    (∀ s, (SettingsError.unknownMode s).Invalid
      ("Cannot convert '" ++ s ++ "' to an evdev mode")) ∧
    (∀ s : String, (∃ c ∈ s.toList, 128 ≤ c.toNat ∨ isBlank c = true) →
      ofValue (.text s) = .error (.unknownMode s)) ∧
    (∀ s form, IsLowercaseForm s form →
      (all.find? fun mode => mode.words.contains form) = ofText? s) := by
  refine ⟨fun _ _ => ofValue_text_eq_ok_iff, ⟨rfl, rfl, rfl⟩,
    fun _ _ => ofValue_text_eq_error_iff, SettingsError.invalid_unknownMode, fun s hs => ?_,
    fun _ _ => find?_of_isLowercaseForm⟩
  obtain ⟨c, hc, hforeign⟩ := hs
  refine ofValue_text_eq_error_iff.mpr ⟨rfl, fun mode word hword hsame => ?_⟩
  obtain ⟨hascii, hblank⟩ := hsame.plain hword c hc
  apply hforeign.elim (Nat.not_le.mpr hascii)
  rw [hblank]
  exact Bool.false_ne_true

theorem ofValue_text_blank_kelvin_and_sigma :
    ofValue (.text " on") = .error (.unknownMode " on") ∧
    ofValue (.text "to\u212aen") = .error (.unknownMode "to\u212aen") ∧
    (all.find? fun mode => mode.words.contains "νος") = ofText? "ΝΟΣ" :=
  ⟨ofValue_text_exact.2.2.2.2.1 " on" ⟨' ', by simp, .inr (by decide)⟩,
   ofValue_text_exact.2.2.2.2.1 "to\u212aen" ⟨'\u212a', by simp, .inl (by decide)⟩,
   ofValue_text_exact.2.2.2.2.2 "ΝΟΣ" "νος"
    ⟨[['ν'], ['ο'], ['ς']], .cons .usual (.cons .usual (.cons .finalSigma .nil)), rfl⟩⟩

example : ofText? "tRuE" = some on := by decide +kernel

end InputUdev.EvdevMode
