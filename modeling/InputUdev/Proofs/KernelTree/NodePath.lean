import InputUdev.Classifier
import InputUdev.Proofs.KernelTree.Unit
import InputUdev.Proofs.Path.TrailingSlashes

/-!
# Driver and unit in a path

The last component of a path stands at its beginning or behind a slash, with slashes alone after it
(`Path.EndsInName`). If it is not empty, it is what the record of the path is named by
(`Path.EndsInName.sysname_eq`, `Path.exists_endsInName`), and its last character is the last one of
the path that is no slash (`Path.isLastNonSlash_iff`). Main statement: a path leads to a driver and
a unit exactly if its last component is made up of them (`Path.SpellsUnit`), and to none exactly if
its last character besides slashes is no ASCII digit (`Path.splitUnit_sysname`).
-/

namespace InputUdev.Path

/-- The path is the component `name` between a front and some slashes. -/
structure EndsInName (path front name slashes : String) : Prop where
  eq_append : path = front ++ name ++ slashes
  front : front = "" ∨ front.toList.getLast? = some '/'
  no_slash : '/' ∉ name.toList
  slashes : ∀ c ∈ slashes.toList, c = '/'

/-- The path is a front, the driver, the ASCII digits of the unit and some slashes. -/
structure SpellsUnit (path front driver unit slashes : String) : Prop where
  eq_append : path = front ++ driver ++ unit ++ slashes
  front : front = "" ∨ front.toList.getLast? = some '/'
  driver_no_slash : '/' ∉ driver.toList
  driver_not_digit : ∀ c ∈ driver.toList.getLast?, c.isDigit = false
  unit_ne : unit ≠ ""
  unit_digits : ∀ c ∈ unit.toList, c.isDigit = true
  slashes : ∀ c ∈ slashes.toList, c = '/'

/-- The character is the last one of the path that is no slash. -/
def IsLastNonSlash (path : String) (c : Char) : Prop :=
  ∃ before slashes, path.toList = before ++ c :: slashes ∧ c ≠ '/' ∧ ∀ s ∈ slashes, s = '/'

variable {path front name driver unit slashes : String} {c : Char}

/-! ## The last component -/

theorem endsInSlashes_append (hlast : name.toList.getLast? ≠ some '/')
    (hslashes : ∀ c ∈ slashes.toList, c = '/') :
    EndsInSlashes (name ++ slashes) name slashes.toList.length where
  eq_append := by rw [String.toList_append, ← List.eq_replicate_of_mem hslashes]
  not_slash := hlast

theorem EndsInName.sysname_eq (h : EndsInName path front name slashes) (hne : name ≠ "") :
    sysname path = name := by
  have hname : name.toList ≠ [] := by simpa using hne
  have hlast : (front ++ name).toList.getLast? ≠ some '/' := by
    rw [String.toList_append, List.getLast?_append_of_ne_nil _ hname]
    exact fun hslash => h.no_slash (List.mem_of_getLast? hslash)
  have hfront : ∀ c ∈ front.toList.getLast?, (c != '/') = false := by
    intro c hc
    rcases h.front with rfl | hslash
    · cases hc
    · cases hslash.symm.trans hc
      rfl
  have hall : ∀ c ∈ name.toList, (c != '/') = true := fun c hc =>
    bne_iff_ne.mpr (ne_of_mem_of_not_mem hc h.no_slash)
  rw [h.eq_append, sysname, (endsInSlashes_append hlast h.slashes).trimSlashes_eq,
    String.toList_append, Text.takeTrailing_append hfront hall, String.ofList_toList]

theorem exists_endsInName (path : String) :
    ∃ front slashes, EndsInName path front (sysname path) slashes := by
  refine ⟨.ofList (Text.dropTrailing (· != '/') (trimSlashes path).toList),
    .ofList (Text.takeTrailing (· == '/') path.toList), ?_, ?_, not_mem_sysname_slash path, ?_⟩
  · rw [sysname, ← String.ofList_append, Text.dropTrailing_append_takeTrailing,
      String.ofList_toList, trimSlashes, ← String.ofList_append,
      Text.dropTrailing_append_takeTrailing, String.ofList_toList]
  · rw [String.toList_ofList]
    cases hlast : (Text.dropTrailing (· != '/') (trimSlashes path).toList).getLast? with
    | none => exact .inl (by rw [List.getLast?_eq_none_iff.mp hlast])
    | some c =>
      obtain rfl : c = '/' := by simpa using Text.of_mem_getLast?_dropTrailing hlast
      exact .inr rfl
  · intro c hc
    rw [String.toList_ofList] at hc
    simpa using Text.of_mem_takeTrailing hc

/-- The name ends where the path does, but for the slashes. -/
theorem getLast?_sysname (path : String) :
    (sysname path).toList.getLast? = (trimSlashes path).toList.getLast? := by
  obtain ⟨n, hpath⟩ := exists_endsInSlashes path
  rw [sysname, String.toList_ofList, Text.takeTrailing, List.getLast?_reverse, List.head?_takeWhile,
    List.head?_reverse]
  cases hlast : (trimSlashes path).toList.getLast? with
  | none => rfl
  | some c =>
    apply Option.filter_some_pos
    exact bne_iff_ne.mpr fun heq => hpath.not_slash (heq ▸ hlast)

theorem isLastNonSlash_iff : IsLastNonSlash path c ↔ c ∈ (sysname path).toList.getLast? := by
  rw [getLast?_sysname, Option.mem_def, List.getLast?_eq_some_iff]
  constructor
  · rintro ⟨before, slashes, hpath, hc, hslashes⟩
    have htrim : EndsInSlashes path (.ofList (before ++ [c])) slashes.length := by
      refine ⟨?_, ?_⟩
      · rw [hpath, String.toList_ofList, ← List.eq_replicate_of_mem hslashes, List.append_assoc]
        rfl
      · rw [String.toList_ofList, List.getLast?_concat]
        exact fun heq => hc (Option.some.inj heq)
    exact ⟨before, by rw [htrim.trimSlashes_eq, String.toList_ofList]⟩
  · rintro ⟨before, hbefore⟩
    obtain ⟨n, hpath⟩ := exists_endsInSlashes path
    refine ⟨before, List.replicate n '/', ?_, ?_, fun s hs => List.eq_of_mem_replicate hs⟩
    · rw [hpath.eq_append, hbefore, List.append_assoc]
      rfl
    · rintro rfl
      exact hpath.not_slash (by rw [hbefore, List.getLast?_concat])

/-- A path without a name is made of slashes. -/
theorem getLast?_sysname_eq_none_iff :
    (sysname path).toList.getLast? = none ↔ ∀ c ∈ path.toList, c = '/' := by
  rw [getLast?_sysname, List.getLast?_eq_none_iff, String.toList_eq_nil_iff]
  constructor
  · intro hempty c hc
    obtain ⟨n, hpath⟩ := exists_endsInSlashes path
    rw [hpath.eq_append, hempty] at hc
    exact List.eq_of_mem_replicate hc
  · intro hall
    have hpath : EndsInSlashes path "" path.toList.length :=
      ⟨List.eq_replicate_of_mem hall, nofun⟩
    exact hpath.trimSlashes_eq

/-! ## Driver and unit -/

theorem spellsUnit_iff : SpellsUnit path front driver unit slashes ↔
    EndsInName path front (driver ++ unit) slashes ∧ EndsInUnit (driver ++ unit) driver unit := by
  have happend : front ++ driver ++ unit ++ slashes = front ++ (driver ++ unit) ++ slashes := by
    rw [@String.append_assoc front driver unit]
  constructor
  · rintro ⟨hpath, hfront, hdriver, hlast, hne, hdigits, hslashes⟩
    refine ⟨⟨hpath.trans happend, hfront, ?_, hslashes⟩, rfl, hne, hdigits, hlast⟩
    rw [String.toList_append, List.mem_append, not_or]
    exact ⟨hdriver, fun hslash => absurd (hdigits _ hslash) (by decide)⟩
  · rintro ⟨⟨hpath, hfront, hslash, hslashes⟩, -, hne, hdigits, hlast⟩
    rw [String.toList_append, List.mem_append, not_or] at hslash
    exact ⟨hpath.trans happend.symm, hfront, hslash.1, hlast, hne, hdigits, hslashes⟩

theorem splitUnit_sysname_eq_some_iff : splitUnit (sysname path) = some (driver, unit) ↔
    ∃ front slashes, SpellsUnit path front driver unit slashes := by
  simp only [splitUnit_eq_some_iff, spellsUnit_iff]
  constructor
  · intro h
    obtain ⟨front, slashes, hname⟩ := exists_endsInName path
    rw [h.eq_append] at hname h
    exact ⟨front, slashes, hname, h⟩
  · rintro ⟨front, slashes, hname, h⟩
    have hne : driver ++ unit ≠ "" := by simp [h.unit_ne]
    rwa [hname.sysname_eq hne]

theorem splitUnit_sysname_eq_none_iff : splitUnit (sysname path) = none ↔
    (∀ c ∈ path.toList, c = '/') ∨ ∃ c, IsLastNonSlash path c ∧ c.isDigit = false := by
  have hnone : splitUnit (sysname path) = none ↔
      ¬ ∃ driver unit, EndsInUnit (sysname path) driver unit := by
    simp only [← splitUnit_eq_some_iff]
    cases splitUnit (sysname path) with
    | none => simp
    | some p => exact iff_of_false nofun (not_not.mpr ⟨p.1, p.2, rfl⟩)
  rw [hnone, exists_endsInUnit_iff, ← getLast?_sysname_eq_none_iff]
  simp only [isLastNonSlash_iff]
  cases (sysname path).toList.getLast? <;> simp

/-- A path leads to a driver and a unit exactly if it is spelled with them, which it is with no
others, and the record of the path is named by the two. It leads to none exactly if there are
slashes alone in it, or the last other character is no ASCII digit. -/
theorem splitUnit_sysname (path : String) :
    (∀ driver unit, splitUnit (sysname path) = some (driver, unit) ↔
      ∃ front slashes, SpellsUnit path front driver unit slashes) ∧
    (∀ front driver unit slashes, SpellsUnit path front driver unit slashes →
      (∀ front' driver' unit' slashes', SpellsUnit path front' driver' unit' slashes' →
        driver' = driver ∧ unit' = unit) ∧
      ∀ rules action, (Device.bare path action).sysname = driver ++ unit ∧
        (Device.ofNode rules path action).sysname = driver ++ unit) ∧
    (splitUnit (sysname path) = none ↔
      (∀ c ∈ path.toList, c = '/') ∨ ∃ c, IsLastNonSlash path c ∧ c.isDigit = false) := by
  refine ⟨fun _ _ => splitUnit_sysname_eq_some_iff, fun front driver unit slashes h => ?_,
    splitUnit_sysname_eq_none_iff⟩
  have hsplit := splitUnit_sysname_eq_some_iff.mpr ⟨front, slashes, h⟩
  have hname : sysname path = driver ++ unit := (endsInUnit_of_splitUnit hsplit).eq_append
  refine ⟨fun front' driver' unit' slashes' h' => ?_, fun rules action => ⟨hname, hname⟩⟩
  have hsplit' := splitUnit_sysname_eq_some_iff.mpr ⟨front', slashes', h'⟩
  cases hsplit'.symm.trans hsplit
  exact ⟨rfl, rfl⟩

theorem splitUnit_sysname_below_doubled_slash :
    SpellsUnit "//dev/hid2/2ms10//" "//dev/hid2/" "2ms" "10" "//" ∧
    (Device.bare "//dev/hid2/2ms10//" .add).sysname = "2ms" ++ "10" := by
  have hdriver : "2ms".toList.getLast? = some 's' := by decide
  have hunit : "10".toList.all Char.isDigit = true := by decide
  have hslashes : "//".toList = List.replicate 2 '/' := by decide
  have hspells : SpellsUnit "//dev/hid2/2ms10//" "//dev/hid2/" "2ms" "10" "//" := by
    refine ⟨by decide, .inr (by decide), by decide, fun c hc => ?_, by decide,
      List.all_eq_true.mp hunit, fun c hc => List.eq_of_mem_replicate (hslashes ▸ hc)⟩
    cases hdriver.symm.trans hc
    decide
  exact ⟨hspells, (((splitUnit_sysname _).2.1 _ _ _ _ hspells).2 (.standard "/dev" true) .add).1⟩

/-- Digits of other scripts make no unit. -/
example : splitUnit (sysname "/dev/ukbd٣/") = none ∧
    splitUnit (sysname "ukbd٣0") = some ("ukbd٣", "0") := by
  decide

end InputUdev.Path
