import InputUdev.KernelTree
import Mathlib.Data.List.Basic

/-!
# Drivers and units

A system name is that of a driver, which ends in no digit, and of the digits of its unit after it,
in at most one way (`EndsInUnit.unique`). They are what the name is split into
(`splitUnit_eq_some_iff`), and there are such exactly if the name ends in a digit
(`exists_endsInUnit_iff`).
-/

namespace InputUdev

/-- The system name is the driver, which ends in no ASCII digit, with a unit of ASCII digits after
it. -/
structure EndsInUnit (sysname driver unit : String) : Prop where
  eq_append : sysname = driver ++ unit
  unit_ne : unit ≠ ""
  isDigit : ∀ c ∈ unit.toList, c.isDigit = true
  not_isDigit : ∀ c ∈ driver.toList.getLast?, c.isDigit = false

variable {sysname driver unit driver' unit' : String}

theorem endsInUnit_of_splitUnit (h : splitUnit sysname = some (driver, unit)) :
    EndsInUnit sysname driver unit := by
  rw [splitUnit] at h
  split at h
  · cases h
  · rename_i hunit
    cases h
    refine ⟨?_, fun hempty => hunit ?_, fun c hc => ?_, fun c hc => ?_⟩
    · rw [← String.ofList_append, Text.dropTrailing_append_takeTrailing, String.ofList_toList]
    · rw [← String.toList_ofList (l := Text.takeTrailing _ _), hempty]
      rfl
    · rw [String.toList_ofList] at hc
      exact Text.of_mem_takeTrailing hc
    · rw [String.toList_ofList] at hc
      exact Text.of_mem_getLast?_dropTrailing hc

theorem EndsInUnit.splitUnit_eq (h : EndsInUnit sysname driver unit) :
    splitUnit sysname = some (driver, unit) := by
  have htoList : sysname.toList = driver.toList ++ unit.toList := by
    rw [h.eq_append, String.toList_append]
  have hunit : ¬ unit.toList.isEmpty = true := by simpa using h.unit_ne
  simp only [splitUnit, htoList, Text.dropTrailing_append h.not_isDigit h.isDigit,
    Text.takeTrailing_append h.not_isDigit h.isDigit, if_neg hunit, String.ofList_toList]

theorem splitUnit_eq_some_iff :
    splitUnit sysname = some (driver, unit) ↔ EndsInUnit sysname driver unit :=
  ⟨endsInUnit_of_splitUnit, EndsInUnit.splitUnit_eq⟩

example : splitUnit "hid2ms10" = some ("hid2ms", "10") ∧ splitUnit "10" = some ("", "10") := by
  decide

theorem EndsInUnit.unique (h : EndsInUnit sysname driver unit)
    (h' : EndsInUnit sysname driver' unit') : driver' = driver ∧ unit' = unit := by
  cases h'.splitUnit_eq.symm.trans h.splitUnit_eq
  exact ⟨rfl, rfl⟩

/-- The last digit of a name belongs to a unit. -/
theorem exists_endsInUnit_iff :
    (∃ driver unit, EndsInUnit sysname driver unit) ↔
      ∃ c ∈ sysname.toList.getLast?, c.isDigit = true := by
  constructor
  · rintro ⟨driver, unit, h⟩
    have hne : unit.toList ≠ [] := by simpa using h.unit_ne
    refine ⟨unit.toList.getLast hne, ?_, h.isDigit _ (List.getLast_mem hne)⟩
    rw [h.eq_append, String.toList_append, List.getLast?_append_of_ne_nil _ hne]
    exact List.getLast?_eq_some_getLast hne
  · rintro ⟨c, hlast, hc⟩
    cases hsplit : splitUnit sysname with
    | some p => exact ⟨p.1, p.2, endsInUnit_of_splitUnit hsplit⟩
    | none =>
      -- without a unit, what comes before it is all of the name
      have hunit : Text.takeTrailing Char.isDigit sysname.toList = [] := by
        simpa [splitUnit] using hsplit
      have hdriver := Text.dropTrailing_append_takeTrailing Char.isDigit sysname.toList
      rw [hunit, List.append_nil] at hdriver
      rw [← hdriver] at hlast
      rw [Text.of_mem_getLast?_dropTrailing hlast] at hc
      cases hc

end InputUdev
