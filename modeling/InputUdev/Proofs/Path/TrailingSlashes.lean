import InputUdev.Path
import Mathlib.Data.List.Basic

/-!
# Slashes at the end of a path

A path is a front that ends in no slash, and some slashes after it, in exactly one way
(`Path.exists_endsInSlashes`, `Path.EndsInSlashes.unique`). The front is what is left when the
slashes are trimmed, and the number of slashes decides how the path of an entry of a directory is
written (`Path.EndsInSlashes.toList_join`).
-/

namespace InputUdev.Path

/-- The path is `front`, which ends in no slash, with `n` slashes after it. -/
structure EndsInSlashes (path front : String) (n : Nat) : Prop where
  eq_append : path.toList = front.toList ++ List.replicate n '/'
  not_slash : front.toList.getLast? ≠ some '/'

variable {path front front' : String} {n n' : Nat}

theorem exists_endsInSlashes (path : String) : ∃ n, EndsInSlashes path (trimSlashes path) n := by
  have hslashes : ∀ c ∈ Text.takeTrailing (· == '/') path.toList, c = '/' := fun c hc => by
    simpa using Text.of_mem_takeTrailing hc
  refine ⟨(Text.takeTrailing (· == '/') path.toList).length, ?_, fun hlast => ?_⟩
  · rw [trimSlashes, String.toList_ofList, ← List.eq_replicate_of_mem hslashes,
      Text.dropTrailing_append_takeTrailing]
  · rw [trimSlashes, String.toList_ofList] at hlast
    simpa using Text.of_mem_getLast?_dropTrailing hlast

theorem join_of_slash {name : String} (h : path.toList.getLast? = some '/') :
    join path name = path ++ name := by
  simp [join, h]

theorem join_of_not_slash {name : String} (hne : path ≠ "") (h : path.toList.getLast? ≠ some '/') :
    join path name = path ++ "/" ++ name := by
  simp [join, h, hne]

theorem join_injective (dir : String) : Function.Injective (join dir) := by
  intro name name' h
  rw [join, join] at h
  split at h
  · exact (String.append_right_inj _).mp h
  · exact (String.append_right_inj _).mp h

theorem join_join {dir mid : String} (hne : mid ≠ "") (hlast : mid.toList.getLast? ≠ some '/')
    (name : String) : join (join dir mid) name = join dir (mid ++ "/" ++ name) := by
  have hmid (front : String) : join (front ++ mid) name = front ++ (mid ++ "/" ++ name) := by
    rw [join_of_not_slash (by simp [hne])]
    · simp [String.append_assoc]
    · have hmid : mid.toList ≠ [] := by simpa using hne
      rwa [String.toList_append, List.getLast?_append_of_ne_nil _ hmid]
  rw [join.eq_1 dir mid, join.eq_1 dir]
  split
  · exact hmid dir
  · exact hmid (dir ++ "/")

namespace EndsInSlashes

theorem trimSlashes_eq (h : EndsInSlashes path front n) : trimSlashes path = front := by
  have hall : ∀ c ∈ List.replicate n '/', (c == '/') = true := fun c hc =>
    beq_iff_eq.mpr (List.eq_of_mem_replicate hc)
  have hfront : ∀ c ∈ front.toList.getLast?, (c == '/') = false := fun c hc =>
    beq_eq_false_iff_ne.mpr fun heq => h.not_slash (heq ▸ hc)
  rw [trimSlashes, h.eq_append, Text.dropTrailing_append hfront hall, String.ofList_toList]

theorem unique (h : EndsInSlashes path front n) (h' : EndsInSlashes path front' n') :
    front' = front ∧ n' = n := by
  obtain rfl : front' = front := h'.trimSlashes_eq.symm.trans h.trimSlashes_eq
  have happend := h'.eq_append.symm.trans h.eq_append
  exact ⟨rfl, by simpa using congrArg List.length happend⟩

end EndsInSlashes

theorem exists_endsInSlashes_iff :
    (∃ n, EndsInSlashes path front n) ↔ front = trimSlashes path := by
  constructor
  · rintro ⟨n, h⟩
    exact h.trimSlashes_eq.symm
  · rintro rfl
    exact exists_endsInSlashes path

/-- The path of an entry of a directory has at least one slash after the front. -/
theorem EndsInSlashes.toList_join (h : EndsInSlashes path front n) (hne : path ≠ "")
    (name : String) :
    (join path name).toList = front.toList ++ List.replicate (max n 1) '/' ++ name.toList := by
  cases n with
  | zero =>
    have hpath : path.toList = front.toList := by simpa using h.eq_append
    rw [join_of_not_slash hne (hpath ▸ h.not_slash), String.toList_append, String.toList_append,
      hpath]
    rfl
  | succ n =>
    have hlast : path.toList.getLast? = some '/' := by
      rw [h.eq_append, List.replicate_succ', ← List.append_assoc, List.getLast?_concat]
    rw [join_of_slash hlast, String.toList_append, h.eq_append, Nat.max_eq_left (by omega)]

end InputUdev.Path
