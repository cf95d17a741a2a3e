import InputUdev.CodeSet

/-!
# The contents of a code set built from a list

A set made from a list of codes holds the codes of the list below its capacity, whatever their order
and number (`contains_ofList`). The queries by range and by words agree with that view
(`anyIn_ofList`, `any_ofList`).
-/

namespace InputUdev.CodeSet

variable {s : CodeSet} {codes : List Nat}

theorem capacity_insertAll (s : CodeSet) (codes : List Nat) :
    (s.insertAll codes).capacity = s.capacity := by
  induction codes generalizing s with
  | nil => rfl
  | cons code codes ih => exact (ih (s.insert code)).trans (capacity_insert s code)

theorem capacity_ofList (capacity : Nat) (codes : List Nat) :
    (ofList capacity codes).capacity = capacity := capacity_insertAll (empty capacity) codes

theorem ofList_append (capacity : Nat) (codes more : List Nat) :
    ofList capacity (codes ++ more) = (ofList capacity codes).insertAll more := by
  rw [ofList, ofList, insertAll, insertAll, insertAll, List.foldl_append]

theorem contains_insertAll {c : Nat} :
    (s.insertAll codes).contains c = true ↔
      s.contains c = true ∨ c ∈ codes ∧ c < s.capacity := by
  induction codes generalizing s with
  | nil => simp [insertAll]
  | cons code codes ih =>
    have hstep : s.insertAll (code :: codes) = (s.insert code).insertAll codes := rfl
    rw [hstep, ih, contains_insert, capacity_insert, Bool.or_eq_true, decide_eq_true_eq,
      List.mem_cons]
    constructor
    · rintro ((hs | ⟨rfl, hlt⟩) | ⟨hc, hlt⟩)
      · exact .inl hs
      · exact .inr ⟨.inl rfl, hlt⟩
      · exact .inr ⟨.inr hc, hlt⟩
    · rintro (hs | ⟨rfl | hc, hlt⟩)
      · exact .inl (.inl hs)
      · exact .inl (.inr ⟨rfl, hlt⟩)
      · exact .inr ⟨hc, hlt⟩

theorem contains_ofList {capacity c : Nat} :
    (ofList capacity codes).contains c = true ↔ c ∈ codes ∧ c < capacity := by
  rw [ofList, contains_insertAll, contains_empty]
  simp [empty]

theorem anyIn_ofList {capacity start stop : Nat} :
    (ofList capacity codes).anyIn start stop = true ↔
      ∃ c ∈ codes, start ≤ c ∧ c < stop ∧ c < capacity := by
  rw [anyIn_eq_true]
  constructor
  · rintro ⟨c, hstart, hstop, hc⟩
    obtain ⟨hmem, hlt⟩ := contains_ofList.mp hc
    exact ⟨c, hmem, hstart, hstop, hlt⟩
  · rintro ⟨c, hmem, hstart, hstop, hlt⟩
    exact ⟨c, hstart, hstop, contains_ofList.mpr ⟨hmem, hlt⟩⟩

/-! ## Queries below the capacity -/

theorem contains_ofList_of_lt {capacity code : Nat} (h : code < capacity) :
    (ofList capacity codes).contains code = decide (code ∈ codes) := by
  rw [Bool.eq_iff_iff, contains_ofList, decide_eq_true_eq]
  exact and_iff_left h

theorem anyIn_ofList_of_le {capacity start stop : Nat} (h : stop ≤ capacity) :
    (ofList capacity codes).anyIn start stop = decide (∃ c ∈ codes, start ≤ c ∧ c < stop) := by
  rw [Bool.eq_iff_iff, anyIn_ofList, decide_eq_true_eq]
  refine exists_congr fun c => and_congr_right fun _ => and_congr_right fun _ => ?_
  exact and_iff_left_of_imp fun hlt => Nat.lt_of_lt_of_le hlt h

/-! ## The query by words -/

theorem word_or_mask_ne_zero (w : UInt64) (code : Nat) : w ||| mask code ≠ 0 := by
  intro h
  have hbit : (w ||| mask code).toBitVec.getLsbD (code % wordBits) = true := by
    rw [getLsbD_or_mask w rfl]
    simp
  rw [h] at hbit
  simp at hbit

/-- The insertion of a code that is not ignored leaves a word with a bit. -/
theorem any_insert (s : CodeSet) (code : Nat) :
    (s.insert code).any = (s.any || decide (code < s.capacity)) := by
  by_cases hcode : code < s.capacity
  · have hword : (s.insert code).any = true := by
      rw [any, insert, dif_pos hcode, Array.any_eq_true']
      exact ⟨_, Array.mem_set (wordIndex_lt hcode), by simpa using word_or_mask_ne_zero _ code⟩
    simp [hword, hcode]
  · simp [insert, hcode]

theorem any_insertAll :
    (s.insertAll codes).any = true ↔ s.any = true ∨ ∃ c ∈ codes, c < s.capacity := by
  induction codes generalizing s with
  | nil => simp [insertAll]
  | cons code codes ih =>
    have hstep : s.insertAll (code :: codes) = (s.insert code).insertAll codes := rfl
    rw [hstep, ih, any_insert, capacity_insert, Bool.or_eq_true, decide_eq_true_eq, or_assoc]
    simp only [List.mem_cons, exists_eq_or_imp]

theorem any_empty (capacity : Nat) : (empty capacity).any = false := by
  rw [any, empty, Array.any_eq_false']
  intro w hw
  rw [Array.eq_of_mem_replicate hw]
  decide

theorem any_ofList {capacity : Nat} :
    (ofList capacity codes).any = decide (∃ c ∈ codes, c < capacity) := by
  rw [Bool.eq_iff_iff, ofList, any_insertAll, any_empty]
  simp [empty]

end InputUdev.CodeSet
