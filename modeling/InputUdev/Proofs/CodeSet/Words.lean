import InputUdev.CodeSet

/-!
# The words of a code set

The words of a set have room for bits past its capacity. No insertion sets one of those
(`NoStrayBits.insert`), and so the words of a set made by insertions are told by its capacity and
its codes (`NoStrayBits.ext`). The operations look up words with indices that are known to be in
bounds; with the index checked at each access they come to the same (`contains?_eq`, `insert?_eq`).
-/

namespace InputUdev.CodeSet

variable {s t : CodeSet} {code i : Nat}

/-- The bit at a place of the words, be it below the capacity or not. -/
def bitAt (s : CodeSet) (i : Nat) : Bool :=
  s.words[wordIndex i]?.any (·.toBitVec.getLsbD (i % wordBits))

theorem bitAt_of_lt (h : i < s.capacity) : s.bitAt i = s.contains i := by
  rw [contains_eq_getLsbD h, bitAt, Array.getElem?_eq_getElem (wordIndex_lt h), Option.any_some]
  rfl

theorem bitAt_empty (capacity i : Nat) : (empty capacity).bitAt i = false := by
  rw [bitAt, empty, Array.getElem?_replicate]
  split
  · simp
  · rfl

theorem bitAt_insert (s : CodeSet) (code i : Nat) :
    (s.insert code).bitAt i = (s.bitAt i || decide (i = code ∧ code < s.capacity)) := by
  by_cases hcode : code < s.capacity
  · simp only [bitAt, insert, dif_pos hcode, Array.getElem?_set]
    split
    · next hw =>
      rw [← hw, Array.getElem?_eq_getElem (wordIndex_lt hcode), Option.any_some, Option.any_some,
        getLsbD_or_mask _ hw.symm]
      simp only [hcode, and_true]
      rfl
    · next hw =>
      have hne : i ≠ code := fun e => hw (e ▸ rfl)
      simp [hne]
  · simp [insert, hcode]

/-- No bit past the capacity is set. -/
def NoStrayBits (s : CodeSet) : Prop := ∀ i, s.bitAt i = true → i < s.capacity

theorem noStrayBits_empty (capacity : Nat) : (empty capacity).NoStrayBits := by
  intro i hi
  rw [bitAt_empty] at hi
  cases hi

theorem NoStrayBits.insert (h : s.NoStrayBits) : (s.insert code).NoStrayBits := by
  intro i hi
  rw [bitAt_insert, Bool.or_eq_true, decide_eq_true_eq] at hi
  rw [capacity_insert]
  rcases hi with hi | ⟨rfl, hlt⟩
  · exact h i hi
  · exact hlt

theorem NoStrayBits.insertAll {codes : List Nat} (h : s.NoStrayBits) :
    (s.insertAll codes).NoStrayBits := by
  induction codes generalizing s with
  | nil => exact h
  | cons code codes ih => exact ih h.insert

theorem bitAt_of_lt_size {k j : Nat} (hk : k < s.words.size) (hj : j < wordBits) :
    s.bitAt (wordBits * k + j) = s.words[k].toBitVec.getLsbD j := by
  have hindex : wordIndex (wordBits * k + j) = k := by
    simp only [wordIndex, wordBits] at *
    omega
  have hplace : (wordBits * k + j) % wordBits = j := by
    rw [Nat.mul_add_mod, Nat.mod_eq_of_lt hj]
  rw [bitAt, hindex, hplace, Array.getElem?_eq_getElem hk, Option.any_some]

theorem words_eq_of_bitAt (hsize : s.words.size = t.words.size)
    (hbits : ∀ i, s.bitAt i = t.bitAt i) : s.words = t.words := by
  refine Array.ext hsize fun k hk hk' => ?_
  rw [← UInt64.toBitVec_inj]
  refine BitVec.eq_of_getLsbD_eq fun j hj => ?_
  rw [← bitAt_of_lt_size hk hj, ← bitAt_of_lt_size hk' hj, hbits]

/-- Without stray bits, two sets of one capacity with the same codes are the same. -/
theorem NoStrayBits.ext (hs : s.NoStrayBits) (ht : t.NoStrayBits)
    (hcapacity : s.capacity = t.capacity) (hcontains : ∀ c, s.contains c = t.contains c) :
    s = t := by
  -- the members tell the bits below the capacity only; past it both sets have none
  have hbits : ∀ i, s.bitAt i = t.bitAt i := fun i => by
    by_cases hi : i < s.capacity
    · rw [bitAt_of_lt hi, bitAt_of_lt (hcapacity ▸ hi), hcontains]
    · have hsi : s.bitAt i = false := Bool.eq_false_iff.mpr fun h => hi (hs i h)
      have hti : t.bitAt i = false := Bool.eq_false_iff.mpr fun h => hi (hcapacity ▸ ht i h)
      rw [hsi, hti]
  have hwords : s.words = t.words := by
    refine words_eq_of_bitAt ?_ hbits
    rw [s.size_words, t.size_words, hcapacity]
  cases s
  cases t
  cases hcapacity
  cases hwords
  rfl

/-! ## Access with the index checked -/

/-- Whether a code is in the set with the given words; nothing if its word is out of bounds. -/
def contains? (capacity : Nat) (words : Array UInt64) (code : Nat) : Option Bool :=
  if code < capacity then words[wordIndex code]?.map (· &&& mask code != 0) else some false

/-- The words with a code put in; nothing if its word is out of bounds. -/
def insert? (capacity : Nat) (words : Array UInt64) (code : Nat) : Option (Array UInt64) :=
  if code < capacity then
    words[wordIndex code]?.map fun w => words.setIfInBounds (wordIndex code) (w ||| mask code)
  else some words

theorem contains?_eq (s : CodeSet) (code : Nat) :
    contains? s.capacity s.words code = some (s.contains code) := by
  by_cases hcode : code < s.capacity
  · rw [contains?, if_pos hcode, Array.getElem?_eq_getElem (wordIndex_lt hcode), contains,
      dif_pos hcode]
    rfl
  · rw [contains?, if_neg hcode, contains, dif_neg hcode]

theorem insert?_eq (s : CodeSet) (code : Nat) :
    insert? s.capacity s.words code = some (s.insert code).words := by
  by_cases hcode : code < s.capacity
  · have hindex := wordIndex_lt hcode
    rw [insert?, if_pos hcode, Array.getElem?_eq_getElem hindex, Option.map_some,
      Array.setIfInBounds, dif_pos hindex, insert, dif_pos hcode]
    rfl
  · rw [insert?, if_neg hcode, insert, dif_neg hcode]

theorem foldlM_insert?_eq (s : CodeSet) (codes : List Nat) :
    codes.foldlM (insert? s.capacity) s.words = some (s.insertAll codes).words := by
  induction codes generalizing s with
  | nil => rfl
  | cons code codes ih =>
    rw [List.foldlM_cons, insert?_eq, ← capacity_insert s code]
    exact ih (s.insert code)

end InputUdev.CodeSet
