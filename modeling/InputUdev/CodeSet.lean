/-!
# Sets of event codes

A set of numbers below a capacity, kept as bits of 64-bit words. `contains` is its membership view:
every operation says what it does to that view.
-/

namespace InputUdev

/-- The bits of a word. -/
def CodeSet.wordBits : Nat := 64

/-- The words needed for the codes below `capacity`. -/
def CodeSet.wordCount (capacity : Nat) : Nat := (capacity + (wordBits - 1)) / wordBits

structure CodeSet where
  capacity : Nat
  words : Array UInt64
  size_words : words.size = CodeSet.wordCount capacity
  deriving DecidableEq

namespace CodeSet

/-- The word that holds the bit of `code`. -/
def wordIndex (code : Nat) : Nat := code / wordBits

/-- The bit of `code` in its word. -/
def mask (code : Nat) : UInt64 := 1 <<< UInt64.ofNat (code % wordBits)

theorem wordIndex_lt {s : CodeSet} {code : Nat} (h : code < s.capacity) :
    wordIndex code < s.words.size := by
  have := s.size_words
  simp only [wordIndex, wordCount, wordBits] at *
  omega

/-- The word in which the bit of a code below the capacity is kept. -/
def word (s : CodeSet) (code : Nat) (h : code < s.capacity) : UInt64 :=
  have := wordIndex_lt h
  s.words[wordIndex code]

def empty (capacity : Nat) : CodeSet where
  capacity := capacity
  words := Array.replicate (wordCount capacity) 0
  size_words := Array.size_replicate

/-- A code at or above the capacity is never in the set. -/
def contains (s : CodeSet) (code : Nat) : Bool :=
  if h : code < s.capacity then s.word code h &&& mask code != 0 else false

/-- A code at or above the capacity is ignored. -/
def insert (s : CodeSet) (code : Nat) : CodeSet :=
  if h : code < s.capacity then
    { s with
      words := s.words.set (wordIndex code) (s.word code h ||| mask code) (wordIndex_lt h)
      size_words := by simpa using s.size_words }
  else s

def insertAll (s : CodeSet) (codes : List Nat) : CodeSet := codes.foldl insert s

def ofList (capacity : Nat) (codes : List Nat) : CodeSet := (empty capacity).insertAll codes

/-- Whether some code `c` with `start ≤ c < stop` is in the set. -/
def anyIn (s : CodeSet) (start stop : Nat) : Bool :=
  (List.range' start (min stop s.capacity - start)).any s.contains

/-- Whether the set holds any code: some word has a bit. -/
def any (s : CodeSet) : Bool := s.words.any (· != 0)

/-- The codes in ascending order. -/
def toList (s : CodeSet) : List Nat := (List.range s.capacity).filter s.contains

/-! ## The membership view -/

theorem toBitVec_mask (code : Nat) : (mask code).toBitVec = BitVec.twoPow 64 (code % wordBits) := by
  have h : code % wordBits < 64 := Nat.mod_lt _ (by decide)
  rw [mask, UInt64.toBitVec_shiftLeft, BitVec.twoPow_eq, BitVec.shiftLeft_eq']
  congr 1
  simp [wordBits]

/-- A word has the bit of a code exactly when they have a bit in common. -/
theorem and_mask_ne_zero (w : UInt64) (code : Nat) :
    (w &&& mask code != 0) = w.toBitVec.getLsbD (code % wordBits) := by
  have hlt : code % wordBits < 64 := Nat.mod_lt _ (by decide)
  have hpow : BitVec.twoPow 64 (code % wordBits) ≠ 0#64 := by
    intro h
    have := congrArg (·.getLsbD (code % wordBits)) h
    simp [hlt] at this
  have hz : (w &&& mask code = 0) ↔ w.toBitVec &&& BitVec.twoPow 64 (code % wordBits) = 0#64 := by
    rw [← toBitVec_mask, ← UInt64.toBitVec_and, ← UInt64.toBitVec_inj]
    rfl
  rw [bne, Bool.eq_iff_iff, Bool.not_eq_true', beq_eq_false_iff_ne, ne_eq, hz, BitVec.and_twoPow]
  cases h : w.toBitVec.getLsbD (code % wordBits) <;> simp [hpow]

/-- A word gains the bit of a code and no other. -/
theorem getLsbD_or_mask (w : UInt64) {code c : Nat} (h : wordIndex c = wordIndex code) :
    (w ||| mask code).toBitVec.getLsbD (c % wordBits) =
      (w.toBitVec.getLsbD (c % wordBits) || decide (c = code)) := by
  have hlt : code % wordBits < 64 := Nat.mod_lt _ (by decide)
  rw [UInt64.toBitVec_or, BitVec.getLsbD_or, toBitVec_mask, BitVec.getLsbD_twoPow]
  congr 1
  simp only [hlt, decide_true, Bool.true_and, decide_eq_decide]
  simp only [wordIndex, wordBits] at *
  omega

@[simp] theorem capacity_insert (s : CodeSet) (code : Nat) :
    (s.insert code).capacity = s.capacity := by
  unfold insert; split <;> rfl

theorem contains_eq_false_of_le {s : CodeSet} {code : Nat} (h : s.capacity ≤ code) :
    s.contains code = false := by
  simp [contains, Nat.not_lt.mpr h]

theorem contains_eq_getLsbD {s : CodeSet} {code : Nat} (h : code < s.capacity) :
    s.contains code = (s.word code h).toBitVec.getLsbD (code % wordBits) := by
  rw [contains, dif_pos h, and_mask_ne_zero]

@[simp] theorem contains_empty (capacity code : Nat) : (empty capacity).contains code = false := by
  by_cases h : code < (empty capacity).capacity
  · rw [contains_eq_getLsbD h]
    simp [word, empty]
  · exact contains_eq_false_of_le (Nat.not_lt.mp h)

/-- The code that was inserted is new in the set, if it is below the capacity. -/
theorem contains_insert (s : CodeSet) (code c : Nat) :
    (s.insert code).contains c = (s.contains c || decide (c = code ∧ code < s.capacity)) := by
  by_cases hcode : code < s.capacity
  · by_cases hc : c < s.capacity
    · have hc' : c < (s.insert code).capacity := by simpa using hc
      rw [contains_eq_getLsbD hc', contains_eq_getLsbD hc]
      simp only [word, insert, dif_pos hcode, Array.getElem_set]
      split
      · next hw =>
        rw [getLsbD_or_mask _ hw.symm]
        simp only [hw, hcode, and_true]
      · next hw =>
        have hne : c ≠ code := fun e => hw (e ▸ rfl)
        simp [hne]
    · have hc' : (s.insert code).capacity ≤ c := by simpa using hc
      have hne : c ≠ code := fun e => hc (e ▸ hcode)
      rw [contains_eq_false_of_le hc', contains_eq_false_of_le (Nat.not_lt.mp hc)]
      simp [hne]
  · simp [insert, hcode]

theorem lt_of_contains {s : CodeSet} {code : Nat} (h : s.contains code = true) :
    code < s.capacity := by
  refine Nat.lt_of_not_le fun hle => ?_
  rw [contains_eq_false_of_le hle] at h
  cases h

@[simp] theorem mem_toList {s : CodeSet} {code : Nat} :
    code ∈ s.toList ↔ s.contains code = true := by
  simp only [toList, List.mem_filter, List.mem_range, and_iff_right_iff_imp]
  exact lt_of_contains

theorem anyIn_eq_true {s : CodeSet} {start stop : Nat} :
    s.anyIn start stop = true ↔ ∃ c, start ≤ c ∧ c < stop ∧ s.contains c = true := by
  simp only [anyIn, List.any_eq_true, List.mem_range'_1]
  constructor
  · rintro ⟨c, ⟨h₁, h₂⟩, hc⟩
    exact ⟨c, h₁, by omega, hc⟩
  · rintro ⟨c, h₁, h₂, hc⟩
    have := lt_of_contains hc
    exact ⟨c, ⟨h₁, by omega⟩, hc⟩

end CodeSet
end InputUdev
