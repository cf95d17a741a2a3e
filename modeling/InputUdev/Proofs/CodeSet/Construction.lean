import InputUdev.Proofs.CodeSet.Contents
import InputUdev.Proofs.CodeSet.Words
import Mathlib.Data.Finset.Dedup
import Mathlib.Data.Finset.Filter

/-!
# Sets made by insertions

However a set is made, it is the one made at once from all codes in the order in which they were put
in (`Construction.result_eq`). Main statements: its queries answer for the finite set of these codes
below the capacity, and no access to its words is out of bounds (`Construction.represents_codes`);
two sets are equal exactly if they have the same capacity and the same codes
(`Construction.result_beq_iff`).
-/

namespace InputUdev.CodeSet

variable {s : CodeSet}

/-! ## The finite set that a set stands for -/

/-- The queries of the set answer for the finite set of codes. -/
structure Represents (s : CodeSet) (codes : Finset Nat) : Prop where
  contains_iff : ∀ c, s.contains c = true ↔ c ∈ codes
  mem_toList_iff : ∀ c, c ∈ s.toList ↔ c ∈ codes
  toList_ascending : s.toList.Pairwise (· < ·)
  anyIn_iff : ∀ start stop, s.anyIn start stop = true ↔ ∃ c ∈ codes, start ≤ c ∧ c < stop
  any_iff : s.any = true ↔ codes.Nonempty
  any_eq_anyIn : s.any = s.anyIn 0 s.capacity

theorem pairwise_lt_toList (s : CodeSet) : s.toList.Pairwise (· < ·) :=
  List.pairwise_lt_range.filter s.contains

theorem anyIn_capacity : s.anyIn 0 s.capacity = true ↔ ∃ c, s.contains c = true := by
  rw [anyIn_eq_true]
  refine exists_congr fun c => ⟨fun h => h.2.2, fun h => ?_⟩
  exact ⟨Nat.zero_le c, lt_of_contains h, h⟩

/-- All queries but the one by words are told by the members. -/
theorem represents_of {codes : Finset Nat} (hcontains : ∀ c, s.contains c = true ↔ c ∈ codes)
    (hany : s.any = true ↔ codes.Nonempty) : s.Represents codes where
  contains_iff := hcontains
  mem_toList_iff c := by rw [mem_toList, hcontains]
  toList_ascending := s.pairwise_lt_toList
  anyIn_iff start stop := by
    rw [anyIn_eq_true]
    refine exists_congr fun c => ?_
    rw [← hcontains]
    exact and_rotate.symm
  any_iff := hany
  any_eq_anyIn := by
    rw [Bool.eq_iff_iff, hany, anyIn_capacity]
    exact exists_congr fun c => (hcontains c).symm

/-! ## Constructions -/

/-- A set starts with nothing or with a list of codes, and more codes are put in one by one or by
the list. -/
inductive Construction where
  | empty (capacity : Nat)
  | ofList (capacity : Nat) (codes : List Nat)
  | insert (k : Construction) (code : Nat)
  | insertAll (k : Construction) (codes : List Nat)

namespace Construction

def result : Construction → CodeSet
  | empty capacity => .empty capacity
  | ofList capacity codes => .ofList capacity codes
  | insert k code => k.result.insert code
  | insertAll k codes => k.result.insertAll codes

/-- The capacity given at the start. -/
def capacity : Construction → Nat
  | empty capacity | ofList capacity _ => capacity
  | insert k _ | insertAll k _ => k.capacity

/-- The words of the result, if no access to them is out of bounds. -/
def words? : Construction → Option (Array UInt64)
  | empty capacity => some (CodeSet.empty capacity).words
  | ofList capacity codes => codes.foldlM (insert? capacity) (CodeSet.empty capacity).words
  | insert k code => k.words?.bind fun words => insert? k.capacity words code
  | insertAll k codes => k.words?.bind fun words => codes.foldlM (insert? k.capacity) words

/-- All codes put in, from the first to the last. -/
def inserted : Construction → List Nat
  | empty _ => []
  | ofList _ codes => codes
  | insert k code => k.inserted ++ [code]
  | insertAll k codes => k.inserted ++ codes

/-- The codes put in that are below the capacity. -/
def codes (k : Construction) : Finset Nat := k.inserted.toFinset.filter (· < k.capacity)

variable {k l : Construction} {c : Nat}

theorem mem_codes : c ∈ k.codes ↔ c ∈ k.inserted ∧ c < k.capacity := by
  rw [codes, Finset.mem_filter, List.mem_toFinset]

theorem result_eq (k : Construction) : k.result = .ofList k.capacity k.inserted := by
  induction k with
  | empty capacity => rfl
  | ofList capacity codes => rfl
  | insert k code ih =>
    rw [result, ih]
    exact (ofList_append k.capacity k.inserted [code]).symm
  | insertAll k codes ih =>
    rw [result, ih]
    exact (ofList_append k.capacity k.inserted codes).symm

theorem capacity_result (k : Construction) : k.result.capacity = k.capacity := by
  rw [result_eq, capacity_ofList]

theorem words?_eq (k : Construction) : k.words? = some k.result.words := by
  induction k with
  | empty capacity => rfl
  | ofList capacity codes => exact foldlM_insert?_eq (.empty capacity) codes
  | insert k code ih =>
    rw [words?, ih, ← capacity_result]
    exact insert?_eq k.result code
  | insertAll k codes ih =>
    rw [words?, ih, ← capacity_result]
    exact foldlM_insert?_eq k.result codes

theorem contains_result : k.result.contains c = true ↔ c ∈ k.codes := by
  rw [result_eq, contains_ofList, mem_codes]

theorem any_result : k.result.any = true ↔ k.codes.Nonempty := by
  rw [result_eq, any_ofList, decide_eq_true_eq]
  exact exists_congr fun c => mem_codes.symm

/-- The set that a construction makes stands for the codes put in that are below the capacity, and
all accesses to its words are in bounds. -/
theorem represents_codes (k : Construction) :
    k.words? = some k.result.words ∧
    (∀ c, contains? k.capacity k.result.words c = some (k.result.contains c)) ∧
    k.result.capacity = k.capacity ∧
    k.result.Represents k.codes := by
  refine ⟨words?_eq k, fun c => ?_, capacity_result k, ?_⟩
  · rw [← capacity_result, contains?_eq]
  · exact represents_of (fun c => contains_result) any_result

/-! ## Equality -/

theorem noStrayBits_result (k : Construction) : k.result.NoStrayBits := by
  rw [result_eq]
  exact (noStrayBits_empty k.capacity).insertAll

theorem result_eq_of (hcapacity : k.result.capacity = l.result.capacity)
    (hcontains : ∀ c, k.result.contains c = l.result.contains c) : k.result = l.result :=
  k.noStrayBits_result.ext l.noStrayBits_result hcapacity hcontains

theorem result_eq_of_codes (hcapacity : k.capacity = l.capacity) (hcodes : k.codes = l.codes) :
    k.result = l.result := by
  refine result_eq_of ?_ fun c => ?_
  · rw [capacity_result, capacity_result, hcapacity]
  · rw [Bool.eq_iff_iff, contains_result, contains_result, hcodes]

/-- Two sets are equal exactly if they have the same capacity and the same codes. So neither the
order nor the number of insertions matters, nor do codes at or above the capacity. -/
theorem result_beq_iff (k l : Construction) :
    ((k.result == l.result) = true ↔
      k.result.capacity = l.result.capacity ∧ ∀ c, k.result.contains c = l.result.contains c) ∧
    ((k.result == l.result) = true ↔ k.capacity = l.capacity ∧ k.codes = l.codes) ∧
    ∀ codes codes' : List Nat, (∀ c, c ∈ codes ↔ c ∈ codes') →
      k.result.insertAll codes = k.result.insertAll codes' := by
  simp only [beq_iff_eq]
  refine ⟨⟨fun h => ?_, fun h => result_eq_of h.1 h.2⟩,
    ⟨fun h => ?_, fun h => result_eq_of_codes h.1 h.2⟩, fun codes codes' hcodes => ?_⟩
  · rw [h]
    exact ⟨rfl, fun _ => rfl⟩
  · refine ⟨?_, Finset.ext fun c => ?_⟩
    · rw [← capacity_result, h, capacity_result]
    · rw [← contains_result, h, contains_result]
  · refine result_eq_of_codes (k := k.insertAll codes) (l := k.insertAll codes') rfl ?_
    refine Finset.ext fun c => ?_
    simp only [mem_codes, inserted, capacity, List.mem_append, hcodes]

end Construction
end InputUdev.CodeSet
