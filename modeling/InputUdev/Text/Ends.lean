/-!
# Cutting a text at its ends

A text is the part before its longest tail of characters with a property, followed by that tail.
The functions work on lists of any kind.
-/

namespace InputUdev.Text

variable {α : Type}

/-- The text without its longest tail of characters satisfying `p`. -/
def dropTrailing (p : α → Bool) (cs : List α) : List α :=
  (cs.reverse.dropWhile p).reverse

/-- The longest tail of characters satisfying `p`. -/
def takeTrailing (p : α → Bool) (cs : List α) : List α :=
  (cs.reverse.takeWhile p).reverse

/-- The text without the characters satisfying `p` at either end. -/
def trim (p : α → Bool) (cs : List α) : List α := dropTrailing p (cs.dropWhile p)

theorem dropTrailing_append_takeTrailing (p : α → Bool) (cs : List α) :
    dropTrailing p cs ++ takeTrailing p cs = cs := by
  rw [dropTrailing, takeTrailing, ← List.reverse_append, List.takeWhile_append_dropWhile,
    List.reverse_reverse]

theorem of_mem_takeTrailing {p : α → Bool} {cs : List α} {c : α}
    (h : c ∈ takeTrailing p cs) : p c = true :=
  List.all_eq_true.mp List.all_takeWhile c (List.mem_reverse.mp h)

theorem of_mem_getLast?_dropTrailing {p : α → Bool} {cs : List α} {c : α}
    (h : c ∈ (dropTrailing p cs).getLast?) : p c = false := by
  rw [dropTrailing, List.getLast?_reverse, Option.mem_def] at h
  have hhead := List.head?_dropWhile_not p cs.reverse
  rw [h] at hhead
  exact hhead

/-- A front that does not end in such a character is what is left of it with such a tail. -/
theorem dropTrailing_append {p : α → Bool} {front tail : List α}
    (hfront : ∀ c ∈ front.getLast?, p c = false) (htail : ∀ c ∈ tail, p c = true) :
    dropTrailing p (front ++ tail) = front := by
  have hreverse : front.reverse.dropWhile p = front.reverse := by
    rw [← List.head?_reverse] at hfront
    cases hcs : front.reverse with
    | nil => rfl
    | cons c cs => exact List.dropWhile_cons_of_neg (by simp [hfront c (hcs ▸ rfl)])
  rw [dropTrailing, List.reverse_append,
    List.dropWhile_append_of_pos fun c hc => htail c (List.mem_reverse.mp hc), hreverse,
    List.reverse_reverse]

theorem takeTrailing_append {p : α → Bool} {front tail : List α}
    (hfront : ∀ c ∈ front.getLast?, p c = false) (htail : ∀ c ∈ tail, p c = true) :
    takeTrailing p (front ++ tail) = tail := by
  have happend := dropTrailing_append_takeTrailing p (front ++ tail)
  rw [dropTrailing_append hfront htail] at happend
  exact List.append_cancel_left happend

end InputUdev.Text
