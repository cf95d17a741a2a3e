import InputUdev.Association

/-!
# Insertion-ordered entries

Texts by key. `get?` is the view that forgets the order, and `same` compares two lists of entries by
it.
-/

namespace InputUdev

structure Entries where
  toList : List (String × String) := []
  nodup_keys : (toList.map Prod.fst).Nodup := by simp

namespace Entries

def empty : Entries := {}

instance : Inhabited Entries := ⟨empty⟩

theorem ext_toList {e e' : Entries} (h : e.toList = e'.toList) : e = e' := by
  cases e; cases e'; cases h; rfl

instance : DecidableEq Entries := fun e e' =>
  decidable_of_iff (e.toList = e'.toList) ⟨ext_toList, fun h => h ▸ rfl⟩

def keys (e : Entries) : List String := e.toList.map Prod.fst

def insert (e : Entries) (key value : String) : Entries where
  toList := Association.upsert key value e.toList
  nodup_keys := Association.nodup_upsert e.nodup_keys key value

def get? (e : Entries) (key : String) : Option String := e.toList.lookup key

/-- Whether two lists of entries hold the same values by key, whatever their order. -/
def same (e e' : Entries) : Bool :=
  e.toList.length == e'.toList.length && e.toList.all fun (k, v) => e'.get? k == some v

@[simp] theorem get?_insert (e : Entries) (key value k : String) :
    (e.insert key value).get? k = if k = key then some value else e.get? k :=
  Association.lookup_upsert key value k e.toList

end Entries
end InputUdev
