/-!
# First-in first-out queues

A queue is read at the front and written at the back. Its contents are the list `toList`; the
two halves and the stored size only make each operation cheap.
-/

namespace Gatehouse

/-- A queue whose front half is in order and whose back half is reversed. -/
structure Queue (α : Type) where
  /-- The oldest items, oldest first. -/
  front : List α
  /-- The newest items, newest first. -/
  back : List α
  /-- The number of items. -/
  size : Nat
  /-- The stored size counts both halves. -/
  size_eq : size = front.length + back.length

namespace Queue

variable {α : Type}

/-- The queue without items. -/
def empty : Queue α := ⟨[], [], 0, rfl⟩

instance : Inhabited (Queue α) := ⟨empty⟩

/-- The items, oldest first. -/
def toList (q : Queue α) : List α := q.front ++ q.back.reverse

/-- The queue with one more item at its back. -/
def push (q : Queue α) (a : α) : Queue α :=
  ⟨q.front, a :: q.back, q.size + 1, by simp [q.size_eq, Nat.add_assoc]⟩

/-- The oldest item and the queue without it. -/
def pop? (q : Queue α) : Option (α × Queue α) :=
  match hf : q.front with
  | a :: front =>
    some (a, ⟨front, q.back, q.size - 1, by
      have hs := q.size_eq
      rw [hf, List.length_cons] at hs
      omega⟩)
  | [] =>
    match hb : q.back.reverse with
    | a :: front =>
      some (a, ⟨front, [], q.size - 1, by
        have hs := q.size_eq
        have hr : q.back.reverse.length = q.back.length := List.length_reverse
        rw [hb, List.length_cons] at hr
        rw [hf, List.length_nil] at hs
        rw [List.length_nil]
        omega⟩)
    | [] => none

/-- Whether there is no item. -/
def isEmpty (q : Queue α) : Bool := q.size == 0

@[simp] theorem toList_empty : (empty : Queue α).toList = [] := rfl

@[simp] theorem toList_push (q : Queue α) (a : α) : (q.push a).toList = q.toList ++ [a] := by
  simp [push, toList]

@[simp] theorem length_toList (q : Queue α) : q.toList.length = q.size := by
  simp [toList, q.size_eq]

/-- Taking the oldest item takes the head of the contents. -/
theorem toList_of_pop? {q r : Queue α} {a : α} (h : q.pop? = some (a, r)) :
    q.toList = a :: r.toList := by
  unfold pop? at h
  split at h
  next x xs hf =>
    cases h
    simp [toList, hf]
  next hf =>
    split at h
    next x xs hb =>
      cases h
      simp [toList, hf, hb]
    next => cases h

/-- There is nothing to take exactly when the queue is empty. -/
theorem pop?_eq_none_iff {q : Queue α} : q.pop? = none ↔ q.toList = [] := by
  unfold pop?
  split
  next x xs hf => simp [toList, hf]
  next hf =>
    split
    next x xs hb => simp [toList, hf, hb]
    next hb => simp [toList, hf, hb]

end Queue

end Gatehouse
