/-!
# Lazy sequences

Finite sequences whose elements are computed one by one, so that a few can be taken from a huge
one. Each operation is described by what it does to `toList`, the list of all elements.
-/

namespace Cityscape

/-- A sequence that computes what follows an element only when it is asked for. -/
inductive LazySeq (α : Type) where
  | nil
  | cons (head : α) (tail : Unit → LazySeq α)

namespace LazySeq

variable {α β γ : Type}

/-- The sequence of one element. -/
def once (a : α) : LazySeq α := cons a fun _ => nil

/-- All elements. -/
def toList : LazySeq α → List α
  | nil => []
  | cons a tail => a :: (tail ()).toList

/-- The sequence with every element changed. -/
def map (f : α → β) : LazySeq α → LazySeq β
  | nil => nil
  | cons a tail => cons (f a) fun _ => (tail ()).map f

/-- One sequence after another. -/
def append : LazySeq α → (Unit → LazySeq α) → LazySeq α
  | nil, after => after ()
  | cons a tail, after => cons a fun _ => (tail ()).append after

/-- The sequences of the elements, one after another. -/
def flatMap (f : α → LazySeq β) : LazySeq α → LazySeq β
  | nil => nil
  | cons a tail => (f a).append fun _ => (tail ()).flatMap f

/-- The sequences of the elements of a list, one after another. -/
def flatten : List (Unit → LazySeq α) → LazySeq α
  | [] => nil
  | s :: others => (s ()).append fun _ => flatten others

/-- All pairs, combined: the elements of the first sequence in the outer loop, and the second
sequence anew for each of them. -/
def product (f : α → β → γ) (s : LazySeq α) (t : Unit → LazySeq β) : LazySeq γ :=
  s.flatMap fun a => (t ()).map (f a)

/-- The first `n` elements, or all of them if there are fewer. -/
def take : Nat → LazySeq α → List α
  | 0, _ => []
  | _ + 1, nil => []
  | n + 1, cons a tail => a :: (tail ()).take n

/-- The element at a position. -/
def get? : LazySeq α → Nat → Option α
  | nil, _ => none
  | cons a _, 0 => some a
  | cons _ tail, n + 1 => (tail ()).get? n

/-- The result of taking in all elements, from the first to the last. -/
def foldl (f : β → α → β) : β → LazySeq α → β
  | b, nil => b
  | b, cons a tail => (tail ()).foldl f (f b a)

/-- The number of elements. -/
def length (s : LazySeq α) : Nat := s.foldl (fun n _ => n + 1) 0

/-- All elements, gathered in an array. -/
def toArray (s : LazySeq α) : Array α := s.foldl Array.push #[]

/-- The empty sequence has no elements. -/
@[simp] theorem toList_nil : (nil : LazySeq α).toList = [] := rfl

/-- The elements of a sequence are its first one and those of what follows. -/
@[simp] theorem toList_cons (a : α) (tail : Unit → LazySeq α) :
    (cons a tail).toList = a :: (tail ()).toList := rfl

/-- Changing a sequence changes its elements one by one. -/
@[simp] theorem toList_map (f : α → β) (s : LazySeq α) : (s.map f).toList = s.toList.map f := by
  induction s with
  | nil => rfl
  | cons a tail ih => simp [map, ih]

/-- The elements of one sequence come before those of the other. -/
@[simp] theorem toList_append (s : LazySeq α) (after : Unit → LazySeq α) :
    (s.append after).toList = s.toList ++ (after ()).toList := by
  induction s with
  | nil => rfl
  | cons a tail ih => simp [append, ih]

/-- The elements of the sequences that the elements lead to are put together in order. -/
@[simp] theorem toList_flatMap (f : α → LazySeq β) (s : LazySeq α) :
    (s.flatMap f).toList = s.toList.flatMap fun a => (f a).toList := by
  induction s with
  | nil => rfl
  | cons a tail ih => simp [flatMap, ih]

/-- The elements of all sequences are put together in the order of the list. -/
@[simp] theorem toList_flatten (ss : List (Unit → LazySeq α)) :
    (flatten ss).toList = ss.flatMap fun s => (s ()).toList := by
  induction ss with
  | nil => rfl
  | cons s others ih => simp [flatten, ih]

/-- The pairs are ordered by the element of the first sequence, and then by that of the second. -/
@[simp] theorem toList_product (f : α → β → γ) (s : LazySeq α) (t : Unit → LazySeq β) :
    (product f s t).toList = s.toList.flatMap fun a => (t ()).toList.map (f a) := by
  simp [product]

/-- The first elements of a sequence are those of the list of all elements. -/
theorem take_eq (n : Nat) (s : LazySeq α) : s.take n = s.toList.take n := by
  induction s generalizing n with
  | nil => cases n <;> rfl
  | cons a tail ih => cases n <;> simp [take, ih]

/-- The element at a position is the one at that position in the list of all elements. -/
theorem get?_eq (s : LazySeq α) (n : Nat) : s.get? n = s.toList[n]? := by
  induction s generalizing n with
  | nil => simp [get?]
  | cons a tail ih => cases n <;> simp [get?, ih]

/-- A sequence is taken in like the list of all its elements. -/
theorem foldl_eq (f : β → α → β) (b : β) (s : LazySeq α) : s.foldl f b = s.toList.foldl f b := by
  induction s generalizing b with
  | nil => rfl
  | cons a tail ih => simp [foldl, ih]

/-- A sequence is as long as the list of all its elements. -/
theorem length_eq (s : LazySeq α) : s.length = s.toList.length := by
  rw [length, foldl_eq]
  generalize s.toList = l
  suffices ∀ n, l.foldl (fun n _ => n + 1) n = n + l.length by rw [this, Nat.zero_add]
  induction l with
  | nil => simp
  | cons a l ih => intro n; simp [ih]; omega

end LazySeq

end Cityscape
