/-!
# Weights

Where one thing that is done can bring about others, all that is to be done is
given a weight that grows less with everything that is done.  The weight of a
list is that of its items together.
-/

namespace Courier

set_option autoImplicit false

variable {α β : Type}

/-- The weight of the items of a list together. -/
def totalWeight (weight : α → Nat) : List α → Nat
  | [] => 0
  | item :: rest => weight item + totalWeight weight rest

section

variable (weight : α → Nat)

@[simp] theorem totalWeight_nil : totalWeight weight [] = 0 := rfl

@[simp] theorem totalWeight_cons (item : α) (rest : List α) :
    totalWeight weight (item :: rest) = weight item + totalWeight weight rest := rfl

@[simp] theorem totalWeight_append (first second : List α) :
    totalWeight weight (first ++ second) =
      totalWeight weight first + totalWeight weight second := by
  induction first with
  | nil => simp
  | cons item rest ih =>
    rw [List.cons_append, totalWeight_cons, totalWeight_cons, ih]
    omega

@[simp] theorem totalWeight_map (make : β → α) (items : List β) :
    totalWeight weight (items.map make) = totalWeight (fun item => weight (make item)) items := by
  induction items with
  | nil => rfl
  | cons item rest ih => rw [List.map_cons, totalWeight_cons, totalWeight_cons, ih]

/-- Things that weigh one each. -/
theorem totalWeight_one (items : List α) : totalWeight (fun _ => 1) items = items.length := by
  induction items with
  | nil => rfl
  | cons item rest ih =>
    rw [totalWeight_cons, ih, List.length_cons]
    omega

/-- Replacing an item changes the weight of a list by the difference of the two. -/
theorem totalWeight_set {list : List α} {index : Nat} {old : α} (found : list[index]? = some old)
    (new : α) :
    totalWeight weight (list.set index new) + weight old =
      totalWeight weight list + weight new := by
  induction list generalizing index with
  | nil => simp at found
  | cons head tail ih =>
    cases index with
    | zero =>
      simp only [List.getElem?_cons_zero, Option.some.injEq] at found
      subst found
      simp only [List.set_cons_zero, totalWeight_cons]
      omega
    | succ index =>
      simp only [List.getElem?_cons_succ] at found
      have smaller := ih found
      simp only [List.set_cons_succ, totalWeight_cons]
      omega

end

end Courier
