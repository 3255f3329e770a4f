import Mathlib.Data.Vector.Defs
import Mathlib.Data.List.Basic

/-!
# Rings

A queue of bounded depth in an array: a head, and how many slots from there on are in use,
counted around the end. What the ring holds is a list, `contents`, and the operations on the
array are those of a queue on that list: a push is an append, a pop takes the first, and a
slot out of use may hold anything.
-/

namespace EspPtp
namespace Lib
namespace Ring

variable {α : Type} {depth : Nat}

/-- The slot `i` places after the head. -/
def index (head : Fin depth) (i : Nat) : Fin depth :=
  ⟨(head.val + i) % depth, Nat.mod_lt _ head.pos⟩

/-- What the ring holds, the oldest first. -/
def contents (slots : Vector α depth) (head : Fin depth) (count : Nat) : List α :=
  (List.range count).map fun i => slots.get (index head i)

@[simp] theorem contents_length (slots : Vector α depth) (head : Fin depth) (count : Nat) :
    (contents slots head count).length = count := by
  simp [contents]

@[simp] theorem contents_empty (slots : Vector α depth) (head : Fin depth) :
    contents slots head 0 = [] := rfl

theorem index_zero (head : Fin depth) : index head 0 = head := by
  apply Fin.ext
  exact Nat.mod_eq_of_lt head.isLt

theorem index_next (head : Fin depth) (i : Nat) : index (index head 1) i = index head (i + 1) := by
  apply Fin.ext
  show ((head.val + 1) % depth + i) % depth = (head.val + (i + 1)) % depth
  rw [Nat.mod_add_mod]
  congr 1
  omega

/-- The places in use are different slots. -/
theorem index_ne (head : Fin depth) {i j : Nat} (hij : i < j) (hj : j < depth) :
    index head i ≠ index head j := by
  intro h
  have hval : (head.val + i) % depth = (head.val + j) % depth := congrArg Fin.val h
  have hround := Nat.sub_mod_eq_zero_of_mod_eq hval.symm
  rw [Nat.add_sub_add_left, Nat.mod_eq_of_lt (by omega)] at hround
  omega

theorem get_set (slots : Vector α depth) (k j : Fin depth) (x : α) :
    (slots.set k.val x k.isLt).get j = if k = j then x else slots.get j := by
  show (slots.set k.val x k.isLt)[j.val] = _
  rw [Vector.getElem_set]
  by_cases h : k = j
  · rw [if_pos h, if_pos (congrArg Fin.val h)]
  · rw [if_neg h, if_neg fun hval => h (Fin.ext hval)]
    rfl

/-- **A push is an append.** -/
theorem contents_push (slots : Vector α depth) (head : Fin depth) {count : Nat}
    (h : count < depth) (x : α) :
    contents (slots.set (index head count).val x (index head count).isLt) head (count + 1) =
      contents slots head count ++ [x] := by
  unfold contents
  rw [List.range_succ, List.map_append]
  congr 1
  · apply List.map_congr_left
    intro i hi
    rw [get_set, if_neg (Ne.symm (index_ne head (List.mem_range.mp hi) h))]
  · rw [List.map_singleton, get_set, if_pos rfl]

/-- **A pop takes the first.** -/
theorem contents_pop (slots : Vector α depth) (head : Fin depth) (count : Nat) :
    contents slots head (count + 1) =
      slots.get head :: contents slots (index head 1) count := by
  unfold contents
  rw [List.range_succ_eq_map, List.map_cons, List.map_map, index_zero]
  congr 1
  apply List.map_congr_left
  intro i _
  rw [index_next]
  rfl

end Ring
end Lib
end EspPtp
