import Mathlib.Data.List.Basic

/-!
# Relays

Something enters, is handed on through buffers and hands, and some of it comes out. A relay may
lose what it is given, anywhere and at any time. What it must not do is to let a thing out
twice, or before one that entered earlier: what has come out is a sublist of what has entered.

To see that, one looks at what is inside in the order in which it will come out, whichever of
the buffers it is in (`Relayed`). Then handing on within the relay is nothing, and each of the
other steps is one rule.
-/

namespace EspPtp
namespace Lib

universe u v

variable {α : Type u} {entered passed inside inside' : List α}

/-- A log of a history grows by what its last event logs. -/
theorem filterMap_snoc {β : Type v} (log : α → Option β) (history : List α) (x : α) :
    (history ++ [x]).filterMap log = history.filterMap log ++ (log x).toList := by
  cases h : log x <;> simp [h]

/-- What has passed, and then what is inside, are of what has entered, in its order. -/
def Relayed (entered passed inside : List α) : Prop := (passed ++ inside).Sublist entered

theorem Relayed.start : Relayed ([] : List α) [] [] := List.Sublist.refl []

/-- One more thing enters, behind all that is inside. -/
theorem Relayed.enter (h : Relayed entered passed inside) (x : α) :
    Relayed (entered ++ [x]) passed (inside ++ [x]) := by
  unfold Relayed
  rw [← List.append_assoc]
  exact List.Sublist.append h (List.Sublist.refl [x])

/-- The first comes out. -/
theorem Relayed.pass {x : α} (h : Relayed entered passed (x :: inside)) :
    Relayed entered (passed ++ [x]) inside := by
  unfold Relayed
  rw [List.append_assoc]
  exact h

/-- Some of what is inside is lost. -/
theorem Relayed.lose (h : Relayed entered passed inside) (hlost : inside'.Sublist inside) :
    Relayed entered passed inside' :=
  List.Sublist.trans (List.Sublist.append (List.Sublist.refl passed) hlost) h

theorem Relayed.sublist (h : Relayed entered passed inside) : passed.Sublist entered :=
  List.Sublist.trans (List.sublist_append_left passed inside) h

end Lib
end EspPtp
