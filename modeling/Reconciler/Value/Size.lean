import Reconciler.Value.Basic

/-!
# The size of a value

The number of nodes of a value, which bounds every walk over it.
-/

namespace Reconciler.Value

mutual

/-- The number of scalars, lists and maps in a value, itself included. -/
def size : Value → Nat
  | .scalar _ => 1
  | .list items => 1 + sizeItems items
  | .map entries => 1 + sizeEntries entries

/-- The number of nodes of several values. -/
def sizeItems : List Value → Nat
  | [] => 0
  | v :: rest => size v + sizeItems rest

/-- The number of nodes of the values under several keys. -/
def sizeEntries : List (Scalar × Value) → Nat
  | [] => 0
  | (_, v) :: rest => size v + sizeEntries rest

end

theorem sizeItems_append (as bs : List Value) :
    sizeItems (as ++ bs) = sizeItems as + sizeItems bs := by
  induction as with
  | nil => simp [sizeItems]
  | cons v rest ih => simp [sizeItems, ih, Nat.add_assoc]

theorem sizeItems_reverse (items : List Value) : sizeItems items.reverse = sizeItems items := by
  induction items with
  | nil => rfl
  | cons v rest ih => simp [sizeItems_append, sizeItems, ih, Nat.add_comm]

theorem sizeItems_values (entries : List (Scalar × Value)) :
    sizeItems (Fields.values entries) = sizeEntries entries := by
  induction entries with
  | nil => rfl
  | cons entry rest ih =>
    simp only [Fields.values, List.map_cons, sizeItems, sizeEntries] at ih ⊢
    rw [ih]

end Reconciler.Value
