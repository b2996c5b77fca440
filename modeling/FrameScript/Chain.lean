/-!
# Chains of things in progress

Whoever opens things from a finite stock, each while the ones before it are still open and none
of them twice, comes to an end: every opening leaves less `room`.
-/

namespace FrameScript

variable {α : Type} [DecidableEq α]

/-- How many members of `stock` are not open. -/
def room (stock opened : List α) : Nat :=
  (stock.filter fun a => a ∉ opened).length

theorem room_cons_le (stock opened : List α) (a : α) :
    room stock (a :: opened) ≤ room stock opened := by
  unfold room
  induction stock with
  | nil => simp
  | cons b stock ih => grind

/-- Opening one more thing of the stock leaves less room. -/
theorem room_cons_lt {stock opened : List α} {a : α} (ha : a ∈ stock) (hn : a ∉ opened) :
    room stock (a :: opened) < room stock opened := by
  induction stock with
  | nil => simp at ha
  | cons b stock ih =>
    have hle := room_cons_le stock opened a
    unfold room at ih hle ⊢
    rcases List.mem_cons.1 ha with rfl | h
    · simpa [List.filter_cons, hn] using Nat.lt_succ_of_le hle
    · grind

end FrameScript
