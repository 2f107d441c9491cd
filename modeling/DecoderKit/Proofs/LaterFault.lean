import DecoderKit.Fault
import DecoderKit.Proofs.Sweep

/-!
# Numbered items behind others

The readers of this library number what they read, lines from one and items of a byte list
from zero, and a fault names the number at which it was met. When the same items stand
behind others, each of them has a number that is greater by as many, and that is the only
thing about a fault that changes.

`NamesNumber` says this of the reader of one item, where it is a matter of looking at the
reader. What it comes to for a sweep over two lists in a row is `mapM_zipIdx_append`: the
items in front are read as if nothing came behind them, and those behind as if they stood
alone, only with later faults.
-/

namespace DecoderKit

/-- The fault that is met when so many lines or items come first. -/
def Fault.later (count : Nat) : Fault → Fault
  | .malformedRow line reason => .malformedRow (count + line) reason
  | .malformedByte index token => .malformedByte (count + index) token
  | fault => fault

theorem Fault.later_later (count count' : Nat) (fault : Fault) :
    (fault.later count).later count' = fault.later (count' + count) := by
  -- only the faults of readers have a number in them
  cases fault with
  | malformedRow line reason => exact congrArg (malformedRow · reason) (Nat.add_assoc ..).symm
  | malformedByte index token => exact congrArg (malformedByte · token) (Nat.add_assoc ..).symm
  | _ => rfl

theorem mapError_later {α : Type} (x : Except Fault α) (count count' : Nat) :
    (x.mapError (Fault.later count)).mapError (Fault.later count')
      = x.mapError (Fault.later (count' + count)) := by
  cases x with
  | error fault => exact congrArg Except.error (fault.later_later count count')
  | ok a => rfl

variable {α β : Type} {f : α × Nat → Except Fault β}

/-- The number of an item is named in a fault, and has no other part in reading it. -/
def NamesNumber (f : α × Nat → Except Fault β) : Prop :=
  ∀ count item number, f (item, count + number) = (f (item, number)).mapError (Fault.later count)

/-- Numbering items from elsewhere makes the faults later, and changes nothing else. -/
theorem NamesNumber.mapM_zipIdx_add (h : NamesNumber f) (l : List α) (count n : Nat) :
    (l.zipIdx (count + n)).mapM f = ((l.zipIdx n).mapM f).mapError (Fault.later count) := by
  -- the number goes up from item to item, so the induction is for every first number
  induction l generalizing n with
  | nil => rfl
  | cons a l ih =>
      have hitem := h count a n
      rw [List.zipIdx_cons, List.zipIdx_cons, Nat.add_assoc]
      cases ha : f (a, n) with
      | error fault =>
          rw [ha] at hitem
          rw [mapM_cons_error hitem, mapM_cons_error ha]
          rfl
      | ok b =>
          rw [ha] at hitem
          rw [mapM_cons_ok hitem, mapM_cons_ok ha, ih]
          cases (l.zipIdx (n + 1)).mapM f <;> rfl

/-- **Items behind others are read as if they stood alone**, with faults that are later by the
number of items in front. -/
theorem NamesNumber.mapM_zipIdx_append (h : NamesNumber f) {l : List α} {n : Nat} {bs : List β}
    (hbs : (l.zipIdx n).mapM f = .ok bs) (l' : List α) : ((l ++ l').zipIdx n).mapM f
      = (((l'.zipIdx n).mapM f).mapError (Fault.later bs.length)).map (bs ++ ·) := by
  have hlen : bs.length = l.length := by
    rw [← (mapM_eq_ok_iff.mp hbs).length_eq, List.length_zipIdx]
  rw [List.zipIdx_append, mapM_append_ok hbs, Nat.add_comm n, h.mapM_zipIdx_add, hlen]

end DecoderKit
