import Mqtt.Bytes

/-!
Bytes that come piece by piece and are wanted as one. What has come is kept newest first beside its
size, so that taking in a piece costs no more than the piece is long.
-/

namespace Mqtt
set_option autoImplicit false

structure Gathered where
  newestFirst : Bytes := []
  size : Nat := newestFirst.length
  size_eq : size = newestFirst.length := by rfl
deriving DecidableEq, Repr

namespace Gathered

def empty : Gathered := {}

/-- Takes in a piece. -/
def append (g : Gathered) (piece : Bytes) : Gathered where
  newestFirst := piece.reverseAux g.newestFirst
  size := g.size + piece.length
  size_eq := by simp [g.size_eq, List.reverseAux_eq, Nat.add_comm]

/-- What has come, in order. -/
def toList (g : Gathered) : Bytes := g.newestFirst.reverse

@[simp] theorem toList_empty : empty.toList = [] := rfl

@[simp] theorem toList_append (g : Gathered) (piece : Bytes) :
    (g.append piece).toList = g.toList ++ piece := by
  simp [append, toList, List.reverseAux_eq]

@[simp] theorem size_append (g : Gathered) (piece : Bytes) :
    (g.append piece).size = g.size + piece.length := rfl

@[simp] theorem append_nil (g : Gathered) : g.append [] = g := rfl

theorem append_append (g : Gathered) (a b : Bytes) :
    (g.append a).append b = g.append (a ++ b) := by
  simp [append, List.reverseAux_eq, Nat.add_assoc]

theorem size_eq_length_toList (g : Gathered) : g.size = g.toList.length := by
  simp [toList, g.size_eq]

end Gathered

end Mqtt
