import Gripperz.Library.NumberText

/-! # Vectors as text

Numbers one after another with a separator between any two.
-/
namespace Gripperz.Math.Types
open Library

variable {R : Type} (number : NumberFormat R)

def toString (vec : List R) (sep : String) : String :=
  String.ofList (sep.toList.intercalate (vec.map fun x => (number.text x).toList))

theorem words_toString {vec : List R} {sep : String} {blank : Char} (hsep : sep.toList = [blank])
    (hblank : isSpace blank = true) :
    words (toString number vec sep).toList = vec.map fun x => (number.text x).toList := by
  rw [toString, String.toList_ofList, hsep]
  apply words_intercalate _ hblank
  intro word hmem
  obtain ⟨x, -, rfl⟩ := List.mem_map.mp hmem
  exact number.isWord x

end Gripperz.Math.Types
