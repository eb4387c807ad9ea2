import Gripperz.Loaders.NamedValues
import Gripperz.Parametrizations.Parametrization

/-! # Parametrizations in trees -/
namespace Gripperz.Loaders
open Library Parametrizations

variable {R : Type}

namespace ParametrizationLoader
variable (number : NumberText R)

def read (tree : PTree String String) : Option (Parametrization R) :=
  readNamedValues number "parameter" (fun p parameter => p.addParameter parameter.1 parameter.2)
    .empty tree

def write (p : Parametrization R) : Option (String × PTree String String) :=
  p.getParameterList.map fun list => ("parametrization", writeNamedValues number "parameter" list)

/-- A parametrization is written and is read as it was. -/
theorem read_write (p : Parametrization R) :
    ∃ tree, write number p = some ("parametrization", tree) ∧ read number tree = some p := by
  obtain ⟨list, hlist⟩ := p.exists_getParameterList
  refine ⟨writeNamedValues number "parameter" list, by simp [write, hlist], ?_⟩
  rw [read, readNamedValues_writeNamedValues]
  exact congrArg some (Parametrization.ofList_getParameterList hlist)

end ParametrizationLoader
end Gripperz.Loaders
