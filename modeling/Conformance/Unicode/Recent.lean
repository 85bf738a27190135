import Conformance.Unicode.Packed

/-!
# Recent characters

The other tables of this folder are those of version 16 of the character database. This one holds
the characters that version 17 added and that can be seen by themselves.
-/

namespace Conformance.Unicode

/-- The range table of the visible characters of version 17 that version 16 lacks. -/
def recent : String :=
  "ceF0+C0dV0e-40cwK0-bN12010S0u+HFnT1bM6cXHPblB288de803010s8bB49ufMO2OiU4ga17bi9Ld1dIpy72nTMFGf+
  FU1211162491d+O0eU3kL8lR3bI030bP040S040iA0bozV5fX2Bvi2eg9"

end Conformance.Unicode
