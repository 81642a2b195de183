import Sift.Pattern.Search
import Sift.Query

/-!
# Standard options

Whoever compiles a query says which engine its patterns are for. The commands use the patterns of
this library.
-/

namespace Sift

/-- The options that ask nothing of a query but that its patterns are those of this library. -/
def Options.standard : Options := { patterns := Pattern.engine }

end Sift
