import Dialogue.Schema.Flow
import Dialogue.Schema.Turn

/-!
# All schemas

The schemas that are handed out, each under the name of its file.

* `Schema.collection_names`: every schema has a name of its own.
-/

namespace Dialogue.Schema

/-- All schemas with the names of their files. -/
def collection : List (String × Schema) :=
  [("flow.schema.json", flow), ("inbound-message.schema.json", inbound),
    ("turn-reply.schema.json", reply)]

/-- Every schema has a name of its own. -/
theorem collection_names : (collection.map (·.1)).Nodup := by decide

end Dialogue.Schema
