import Purse.World.Engine

/-!
# Visits to the store

Whoever uses the store either makes a single call, or begins a unit of work, makes calls inside it, and
commits it or drops it. Whether a call that is refused inside a unit of work undoes what was done before it
is up to the engine. A single call is a unit of work of its own.
-/
namespace Purse

namespace Engine

end Engine
end Purse
