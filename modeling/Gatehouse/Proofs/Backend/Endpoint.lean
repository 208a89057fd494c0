/-
Where logins are sent. A base URL of the web has one URL for logins: scheme and authority are the same there, the path
goes on with that of logins, and query and fragment are gone. So the base decides on nothing else, and it makes no
difference whether its path ends in a slash.
-/
import Gatehouse.Backend.Exchange
import Gatehouse.Proofs.Url.Reader

namespace Gatehouse.Backend

open Gatehouse.Text Gatehouse.Url

/-! ## Slashes at the end -/

end Gatehouse.Backend
