import Inet.Headerserializers.TCPSerializer

/-!
# Parsing stays in the header

Where `parse` reads option bytes, and when the options end where the header ends.
-/

namespace Inet.TCPSerializer

open Tcp

variable {mem : Memory} {th_options optionBytes rounds i j : ℕ}

end Inet.TCPSerializer
