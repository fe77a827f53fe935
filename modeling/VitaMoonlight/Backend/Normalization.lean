import VitaMoonlight.Backend.StorageNames
import VitaMoonlight.Library.Deduplication

/-! What `normalize_known_devices` makes of the loaded list. It compares each record with
the records kept so far once, as they stand at that moment. The records of one PC end up
together when each is still recognised in what the earlier ones were merged into; a record
with the identity of two kept records is merged into the first one only, and the two then
share that identity.
-/

namespace VitaMoonlight

open Library Library.Deduplication

namespace KnownDevices

open DeviceInfo

-----------------------------------------------------------------------------------------
-- The loop as a pass that removes duplicates
-----------------------------------------------------------------------------------------

theorem devices_normalize (keyDir : CString) (known : KnownDevices)
    : (known.normalize keyDir).1.devices
      = (deduplicate sameIdentity mergeDuplicate known.devices).map ensureHostIdentity := rfl

end KnownDevices

end VitaMoonlight
