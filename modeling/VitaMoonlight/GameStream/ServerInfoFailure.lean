import VitaMoonlight.GameStream.ServerIdentity

/-! What a failed serverinfo leaves of the server record: the one check that comes after the first
fields were stored.
-/

namespace VitaMoonlight

open Library Library.CText

variable {Certificate : Type} {server : GameStreamServer Certificate} {https cancellable : Bool}
  {exchange : Exchange} {body : XmlDocument}

end VitaMoonlight
