import VitaMoonlight.Video.SpsFix

/-! The assembly of a decode unit in the decoder's buffer (`vita_video_submit`): the entries of the
unit are copied one behind the other, and parameter sets are rewritten on the way.
-/

namespace VitaMoonlight

open Library H264

/-- The loop's variables, with the stores into the buffer in their order. -/
structure Assembly where
  fixer : SpsFixer
  length : Nat := 0
  stores : List (Nat × List UInt8) := []
deriving DecidableEq

/-- The check behind the loop. -/
def Assembly.accepted (assembly : Assembly) (fullLength : Nat) : Bool :=
  !(assembly.length == 0 || fullLength + 64 < assembly.length)

end VitaMoonlight
