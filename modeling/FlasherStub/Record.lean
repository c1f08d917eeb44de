/-!
A decoded stub: the three load addresses, kept at the width they were read with, and the bytes of
its text and data segments. Whether the addresses fit the image format is decided only when an
image is built from the record.
-/

namespace FlasherStub

/-- A stub with its segments decoded; addresses are unbounded integers until encoding. -/
structure Record where
  entry : Int
  textStart : Int
  text : List UInt8
  dataStart : Int
  data : List UInt8
  deriving DecidableEq, Repr, Inhabited

end FlasherStub
