import LineTagger.Fault

/-!
Codecs turn texts into bytes and back. A codec that meets a fault names the offending span.
-/

namespace LineTagger

abbrev Bytes := List UInt8

namespace Charset

/-- The fault of a span of bytes, which starts at `start` with the byte `b`. -/
def undecodable {α : Type} (codec : String) (b : UInt8) (start length : Nat) (reason : String) :
    Except Fault α :=
  .error (.undecodable codec b start (start + length) reason)

end Charset

end LineTagger
