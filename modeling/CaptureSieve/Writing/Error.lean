import CaptureSieve.Instant

/-!
Why a record is not written.
-/

namespace CaptureSieve

inductive WriteError where
  | io (reason : String)
  | timeOutOfRange (time : Instant)
  | recordTooLarge (size snapLength : Nat)
  deriving DecidableEq

def WriteError.message : WriteError → String
  | io reason => "I/O error: " ++ reason
  | timeOutOfRange time => "timestamp " ++ time.text ++ " does not fit a 32-bit seconds field"
  | recordTooLarge size snapLength => s!"record of {size} bytes exceeds snapshot length {snapLength}"

end CaptureSieve
