import CaptureSieve.Capture.Reader
import CaptureSieve.Writing.Error

/-!
What is worth telling about a run that goes on all the same.
-/

namespace CaptureSieve

inductive Warning where
  | partialTail (format : Format)
  | unwritable (time : Instant) (error : WriteError)
  | notClosed (error : WriteError)
  deriving DecidableEq

def Warning.message : Warning → String
  | partialTail .pcap => "pcap input ends inside a record; ignoring the partial tail"
  | partialTail .pcapng => "pcapng input ends inside a block; ignoring the partial tail"
  | unwritable time error => time.text ++ ": dropping packet: " ++ error.message
  | notClosed error => "failed to close output after error: " ++ error.message

end CaptureSieve
