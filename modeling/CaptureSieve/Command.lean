import CaptureSieve.Sieve
import CaptureSieve.Text.Plain

/-!
The command line: how arguments are read, what a run of the command does, and what it tells.
-/

namespace CaptureSieve.Command

inductive Argument where
  | dns
  | filter
  | noTransportChecksum
  | stats
  | verbose
  | quiet
  | help
  | version
  deriving DecidableEq, Repr

namespace Argument

def longName : Argument → String
  | dns => "dns"
  | filter => "filter"
  | noTransportChecksum => "no-transport-checksum"
  | stats => "stats"
  | verbose => "verbose"
  | quiet => "quiet"
  | help => "help"
  | version => "version"

def all : List Argument := [dns, filter, noTransportChecksum, stats, verbose, quiet, help, version]

def ofLong? (name : String) : Option Argument := all.find? (·.longName == name)

def ofShort? : Char → Option Argument
  | 'v' => some verbose
  | 'q' => some quiet
  | 'h' => some help
  | 'V' => some version
  | _ => none

def takesValue : Argument → Bool
  | dns => true
  | filter => true
  | _ => false

def shown : Argument → String
  | dns => "--dns <PCAP>"
  | filter => "--filter <EXPR>"
  | verbose => "--verbose..."
  | a => "--" ++ a.longName

end Argument

inductive UsageError where
  | unexpected (argument : String)
  | missingValue (argument : Argument)
  | unexpectedValue (value : String) (argument : Argument)
  | repeated (argument : Argument)
  | conflict (first second : Argument)
  deriving DecidableEq, Repr

def UsageError.message : UsageError → String
  | unexpected argument => "unexpected argument '" ++ Text.plain argument ++ "' found"
  | missingValue a => s!"a value is required for '{a.shown}' but none was supplied"
  | unexpectedValue value a =>
    "unexpected value '" ++ Text.plain value ++ s!"' for '{a.shown}' found; no more were expected"
  | repeated a => s!"the argument '{a.shown}' cannot be used multiple times"
  | conflict first second => s!"the argument '{first.shown}' cannot be used with '{second.shown}'"

inductive Notice where
  | help
  | version
  deriving DecidableEq, Repr

structure Options where
  dns : Option String
  filter : Option String
  noTransportChecksum : Bool
  stats : Bool
  verbosity : Nat
  quiet : Bool
  deriving DecidableEq, Repr

inductive Stop where
  | error (e : UsageError)
  | notice (n : Notice)
  deriving DecidableEq, Repr

/-- What was read so far: the arguments used, each at the place of its latest use, and the argument whose value
is still to come, with that value once it has come. -/
structure Reading where
  options : Options
  used : List Argument
  waiting : Option (Argument × Option String)

namespace Reading

def start : Reading := ⟨⟨none, none, false, false, 0, false⟩, [], none⟩

def use (r : Reading) (a : Argument) (value : String) : Except Stop Reading :=
  let used := r.used.filter (· ≠ a) ++ [a]
  let o := r.options
  if a ∈ r.used ∧ a ≠ .verbose then .error (.error (.repeated a))
  else
    match a with
    | .dns =>
      if value.isEmpty then .error (.error (.missingValue a))
      else .ok { r with used, options := { o with dns := some value } }
    | .filter => .ok { r with used, options := { o with filter := some value } }
    | .noTransportChecksum => .ok { r with used, options := { o with noTransportChecksum := true } }
    | .stats => .ok { r with used, options := { o with stats := true } }
    | .verbose => .ok { r with used, options := { o with verbosity := o.verbosity + 1 } }
    | .quiet => .ok { r with used, options := { o with quiet := true } }
    | .help => .error (.notice .help)
    | .version => .error (.notice .version)

/-- An argument that waits for its value gets it, or is found to lack it, when the next known one comes. -/
def settle (r : Reading) : Except Stop Reading :=
  match r.waiting with
  | none => .ok r
  | some (a, some value) => use { r with waiting := none } a value
  | some (a, none) => .error (.error (.missingValue a))

def long (r : Reading) (name : String) (value : Option String) : Except Stop Reading :=
  match Argument.ofLong? name, value with
  | none, _ => .error (.error (.unexpected ("--" ++ name)))
  | some a, some value =>
    if a.takesValue then r.settle.bind (·.use a value) else .error (.error (.unexpectedValue value a))
  | some a, none =>
    r.settle.bind fun r => if a.takesValue then .ok { r with waiting := some (a, none) } else r.use a ""

def shorts (r : Reading) : List Char → Except Stop Reading
  | [] => .ok r
  | c :: rest =>
    match Argument.ofShort? c with
    | none => .error (.error (.unexpected ("-" ++ c.toString)))
    | some a => (r.settle.bind (·.use a "")).bind (·.shorts rest)

def splitValue (text : List Char) : String × Option String :=
  let name := String.ofList (text.takeWhile (· ≠ '='))
  match text.dropWhile (· ≠ '=') with
  | [] => (name, none)
  | _ :: value => (name, some (String.ofList value))

def word (r : Reading) (text : String) : Except Stop Reading :=
  match r.waiting with
  | some (a, none) => .ok { r with waiting := some (a, some text) }
  | _ => .error (.error (.unexpected text))

/-- After two hyphens alone nothing is an option any more, and there is nothing else to take. -/
def arguments (r : Reading) : List String → Except Stop Reading
  | [] => r.settle
  | text :: rest =>
    match text.toList with
    | ['-', '-'] =>
      match rest with
      | [] => r.settle
      | extra :: _ => .error (.error (.unexpected extra))
    | '-' :: '-' :: long =>
      let (name, value) := splitValue long
      (r.long name value).bind (·.arguments rest)
    | '-' :: c :: cs => (r.shorts (c :: cs)).bind (·.arguments rest)
    | _ => (r.word text).bind (·.arguments rest)

end Reading

/-- `--quiet` and `--verbose` exclude each other; the one used first is blamed first. -/
def Options.ofArguments (arguments : List String) : Except Stop Options :=
  match Reading.start.arguments arguments with
  | .error e => .error e
  | .ok r =>
    match r.used.filter fun a => a = .quiet ∨ a = .verbose with
    | first :: second :: _ => .error (.error (.conflict first second))
    | _ => .ok r.options

def programName : String := "pcap2ip"

def versionText : String := programName ++ " 0.1.0\n"

def helpText : String :=
  "Reads a pcap or pcapng capture on stdin and writes a pcap capture with link type RAW to stdout.\n" ++
  "Link-layer framing is stripped; packets that are not IPv4 TCP/UDP or whose checksums fail are dropped.\n\n" ++
  "Usage: " ++ programName ++ " [OPTIONS]\n\nOptions:\n" ++
  "      --dns <PCAP>             Capture whose DNS packets are merged into the output in time order\n" ++
  "      --filter <EXPR>          Filter applied to the input, e.g. \"tcp and port 443\"\n" ++
  "      --no-transport-checksum  Only verify IPv4 header checksums\n" ++
  "      --stats                  Print statistics as JSON on stderr\n" ++
  "  -v, --verbose...             Tell more\n" ++
  "  -q, --quiet                  Only tell errors\n" ++
  "  -h, --help                   Print help\n" ++
  "  -V, --version                Print version\n"

structure Environment where
  stdin : ByteStream
  file : String → Option (Except String ByteStream)
  stdout : Sink

structure Failure where
  message : String
  hint : Option String
  deriving DecidableEq, Repr

def hint : RunError → String
  | .source (.filter _) => "see `pcap2ip --help` for the filter syntax"
  | .source (.capture ..) => "stdin must carry a .pcap or .pcapng capture"
  | .source (.io _) => "check that the capture is complete and readable"
  | .writer _ => "check that stdout is writable"

def fileNotFound (path : String) : Failure :=
  ⟨"DNS capture not found: " ++ path, some "pass a .pcap or .pcapng file to --dns"⟩

structure Outcome where
  failure : Option Failure
  stdout : List UInt8
  stats : Option Tally
  warnings : List Warning

def Outcome.exitCode (o : Outcome) : Nat := if o.failure.isSome then 2 else 0

def Outcome.failed (message : String) (hint : Option String) : Outcome := ⟨some ⟨message, hint⟩, [], none, []⟩

def Options.run (o : Options) (e : Environment) : Outcome :=
  let settings := { Settings.standard with verifyTransport := !o.noTransportChecksum }
  let told (warnings : List Warning) : List Warning := if o.quiet then [] else warnings
  let distill (dns : Option (Except String ByteStream)) : Outcome :=
    let outcome := Sieve.distill settings ⟨e.stdin, o.filter, dns⟩ e.stdout
    match outcome.result with
    | .error error =>
      ⟨some ⟨error.message, some (hint error)⟩, outcome.sink.accepted, none, told outcome.warnings⟩
    | .ok () =>
      ⟨none, outcome.sink.accepted, if o.stats then some outcome.tally else none, told outcome.warnings⟩
  match o.dns with
  | none => distill none
  | some path =>
    match e.file path with
    | none => ⟨some (fileNotFound path), [], none, []⟩
    | some stream => distill (some stream)

def run (arguments : List String) (e : Environment) : Outcome :=
  match Options.ofArguments arguments with
  | .error (.error error) => .failed error.message none
  | .error (.notice .version) => ⟨none, versionText.toUTF8.toList, none, []⟩
  | .error (.notice .help) => ⟨none, helpText.toUTF8.toList, none, []⟩
  | .ok options => options.run e

def member (indent name value : String) : String := indent ++ "\"" ++ name ++ "\": " ++ value

def object (indent : String) (members : List String) : String :=
  "\x7b\n" ++ ",\n".intercalate members ++ "\n" ++ indent ++ "\x7d"

def statsText (t : Tally) : String :=
  let count (name : String) (n : Nat) := member "  " name (toString n)
  let drop (name : String) (n : Nat) := member "    " name (toString n)
  let time (name : String) (text : Option String) :=
    (text.map fun text => member "  " name ("\"" ++ text ++ "\"")).toList
  object "" ([count "accepted" t.accepted, count "dropped" t.dropped,
    member "  " "drops" (object "  " [drop "not_ip" t.drops.notIpv4, drop "not_transport" t.drops.notTransport,
      drop "bad_checksum" t.drops.badChecksum, drop "unwritable" t.drops.unwritable]),
    count "unverified" t.unverified, count "dns_packets" t.dnsPackets, count "flows" t.flowCount] ++
    time "time_start" t.timeStart? ++ time "time_end" t.timeEnd?)

def Outcome.report (o : Outcome) : List String :=
  o.warnings.map ("[WARN] " ++ ·.message) ++
    (o.failure.map fun f => "error: " ++ f.message).toList ++
    (o.failure.bind fun f => f.hint.map ("hint: " ++ ·)).toList ++
    (o.stats.map statsText).toList

end CaptureSieve.Command
