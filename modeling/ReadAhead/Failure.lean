/-
Everything that can go wrong, by cause. A failure carries what its message
mentions and nothing else; the wording lives in `Failure.message` and in the
messages of the parts it is built from, and is decided once for the library.

Transport failures of the network stack carry no text of their own: what the
stack says about them holds port numbers and is nobody's contract.
-/

set_option autoImplicit false

namespace ReadAhead

/-! ## Causes -/

/-- Why a text is not an absolute URL. -/
inductive UrlFault where
  | relativeWithoutBase
  | emptyHost
  | invalidPort
  | invalidIpv6
  | invalidIpv4
  | invalidDomain
  | invalidDomainCharacter
  deriving DecidableEq, Repr

/-- Why the file system refused. -/
inductive FileFault where
  | notFound
  | shortRead
  | isDirectory
  | other (reason : String)
  deriving DecidableEq, Repr

/-- Why a read was turned away. -/
inductive ReadFault where
  | emptyBuffer (position : Nat)
  | overlapping (position pending : Nat)
  | overlappingAnother (position : Nat)
  | notOpen
  | other (reason : String)
  deriving DecidableEq, Repr

/-- Why a configuration, a cache geometry or a location is not usable. -/
inductive ConfigFault where
  | blockShift (shift : Nat)
  | cacheTooSmall (limit blockSize : Nat)
  | noRetryDelay
  | cacheShift (label : String) (shift : Nat)
  | cacheLimit (label : String) (limit blockSize : Nat)
  | notLocal (url : String)
  | unsupportedScheme (scheme location : String)
  | other (reason : String)
  deriving DecidableEq, Repr

/-- What an operation of the library can fail with. -/
inductive Failure where
  | file (fault : FileFault)
  | network
  | http (status : Nat)
  | url (fault : UrlFault)
  | parse
  | invalidRead (fault : ReadFault)
  | stopped
  | config (fault : ConfigFault)
  | other (text : String)
  deriving DecidableEq, Repr

/-! ## Wording -/

def UrlFault.message : UrlFault → String
  | relativeWithoutBase => "relative URL without a base"
  | emptyHost => "empty host"
  | invalidPort => "invalid port number"
  | invalidIpv6 => "invalid IPv6 address"
  | invalidIpv4 => "invalid IPv4 address"
  | invalidDomain => "invalid international domain name"
  | invalidDomainCharacter => "invalid domain character"

def FileFault.message : FileFault → String
  | notFound => "No such file or directory (os error 2)"
  | shortRead => "failed to fill whole buffer"
  | isDirectory => "Is a directory (os error 21)"
  | other reason => reason

def ReadFault.message : ReadFault → String
  | emptyBuffer position => s!"zero-length read at {position}"
  | overlapping position pending =>
    s!"read at {position} while the read at {pending} is pending"
  | overlappingAnother position => s!"read at {position} while another read is pending"
  | notOpen => "file is not open"
  | other reason => reason

def ConfigFault.message : ConfigFault → String
  | blockShift shift => s!"block_shift must be within 1..=30, got {shift}"
  | cacheTooSmall limit blockSize =>
    s!"max_cache_bytes ({limit}) must hold at least one block ({blockSize})"
  | noRetryDelay => "read_retry_delay_ms must be positive"
  | cacheShift label shift => s!"cache/{label}: block shift {shift} is outside 1..=30"
  | cacheLimit label limit blockSize =>
    s!"cache/{label}: memory limit {limit} is smaller than one block ({blockSize})"
  | notLocal url => s!"not a local file: {url}"
  | unsupportedScheme scheme location => s!"unsupported scheme '{scheme}' in {location}"
  | other reason => reason

/-- The text shown for a failure. -/
def Failure.message : Failure → String
  | file fault => "IO error: " ++ fault.message
  | network => "Network error"
  | http status => s!"HTTP error: status {status}"
  | url fault => "Invalid URL: " ++ fault.message
  | parse => "Parsing error"
  | invalidRead fault => "Invalid read: " ++ fault.message
  | stopped => "Data source stopped"
  | config fault => "Configuration error: " ++ fault.message
  | other text => text

/-- The failure a stopped source answers with, which callers treat as an end
rather than as an error. -/
def Failure.isStopped : Failure → Bool
  | stopped => true
  | _ => false

end ReadAhead
