/-!
# Kinds of faults

Faults that come from outside this library are told apart by kind: those of the operating system,
those of the transport that carries requests, and those of programs in general. Every kind has a
name, and some kinds are **transient**: the same request may succeed when it is made again. A kind
may be a special case of others, and is then whatever they are. Kinds that are not known here are
declared elsewhere, by a name and the known kinds of which they are special cases.

## Main definitions

* `SystemKind` — faults of the operating system, also found by number.
* `TransportKind` — faults of the transport.
* `ProgramKind` — faults of programs in general.
* `KnownKind` — all of these, each with its `parents`.
* `ExternalKind` — the known kinds and those declared elsewhere, with `isTransient`, `isAnswered`,
  `isInvalidValue` and `isOrdinary`.
-/

namespace ResumableUpload

/-! ### The operating system -/

/-- A fault of the operating system. -/
inductive SystemKind where
  /-- Any fault that has no kind of its own. -/
  | general
  /-- A connection failed. -/
  | connection
  /-- The peer reset the connection. -/
  | connectionReset
  /-- The peer refused the connection. -/
  | connectionRefused
  /-- The connection was aborted. -/
  | connectionAborted
  /-- The reading end is gone. -/
  | brokenPipe
  /-- Time ran out. -/
  | timeout
  /-- An operation is not permitted. -/
  | permission
  /-- A file does not exist. -/
  | fileNotFound
  /-- A process does not exist. -/
  | processNotFound
  /-- A signal interrupted a call. -/
  | interrupted
  /-- An operation on a child process failed. -/
  | childProcess
  /-- An operation would block. -/
  | blocking
  /-- A file exists already. -/
  | fileExists
  /-- A directory was needed. -/
  | notDirectory
  /-- A directory was in the way. -/
  | isDirectory
deriving DecidableEq, Repr

namespace SystemKind

/-- All kinds. -/
def all : List SystemKind :=
  [general, connection, connectionReset, connectionRefused, connectionAborted, brokenPipe, timeout,
   permission, fileNotFound, processNotFound, interrupted, childProcess, blocking, fileExists,
   notDirectory, isDirectory]

/-- The name of a kind. -/
def name : SystemKind → String
  | general => "OSError"
  | connection => "ConnectionError"
  | connectionReset => "ConnectionResetError"
  | connectionRefused => "ConnectionRefusedError"
  | connectionAborted => "ConnectionAbortedError"
  | brokenPipe => "BrokenPipeError"
  | timeout => "TimeoutError"
  | permission => "PermissionError"
  | fileNotFound => "FileNotFoundError"
  | processNotFound => "ProcessLookupError"
  | interrupted => "InterruptedError"
  | childProcess => "ChildProcessError"
  | blocking => "BlockingIOError"
  | fileExists => "FileExistsError"
  | notDirectory => "NotADirectoryError"
  | isDirectory => "IsADirectoryError"

/-- The kind of a name. The general kind is also known by two older names. -/
def ofName? (s : String) : Option SystemKind :=
  if s = "IOError" ∨ s = "EnvironmentError" then some general else all.find? (·.name = s)

/-- The kind of a fault number; a number without a kind of its own is general. -/
def ofNumber (number : Int) : SystemKind :=
  match number with
  | 1 | 13 => permission
  | 2 => fileNotFound
  | 3 => processNotFound
  | 4 => interrupted
  | 10 => childProcess
  | 11 | 114 | 115 => blocking
  | 17 => fileExists
  | 20 => notDirectory
  | 21 => isDirectory
  | 32 | 108 => brokenPipe
  | 103 => connectionAborted
  | 104 => connectionReset
  | 110 => timeout
  | 111 => connectionRefused
  | _ => general

/-- Whether the fault is one of a connection or of time. -/
def isTransient : SystemKind → Bool
  | connection | connectionReset | connectionRefused | connectionAborted | brokenPipe | timeout =>
    true
  | _ => false

/-- Every kind is found by its name. -/
theorem ofName?_name (kind : SystemKind) : ofName? kind.name = some kind := by
  cases kind <;> decide

end SystemKind

/-! ### The transport -/

/-- A fault of the transport that carries requests. -/
inductive TransportKind where
  /-- Any fault that has no kind of its own. -/
  | request
  /-- The answer has a status that says the request failed. -/
  | status
  /-- A connection failed. -/
  | connection
  /-- A connection through a proxy failed. -/
  | proxy
  /-- A secure connection failed. -/
  | secureConnection
  /-- Time ran out. -/
  | timeout
  /-- Time ran out before a connection stood. -/
  | connectTimeout
  /-- Time ran out before an answer came. -/
  | readTimeout
  /-- An address was needed. -/
  | addressRequired
  /-- There were too many redirections. -/
  | tooManyRedirects
  /-- The address has no scheme. -/
  | missingScheme
  /-- The scheme of the address is not served. -/
  | invalidScheme
  /-- The address is invalid. -/
  | invalidAddress
  /-- A header is invalid. -/
  | invalidHeader
  /-- The address of a proxy is invalid. -/
  | invalidProxyAddress
  /-- An answer broke off in the middle of a chunk. -/
  | brokenChunk
  /-- The content of an answer cannot be decoded. -/
  | contentDecoding
  /-- The content of an answer has been read already. -/
  | contentConsumed
  /-- The repetitions of a request are used up. -/
  | retries
  /-- The body of a request cannot be sent again. -/
  | unrewindableBody
  /-- The content of an answer is no JSON. -/
  | invalidJson
  /-- The content of an answer is no JSON, and it is known where. -/
  | malformedJson
  /-- Something about the transport deserves attention. -/
  | warning
  /-- A file was opened in a mode that gives it no length. -/
  | fileMode
  /-- A part of the transport is of a version that does not fit. -/
  | dependency
deriving DecidableEq, Repr

namespace TransportKind

/-- All kinds. -/
def all : List TransportKind :=
  [request, status, connection, proxy, secureConnection, timeout, connectTimeout, readTimeout,
   addressRequired, tooManyRedirects, missingScheme, invalidScheme, invalidAddress, invalidHeader,
   invalidProxyAddress, brokenChunk, contentDecoding, contentConsumed, retries, unrewindableBody,
   invalidJson, malformedJson, warning, fileMode, dependency]

/-- The name of a kind. -/
def name : TransportKind → String
  | request => "RequestException"
  | status => "HTTPError"
  | connection => "ConnectionError"
  | proxy => "ProxyError"
  | secureConnection => "SSLError"
  | timeout => "Timeout"
  | connectTimeout => "ConnectTimeout"
  | readTimeout => "ReadTimeout"
  | addressRequired => "URLRequired"
  | tooManyRedirects => "TooManyRedirects"
  | missingScheme => "MissingSchema"
  | invalidScheme => "InvalidSchema"
  | invalidAddress => "InvalidURL"
  | invalidHeader => "InvalidHeader"
  | invalidProxyAddress => "InvalidProxyURL"
  | brokenChunk => "ChunkedEncodingError"
  | contentDecoding => "ContentDecodingError"
  | contentConsumed => "StreamConsumedError"
  | retries => "RetryError"
  | unrewindableBody => "UnrewindableBodyError"
  | invalidJson => "InvalidJSONError"
  | malformedJson => "JSONDecodeError"
  | warning => "RequestsWarning"
  | fileMode => "FileModeWarning"
  | dependency => "RequestsDependencyWarning"

/-- The kind of a name. -/
def ofName? (s : String) : Option TransportKind := all.find? (·.name = s)

/-- Whether the fault is one of a connection, of time, or of an answer that broke off. -/
def isTransient : TransportKind → Bool
  | connection | proxy | secureConnection | timeout | connectTimeout | readTimeout | brokenChunk =>
    true
  | _ => false

/-- Whether the fault lies in a value that the transport was handed or that it read. -/
def isInvalidValue : TransportKind → Bool
  | missingScheme | invalidScheme | invalidAddress | invalidHeader | invalidProxyAddress
  | malformedJson => true
  | _ => false

/-- Whether the fault is no more than a warning. -/
def isWarning : TransportKind → Bool
  | warning | fileMode | dependency => true
  | _ => false

/-- Every kind is found by its name. -/
theorem ofName?_name (kind : TransportKind) : ofName? kind.name = some kind := by
  cases kind <;> decide

end TransportKind

/-! ### Programs in general -/

/-- A fault of programs in general. -/
inductive ProgramKind where
  /-- A value is not acceptable. -/
  | invalidValue
  /-- A value is of the wrong type. -/
  | wrongType
  /-- A key is not present. -/
  | missingKey
  /-- A number is too large for its purpose. -/
  | outOfRange
  /-- There is not enough memory. -/
  | noMemory
  /-- The coding of a text failed. -/
  | textCoding
  /-- A text cannot be encoded. -/
  | textEncoding
  /-- A text cannot be translated. -/
  | textTranslation
  /-- The source of a program is malformed. -/
  | source
  /-- The indentation of a source is wrong. -/
  | indentation
  /-- The indentation of a source mixes tabs and spaces. -/
  | tabs
  /-- The user interrupts the program. -/
  | interrupt
  /-- The program is to end. -/
  | exit
  /-- A generator is to end. -/
  | generatorExit
  /-- Any failure of what was asked for. -/
  | ordinary
  /-- Any fault or request to stop. -/
  | any
deriving DecidableEq, Repr

namespace ProgramKind

/-- All kinds. -/
def all : List ProgramKind :=
  [invalidValue, wrongType, missingKey, outOfRange, noMemory, textCoding, textEncoding,
   textTranslation, source, indentation, tabs, interrupt, exit, generatorExit, ordinary, any]

/-- The name of a kind. -/
def name : ProgramKind → String
  | invalidValue => "ValueError"
  | wrongType => "TypeError"
  | missingKey => "KeyError"
  | outOfRange => "OverflowError"
  | noMemory => "MemoryError"
  | textCoding => "UnicodeError"
  | textEncoding => "UnicodeEncodeError"
  | textTranslation => "UnicodeTranslateError"
  | source => "SyntaxError"
  | indentation => "IndentationError"
  | tabs => "TabError"
  | interrupt => "KeyboardInterrupt"
  | exit => "SystemExit"
  | generatorExit => "GeneratorExit"
  | ordinary => "Exception"
  | any => "BaseException"

/-- The kind of a name. -/
def ofName? (s : String) : Option ProgramKind := all.find? (·.name = s)

/-- Whether the fault lies in a value. -/
def isInvalidValue : ProgramKind → Bool
  | invalidValue | textCoding | textEncoding | textTranslation => true
  | _ => false

/-- Whether the fault lies in the source of a program. -/
def isSource : ProgramKind → Bool
  | source | indentation | tabs => true
  | _ => false

/-- Whether the fault is a failure of what was asked for, and no request to stop. -/
def isOrdinary : ProgramKind → Bool
  | interrupt | exit | generatorExit | any => false
  | _ => true

/-- Every kind is found by its name. -/
theorem ofName?_name (kind : ProgramKind) : ofName? kind.name = some kind := by
  cases kind <;> decide

end ProgramKind

/-! ### Special cases -/

/-- The kinds of which a fault of the system is a special case in the first place. -/
def SystemKind.parents : SystemKind → List SystemKind
  | general => []
  | connectionReset | connectionRefused | connectionAborted | brokenPipe => [connection]
  | _ => [general]

/-- The kinds of the transport of which one of its faults is a special case in the first place. -/
def TransportKind.parents : TransportKind → List TransportKind
  | request | warning => []
  | proxy | secureConnection => [connection]
  | connectTimeout => [connection, timeout]
  | readTimeout => [timeout]
  | invalidProxyAddress => [invalidAddress]
  | malformedJson => [invalidJson]
  | fileMode | dependency => [warning]
  | _ => [request]

/-- The kinds of programs in general of which one of the transport is also a special case. -/
def TransportKind.programParents : TransportKind → List ProgramKind
  | missingScheme | invalidScheme | invalidAddress | invalidHeader | malformedJson =>
    [.invalidValue]
  | contentConsumed => [.wrongType]
  | warning => [.ordinary]
  | _ => []

/-- The kinds of which a fault of programs in general is a special case in the first place. -/
def ProgramKind.parents : ProgramKind → List ProgramKind
  | any => []
  | ordinary | interrupt | exit | generatorExit => [any]
  | textCoding => [invalidValue]
  | textEncoding | textTranslation => [textCoding]
  | indentation => [source]
  | tabs => [indentation]
  | _ => [ordinary]

/-- A kind of fault that is known here. -/
inductive KnownKind where
  /-- A fault of the operating system. -/
  | system (kind : SystemKind)
  /-- A fault of the transport. -/
  | transport (kind : TransportKind)
  /-- A fault of programs in general. -/
  | program (kind : ProgramKind)
deriving DecidableEq, Repr

namespace KnownKind

/-- The name of a kind. -/
def name : KnownKind → String
  | system kind => kind.name
  | transport kind => kind.name
  | program kind => kind.name

/-- The kinds of which a kind is a special case in the first place: the bases of its class. Any
fault of a request is one of the system. -/
def parents : KnownKind → List KnownKind
  | system .general => [program .ordinary]
  | system kind => kind.parents.map system
  | transport .request => [system .general]
  | transport kind => kind.parents.map transport ++ kind.programParents.map program
  | program kind => kind.parents.map program

/-- Whether faults of the kind carry a number: those of the system and those of the transport, save
warnings. -/
def isNumbered : KnownKind → Bool
  | system _ => true
  | transport kind => !kind.isWarning
  | program _ => false

/-- Whether the kind alone says that the fault is transient. -/
def isTransient : KnownKind → Bool
  | system kind => kind.isTransient
  | transport kind => kind.isTransient
  | program _ => false

/-- Whether the fault comes with the answer to a request. -/
def isAnswered : KnownKind → Bool
  | transport kind => kind = .status
  | _ => false

/-- Whether the fault lies in a value. -/
def isInvalidValue : KnownKind → Bool
  | transport kind => kind.isInvalidValue
  | program kind => kind.isInvalidValue
  | system _ => false

/-- Whether the fault is a failure of what was asked for, and no request to stop. -/
def isOrdinary : KnownKind → Bool
  | program kind => kind.isOrdinary
  | _ => true

/-- Whether faults of the kind are about a key that is not present. -/
def isMissingKey : KnownKind → Bool
  | program kind => kind = .missingKey
  | _ => false

end KnownKind

/-! ### All kinds -/

/-- The kind of a fault that comes from outside this library. -/
inductive ExternalKind where
  /-- A kind that is known here. -/
  | known (kind : KnownKind)
  /-- A kind that is declared elsewhere, as a special case of known ones. -/
  | declared (name : String) (parents : List KnownKind)
deriving DecidableEq, Repr

namespace ExternalKind

/-- A fault of the operating system. -/
@[match_pattern] def system (kind : SystemKind) : ExternalKind := known (.system kind)

/-- A fault of the transport. -/
@[match_pattern] def transport (kind : TransportKind) : ExternalKind := known (.transport kind)

/-- A fault of programs in general. -/
@[match_pattern] def program (kind : ProgramKind) : ExternalKind := known (.program kind)

/-- A kind of which no more is known than its name, and that it is no request to stop. -/
def other (name : String) : ExternalKind := declared name [.program .ordinary]

/-- The name of a kind. -/
def name : ExternalKind → String
  | known kind => kind.name
  | declared name _ => name

/-- The kind of a name that is not one of the transport. -/
def ofName (s : String) : ExternalKind :=
  match SystemKind.ofName? s, ProgramKind.ofName? s with
  | some kind, _ => system kind
  | none, some kind => program kind
  | none, none => other s

/-- Whether a kind is one for which a test holds, or a special case of one. -/
def inherits (test : KnownKind → Bool) : ExternalKind → Bool
  | known kind => test kind
  | declared _ parents => parents.any test

/-- Whether faults of the kind carry a number. -/
def isNumbered (kind : ExternalKind) : Bool := kind.inherits KnownKind.isNumbered

/-- Whether the kind alone says that the fault is transient: `_TRANSIENT_ERRORS`. -/
def isTransient (kind : ExternalKind) : Bool := kind.inherits KnownKind.isTransient

/-- Whether the fault comes with the answer to a request: `HTTPError`. -/
def isAnswered (kind : ExternalKind) : Bool := kind.inherits KnownKind.isAnswered

/-- Whether the fault lies in a value. -/
def isInvalidValue (kind : ExternalKind) : Bool := kind.inherits KnownKind.isInvalidValue

/-- Whether the fault is a failure of what was asked for, and no request to stop. -/
def isOrdinary (kind : ExternalKind) : Bool := kind.inherits KnownKind.isOrdinary

end ExternalKind

end ResumableUpload
