import Prerender.Failure.Reason

/-!
# Failures

* A `Failure` is a reported error: its cause, its kind with what that kind carries, the route it
  was found in, notes added on the way, and the exception behind it.
* A `Crash` is any other exception: one that user code raised, of any type, or one that the library
  does not turn into a failure.
* `Raised` is either.

`Failure.inRoute` attributes a failure to a route, once. The text of an exception of user code is up
to that exception, so asking for it may raise something else (`Crash.text`); `Raised.reportedAs`
makes a failure of an exception, or lets out what its text raises. `Raised.leaving` is what an
exception becomes on its way out of a coroutine, which the end of an iteration cannot leave.
-/

namespace Prerender

open Text (quote)

/-- The kind of a failure, with what failures of that kind carry. -/
inductive FailureKind where
  | general
  | configuration
  | structural
  /-- The two sources of a parameter. -/
  | conflict (first second : String)
  /-- The segment or page whose function is at fault, and its file. -/
  | generator (segment : String) (sourcePath : Option String)
deriving DecidableEq, Repr

/-- The name under which a kind of failure is reported. -/
def FailureKind.name : FailureKind → String
  | .general => "RoostError"
  | .configuration => "ConfigurationError"
  | .structural => "StructureError"
  | .conflict .. => "ConflictError"
  | .generator .. => "GeneratorError"

/-- An exception by the name of its type and its text. -/
structure ExceptionNote where
  type : String
  text : String
deriving DecidableEq, Repr

/-- A reported error. -/
structure Failure where
  kind : FailureKind
  reason : Reason
  /-- The route the failure was found in, once that is known. -/
  routeId : Option String
  notes : List String
  /-- The exception that the failure was made from. -/
  cause : Option ExceptionNote
deriving DecidableEq, Repr

namespace Failure

/-- A structural failure. -/
def structural (fault : StructureFault) (cause : Option ExceptionNote := none) : Failure :=
  ⟨.structural, .structural fault, none, [], cause⟩

/-- A conflict between two sources. -/
def conflict (first second : String) (fault : ConflictFault) : Failure :=
  ⟨.conflict first second, .conflicting fault, none, [], none⟩

/-- A failure of a segment's generator. -/
def generator (segment : String) (sourcePath : Option String) (fault : GeneratorFault)
    (cause : Option ExceptionNote := none) : Failure :=
  ⟨.generator segment sourcePath, .generating fault, none, [], cause⟩

/-- A failure of a page's path function. -/
def page (pathname : String) (sourcePath : Option String) (fault : PageFault)
    (cause : Option ExceptionNote := none) : Failure :=
  ⟨.generator pathname sourcePath, .listing pathname fault, none, [], cause⟩

/-- A setting that is not accepted. -/
def config (fault : ConfigFault) : Failure :=
  ⟨.configuration, .configuring fault, none, [], none⟩

/-- The text of a failure: its cause, and the file of the function at fault if that is known. -/
def text (failure : Failure) : String :=
  match failure.kind with
  | .generator _ (some path) =>
    if path.isEmpty then failure.reason.message
    else s!"{failure.reason.message} (in {path})"
  | _ => failure.reason.message

/-- Attributes a failure to a route, unless it names one already. -/
def inRoute (routeId : String) (failure : Failure) : Failure :=
  match failure.routeId with
  | some _ => failure
  | none =>
    { failure with
      routeId := some routeId
      notes := failure.notes ++ [s!"while resolving route {quote routeId}"] }

end Failure

/-- The types of exceptions other than reported errors. -/
inductive CrashKind where
  | value
  | runtime
  | key
  | type
  | os
  | lookup
  | attribute
  | overflow
  | fileNotFound
  | fileExists
  | isADirectory
  | notADirectory
  /-- The type of the exception by which an iterator says that it is at its end. -/
  | stopIteration
  /-- The type of the exception that a group of tasks ends with. -/
  | group
  /-- Any other type, by its name. -/
  | other (name : String)
deriving DecidableEq, Repr

/-- The name of an exception type. -/
def CrashKind.name : CrashKind → String
  | .value => "ValueError"
  | .runtime => "RuntimeError"
  | .key => "KeyError"
  | .type => "TypeError"
  | .os => "OSError"
  | .lookup => "LookupError"
  | .attribute => "AttributeError"
  | .overflow => "OverflowError"
  | .fileNotFound => "FileNotFoundError"
  | .fileExists => "FileExistsError"
  | .isADirectory => "IsADirectoryError"
  | .notADirectory => "NotADirectoryError"
  | .stopIteration => "StopIteration"
  | .group => "ExceptionGroup"
  | .other name => name

mutual

/-- An exception that is not a reported error. -/
inductive Crash where
  /-- One that user code raised. A key is shown quoted. -/
  | stated (kind : CrashKind) (text : String)
  /-- One that user code raised and that raises something itself when its text is asked for. -/
  | unwritable (kind : CrashKind) (instead : Raised)
  /-- The end of an iteration was raised in a coroutine. -/
  | iterationEnd
  /-- Exceptions of the tasks of a group: the first one, and the number of the others. -/
  | group (first : Crash) (others : Nat)
  /-- An integer has more digits than are written. -/
  | digitLimit (limit : Nat)
  /-- Something was asked for an attribute that it does not have. -/
  | noAttribute (owner name : String)
  /-- A parameter was given to a segment that is not dynamic. -/
  | staticWithParam (segment : String)
  /-- Settings were given one that they do not have. -/
  | unknownSetting (settings name : String)
  /-- Settings were given one of the name that they go by themselves. -/
  | reservedSetting (settings name : String)
  /-- No call at all may be in flight. -/
  | noCapacity
  /-- The number of calls in flight is neither whole nor infinite. -/
  | fractionalCapacity
  /-- A value of that type was given for a number. -/
  | notNumeric (type : String)
  /-- A text was to be repeated by a value of that type. -/
  | notCount (type : String)
  /-- A text was to be repeated more often than an index can count. -/
  | countOverflow
  /-- A pathname has a placeholder that no value was given for. -/
  | missingParam (name : String)
  /-- A value of that type was to be iterated over. -/
  | notIterable (type : String)
  /-- A value of that type was to be called. -/
  | notCallable (type : String)
  /-- A value of that type was to be the key of a mapping, or a member of a set. -/
  | unhashable (type : String)
  /-- Something that is neither a text nor bytes was to be percent encoded. -/
  | notEncodable
  /-- Values of these types were to be ordered. -/
  | unordered (left right : String)
  /-- An app directory that does not exist. -/
  | noAppDirectory (directory : String)
  /-- A pages directory that does not exist. -/
  | noPagesDirectory (directory : String)
  /-- Nothing is found at a path. -/
  | noSuchPath (path : String)
  /-- A file stands where a directory was to be made. -/
  | fileExists (path : String)
  /-- A directory stands where a file was to be written. -/
  | isADirectory (path : String)
  /-- A file stands where a directory is needed, at a path or on the way to it. -/
  | notADirectory (path : String)

/-- Whatever can be raised: a reported error or any other exception. -/
inductive Raised where
  | failure (report : Failure)
  | crash (exception : Crash)

end

deriving instance DecidableEq, Repr for Crash, Raised

namespace Crash

/-- The type of a crash. -/
def kind : Crash → CrashKind
  | .stated kind _ => kind
  | .unwritable kind _ => kind
  | .iterationEnd => .runtime
  | .group .. => .group
  | .digitLimit _ => .value
  | .noAttribute .. => .attribute
  | .staticWithParam _ => .value
  | .unknownSetting .. => .type
  | .reservedSetting .. => .type
  | .noCapacity => .value
  | .fractionalCapacity => .type
  | .notNumeric _ => .type
  | .notCount _ => .type
  | .countOverflow => .overflow
  | .missingParam _ => .key
  | .notIterable _ => .type
  | .notCallable _ => .type
  | .unhashable _ => .type
  | .notEncodable => .type
  | .unordered .. => .type
  | .noAppDirectory _ => .fileNotFound
  | .noPagesDirectory _ => .fileNotFound
  | .noSuchPath _ => .fileNotFound
  | .fileExists _ => .fileExists
  | .isADirectory _ => .isADirectory
  | .notADirectory _ => .notADirectory

/-- What a crash says, if its text can be had. -/
def wording : Crash → String
  | .stated .key text => quote text
  | .stated _ text => text
  | .unwritable .. => ""
  | .iterationEnd => "coroutine raised StopIteration"
  | .group _ 0 => "unhandled errors in a TaskGroup (1 sub-exception)"
  | .group _ others => s!"unhandled errors in a TaskGroup ({others + 1} sub-exceptions)"
  | .digitLimit limit =>
    s!"Exceeds the limit ({limit} digits) for integer string conversion; " ++
      "use sys.set_int_max_str_digits() to increase the limit"
  | .noAttribute owner name => s!"{owner} has no attribute {quote name}"
  | .staticWithParam segment => s!"Static segment {quote segment} cannot carry a parameter"
  | .unknownSetting settings name =>
    s!"{settings}.__init__() got an unexpected keyword argument '{name}'"
  | .reservedSetting settings name =>
    s!"{settings}.__init__() got multiple values for argument '{name}'"
  | .noCapacity => "total_tokens must be >= 1"
  | .fractionalCapacity => "total_tokens must be an int or math.inf"
  | .notNumeric type => s!"must be real number, not {type}"
  | .notCount type => s!"can't multiply sequence by non-int of type {quote type}"
  | .countOverflow => "cannot fit 'int' into an index-sized integer"
  | .missingParam name => quote name
  | .notIterable type => s!"{quote type} object is not iterable"
  | .notCallable type => s!"{quote type} object is not callable"
  | .unhashable type => s!"unhashable type: {quote type}"
  | .notEncodable => "quote_from_bytes() expected bytes"
  | .unordered left right =>
    s!"'<' not supported between instances of {quote left} and {quote right}"
  | .noAppDirectory directory => s!"App directory not found: {directory}"
  | .noPagesDirectory directory => s!"Pages directory not found: {directory}"
  | .noSuchPath path => s!"[Errno 2] No such file or directory: {quote path}"
  | .fileExists path => s!"[Errno 17] File exists: {quote path}"
  | .isADirectory path => s!"[Errno 21] Is a directory: {quote path}"
  | .notADirectory path => s!"[Errno 20] Not a directory: {quote path}"

/-- The text of a crash, or what asking for it raises. -/
def text : Crash → Except Raised String
  | .unwritable _ instead => .error instead
  | exception => .ok exception.wording

end Crash

namespace Raised

/-- The type and the text of what was raised, or what asking for the text raises. -/
def note : Raised → Except Raised ExceptionNote
  | .failure report => .ok ⟨report.kind.name, report.text⟩
  | .crash exception => exception.text.map fun text => ⟨exception.kind.name, text⟩

/-- Makes a failure of what was raised; without a text for it, what that raises takes its place. -/
def reportedAs (report : ExceptionNote → Failure) (raised : Raised) : Raised :=
  match raised.note with
  | .ok note => .failure (report note)
  | .error instead => instead

/-- Whether what was raised says that an iteration is at its end. -/
def endsIteration : Raised → Bool
  | .failure _ => false
  | .crash exception => exception.kind = .stopIteration

/-- What was raised, as it leaves a coroutine. -/
def leaving (raised : Raised) : Raised :=
  if raised.endsIteration then .crash .iterationEnd else raised

end Raised

end Prerender
