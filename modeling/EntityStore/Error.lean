import EntityStore.Calendar
import EntityStore.Text.Quoted

/-!
# Errors

Everything that can go wrong, by cause. The wording of all messages is here.

* `Failure` — the failures that this library reports of itself, each with a code and details;
* `Error` — a failure, or a misuse or an outside fault that passes through;
* `Error.message?` — the text shown, where there is one.
-/

namespace EntityStore

/-! ### Failures of the library -/

/-- Why a message from the service cannot be read. -/
inductive DecodeFault
  | kindlessKey
  | emptyKeyPath
  | unsetValue
  | entityWithoutKey
  | resultCount (results mutations : Nat)
  | unknownProgress (value : Int)
  | unknownVariant (text enum : String)
  | other (message : String) (field : Option String)
  deriving DecidableEq, Repr

namespace DecodeFault

/-- The text of the fault. -/
def message : DecodeFault → String
  | kindlessKey => "Key path element has no kind"
  | emptyKeyPath => "Key has an empty path"
  | unsetValue => "Unknown value type 'None'"
  | entityWithoutKey => "Entity result without a key"
  | resultCount results mutations =>
    "Commit returned " ++ toString results ++ " mutation results for " ++ toString mutations ++
      " mutations"
  | unknownProgress value => "Unknown more_results value " ++ toString value
  | unknownVariant text enum => "Unknown variant '" ++ text ++ "' for enum " ++ enum
  | other message _ => message

/-- The field at fault. -/
def field : DecodeFault → Option String
  | kindlessKey => some "kind"
  | emptyKeyPath => some "path"
  | unsetValue => some "value_type"
  | entityWithoutKey => some "key"
  | resultCount _ _ => some "mutation_results"
  | unknownProgress _ => some "more_results"
  | unknownVariant _ enum => some enum
  | other _ field => field

end DecodeFault

/-- A detail of a failure. -/
inductive Detail
  | absent
  | flag (b : Bool)
  | number (n : Int)
  | text (s : String)
  | texts (items : List String)
  deriving DecidableEq, Repr

/-- Details by name. -/
abbrev Details := List (String × Detail)

/-- A failure that this library reports of itself. -/
inductive Failure
  | general (message : String) (code : Option String) (details : Details)
  | conversion (message : String) (code : Option String) (details : Details)
  | missingProperty (name : String) (suggestions : List String)
  | unexpectedType (expected got : String)
  | decode (fault : DecodeFault)
  | authorization (message : String)
  | connection (message : String) (address : Option String)
  | transaction (message : String) (id : Option Bytes) (state : Option String)
  | roundLimit (message : String) (operation : String) (rounds : Int)
  deriving DecidableEq, Repr

namespace Failure

/-- The text of the failure. -/
def message : Failure → String
  | general message _ _ | conversion message _ _ => message
  | missingProperty name suggestions =>
    "expected property `" ++ name ++ "` was missing" ++
      (if suggestions.isEmpty then ""
       else ". Did you mean: " ++ ", ".intercalate suggestions ++ "?")
  | unexpectedType expected got =>
    "expected property type `" ++ expected ++ "`, got `" ++ got ++ "`"
  | decode fault => fault.message
  | authorization message => message
  | connection message _ => message
  | transaction message _ _ => message
  | roundLimit message _ _ => message

/-- The code of a general failure, which an empty text leaves at its default. -/
def generalCode (code : Option String) : String :=
  match code with
  | some "" | none => "DATASTORE_ERROR"
  | some c => c

/-- The code by which a program tells failures apart. -/
def code : Failure → String
  | general _ code _ | conversion _ code _ => generalCode code
  | missingProperty _ _ => "MISSING_PROPERTY"
  | unexpectedType _ _ => "UNEXPECTED_PROPERTY_TYPE"
  | decode _ => "DECODE_ERROR"
  | authorization _ => "AUTHORIZATION_ERROR"
  | connection _ _ => "CONNECTION_ERROR"
  | transaction _ _ _ => "TRANSACTION_ERROR"
  | roundLimit _ _ _ => "ROUND_LIMIT_EXCEEDED"

/-- A text, or its absence. -/
def optional (s : Option String) : Detail :=
  match s with
  | some s => .text s
  | none => .absent

/-- The details that a program can use. -/
def details : Failure → Details
  | general _ _ details | conversion _ _ details => details
  | missingProperty name suggestions =>
    [("property_name", .text name), ("suggestions", .texts suggestions)]
  | unexpectedType expected got => [("expected", .text expected), ("got", .text got)]
  | decode fault => [("field", optional fault.field)]
  | authorization _ => []
  | connection _ address => [("address", optional address)]
  | transaction _ id state =>
    let shown := match id with
      | some (b :: bs) => Detail.text (Text.hexBytes (b :: bs))
      | _ => .absent
    [("transaction_id", shown), ("state", optional state)]
  | roundLimit _ operation rounds => [("operation", .text operation), ("rounds", .number rounds)]

/-- The class of the failure and the classes that it belongs to, the most special first. -/
def classes : Failure → List String
  | general _ _ _ => ["DatastoreError"]
  | conversion _ _ _ => ["ConvertError", "DatastoreError"]
  | missingProperty _ _ => ["MissingPropertyError", "ConvertError", "DatastoreError"]
  | unexpectedType _ _ => ["UnexpectedPropertyTypeError", "ConvertError", "DatastoreError"]
  | decode _ => ["DecodeError", "DatastoreError"]
  | authorization _ => ["AuthorizationError", "DatastoreError"]
  | connection _ _ => ["ConnectionError", "DatastoreError"]
  | transaction _ _ _ => ["TransactionError", "DatastoreError"]
  | roundLimit _ _ _ => ["RoundLimitExceededError", "DatastoreError"]

end Failure

/-! ### Misuse -/

/-- Why a document does not describe an exclusion policy. -/
inductive PolicyFault
  | document
  | kindEntry (kind : String)
  | properties (kind : String)
  | flag (kind name shown : String)
  deriving DecidableEq, Repr

/-- The text of the fault. -/
def PolicyFault.message : PolicyFault → String
  | document => "index exclusion document must only contain a 'kind' mapping"
  | kindEntry kind => "kind '" ++ kind ++ "' must only contain a 'property' mapping"
  | properties kind => "kind '" ++ kind ++ "' has a non-mapping 'property' entry"
  | flag kind name shown =>
    kind ++ "." ++ name ++ " must be true or false, got " ++ shown

/-- A span of seconds as days and seconds of a day. -/
def spanText (seconds : Int) : String :=
  let days := Int.fdiv seconds 86400
  let rest := Int.fmod seconds 86400
  let parts := (if days == 0 then [] else ["days=" ++ toString days]) ++
    (if rest == 0 then [] else ["seconds=" ++ toString rest])
  "datetime.timedelta(" ++ (if parts.isEmpty then "0" else ", ".intercalate parts) ++ ")"

/-- The text of a date or time that is out of range. -/
def CalendarFault.message : CalendarFault → String
  | year n => "year " ++ toString n ++ " is out of range"
  | month => "month must be in 1..12"
  | day => "day is out of range for month"
  | hour => "hour must be in 0..23"
  | minute => "minute must be in 0..59"
  | second => "second must be in 0..59"
  | offset seconds =>
    "offset must be a timedelta strictly between -timedelta(hours=24) and timedelta(hours=24), not "
      ++ spanText seconds ++ "."

/-- Which value of the right type is not accepted. -/
inductive ValueFault
  | emptyKeyKind
  | keyIdRange (n : Int)
  | integerRange (n : Int)
  | fieldRange (n : Int)
  | timestampSeconds (n : Int)
  | timestampNanos (n : Int)
  | emptyQueryKind
  | negativeOffset (n : Int)
  | negativeLimit (n : Int)
  | unknownCasing (s : String)
  | unknownRenames (enum : String) (members : List String)
  | defaultTwice
  | sharedDefault (type field : String)
  | maxRounds (n : Int)
  | maxMessageSize (n : Int)
  | integerText (base : Nat) (s : String)
  | integerLength (digits : Nat)
  | decimalText (s : String)
  | characterRange
  | previousTransaction
  | policy (fault : PolicyFault)
  | calendar (fault : CalendarFault)
  deriving DecidableEq, Repr

/-- The text of the fault. -/
def ValueFault.message : ValueFault → String
  | emptyKeyKind => "Key kind cannot be empty"
  | keyIdRange n => "Key id " ++ toString n ++ " does not fit in 64 bits"
  | integerRange n => "Integer " ++ toString n ++ " does not fit in 64 bits"
  | fieldRange n => "Value out of range: " ++ toString n
  | timestampSeconds n =>
    "Timestamp is not valid: Seconds " ++ toString n ++
      " must be in range [-62135596800, 253402300799]."
  | timestampNanos n =>
    "Timestamp is not valid: Nanos " ++ toString n ++ " must be in a range [0, 999999]."
  | emptyQueryKind => "Query kind cannot be empty"
  | negativeOffset n => "offset must be >= 0, got " ++ toString n
  | negativeLimit n => "limit must be >= 0, got " ++ toString n
  | unknownCasing s => "Invalid casing: " ++ s
  | unknownRenames enum members =>
    "Unknown members in renames for " ++ enum ++ ": " ++ Text.quotedList members
  | defaultTwice => "cannot specify both default and default_factory"
  | sharedDefault type field =>
    "mutable default <class '" ++ type ++ "'> for field " ++ field ++
      " is not allowed: use default_factory"
  | maxRounds n => "max_rounds must be positive, got " ++ toString n
  | maxMessageSize n => "max_message_size must be positive, got " ++ toString n
  | integerText base s =>
    "invalid literal for int() with base " ++ toString base ++ ": " ++
      String.ofList ((Text.quotedChars s.toList).take 200)
  | integerLength digits =>
    "Exceeds the limit (4300 digits) for integer string conversion: value has " ++
      toString digits ++ " digits; use sys.set_int_max_str_digits() to increase the limit"
  | decimalText s => "could not convert string to float: " ++ Text.quoted s
  | characterRange => "chr() arg not in range(0x110000)"
  | previousTransaction => "previous_transaction requires TransactionMode.READ_WRITE"
  | policy fault => fault.message
  | calendar fault => fault.message

/-- Which object of the wrong type was met. -/
inductive TypeFault
  | keyId (type : String)
  | propertyName (type : String)
  | notConvertible (type : String)
  | notEntity (type : String)
  | notEncodable
  | notValue (type : String)
  | notRecord (name : String)
  | notEnum (name : String)
  | unsupportedTarget
  | arguments
  | definition
  deriving DecidableEq, Repr

/-- The text of the fault, for those that this library words itself. -/
def TypeFault.message? : TypeFault → Option String
  | keyId type => some ("Key id must be int, str or None, got " ++ type)
  | propertyName type => some ("Property names must be str, got " ++ type)
  | notConvertible type => some ("Cannot convert " ++ type ++ " to a Datastore value")
  | notEntity type => some ("Cannot convert " ++ type ++ " to an Entity")
  | notEncodable => some "Cannot encode Value"
  | notValue type => some ("Expected a Value, got " ++ type)
  | notRecord name => some ("@record requires a dataclass, got " ++ name)
  | notEnum name => some ("@enum_value requires an Enum, got " ++ name)
  | unsupportedTarget | arguments | definition => none

/-! ### All errors -/

/-- An error of any origin. -/
inductive Error
  | failure (f : Failure)
  | value (f : ValueFault)
  | type (f : TypeFault)
  | missingAttribute
  | missingItem
  | missingIndex
  | unknownName
  | overflow
  | frozen
  | undecodableText
  | system (message : String)
  | backend (message : String)
  | runtime (message : String)
  deriving DecidableEq, Repr, Inhabited

namespace Error

/-- The text shown for an error, where there is one. -/
def message? : Error → Option String
  | failure f => some f.message
  | value f => some f.message
  | type f => f.message?
  | backend message | runtime message => some message
  | missingAttribute | missingItem | missingIndex | unknownName | overflow | frozen
  | undecodableText | system _ => none

/-- The text that another message quotes. -/
def text (e : Error) : String :=
  match e with
  | system message => message
  | e => e.message?.getD ""

/-- A value that does not have the variant asked for. -/
def unexpected (expected got : String) : Error :=
  failure (.unexpectedType expected got)

/-- A message from the service that cannot be read. -/
def decode (fault : DecodeFault) : Error :=
  failure (.decode fault)

end Error

/-- A result or an error. -/
abbrev Outcome := Except Error

end EntityStore
