/-
  Status codes in labels.

  A status is written as a decimal number from 100 to 999, in digits of any script,
  or as the name of a registered status after `HTTPStatus.`, itself optionally after
  `http.`.  The table also names the codes in generated code.
-/
import FragmentRoutes.Numeral.Whole

namespace FragmentRoutes.Route

namespace Status

/-- Why a text is not a status. -/
inductive Fault where
  | missing
  | unreadable (text : String)
  | outOfRange (code : Int)
  | unknown (text : String)
  deriving DecidableEq, Repr

/-- The registered statuses with their codes, in ascending order. -/
def registered : List (String × Nat) := [
  ("CONTINUE", 100), ("SWITCHING_PROTOCOLS", 101), ("PROCESSING", 102), ("EARLY_HINTS", 103),
  ("OK", 200), ("CREATED", 201), ("ACCEPTED", 202), ("NON_AUTHORITATIVE_INFORMATION", 203),
  ("NO_CONTENT", 204), ("RESET_CONTENT", 205), ("PARTIAL_CONTENT", 206), ("MULTI_STATUS", 207),
  ("ALREADY_REPORTED", 208), ("IM_USED", 226), ("MULTIPLE_CHOICES", 300),
  ("MOVED_PERMANENTLY", 301), ("FOUND", 302), ("SEE_OTHER", 303), ("NOT_MODIFIED", 304),
  ("USE_PROXY", 305), ("TEMPORARY_REDIRECT", 307), ("PERMANENT_REDIRECT", 308),
  ("BAD_REQUEST", 400), ("UNAUTHORIZED", 401), ("PAYMENT_REQUIRED", 402), ("FORBIDDEN", 403),
  ("NOT_FOUND", 404), ("METHOD_NOT_ALLOWED", 405), ("NOT_ACCEPTABLE", 406),
  ("PROXY_AUTHENTICATION_REQUIRED", 407), ("REQUEST_TIMEOUT", 408), ("CONFLICT", 409),
  ("GONE", 410), ("LENGTH_REQUIRED", 411), ("PRECONDITION_FAILED", 412),
  ("REQUEST_ENTITY_TOO_LARGE", 413), ("REQUEST_URI_TOO_LONG", 414),
  ("UNSUPPORTED_MEDIA_TYPE", 415), ("REQUESTED_RANGE_NOT_SATISFIABLE", 416),
  ("EXPECTATION_FAILED", 417), ("IM_A_TEAPOT", 418), ("MISDIRECTED_REQUEST", 421),
  ("UNPROCESSABLE_ENTITY", 422), ("LOCKED", 423), ("FAILED_DEPENDENCY", 424), ("TOO_EARLY", 425),
  ("UPGRADE_REQUIRED", 426), ("PRECONDITION_REQUIRED", 428), ("TOO_MANY_REQUESTS", 429),
  ("REQUEST_HEADER_FIELDS_TOO_LARGE", 431), ("UNAVAILABLE_FOR_LEGAL_REASONS", 451),
  ("INTERNAL_SERVER_ERROR", 500), ("NOT_IMPLEMENTED", 501), ("BAD_GATEWAY", 502),
  ("SERVICE_UNAVAILABLE", 503), ("GATEWAY_TIMEOUT", 504), ("HTTP_VERSION_NOT_SUPPORTED", 505),
  ("VARIANT_ALSO_NEGOTIATES", 506), ("INSUFFICIENT_STORAGE", 507), ("LOOP_DETECTED", 508),
  ("NOT_EXTENDED", 510), ("NETWORK_AUTHENTICATION_REQUIRED", 511)]

/-- The name under which a code is registered. -/
def name? (code : Nat) : Option String :=
  (registered.find? fun e => e.2 == code).map Prod.fst

/-- The code that is registered under a name. -/
def code? (name : String) : Option Nat :=
  (registered.find? fun e => e.1 == name).map Prod.snd

/-- The code of a label without a status. -/
def ok : Nat := 200

/-- The text without the word in front, when it starts with it. -/
def dropFront (word cs : List Char) : List Char :=
  if word.isPrefixOf cs then cs.drop word.length else cs

/-- The name that a text asks for, without the words in front of it. -/
def registeredName (cs : List Char) : String :=
  String.ofList (dropFront "HTTPStatus.".toList (dropFront "http.".toList cs))

/-- The code that a text stands for. -/
def parse (text : String) : Except Fault Nat :=
  match text.toList with
  | [] => .error .missing
  | c :: cs =>
    if Text.isDigitLike c then
      match Numeral.readWhole? text with
      | none => .error (.unreadable text)
      | some n => if 100 ≤ n && n ≤ 999 then .ok n.toNat else .error (.outOfRange n)
    else match code? (registeredName (c :: cs)) with
      | some code => .ok code
      | none => .error (.unknown text)

/-- A word of a label after the path that is read as its status: it starts with a
decimal digit, or names something after `HTTPStatus.`. -/
def isStatusWord (word : List Char) : Bool :=
  match word with
  | [] => false
  | c :: _ =>
    let constant := "HTTPStatus.".toList
    let named := dropFront "http.".toList word
    Text.isDecimal c || (constant.isPrefixOf named && constant.length < named.length)

end Status

end FragmentRoutes.Route
