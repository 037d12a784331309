import ApiScaffold.Number.Reader
import ApiScaffold.Text.Blank
import ApiScaffold.Web.Header

/-!
# Trace context

A span is known by the identifiers of its trace and of itself, and travels in a header.

* `SpanContext.header`: the text of a span in the header.
* `SpanContext.ofHeader?`: the span of a text: four fields of hexadecimal digits, of which the
  first is not looked at and what follows the fourth is ignored.
* `inject`, `extract`: the header set and read.
-/

namespace ApiScaffold.Client

open Text

/-- The identity of a span. -/
structure SpanContext where
  traceId : String
  spanId : String
  sampled : Bool
  deriving DecidableEq, Repr

/-- The name of the header. -/
def traceHeader : String := "traceparent"

namespace SpanContext

/-- The text of a span in the header. -/
def header (s : SpanContext) : String :=
  s!"00-{s.traceId}-{s.spanId}-" ++ (if s.sampled then "01" else "00")

/-- Whether a character is a hexadecimal digit. -/
def isHexDigit (c : Char) : Bool :=
  isAsciiDigit c || ('a' ≤ c && c ≤ 'f') || ('A' ≤ c && c ≤ 'F')

/-- Whether characters take so many bytes and are hexadecimal digits. -/
def isHex (length : Nat) (cs : List Char) : Bool :=
  cs.length == length && cs.all isHexDigit

/-- Whether the lowest bit of a hexadecimal digit is set. -/
def isOddDigit (c : Char) : Bool := "13579bdfBDF".toList.contains c

/-- An identifier in lower case, if it is one: so many hexadecimal digits, not all zero. -/
def identifier? (length : Nat) (cs : List Char) : Option String :=
  if isHex length cs && !cs.all (· == '0') then some (String.ofList (cs.map Text.asciiLower))
  else none

/-- The span of a text. -/
def ofHeader? (text : String) : Option SpanContext :=
  match splitWhere (· == '-') (trimChars text.toList) with
  | version :: traceId :: spanId :: flags :: _ =>
    if (String.ofList version).utf8ByteSize == 2 && isHex 2 flags then do
      let traceId ← identifier? 32 traceId
      let spanId ← identifier? 16 spanId
      some { traceId, spanId, sampled := flags.getLast?.any isOddDigit }
    else none
  | _ => none

/-- A span of the same trace. -/
def child (s : SpanContext) (spanId : String) : SpanContext := { s with spanId }

end SpanContext

/-- The words for a span that cannot be written into the header. -/
def injectFault (reason : String) : String :=
  s!"cannot encode trace header '{traceHeader}': {reason}"

/-- Headers with that of a span set. -/
def inject (s : SpanContext) (headers : Web.Headers) : Except String Web.Headers :=
  if Web.isHeaderValue s.header then .ok (headers.insert traceHeader s.header)
  else .error (injectFault Web.headerValueFault)

/-- The span of some headers. -/
def extract (headers : Web.Headers) : Option SpanContext :=
  ((headers.get? traceHeader).bind Web.readableValue?).bind SpanContext.ofHeader?

end ApiScaffold.Client
