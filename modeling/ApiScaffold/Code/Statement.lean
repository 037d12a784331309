import ApiScaffold.Code.Input
import ApiScaffold.Code.Operation
import ApiScaffold.Code.Token
import ApiScaffold.Validation

/-!
# Checks at work

What the code that checks an input does.  Each line is read as a check, or as the beginning or
the end of a block that stands for a field that may be left out.  The value of such a field can
be named inside its block only; it makes nothing of a line that does not fit the type of its
field.

* `Line`: a line of the code; `Line.read?` reads one.
* `Check.run`: the result of a check of a value.
* `runLines`: the result of the lines on an input, if each fits its place.
-/

namespace ApiScaffold.Code

open Number (Binary Binary64)
open Text (isAsciiDigit)

/-! ## Reading -/

/-- Where a value stands: under the name that its block gives it, or in a field. -/
inductive Place
  | bound
  | field (name : String)
  deriving DecidableEq

/-- The form in which a value is checked: as the text that it is, as its text form, or as a
number. -/
inductive Form
  | text | shown | number
  deriving DecidableEq

/-- A line of the code that checks an input. -/
inductive Line
  | opening (field : String)
  | closing
  | check (wire : String) (place : Place) (check : Check)
  deriving DecidableEq

/-- Reads an expression for a value, with the comma behind it. -/
def readOperand : List Token → Option ((Place × Form) × List Token)
  | .word "value" :: .mark ',' :: rest => some ((.bound, .text), rest)
  | .mark '&' :: .mark '*' :: .word "value" :: .mark '.' :: .word "to_string" :: .mark '('
      :: .mark ')' :: .mark ',' :: rest => some ((.bound, .shown), rest)
  | .mark '*' :: .word "value" :: .word "as" :: .word "f64" :: .mark ',' :: rest =>
    some ((.bound, .number), rest)
  | .mark '&' :: .word "self" :: .mark '.' :: .word field :: .mark ',' :: rest =>
    some ((.field field, .text), rest)
  | .mark '&' :: .word "self" :: .mark '.' :: .word field :: .mark '.' :: .word "to_string"
      :: .mark '(' :: .mark ')' :: .mark ',' :: rest => some ((.field field, .shown), rest)
  | .word "self" :: .mark '.' :: .word field :: .word "as" :: .word "f64" :: .mark ',' :: rest =>
    some ((.field field, .number), rest)
  | _ => none

/-- A natural number in its digits. -/
def countOf? (s : String) : Option Nat :=
  if s.toList.all isAsciiDigit then some (Number.natOfDigits s.toList) else none

/-- A floating number; a number without a point and an exponent is none. -/
def floatOf? (s : String) : Option Binary64 :=
  if s.toList.any fun c => c == '.' || c == 'e' then Number.readFraction false s.toList else none

/-- Reads a floating number with its sign. -/
def readFloat : List Token → Option (Binary64 × List Token)
  | .mark '-' :: .number s :: rest => (floatOf? s).map fun x => (x.neg, rest)
  | .number s :: rest => (floatOf? s).map fun x => (x, rest)
  | _ => none

/-- Reads string literals up to the bracket behind them. -/
def readLiterals : List Token → Option (List String × List Token)
  | .mark ']' :: rest => some ([], rest)
  | .literal s :: .mark ']' :: rest => some ([s], rest)
  | .literal s :: .mark ',' :: rest =>
    (readLiterals rest).map fun (texts, rest) => (s :: texts, rest)
  | _ => none

/-- Reads a limit and whether it is itself excluded. -/
def readBound (check : Binary64 → Bool → Check) (ts : List Token) : Option (Check × List Token) :=
  match readFloat ts with
  | some (limit, .mark ',' :: .word "true" :: rest) => some (check limit true, rest)
  | some (limit, .mark ',' :: .word "false" :: rest) => some (check limit false, rest)
  | _ => none

/-- Reads what a check compares a value with, by the name of the check and the form of the
value. -/
def readCheck : String → Form → List Token → Option (Check × List Token)
  | "max_length", .text, .number s :: rest => (countOf? s).map fun n => (.maxLength n, rest)
  | "min_length", .text, .number s :: rest => (countOf? s).map fun n => (.minLength n, rest)
  | "pattern", .text, .literal p :: rest => some (.pattern p, rest)
  | "one_of", .text, .mark '&' :: .mark '[' :: rest =>
    (readLiterals rest).map fun (allowed, rest) => (.oneOf allowed, rest)
  | "one_of", .shown, .mark '&' :: .mark '[' :: rest =>
    (readLiterals rest).map fun (allowed, rest) => (.textOneOf allowed, rest)
  | "maximum", .number, rest => readBound .maximum rest
  | "minimum", .number, rest => readBound .minimum rest
  | "multiple_of", .number, rest => (readFloat rest).map fun (x, rest) => (.multipleOf x, rest)
  | _, _, _ => none

/-- The line that some tokens make. -/
def Line.ofTokens? : List Token → Option Line
  | [.mark '\x7d'] => some .closing
  | [.word "if", .word "let", .word "Some", .mark '(', .word "value", .mark ')', .mark '=',
      .mark '&', .word "self", .mark '.', .word field, .mark '\x7b'] => some (.opening field)
  | .word "runtime" :: .mark ':' :: .mark ':' :: .word "validation" :: .mark ':' :: .mark ':'
      :: .word name :: .mark '(' :: .literal wire :: .mark ',' :: rest => do
    let ((place, form), rest) ← readOperand rest
    let (declared, rest) ← readCheck name form rest
    if rest = [.mark ')', .mark '?', .mark ';'] then some (.check wire place declared) else none
  | _ => none

/-- Reads a line. -/
def Line.read? (line : String) : Option Line := (tokens line).bind Line.ofTokens?

/-! ## Running -/

/-- A value as a double, if it is a number. -/
def asDouble? : ParamValue → Option Binary64
  | .integer n => some (.ofInt n)
  | .single x => some x.convert
  | .double x => some x
  | _ => none

/-- A value as a string, if it is one. -/
def asString? : ParamValue → Option String
  | .string s => some s
  | _ => none

/-- The result of a check of a value, if the check is one of its type. -/
def Check.run (wire : String) (v : ParamValue) : Check → Option (Except Violation Unit)
  | .maxLength max => (asString? v).map fun s => Validation.maxLength wire s max
  | .minLength min => (asString? v).map fun s => Validation.minLength wire s min
  | .pattern p => (asString? v).map fun s => Validation.pattern wire s p
  | .oneOf allowed => (asString? v).map fun s => Validation.oneOf wire s allowed
  | .textOneOf allowed => some (Validation.oneOf wire v.text allowed)
  | .maximum limit exclusive => (asDouble? v).map (Validation.maximum wire · limit exclusive)
  | .minimum limit exclusive => (asDouble? v).map (Validation.minimum wire · limit exclusive)
  | .multipleOf factor => (asDouble? v).map (Validation.multipleOf wire · factor)

/-- Where a line stands: outside the blocks, in the block of a value, or in one that is passed
over. -/
inductive Scope
  | outside
  | inside (value : ParamValue)
  | passedOver

/-- Whether there is a field of a name that may be left out, or one that may not. -/
def hasField (fields : List FieldCode) (name : String) (optional : Bool) : Bool :=
  fields.any fun f => f.name == name && f.optional == optional

/-- The value of a place; a field that may be left out is none. -/
def Place.value? (fields : List FieldCode) (input : Input) : Scope → Place → Option ParamValue
  | .inside v, .bound => some v
  | _, .bound => none
  | _, .field name =>
    match hasField fields name false, input name with
    | true, some (.one v) => some v
    | _, _ => none

/-- The block that is opened for a field that may be left out. -/
def openBlock (fields : List FieldCode) (input : Input) (name : String) : Option Scope :=
  match hasField fields name true, input name with
  | true, some (.one v) => some (.inside v)
  | true, none => some .passedOver
  | _, _ => none

/-- The result of a check in front of others: theirs, if it is passed. -/
def andThen (first later : Except Violation Unit) : Except Violation Unit :=
  match first with
  | .ok () => later
  | .error violation => .error violation

/-- The result of some lines on an input: each has to fit its place, and each block has to be
closed. -/
def runLines (fields : List FieldCode) (input : Input) :
    Scope → List Line → Option (Except Violation Unit)
  | .outside, [] => some (.ok ())
  | .outside, .opening name :: rest => do
    let scope ← openBlock fields input name
    runLines fields input scope rest
  | .inside _, .closing :: rest => runLines fields input .outside rest
  | .passedOver, .closing :: rest => runLines fields input .outside rest
  | .passedOver, .check _ _ _ :: rest => runLines fields input .passedOver rest
  | scope, .check wire place check :: rest => do
    let v ← place.value? fields input scope
    let first ← check.run wire v
    let later ← runLines fields input scope rest
    return andThen first later
  | _, _ => none

/-- The result of the code that checks the input of an operation. -/
def OperationCode.validate (c : OperationCode) (input : Input) : Option (Except Violation Unit) :=
  do
    let lines ← c.checkLines.mapM Line.read?
    runLines c.fields input .outside lines

end ApiScaffold.Code
