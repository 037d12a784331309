import ApiScaffold.Code.Statement
import ApiScaffold.Proofs.Code.Check
import ApiScaffold.Proofs.Code.Token
import ApiScaffold.Proofs.Traversal

/-!
# The lines of the checks are read as they are written

The line of a check is a call: the name of the check, the name of the parameter, an expression for
the value and what the value is compared with (`write_eq`).  Each of these is read back on its own:
the expression tells where the value stands and in which form it is checked (`advance_operand`,
`readOperand_tokens`), and the name and the form tell what to expect behind it
(`exists_arguments`).

* `Check.IsRegular`: checks whose limits are finite numbers.
* `exists_call`: **the line of a check is a call of that check.**
* `read?_opening`: the line that opens a block is read as such.
* `mapM_read?_write`: **the lines of a field are read as what they stand for.**
-/

namespace ApiScaffold.Code

open Number (Binary64 FloatLayout IsValue)
open Text.Quoted (encode)

variable {begun : Begun} {ts : List Token} {s t f : String}

/-! ## The text of a call -/

/-- The name of a check. -/
def Check.name : Check → String
  | .maxLength _ => "max_length"
  | .minLength _ => "min_length"
  | .pattern _ => "pattern"
  | .oneOf _ => "one_of"
  | .textOneOf _ => "one_of"
  | .maximum _ _ => "maximum"
  | .minimum _ _ => "minimum"
  | .multipleOf _ => "multiple_of"

/-- The form in which a check takes a value. -/
def Check.form : Check → Form
  | .maxLength _ => .text
  | .minLength _ => .text
  | .pattern _ => .text
  | .oneOf _ => .text
  | .textOneOf _ => .shown
  | .maximum _ _ => .number
  | .minimum _ _ => .number
  | .multipleOf _ => .number

/-- The text of what a check compares a value with. -/
def Check.arguments : Check → String
  | .maxLength max => toString max
  | .minLength min => toString min
  | .pattern p => encode p
  | .oneOf allowed => "&[" ++ literals allowed ++ "]"
  | .textOneOf allowed => "&[" ++ literals allowed ++ "]"
  | .maximum limit exclusive => FloatLayout.exact.write limit ++ ", " ++ toString exclusive
  | .minimum limit exclusive => FloatLayout.exact.write limit ++ ", " ++ toString exclusive
  | .multipleOf factor => FloatLayout.exact.write factor

/-- The expression for the text of the value in a place. -/
def Place.text : Place → String
  | .bound => "value"
  | .field f => "&self." ++ f

/-- The expression for the number in a place. -/
def Place.number : Place → String
  | .bound => "*value"
  | .field f => "self." ++ f

/-- The expression for a value in a form. -/
def Form.operand (text number : String) : Form → String
  | .text => text
  | .shown => "&" ++ number ++ ".to_string()"
  | .number => number ++ " as f64"

/-- The text of a call of a check. -/
def callText (wire name operand arguments : String) : String :=
  "runtime::validation::" ++ name ++ "("
    ++ (encode wire ++ ", " ++ (operand ++ ", " ++ (arguments ++ ")?;")))

theorem callText_two (wire name operand limit : String) :
    "runtime::validation::" ++ name ++ "(" ++ ", ".intercalate [encode wire, operand, limit]
      ++ ")?;" = callText wire name operand limit := by
  unfold callText
  simp only [String.intercalate_cons_cons, String.intercalate_singleton, String.append_assoc]

theorem callText_three (wire name operand limit flag : String) :
    "runtime::validation::" ++ name ++ "(" ++ ", ".intercalate [encode wire, operand, limit, flag]
      ++ ")?;" = callText wire name operand (limit ++ ", " ++ flag) := by
  unfold callText
  simp only [String.intercalate_cons_cons, String.intercalate_singleton, String.append_assoc]

/-- **The line of a check is a call.** -/
theorem write_eq (check : Check) (wire text number : String) :
    check.write wire text number
      = callText wire check.name (check.form.operand text number) check.arguments := by
  cases check with
  | maximum limit exclusive => exact callText_three ..
  | minimum limit exclusive => exact callText_three ..
  | _ => exact callText_two ..

/-! ## Its parts -/

/-- The tokens in front of the arguments of a call. -/
def callHead (name : String) : List Token :=
  [.word "runtime", .mark ':', .mark ':', .word "validation", .mark ':', .mark ':', .word name,
    .mark '(']

/-- The tokens behind the arguments of a call. -/
def callEnd : List Token := [.mark ')', .mark '?', .mark ';']

theorem advance_callEnd : advance .nothing ")?;".toList = some (callEnd, .nothing) := rfl

theorem advance_comma : advance .nothing ", ".toList = some ([.mark ','], .nothing) := rfl

/-- A name that is one word. -/
def IsWord (f : String) : Prop := advance .nothing f.toList = some ([], .word f.toList)

/-- What a text does behind a word, which it ends. -/
theorem advance_behind (us : List Token)
    (h : advance (.word f.toList) t.toList = some (.word (String.ofList f.toList) :: us, begun)) :
    advance (.word f.toList) t.toList = some (.word f :: us, begun) := by
  rwa [String.ofList_toList] at h

theorem isWord_name (check : Check) : IsWord check.name := by
  rw [IsWord]
  cases check <;> rw [Check.name] <;> rfl

theorem advance_callHead (check : Check) :
    advance .nothing ("runtime::validation::" ++ check.name ++ "(").toList
      = some (callHead check.name, .nothing) := by
  have hmodule : advance .nothing "runtime::validation::".toList
      = some ([.word "runtime", .mark ':', .mark ':', .word "validation", .mark ':', .mark ':'],
        .nothing) := rfl
  exact advance_append (advance_append hmodule (isWord_name check))
    (advance_behind [.mark '('] rfl)

/-- The tokens of the expression for a value, with the comma behind it. -/
def operandTokens : Place → Form → List Token
  | .bound, .text => [.word "value", .mark ',']
  | .bound, .shown =>
    [.mark '&', .mark '*', .word "value", .mark '.', .word "to_string", .mark '(', .mark ')',
      .mark ',']
  | .bound, .number => [.mark '*', .word "value", .word "as", .word "f64", .mark ',']
  | .field f, .text => [.mark '&', .word "self", .mark '.', .word f, .mark ',']
  | .field f, .shown =>
    [.mark '&', .word "self", .mark '.', .word f, .mark '.', .word "to_string", .mark '(',
      .mark ')', .mark ',']
  | .field f, .number =>
    [.word "self", .mark '.', .word f, .word "as", .word "f64", .mark ',']

theorem advance_operand {place : Place} (hplace : ∀ f, place = .field f → IsWord f) (form : Form) :
    advance .nothing (form.operand place.text place.number ++ ", ").toList
      = some (operandTokens place form, .nothing) := by
  cases place with
  | bound => cases form <;> rfl
  | field f =>
    have hf : IsWord f := hplace f rfl
    have href : advance .nothing "&".toList = some ([.mark '&'], .nothing) := rfl
    have hself : advance .nothing "self.".toList = some ([.word "self", .mark '.'], .nothing) := rfl
    have hself' : advance .nothing "&self.".toList
        = some ([.mark '&', .word "self", .mark '.'], .nothing) := rfl
    have hnumber := advance_append hself hf
    cases form with
    | text =>
      exact advance_append (advance_append hself' hf) (advance_behind [.mark ','] rfl)
    | shown =>
      have hshown : advance (.word f.toList) ".to_string()".toList
          = some ([.word f, .mark '.', .word "to_string", .mark '(', .mark ')'], .nothing) :=
        advance_behind _ rfl
      exact advance_append (advance_append (advance_append href hnumber) hshown) advance_comma
    | number =>
      have hcast : advance (.word f.toList) " as f64".toList
          = some ([.word f, .word "as"], .word "f64".toList) := advance_behind _ rfl
      exact advance_append (advance_append hnumber hcast) (advance_behind [.mark ','] rfl)

theorem readOperand_tokens (place : Place) (form : Form) (rest : List Token) :
    readOperand (operandTokens place form ++ rest) = some ((place, form), rest) := by
  cases place <;> cases form <;> rfl

/-! ## The arguments -/

/-- The tokens of string literals with commas between them. -/
def literalTokens : List String → List Token
  | [] => []
  | [s] => [.literal s]
  | s :: t :: rest => .literal s :: .mark ',' :: literalTokens (t :: rest)

theorem advance_literals (allowed : List String) :
    advance .nothing (literals allowed).toList = some (literalTokens allowed, .nothing) := by
  unfold literals
  induction allowed with
  | nil => rfl
  | cons s rest ih =>
    cases rest with
    | nil =>
      rw [List.map_singleton, String.intercalate_singleton]
      exact advance_encode s
    | cons t rest =>
      rw [List.map_cons, List.map_cons, String.intercalate_cons_cons]
      exact advance_append (advance_append (advance_encode s) advance_comma) ih

theorem readLiterals_tokens (allowed : List String) (rest : List Token) :
    readLiterals (literalTokens allowed ++ .mark ']' :: rest) = some (allowed, rest) := by
  induction allowed with
  | nil => rfl
  | cons s allowed ih =>
    cases allowed with
    | nil => rfl
    | cons t allowed =>
      show (readLiterals (literalTokens (t :: allowed) ++ .mark ']' :: rest)).map _ = _
      rw [ih]
      rfl

/-- A list of literals in its brackets, with the end of the call. -/
theorem advance_list (allowed : List String) :
    advance .nothing ("&[" ++ literals allowed ++ "]" ++ ")?;").toList
      = some (.mark '&' :: .mark '[' :: (literalTokens allowed ++ .mark ']' :: callEnd),
        .nothing) := by
  have hopen : advance .nothing "&[".toList = some ([.mark '&', .mark '['], .nothing) := rfl
  have hclose : advance .nothing "]".toList = some ([.mark ']'], .nothing) := rfl
  have hlist := advance_append (advance_append hopen (advance_literals allowed)) hclose
  rw [advance_append hlist advance_callEnd, List.append_assoc, List.append_assoc]
  rfl

/-- A natural number with the end of the call. -/
theorem advance_count (n : Nat) : ∃ digits, advance .nothing (toString n ++ ")?;").toList
      = some (.number digits :: callEnd, .nothing) ∧ countOf? digits = some n := by
  have hdigits := Number.isDigits_toDigits n
  have hcount : (toString n).toList = Nat.toDigits 10 n := Nat.toList_repr
  have hnumber : advance .nothing (toString n).toList = some ([], .number (Nat.toDigits 10 n)) := by
    rw [hcount]
    exact advance_digits Nat.toDigits_ne_nil hdigits
  have hend : advance (.number (Nat.toDigits 10 n)) ")?;".toList
      = some (.number (String.ofList (Nat.toDigits 10 n)) :: callEnd, .nothing) := rfl
  refine ⟨String.ofList (Nat.toDigits 10 n), advance_append hnumber hend, ?_⟩
  rw [countOf?, String.toList_ofList, if_pos (List.all_eq_true.mpr hdigits),
    Number.natOfDigits_toDigits]

/-- **The text of a finite number** is one number behind its sign, and is read as the number. -/
theorem exists_float {x : Binary64} (hx : IsValue x) : ∃ (sign : List Token) (cs : List Char),
    advance .nothing (FloatLayout.exact.write x).toList = some (sign, .number cs) ∧
      ∀ rest, readFloat (sign ++ .number (String.ofList cs) :: rest) = some (x, rest) := by
  obtain ⟨p, hp, hwrite, hread⟩ := Number.exists_parts_of_write Number.isSmall_double hx
  have hfloat : floatOf? (String.ofList p.chars) = some x.abs := by
    rw [floatOf?, String.toList_ofList, if_pos hp.any_mark, hread]
  cases hsign : x.isNegative with
  | false =>
    rw [hsign] at hwrite
    refine ⟨[], p.chars, hwrite ▸ advance_parts hp, fun rest => ?_⟩
    show (floatOf? _).map _ = _
    rw [hfloat, Number.Binary.abs_eq hsign]
    rfl
  | true =>
    rw [hsign] at hwrite
    have hminus : Begun.nothing.step '-' = some ([.mark '-'], .nothing) := rfl
    refine ⟨[.mark '-'], p.chars, hwrite ▸ advance_cons hminus (advance_parts hp), fun rest => ?_⟩
    show (floatOf? _).map _ = _
    rw [hfloat, Option.map_some, Number.Binary.neg_abs hsign]

/-- A limit, whether it is excluded, and the end of the call. -/
theorem exists_bound {x : Binary64} (hx : IsValue x) (exclusive : Bool)
    (check : Binary64 → Bool → Check) :
    ∃ ts, advance .nothing
        (FloatLayout.exact.write x ++ ", " ++ toString exclusive ++ ")?;").toList
      = some (ts, .nothing) ∧ readBound check ts = some (check x exclusive, callEnd) := by
  obtain ⟨sign, cs, hwrite, hread⟩ := exists_float hx
  have hcomma : advance (.number cs) ", ".toList
      = some ([.number (String.ofList cs), .mark ','], .nothing) := rfl
  have hflag : IsWord (toString exclusive) := by
    rw [IsWord]
    cases exclusive <;> rfl
  refine ⟨sign ++ .number (String.ofList cs) :: .mark ',' :: .word (toString exclusive) :: callEnd,
    ?_, ?_⟩
  · have hend : advance (.word (toString exclusive).toList) ")?;".toList
        = some (.word (toString exclusive) :: callEnd, .nothing) := advance_behind _ rfl
    have h := advance_append (advance_append (advance_append hwrite hcomma) hflag) hend
    rw [h]
    simp
  · rw [readBound, hread]
    cases exclusive <;> rfl

/-- A check whose limits are finite numbers. -/
def Check.IsRegular : Check → Prop
  | .maximum limit _ => IsValue limit
  | .minimum limit _ => IsValue limit
  | .multipleOf factor => IsValue factor
  | _ => True

/-- **The arguments of a check** are read as the check. -/
theorem exists_arguments {check : Check} (h : check.IsRegular) :
    ∃ ts, advance .nothing (check.arguments ++ ")?;").toList = some (ts, .nothing) ∧
      readCheck check.name check.form ts = some (check, callEnd) := by
  cases check with
  | maxLength max =>
    obtain ⟨digits, htext, hcount⟩ := advance_count max
    refine ⟨_, htext, ?_⟩
    show (countOf? digits).map _ = _
    rw [hcount, Option.map_some]
  | minLength min =>
    obtain ⟨digits, htext, hcount⟩ := advance_count min
    refine ⟨_, htext, ?_⟩
    show (countOf? digits).map _ = _
    rw [hcount, Option.map_some]
  | pattern p =>
      exact ⟨_, advance_append (advance_encode p) advance_callEnd, rfl⟩
  | oneOf allowed =>
    refine ⟨_, advance_list allowed, ?_⟩
    show (readLiterals _).map _ = _
    rw [readLiterals_tokens, Option.map_some]
  | textOneOf allowed =>
    refine ⟨_, advance_list allowed, ?_⟩
    show (readLiterals _).map _ = _
    rw [readLiterals_tokens, Option.map_some]
  | maximum limit exclusive => exact exists_bound h exclusive .maximum
  | minimum limit exclusive => exact exists_bound h exclusive .minimum
  | multipleOf factor =>
    obtain ⟨sign, cs, hwrite, hread⟩ := exists_float h
    have hend : advance (.number cs) ")?;".toList
        = some (.number (String.ofList cs) :: callEnd, .nothing) := rfl
    refine ⟨_, advance_append hwrite hend, ?_⟩
    show (readFloat _).map _ = _
    rw [hread, Option.map_some]

/-! ## Lines -/

/-- A call is a check of a value in its place. -/
theorem ofTokens?_call {check : Check} {place : Place} {arguments : List Token}
    (h : readCheck check.name check.form arguments = some (check, callEnd)) (wire : String) :
    Line.ofTokens? (callHead check.name
        ++ ([.literal wire, .mark ','] ++ (operandTokens place check.form ++ arguments)))
      = some (.check wire place check) := by
  simp only [callHead, List.cons_append, List.nil_append, Line.ofTokens?, readOperand_tokens, h,
    Option.bind_eq_bind, Option.bind_some]
  exact if_pos rfl

theorem read?_of_advance (h : advance .nothing s.toList = some (ts, .nothing)) :
    Line.read? s = Line.ofTokens? ts := by
  rw [Line.read?, tokens, h, Option.bind_eq_bind, Option.bind_some]
  show (some (ts ++ [])).bind Line.ofTokens? = _
  rw [List.append_nil, Option.bind_some]

/-- An indentation does not count. -/
theorem read?_indented (h : advance .nothing s.toList = some (ts, .nothing)) :
    Line.read? ("    " ++ s) = Line.ofTokens? ts := by
  have hindent : advance .nothing "    ".toList = some ([], .nothing) := rfl
  exact read?_of_advance (advance_append hindent h)

/-- **The line of a check is a call of that check.** -/
theorem exists_call {check : Check} (h : check.IsRegular) (place : Place)
    (hplace : ∀ f, place = .field f → IsWord f) (wire : String) :
    ∃ ts, advance .nothing (check.write wire place.text place.number).toList
        = some (ts, .nothing) ∧
      Line.ofTokens? ts = some (.check wire place check) := by
  obtain ⟨arguments, harguments, hread⟩ := exists_arguments h
  have hwire := advance_append (advance_encode wire) advance_comma
  have hoperand := advance_append (advance_operand hplace check.form) harguments
  refine ⟨_, ?_, ofTokens?_call hread wire⟩
  rw [write_eq]
  exact advance_append (advance_callHead check) (advance_append hwire hoperand)

theorem read?_opening (hf : IsWord f) :
    Line.read? ("if let Some(value) = &self." ++ f ++ " \x7b") = some (.opening f) := by
  have hlet : advance .nothing "if let Some(value) = &self.".toList
      = some ([.word "if", .word "let", .word "Some", .mark '(', .word "value", .mark ')',
        .mark '=', .mark '&', .word "self", .mark '.'], .nothing) := rfl
  exact read?_of_advance (advance_append (advance_append hlet hf)
    (advance_behind [.mark '\x7b'] rfl))

/-! ## The lines of a field -/

/-- **The lines of a field are read as what they stand for.** -/
theorem mapM_read?_write {c : FieldCheck} (hfield : IsWord c.field)
    (hchecks : ∀ check ∈ c.checks, check.IsRegular) :
    c.write.mapM Line.read? = some c.lines := by
  unfold FieldCheck.write FieldCheck.lines
  split
  · have hopening : ["if let Some(value) = &self." ++ c.field ++ " \x7b"].mapM Line.read?
        = some [.opening c.field] := by
      rw [List.mapM_cons, read?_opening hfield]
      rfl
    have hclosing : ["\x7d"].mapM Line.read? = some [.closing] := rfl
    refine mapM_append_eq_some (mapM_append_eq_some hopening (mapM_map_eq_some ?_)) hclosing
    intro check hcheck
    obtain ⟨ts, htext, hline⟩ := exists_call (hchecks check hcheck) .bound nofun c.wire
    exact (read?_indented htext).trans hline
  · refine mapM_map_eq_some ?_
    intro check hcheck
    obtain ⟨ts, htext, hline⟩ := exists_call (hchecks check hcheck) (.field c.field)
      (fun f hf => by cases hf; exact hfield) c.wire
    exact (read?_of_advance htext).trans hline

end ApiScaffold.Code
