import ApiScaffold.Proofs.Code.Names
import ApiScaffold.Proofs.Identifier

/-!
# The names of the types of an operation

The types of an operation are named after its words, joined by their capitals, with one of three
words behind.  Of an ASCII text these are letters and digits only, so the one thing that can keep
such a name from being an identifier is a digit at its beginning: and it begins with the first
letter or digit of the text, whatever stands before it.  The name of the function is made from the
same words, but has a prefix in that case.

* `Naming.LeadsWithDigit`: the first letter or digit of a text is a digit.
* `Naming.field_prefixed_iff_leadsWithDigit`: **a function has the prefix exactly if its text leads
  with a digit.**
* `TypeKind`, `OperationCode.typeOf`: the three types and their names.
* `typeNames_identifier_iff`: **the types of an operation have identifiers for names exactly if its
  text does not lead with a digit.**
-/

namespace ApiScaffold

open Text

/-! ## The first letter or digit -/

namespace Naming

variable {s : String} {c : Char} {cs : List Char}

/-- The first letter or digit of a text is a digit. -/
def LeadsWithDigit (s : String) : Prop :=
  (s.toList.find? isAsciiAlphanumeric).any isAsciiDigit = true

instance (s : String) : Decidable (LeadsWithDigit s) :=
  inferInstanceAs (Decidable (_ = true))

theorem leadsWithDigit_iff (h : s.toList.find? isAsciiAlphanumeric = some c) :
    LeadsWithDigit s ↔ isAsciiDigit c = true := by
  rw [LeadsWithDigit, h]
  rfl

/-- Joined words begin with a letter exactly if the text does not lead with a digit. -/
theorem isAsciiLetter_iff_not_leadsWithDigit (hascii : ∀ d ∈ s.toList, isAscii d = true)
    (hs : properChars s.toList = c :: cs) : isAsciiLetter c = true ↔ ¬LeadsWithDigit s := by
  have hhead := head?_properChars hascii
  rw [hs] at hhead
  obtain ⟨d, hd, hupper⟩ := Option.map_eq_some_iff.mp hhead.symm
  have hcode := of_ascii
    (p := fun d => !isAsciiAlphanumeric d || (isAsciiLetter (asciiUpper d) == !isAsciiDigit d))
    (by decide +kernel) (hascii d (List.mem_of_find?_eq_some hd))
  have hletter : isAsciiLetter (asciiUpper d) = !isAsciiDigit d := by
    simpa [List.find?_some hd] using hcode
  rw [leadsWithDigit_iff hd, ← hupper, hletter, Bool.not_eq_true, Bool.not_eq_true']

/-- A function has the prefix exactly if its words begin with a digit. -/
theorem field_prefixed_iff (hs : snakeChars s.toList = c :: cs) :
    field s = "p_" ++ snake s ↔ isAsciiDigit c = true := by
  have hsnake : snake s = String.ofList (c :: cs) := congrArg String.ofList hs
  rw [hsnake, field, hs]
  dsimp only
  split
  · next hdigit =>
    refine iff_of_true ?_ hdigit
    rw [← String.toList_inj]
    simp only [String.toList_append, String.toList_ofList]
    rfl
  · next hdigit =>
    refine iff_of_false (fun heq => ?_) hdigit
    -- what a name has in front is longer than what a keyword has behind it
    have hmark : "_".length = 1 := rfl
    have hprefix : "p_".length = 2 := rfl
    have hlength := congrArg String.length heq
    split at hlength <;> simp only [String.length_append] at hlength <;> omega

/-- **A function has the prefix exactly if its text leads with a digit.** -/
theorem field_prefixed_iff_leadsWithDigit (hascii : ∀ d ∈ s.toList, isAscii d = true)
    (hs : snakeChars s.toList ≠ []) : field s = "p_" ++ snake s ↔ LeadsWithDigit s := by
  obtain ⟨c, cs, hchars⟩ := List.exists_cons_of_ne_nil hs
  have hhead := head?_snakeChars hascii
  rw [hchars] at hhead
  obtain ⟨d, hd, hlower⟩ := Option.map_eq_some_iff.mp hhead.symm
  have hcode := of_ascii (p := fun d => isAsciiDigit (asciiLower d) == isAsciiDigit d)
    (by decide +kernel) (hascii d (List.mem_of_find?_eq_some hd))
  rw [field_prefixed_iff hchars, leadsWithDigit_iff hd, ← hlower, eq_of_beq hcode]

end Naming

/-! ## The types of an operation -/

namespace Code

/-- The types that an operation has. -/
inductive TypeKind
  | input | output | error
  deriving DecidableEq

/-- What the names of types end in. -/
def TypeKind.word : TypeKind → String
  | input => "Input"
  | output => "Output"
  | error => "Error"

/-- The name of a type of an operation. -/
def OperationCode.typeOf (c : OperationCode) : TypeKind → String
  | .input => c.inputType
  | .output => c.outputType
  | .error => c.errorType

variable {types : TypeMap} {o : Operation} {c : OperationCode}

theorem typeOf_eq (c : OperationCode) (kind : TypeKind) :
    c.typeOf kind = c.typeName ++ kind.word := by
  cases kind <;> rfl

theorem isAsciiAlphanumeric_of_mem_word (kind : TypeKind) :
    ∀ d ∈ kind.word.toList, isAsciiAlphanumeric d = true := by
  cases kind <;> exact List.all_eq_true.mp (by decide)

theorem word_not_suffix_reserved (kind : TypeKind) :
    ∀ r ∈ Naming.reserved, ¬kind.word.toList <:+ r.toList := by
  cases kind <;> decide

/-- The joined words of an operation that compiles: letters and digits, at least one. -/
theorem exists_typeName_eq (hascii : ∀ d ∈ o.id.toList, isAscii d = true)
    (h : compile types o = .ok c) : ∃ x xs, c.typeName.toList = x :: xs ∧
      Naming.properChars o.id.toList = x :: xs ∧ ∀ d ∈ x :: xs, isAsciiAlphanumeric d = true := by
  have hname : c.typeName.toList = Naming.properChars o.id.toList := by
    rw [(compiled_of_compile h).typeName, Naming.proper, String.toList_ofList]
  have hne : Naming.properChars o.id.toList ≠ [] := by
    intro hnil
    have hempty : Naming.proper o.id = "" := congrArg String.ofList hnil
    unfold compile at h
    dsimp only at h
    rw [if_pos hempty] at h
    cases h
  obtain ⟨x, xs, hchars⟩ := List.exists_cons_of_ne_nil hne
  exact ⟨x, xs, hname.trans hchars, hchars, fun d hd =>
    Naming.isAsciiAlphanumeric_of_mem_properChars hascii (hchars ▸ hd)⟩

/-- **The types of an operation with an ASCII text have identifiers for names exactly if the first
letter or digit of the text is no digit**, which is when its function needs no prefix; their
characters are letters and digits in any case. -/
theorem typeNames_identifier_iff (types : TypeMap) {o : Operation} {c : OperationCode}
    (hascii : ∀ d ∈ o.id.toList, isAscii d = true) (h : compile types o = .ok c) :
    (∀ kind, Naming.isIdentifier (c.typeOf kind) = true ↔ ¬Naming.LeadsWithDigit o.id) ∧
      (c.functionName = "p_" ++ Naming.snake o.id ↔ Naming.LeadsWithDigit o.id) ∧
      ∀ kind, ∀ d ∈ (c.typeOf kind).toList, isAsciiAlphanumeric d = true := by
  obtain ⟨x, xs, hname, hchars, hmem⟩ := exists_typeName_eq hascii h
  refine ⟨?_, ?_, ?_⟩
  · intro kind
    rw [typeOf_eq, Naming.isIdentifier_append_iff hname hmem (isAsciiAlphanumeric_of_mem_word kind)
        (word_not_suffix_reserved kind),
      Naming.isAsciiLetter_iff_not_leadsWithDigit hascii hchars]
  · rw [(compiled_of_compile h).functionName]
    refine Naming.field_prefixed_iff_leadsWithDigit hascii fun hnil => ?_
    rw [Naming.properChars, hnil] at hchars
    cases hchars
  · intro kind d hd
    rw [typeOf_eq, String.toList_append, hname] at hd
    rcases List.mem_append.mp hd with hd | hd
    · exact hmem d hd
    · exact isAsciiAlphanumeric_of_mem_word kind d hd

/-- A digit behind the first letter is no obstacle, nor is a mark before it. -/
theorem typeNames_identifier_iff_version :
    (∀ d ∈ "/v2-find items".toList, isAscii d = true) ∧
      ∃ c, compile {} (bareOperation "/v2-find items") = .ok c ∧ c.typeName = "V2FindItems" ∧
        ∀ kind, Naming.isIdentifier (c.typeOf kind) = true := by
  have hascii : ∀ d ∈ "/v2-find items".toList, isAscii d = true :=
    List.all_eq_true.mp (by decide)
  obtain ⟨c, hcompile⟩ := compile_bare {} "/v2-find items" (by decide +kernel)
  refine ⟨hascii, c, hcompile, ?_, fun kind => ?_⟩
  · rw [(compiled_of_compile hcompile).typeName]
    decide +kernel
  · exact ((typeNames_identifier_iff {} hascii hcompile).1 kind).mpr (by decide +kernel)

/-- **A text that leads with a digit is accepted**: its function has a prefix, its types have not,
and none of them has an identifier for a name. -/
theorem digit_typeNames_accepted :
    ∃ c, compile {} (bareOperation "2fa") = .ok c ∧ c.functionName = "p_2fa" ∧
      c.inputType = "2faInput" ∧ c.outputType = "2faOutput" ∧ c.errorType = "2faError" ∧
      ∀ kind, Naming.isIdentifier (c.typeOf kind) = false := by
  obtain ⟨c, hcompile⟩ := compile_bare {} "2fa" (by decide +kernel)
  have hname : c.typeName = "2fa" := by
    rw [(compiled_of_compile hcompile).typeName]
    decide +kernel
  have hfunction : c.functionName = "p_2fa" := by
    rw [(compiled_of_compile hcompile).functionName]
    decide +kernel
  have htypes : ∀ kind, c.typeOf kind = "2fa" ++ kind.word := fun kind => by
    rw [typeOf_eq, hname]
  refine ⟨c, hcompile, hfunction, htypes .input, htypes .output, htypes .error, fun kind => ?_⟩
  rw [htypes]
  cases kind <;> decide +kernel

end Code

end ApiScaffold
