import ApiScaffold.Document.Error
import ApiScaffold.Operation.Basic

/-!
# Path templates

A path template holds names in braces, each of which a path parameter fills.

* `placeholders`: the names, in order.
* `checkPlaceholders`: every name occurs once and is a path parameter, and every path parameter
  occurs.
-/

namespace ApiScaffold.PathTemplate

/-- The characters before the first occurrence of one, and those behind it. -/
def cutAt (mark : Char) : List Char → Option (List Char × List Char)
  | [] => none
  | c :: cs => if c = mark then some ([], cs) else (cutAt mark cs).map fun (b, a) => (c :: b, a)

theorem cutAt_length {mark : Char} {cs before after : List Char}
    (h : cutAt mark cs = some (before, after)) : after.length < cs.length := by
  induction cs generalizing before with
  | nil => simp [cutAt] at h
  | cons c cs ih =>
    unfold cutAt at h
    split at h
    · cases h
      simp
    · simp only [Option.map_eq_some_iff] at h
      obtain ⟨⟨b, a⟩, h1, h2⟩ := h
      cases h2
      have shorter := ih h1
      exact Nat.lt_succ_of_lt shorter

/-- The names in braces; an opening brace without a closing one ends the template. -/
def placeholderChars (cs : List Char) : List (List Char) :=
  match _h : cutAt '\x7b' cs with
  | none => []
  | some (_, rest) =>
    match _h' : cutAt '\x7d' rest with
    | none => []
    | some (name, rest') => name :: placeholderChars rest'
termination_by cs.length
decreasing_by
  exact Nat.lt_trans (cutAt_length _h') (cutAt_length _h)

/-- The names in the braces of a template. -/
def placeholders (template : String) : List String :=
  (placeholderChars template.toList).map String.ofList

/-- Whether a name is that of a path parameter. -/
def declares (parameters : List Parameter) (name : String) : Bool :=
  parameters.any fun p => p.location == .path && p.name == name

/-- Checks the names of a template; those in `seen` came before. -/
def checkNames (operation : String) (parameters : List Parameter) (seen : List String) :
    List String → Except DocumentError Unit
  | [] => .ok ()
  | name :: rest =>
    if seen.contains name then .error (.pathParameter operation name .repeated)
    else if !declares parameters name then .error (.pathParameter operation name .undeclared)
    else checkNames operation parameters (name :: seen) rest

/-- Checks that the names of a template and the path parameters are the same, each once. -/
def checkPlaceholders (operation template : String) (parameters : List Parameter) :
    Except DocumentError Unit := do
  let names := placeholders template
  checkNames operation parameters [] names
  match parameters.find? fun p => p.location == .path && !names.contains p.name with
  | some unused => .error (.pathParameter operation unused.name .unused)
  | none => .ok ()

end ApiScaffold.PathTemplate
