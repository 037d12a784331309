import ApiScaffold.Number.Shortest

/-!
# The text of a floating number

The shortest decimal is laid out in full, or with a power of ten where the layout says so.

* `FloatLayout`: where the power of ten begins and how it is written.
* `FloatLayout.full`, `exact`, `json`: the three layouts in use.
* `FloatLayout.write`: the text of a number.
-/

namespace ApiScaffold.Number

/-- How a floating number is written. -/
structure FloatLayout where
  /-- The decimal exponents of the first digit that are written without a power of ten; none
  if all are. -/
  positional : Option (Int × Int)
  /-- Whether an integer keeps a point and a zero. -/
  pointZero : Bool
  /-- Whether a positive power carries a plus sign. -/
  plusSign : Bool

namespace FloatLayout

/-- All digits, and no point in an integer. -/
def full : FloatLayout := ⟨none, false, false⟩

/-- A point always, and a power of ten from `1e16` up and below `1e-4`. -/
def exact : FloatLayout := ⟨some (-4, 15), true, false⟩

/-- The numbers of a JSON text: a power of ten from `1e+16` up and below `1e-5`. -/
def json : FloatLayout := ⟨some (-5, 15), true, true⟩

/-- The digits of a decimal laid out around the point. -/
def layOut (layout : FloatLayout) (d : Decimal) : List Char :=
  let digits := (toString d.digits).toList
  let count : Int := digits.length
  let point := count + d.exponent
  let first := point - 1
  let isPositional :=
    match layout.positional with
    | none => true
    | some (low, high) => low ≤ first && first ≤ high
  if isPositional then
    if point ≤ 0 then '0' :: '.' :: List.replicate (-point).toNat '0' ++ digits
    else if count ≤ point then
      digits ++ List.replicate (point - count).toNat '0'
        ++ (if layout.pointZero then ['.', '0'] else [])
    else digits.take point.toNat ++ '.' :: digits.drop point.toNat
  else
    let mantissa :=
      match digits with
      | [] => []
      | [d] => [d]
      | d :: rest => d :: '.' :: rest
    let sign := if 0 ≤ first then (if layout.plusSign then ['+'] else []) else ['-']
    mantissa ++ 'e' :: sign ++ (toString first.natAbs).toList

/-- The text of a floating number. -/
def write {f : Format} (layout : FloatLayout) : Binary f → String
  | .nan => "NaN"
  | .infinite s => if s then "-inf" else "inf"
  | .finite s m e =>
    let body :=
      if m = 0 then (if layout.pointZero then "0.0" else "0")
      else String.ofList (layout.layOut (shortest f m e))
    if s then "-" ++ body else body

end FloatLayout

end ApiScaffold.Number
