import RecordFilter.Text.Letters

/-!
# Names of constants

The constant of a field is named in capitals. A capital after a small letter begins a new
word, hyphens become low lines, and only ASCII letters change their case.

## Main definitions

* `constantName`: the name of the constant for a name
-/

namespace RecordFilter

/-- The rest of a constant's name. `afterLetter` tells whether the character before was
alphabetic and no capital. -/
def constantNameFrom (afterLetter : Bool) : List Char → List Char
  | [] => []
  | c :: rest =>
    if Text.isUppercase c then
      if afterLetter then '_' :: c :: constantNameFrom false rest
      else c :: constantNameFrom false rest
    else if c = '_' ∨ c = '-' then '_' :: constantNameFrom false rest
    else c.toUpper :: constantNameFrom (Text.isAlphabetic c) rest

/-- The name of the constant for a name. -/
def constantName (name : String) : String :=
  String.ofList (constantNameFrom false name.toList)

end RecordFilter
