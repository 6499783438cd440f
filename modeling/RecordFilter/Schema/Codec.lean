import RecordFilter.Schema.Basic

/-!
# Codecs of schemas

A schema is kept as an object that gives each field the name of its kind. How such an object is
spelled as a text is left to a codec; what the names mean is not.

## Main definitions

* `Schema.Codec`: a writer and a reader of objects, and `Schema.Codec.Faithful`, the law they obey
* `Schema.Codec.toDocument`: the text of a schema
* `Schema.Codec.ofDocument?`: the schema that a text describes
-/

namespace RecordFilter.Schema

/-- The spelling of objects that give names to names. A text may have a key twice, so what is read
is a row of pairs, in the order of the text. -/
structure Codec where
  write : List (String × String) → String
  read? : String → Option (List (String × String))

/-- The field that a pair of an object means. -/
def field? (pair : String × String) : Option (String × Kind) :=
  (Kind.ofDocumentName? pair.2).map fun kind => (pair.1, kind)

namespace Codec

/-- Objects without a repeated key are read back from what is written for them. -/
def Faithful (codec : Codec) : Prop :=
  ∀ pairs, (pairs.map Prod.fst).Nodup → codec.read? (codec.write pairs) = some pairs

/-- The text of a schema. -/
def toDocument (codec : Codec) (s : Schema) : String :=
  codec.write (s.fields.map fun field => (field.1, field.2.documentName))

/-- The fields of a text in its order. -/
def fields? (codec : Codec) (text : String) : Option (List (String × Kind)) :=
  (codec.read? text).bind fun pairs => pairs.mapM field?

/-- The schema that a text describes. Of a field given twice the later kind counts. -/
def ofDocument? (codec : Codec) (text : String) : Option Schema :=
  (codec.fields? text).map ofList

end Codec

end RecordFilter.Schema
